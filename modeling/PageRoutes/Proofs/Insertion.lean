import PageRoutes.Proofs.DraftNodes

/-!
# Inserting a page segment by segment

`Draft.insert` goes down the segments of a view file and makes each route it comes to if it is
missing. Only at the end it looks whether the page may be assigned, so a page can be refused after
routes were made; the draft is therefore part of the result in either case. A final `index` is
assigned to the route that was reached before it.

* `insert_eq_assign` — the routes made on the way make no difference: inserting is assigning at the
  key of the segments.
* `addFile_eq_insert` — placing a view file is inserting its page.
* `insert_frame` — a page is refused only where there is one already, and then the draft is as it
  was; otherwise the page is put at its key and nothing else changes.
-/

namespace PageRoutes.Draft

open Route

variable {policy : DuplicatePolicy} {page : Page} {key pre above segments rest : List String}
  {path : String} {draft : Draft} {drafts : List Draft} {f : Draft → Draft}

/-! ## Making the routes on the way to a key -/

/-- Makes the routes on the way to a key that are missing. -/
def touch : (key : List String) → List Draft → List Draft
  | [], drafts => drafts
  | path :: rest, drafts =>
    update path (fun draft => draft.withChildren (touch rest draft.children)) drafts

theorem keepsPath_touch (key : List String) :
    KeepsPath fun draft => draft.withChildren (touch key draft.children) :=
  fun _ => path_withChildren _ _

@[simp] theorem withChildren_children (draft : Draft) :
    draft.withChildren draft.children = draft := by
  cases draft; rfl

theorem pageAt_eq_page? (h : key ≠ []) (draft : Draft) :
    pageAt key draft = page? key draft.children := by
  cases key with
  | nil => exact absurd rfl h
  | cons path rest => rw [page?_cons, pageAt]

theorem place_eq_put (h : key ≠ []) (page : Page) (draft : Draft) :
    place page key draft = draft.withChildren (put page key draft.children) := by
  cases key with
  | nil => exact absurd rfl h
  | cons path rest => rw [put_cons, place]

/-- Routes that are made show no page. -/
theorem page?_touch (pre key : List String) (drafts : List Draft) :
    page? key (touch pre drafts) = page? key drafts := by
  induction pre generalizing key drafts with
  | nil => rfl
  | cons path' pre ih =>
    cases key with
    | nil => rfl
    | cons path rest =>
      have hkeeps : ∀ draft : Draft,
          pageAt rest (draft.withChildren (touch pre draft.children)) = pageAt rest draft := by
        intro draft
        by_cases hrest : rest = []
        · rw [hrest, pageAt, pageAt, page_withChildren]
        · rw [pageAt_eq_page? hrest, children_withChildren, ih, ← pageAt_eq_page? hrest]
      rw [touch, page?_cons, page?_cons]
      by_cases hp : path = path'
      · subst hp
        rw [find?_update (keepsPath_touch pre), Option.bind_some, hkeeps]
        cases find? path drafts with
        | none => exact pageAt_fresh rest path
        | some child => rfl
      · rw [find?_update_of_ne (keepsPath_touch pre) hp]

/-- Putting a page makes the routes on the way to it anyway. -/
theorem put_touch (h : pre <+: key) (page : Page) (drafts : List Draft) :
    put page key (touch pre drafts) = put page key drafts := by
  induction pre generalizing key drafts with
  | nil => rfl
  | cons path pre ih =>
    obtain ⟨rest, rfl, hrest⟩ := List.cons_prefix_iff.mp h
    rw [touch, put_cons, put_cons, update_update_self (keepsPath_touch pre)]
    congr 1
    funext draft
    by_cases hnil : rest = []
    · subst hnil
      rw [List.prefix_nil.mp hrest, Function.comp_apply, touch, withChildren_children]
    · rw [Function.comp_apply, place_eq_put hnil, children_withChildren, withChildren_withChildren,
        ih hrest, ← place_eq_put hnil]

theorem update_eq_self (h : find? path drafts = some draft) (hf : f draft = draft) :
    update path f drafts = drafts := by
  induction drafts with
  | nil => exact absurd h nofun
  | cons first drafts ih =>
    by_cases hp : first.path = path
    · rw [find?_cons_self hp, Option.some.injEq] at h
      rw [update_cons_self hp, h, hf]
    · rw [find?_cons_of_ne hp] at h
      rw [update_cons_of_ne hp, ih h]

/-- On the way to a page there is nothing to make. -/
theorem touch_eq_self (h : pre <+: key) (hpage : page? key drafts ≠ none) :
    touch pre drafts = drafts := by
  induction pre generalizing key drafts with
  | nil => rfl
  | cons path pre ih =>
    obtain ⟨rest, rfl, hrest⟩ := List.cons_prefix_iff.mp h
    rw [page?_cons] at hpage
    obtain ⟨child, hchild⟩ : ∃ child, find? path drafts = some child := by
      cases hfind : find? path drafts with
      | none => exact absurd (by rw [hfind]; rfl) hpage
      | some child => exact ⟨child, rfl⟩
    rw [hchild, Option.bind_some] at hpage
    refine update_eq_self hchild ?_
    show child.withChildren (touch pre child.children) = child
    by_cases hnil : rest = []
    · subst hnil
      rw [List.prefix_nil.mp hrest, touch, withChildren_children]
    · rw [ih hrest (pageAt_eq_page? hnil child ▸ hpage), withChildren_children]

/-! ## Assigning a page -/

/--
Gives the route at a key its page under a duplicate policy, and says what the draft then is. If
there is a page already, it is replaced and the replacement noted, or the new one is refused.
-/
def assign (policy : DuplicatePolicy) (page : Page) (key : List String) (drafts : List Draft) :
    Outcome RouteError Unit × List Draft :=
  match page? key drafts with
  | none => (.pure (), put page key drafts)
  | some earlier =>
    let route := key.getLastD rootPath
    match policy with
    | .refuse => (.fail (.ambiguousRoute route earlier.file page.file), drafts)
    | .lastWins =>
      (.note (.routeReplaced route earlier.file page.file), put page key drafts)

/-- A page is refused with the draft left as it is, or put at its key. -/
theorem assign_cases (policy : DuplicatePolicy) (page : Page) (key : List String)
    (drafts : List Draft) :
    (policy = .refuse ∧ ∃ earlier, page? key drafts = some earlier ∧
        assign policy page key drafts
          = (.fail (.ambiguousRoute (key.getLastD rootPath) earlier.file page.file), drafts)) ∨
      ((policy = .lastWins ∨ page? key drafts = none) ∧ ∃ log,
        assign policy page key drafts = (⟨log, .ok ()⟩, put page key drafts)) := by
  unfold assign
  cases page? key drafts with
  | none => exact .inr ⟨.inr rfl, _, rfl⟩
  | some earlier =>
    cases policy with
    | refuse => exact .inl ⟨rfl, earlier, rfl, rfl⟩
    | lastWins => exact .inr ⟨.inl rfl, _, rfl⟩

/-- A page is accepted with the draft that assigning it leaves, or refused without a draft. -/
theorem add_eq_assign (policy : DuplicatePolicy) (key : List String) (page : Page)
    (drafts : List Draft) :
    add policy key page drafts
      = (assign policy page key drafts).1.bind fun _ =>
          .pure (assign policy page key drafts).2 := by
  unfold add assign
  cases page? key drafts with
  | none => rfl
  | some earlier => cases policy <;> rfl

/-- **Routes made on the way to a key make no difference for a page assigned there**, be it accepted
or refused. -/
theorem assign_touch (h : pre <+: key) (policy : DuplicatePolicy) (page : Page)
    (drafts : List Draft) :
    assign policy page key (touch pre drafts) = assign policy page key drafts := by
  unfold assign
  rw [page?_touch, put_touch h]
  cases hpage : page? key drafts with
  | none => rfl
  | some earlier => rw [touch_eq_self h (by rw [hpage]; exact Option.some_ne_none earlier)]

/-! ## Going down the segments -/

/-- Inserts a page at the segments that are left below the route at an address. The empty address
stands for the time before the first route is reached. -/
def insertBelow (policy : DuplicatePolicy) (page : Page) :
    (above : List String) → (segments : List String) → List Draft →
      Outcome RouteError Unit × List Draft
  | _, [], drafts => (.pure (), drafts)
  | above, segment :: rest, drafts =>
    -- A final `index` stands for the route above it, or for the root route where there is none.
    if segment = indexName ∧ rest = [] then
      if above = [] then assign policy page [rootPath] (touch [rootPath] drafts)
      else assign policy page above drafts
    else
      let here := above ++ [pathOfSegment segment]
      if rest = [] then assign policy page here (touch here drafts)
      else insertBelow policy page here rest (touch here drafts)

/-- Inserts a page at the segments of its file. -/
def insert (policy : DuplicatePolicy) (page : Page) (segments : List String)
    (drafts : List Draft) : Outcome RouteError Unit × List Draft :=
  insertBelow policy page [] segments drafts

/-- The key that segments lead to below the route at an address. -/
def keyBelow (above segments : List String) : List String :=
  if above ≠ [] ∧ segments = [indexName] then above else above ++ Route.key segments

theorem prefix_keyBelow (above segments : List String) : above <+: keyBelow above segments := by
  unfold keyBelow
  split
  · exact List.prefix_rfl
  · exact List.prefix_append _ _

/-- A segment that is no final `index` leads one route further down. -/
theorem keyBelow_cons (segment : String) (h : ¬(segment = indexName ∧ rest = [])) :
    keyBelow above (segment :: rest)
      = if rest = [] then above ++ [pathOfSegment segment]
        else keyBelow (above ++ [pathOfSegment segment]) rest := by
  have hindex : ¬(above ≠ [] ∧ segment :: rest = [indexName]) := fun hi =>
    h (List.cons.inj hi.2)
  rw [keyBelow, if_neg hindex, Route.key]
  by_cases hrest : rest = []
  · subst hrest
    rw [if_pos rfl, if_neg (by simp), Route.key]
  · rw [if_neg hrest, keyBelow]
    by_cases hlast : rest = [indexName]
    · rw [if_pos hlast, if_pos ⟨by simp, hlast⟩]
    · rw [if_neg hlast, if_neg (fun hi => hlast hi.2), List.append_assoc, List.singleton_append]

theorem insertBelow_eq_assign (h : segments ≠ []) (policy : DuplicatePolicy) (page : Page)
    (above : List String) (drafts : List Draft) :
    insertBelow policy page above segments drafts
      = assign policy page (keyBelow above segments) drafts := by
  induction segments generalizing above drafts with
  | nil => exact absurd rfl h
  | cons segment rest ih =>
    rw [insertBelow]
    by_cases hindex : segment = indexName ∧ rest = []
    · obtain ⟨rfl, rfl⟩ := hindex
      rw [if_pos ⟨rfl, rfl⟩]
      by_cases habove : above = []
      · subst habove
        rw [if_pos rfl, assign_touch List.prefix_rfl]
        rfl
      · rw [if_neg habove, keyBelow, if_pos ⟨habove, rfl⟩]
    · rw [if_neg hindex, keyBelow_cons segment hindex]
      by_cases hrest : rest = []
      · rw [if_pos hrest, if_pos hrest, assign_touch List.prefix_rfl]
      · rw [if_neg hrest, if_neg hrest, ih hrest, assign_touch (prefix_keyBelow _ _)]

/-- **Inserting a page is assigning it at the key of its segments.** -/
theorem insert_eq_assign (h : segments ≠ []) (policy : DuplicatePolicy) (page : Page)
    (drafts : List Draft) :
    insert policy page segments drafts = assign policy page (Route.key segments) drafts := by
  rw [insert, insertBelow_eq_assign h, keyBelow, if_neg (fun habove => habove.1 rfl),
    List.nil_append]

theorem add_eq_insert (h : segments ≠ []) (policy : DuplicatePolicy) (page : Page)
    (drafts : List Draft) :
    add policy (Route.key segments) page drafts
      = (insert policy page segments drafts).1.bind fun _ =>
          .pure (insert policy page segments drafts).2 := by
  rw [add_eq_assign, insert_eq_assign h]

/-- **Placing a view file is inserting its page at the segments of its location.** -/
theorem addFile_eq_insert (cwd : Address) (root : String) (extensions : List String)
    (policy : DuplicatePolicy) (file : String) (drafts : List Draft) :
    addFile cwd root extensions policy file drafts
      = (Outcome.ofExcept (location cwd file root)).bind fun path =>
          let run := insert policy (.ofFile file) (Route.segments (stripExtension path extensions))
            drafts
          run.1.bind fun _ => .pure run.2 := by
  rw [addFile, fileKey]
  cases location cwd file root with
  | error e => rfl
  | ok path =>
    rw [Except.map, Outcome.ofExcept_ok, Outcome.ofExcept_ok, Outcome.pure_bind,
      Outcome.pure_bind]
    exact add_eq_insert (segments_ne_nil _) policy _ drafts

/-! ## What an insertion changes -/

theorem has_some_iff (h : IsDistinct drafts) (hkey : key ≠ []) :
    Has key (some page) drafts ↔ page? key drafts = some page := by
  rw [has_iff_nodeAt h, and_iff_right hkey, ← pageAt_root hkey, pageAt_eq_bind,
    Option.bind_eq_some_iff]

/--
**A page is put at its key with nothing else changed, or refused with nothing changed at all.**

The page is refused exactly if the policy refuses second pages and there is one at the key.
-/
theorem insert_frame (policy : DuplicatePolicy) (page : Page) (hdistinct : IsDistinct drafts)
    (hsegments : segments ≠ []) :
    let run := insert policy page segments drafts
    let key := Route.key segments
    (add policy key page drafts = run.1.bind fun _ => .pure run.2)
      ∧ ((∃ error, run.1.result = .error error)
          ↔ policy = .refuse ∧ ∃ earlier, Has key (some earlier) drafts)
      ∧ (∀ error, run.1.result = .error error → run.2 = drafts
          ∧ ∃ first, error = .ambiguousRoute (key.getLastD rootPath) first page.file)
      ∧ (run.1.result = .ok () → IsPut key page drafts run.2) := by
  intro run key
  have hkey : key ≠ [] := key_ne_nil hsegments
  have hput : IsPut key page drafts (put page key drafts) := isPut_put hdistinct hkey page
  refine ⟨add_eq_insert hsegments policy page drafts, ?_⟩
  have hrun : run = assign policy page key drafts := insert_eq_assign hsegments policy page drafts
  simp only [has_some_iff hdistinct hkey]
  rw [hrun]
  rcases assign_cases policy page key drafts with
    ⟨hrefuse, earlier, hpage, hassign⟩ | ⟨hfree, log, hassign⟩
  · rw [hassign]
    refine ⟨iff_of_true ⟨_, rfl⟩ ⟨hrefuse, earlier, hpage⟩, ?_, ?_⟩
    · intro error herror
      exact ⟨rfl, earlier.file, (Except.error.inj herror).symm⟩
    · intro hok
      cases hok
  · rw [hassign]
    refine ⟨iff_of_false ?_ ?_, ?_, fun _ => hput⟩
    · rintro ⟨error, herror⟩
      cases herror
    · rintro ⟨rfl, earlier, hpage⟩
      rcases hfree with hpolicy | hnone
      · cases hpolicy
      · rw [hnone] at hpage
        cases hpage
    · intro error herror
      cases herror

/-- A page below another one, and a second page for the same route. -/
theorem insert_frame_blog :
    let page : Page := ⟨"pages/blog/new.tsx", "pages/blog/new.tsx"⟩
    let drafts : List Draft :=
      [mk "/" none [], mk "/blog" (some ⟨"pages/blog.tsx", "pages/blog.tsx"⟩) []]
    IsDistinct drafts ∧ ["blog", "new"] ≠ [] ∧ ["blog", "index"] ≠ []
      ∧ IsPut ["/blog", "/new"] page drafts (insert .refuse page ["blog", "new"] drafts).2
      ∧ (insert .refuse page ["blog", "index"] drafts).2 = drafts := by
  intro page drafts
  have hdistinct : IsDistinct drafts := by
    refine .intro (by decide) fun draft hdraft => ?_
    have hchildren : draft.children = [] := by
      rcases List.mem_pair.mp hdraft with rfl | rfl <;> rfl
    exact hchildren ▸ isDistinct_nil
  refine ⟨hdistinct, by decide, by decide, ?_, ?_⟩
  · exact (@insert_frame ["blog", "new"] drafts .refuse page hdistinct (by decide)).2.2.2 rfl
  · exact ((@insert_frame ["blog", "index"] drafts .refuse page hdistinct (by decide)).2.2.1 _
      rfl).1

end PageRoutes.Draft
