import PageRoutes.Route.Draft

/-!
# Laws of drafts

`Draft.put` and `Draft.page?` behave like writing to and reading from a table whose rows are named
by keys. Besides that, a page that takes over a key leaves every route where it is:

* `page?_put` — a page is found where it was put, and every other page where it was.
* `put_put_self` — of two pages put at a key only the later one is left.
* `put_comm` — if there is a page at a key already, a page put there may as well be put before
  the page of any other key.

`put` works on siblings and from there on one route at a time, so the laws are proved for a single
route first. `place` and `pageAt` are `put` and `page?` seen from the route the key starts at.
-/

namespace PageRoutes.Draft

/-! ## Siblings -/

/-- A change that leaves the path of a route as it is. -/
def KeepsPath (change : Draft → Draft) : Prop :=
  ∀ draft, (change draft).path = draft.path

section Siblings

variable {path path' : String} {f g : Draft → Draft} {drafts : List Draft}

@[simp] theorem find?_nil (path : String) : find? path [] = none := rfl

theorem find?_cons_self {draft : Draft} (h : draft.path = path) :
    find? path (draft :: drafts) = some draft := by
  simp [find?, h]

theorem find?_cons_of_ne {draft : Draft} (h : draft.path ≠ path) :
    find? path (draft :: drafts) = find? path drafts := by
  simp [find?, h]

theorem update_cons_self {draft : Draft} (h : draft.path = path) :
    update path f (draft :: drafts) = f draft :: drafts := by
  rw [update, if_pos h]

theorem update_cons_of_ne {draft : Draft} (h : draft.path ≠ path) :
    update path f (draft :: drafts) = draft :: update path f drafts := by
  rw [update, if_neg h]

/-- A change of one sibling is not seen at another path. -/
theorem find?_update_of_ne (hf : KeepsPath f) (hne : path' ≠ path) (drafts : List Draft) :
    find? path' (update path f drafts) = find? path' drafts := by
  induction drafts with
  | nil =>
    rw [update, find?_cons_of_ne]
    rw [hf, path_fresh]
    exact hne.symm
  | cons draft drafts ih =>
    by_cases hp : draft.path = path
    · have hd : draft.path ≠ path' := by rw [hp]; exact hne.symm
      rw [update_cons_self hp, find?_cons_of_ne hd, find?_cons_of_ne]
      rw [hf]
      exact hd
    · rw [update_cons_of_ne hp]
      by_cases hd : draft.path = path'
      · rw [find?_cons_self hd, find?_cons_self hd]
      · rw [find?_cons_of_ne hd, find?_cons_of_ne hd, ih]

/-- Two changes of one sibling are one change. -/
theorem update_update_self (hg : KeepsPath g) (drafts : List Draft) :
    update path f (update path g drafts) = update path (f ∘ g) drafts := by
  induction drafts with
  | nil =>
    rw [update, update_cons_self]
    · rfl
    · rw [hg, path_fresh]
  | cons draft drafts ih =>
    by_cases hp : draft.path = path
    · rw [update_cons_self hp, update_cons_self hp, update_cons_self]
      · rfl
      · rw [hg, hp]
    · rw [update_cons_of_ne hp, update_cons_of_ne hp, update_cons_of_ne hp, ih]

/-- What a change does matters only for the sibling it changes. -/
theorem update_congr {draft : Draft} (hd : find? path drafts = some draft)
    (hfg : f draft = g draft) : update path f drafts = update path g drafts := by
  induction drafts with
  | nil => simp at hd
  | cons sibling drafts ih =>
    by_cases hp : sibling.path = path
    · rw [find?_cons_self hp, Option.some.injEq] at hd
      subst hd
      rw [update_cons_self hp, update_cons_self hp, hfg]
    · rw [find?_cons_of_ne hp] at hd
      rw [update_cons_of_ne hp, update_cons_of_ne hp, ih hd]

/-- A sibling that is there can be changed before or after another one, which may be new. -/
theorem update_comm (hf : KeepsPath f) (hg : KeepsPath g) (hne : path ≠ path')
    (hd : find? path drafts ≠ none) :
    update path f (update path' g drafts) = update path' g (update path f drafts) := by
  induction drafts with
  | nil => exact absurd rfl hd
  | cons draft drafts ih =>
    by_cases hp : draft.path = path
    · have hp' : draft.path ≠ path' := by rw [hp]; exact hne
      have hf' : (f draft).path ≠ path' := by rw [hf]; exact hp'
      rw [update_cons_of_ne hp', update_cons_self hp, update_cons_self hp, update_cons_of_ne hf']
    · rw [find?_cons_of_ne hp] at hd
      rw [update_cons_of_ne hp]
      by_cases hp' : draft.path = path'
      · have hg' : (g draft).path ≠ path := by rw [hg]; exact hp
        rw [update_cons_self hp', update_cons_self hp', update_cons_of_ne hg']
      · rw [update_cons_of_ne hp', update_cons_of_ne hp', update_cons_of_ne hp, ih hd]

end Siblings

/-! ## A route and what is below it -/

/-- Puts a page at a key that starts below a route; the empty key is the route itself. -/
def place (page : Page) : (key : List String) → Draft → Draft
  | [], draft => draft.withPage page
  | path :: rest, draft => draft.withChildren (update path (place page rest) draft.children)

/-- The page at a key that starts below a route; the empty key is the route itself. -/
def pageAt : (key : List String) → Draft → Option Page
  | [], draft => draft.page
  | path :: rest, draft => (find? path draft.children).bind (pageAt rest)

@[simp] theorem page_withChildren (children : List Draft) (draft : Draft) :
    (draft.withChildren children).page = draft.page := by
  cases draft; rfl

@[simp] theorem children_withPage (page : Page) (draft : Draft) :
    (draft.withPage page).children = draft.children := by
  cases draft; rfl

@[simp] theorem withChildren_withChildren (as bs : List Draft) (draft : Draft) :
    (draft.withChildren bs).withChildren as = draft.withChildren as := by
  cases draft; rfl

@[simp] theorem withPage_withPage (p q : Page) (draft : Draft) :
    (draft.withPage q).withPage p = draft.withPage p := by
  cases draft; rfl

theorem withChildren_withPage (page : Page) (children : List Draft) (draft : Draft) :
    (draft.withPage page).withChildren children = (draft.withChildren children).withPage page := by
  cases draft; rfl

theorem keepsPath_place (page : Page) (key : List String) : KeepsPath (place page key) := by
  intro draft
  cases key <;> simp [place]

theorem pageAt_fresh (key : List String) (path : String) : pageAt key (fresh path) = none := by
  cases key with
  | nil => rfl
  | cons p rest => simp [pageAt, fresh, children]

/-- `put` places the page below the sibling that the key starts with. -/
theorem put_cons (page : Page) (path : String) (rest : List String) (drafts : List Draft) :
    put page (path :: rest) drafts = update path (place page rest) drafts := by
  induction rest generalizing path drafts with
  | nil => rfl
  | cons p rest ih =>
    rw [put]
    congr 1
    funext draft
    rw [if_neg (by simp), ih, place]

/-- `page?` looks below the sibling that the key starts with. -/
theorem page?_cons (path : String) (rest : List String) (drafts : List Draft) :
    page? (path :: rest) drafts = (find? path drafts).bind (pageAt rest) := by
  induction rest generalizing path drafts with
  | nil => rfl
  | cons p rest ih =>
    rw [page?]
    cases find? path drafts with
    | none => rfl
    | some draft => simp [ih, pageAt]

theorem pageAt_place_of_ne {key key' : List String} (h : key ≠ key') (page : Page)
    (draft : Draft) : pageAt key (place page key' draft) = pageAt key draft := by
  induction key' generalizing key draft with
  | nil =>
    cases key with
    | nil => exact absurd rfl h
    | cons path rest => simp [pageAt, place]
  | cons path' rest' ih =>
    cases key with
    | nil => simp [pageAt, place]
    | cons path rest =>
      rw [place, pageAt, pageAt, children_withChildren]
      by_cases hp : path = path'
      · subst hp
        have hr : rest ≠ rest' := fun he => h (by rw [he])
        rw [find?_update (keepsPath_place page rest'), Option.bind_some, ih hr]
        cases find? path draft.children with
        | none => exact pageAt_fresh rest path
        | some child => rfl
      · rw [find?_update_of_ne (keepsPath_place page rest') hp]

theorem place_place_self (p q : Page) (key : List String) :
    place p key ∘ place q key = place p key := by
  induction key with
  | nil =>
    funext draft
    simp [place]
  | cons path rest ih =>
    funext draft
    rw [Function.comp_apply, place, place, place, children_withChildren, withChildren_withChildren,
      update_update_self (keepsPath_place q rest), ih]

/-- The page below a route that is there already can be replaced before another one is placed. -/
theorem place_comm {key key' : List String} (h : key ≠ key') (p q : Page) {draft : Draft}
    (hd : pageAt key draft ≠ none) :
    place p key (place q key' draft) = place q key' (place p key draft) := by
  induction key generalizing key' draft with
  | nil =>
    cases key' with
    | nil => exact absurd rfl h
    | cons path' rest' => simp [place, withChildren_withPage]
  | cons path rest ih =>
    cases key' with
    | nil => simp [place, withChildren_withPage]
    | cons path' rest' =>
      -- There is a page at the key, so its first route is among the children.
      obtain ⟨child, hc⟩ : ∃ child, find? path draft.children = some child := by
        cases hc : find? path draft.children with
        | none => exact absurd (by rw [pageAt, hc]; rfl) hd
        | some child => exact ⟨child, rfl⟩
      rw [pageAt, hc, Option.bind_some] at hd
      simp only [place, children_withChildren, withChildren_withChildren]
      congr 1
      by_cases hp : path = path'
      · subst hp
        have hr : rest ≠ rest' := fun he => h (by rw [he])
        rw [update_update_self (keepsPath_place q rest'),
          update_update_self (keepsPath_place p rest)]
        exact update_congr hc (ih hr hd)
      · exact update_comm (keepsPath_place p rest) (keepsPath_place q rest') hp (by simp [hc])

/-! ## Whole trees -/

/-- The routes of a tree below a route of their own. -/
def root (drafts : List Draft) : Draft := mk "" none drafts

theorem place_root (page : Page) {key : List String} (h : key ≠ []) (drafts : List Draft) :
    place page key (root drafts) = root (put page key drafts) := by
  cases key with
  | nil => exact absurd rfl h
  | cons path rest => rw [put_cons]; rfl

theorem pageAt_root {key : List String} (h : key ≠ []) (drafts : List Draft) :
    pageAt key (root drafts) = page? key drafts := by
  cases key with
  | nil => exact absurd rfl h
  | cons path rest => rw [page?_cons]; rfl

theorem root_injective {as bs : List Draft} (h : root as = root bs) : as = bs := by
  injection h

/-- **A page is found where it was put, and every other page where it was.** -/
theorem page?_put {key : List String} (h : key ≠ []) (page : Page) (key' : List String)
    (drafts : List Draft) :
    page? key' (put page key drafts) = if key' = key then some page else page? key' drafts := by
  by_cases hk : key' = key
  · subst hk
    rw [if_pos rfl, page?_put_self page h]
  · rw [if_neg hk]
    by_cases hn : key' = []
    · subst hn; rfl
    · rw [← pageAt_root hn, ← pageAt_root hn, ← place_root page h, pageAt_place_of_ne hk]

/-- **Of two pages put at a key only the later one is left.** -/
theorem put_put_self (p q : Page) (key : List String) (drafts : List Draft) :
    put p key (put q key drafts) = put p key drafts := by
  by_cases h : key = []
  · subst h; rfl
  · apply root_injective
    rw [← place_root p h, ← place_root q h, ← place_root p h]
    exact congrFun (place_place_self p q key) _

/--
**A page that takes over a key may as well be put there before the page of any other key.**

Without a page at the key this fails: a new route goes behind the siblings that are there.
-/
theorem put_comm {key key' : List String} (h : key ≠ key') (p q : Page) {drafts : List Draft}
    (hd : page? key drafts ≠ none) :
    put p key (put q key' drafts) = put q key' (put p key drafts) := by
  by_cases hn' : key' = []
  · subst hn'; rfl
  · have hn : key ≠ [] := by
      intro he
      subst he
      exact hd rfl
    apply root_injective
    rw [← place_root p hn, ← place_root q hn', ← place_root q hn', ← place_root p hn]
    exact place_comm h p q (by rw [pageAt_root hn]; exact hd)

end PageRoutes.Draft
