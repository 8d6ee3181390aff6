import Mathlib.Data.List.Nodup
import PageRoutes.Proofs.TreeOfFiles

/-!
# Routes of a draft by their addresses

The address of a route in a draft is the list of the paths that lead down to it. Where siblings
have distinct paths, there is one route at most at an address. Putting a page at a key makes the
routes on the way to it that are missing, each behind its siblings, and leaves all other routes
alone.

* `nodeAt_place_append`, `nodeAt_place_of_not_prefix` — the routes on the way to a key, and the
  others.
* `has_iff_nodeAt` — what is found at an address is what is there.
* `IsDistinct.put`, `isDistinct_of_addFiles` — siblings keep their distinct paths, in one step and
  in a run.
* `isPut_put` — all that putting a page does.
-/

namespace PageRoutes.Draft

variable {page : Page} {key a more rest : List String} {path : String} {draft : Draft}
  {drafts : List Draft} {f : Draft → Draft}

/-! ## The route at an address -/

/-- The route at an address that starts below a route; the empty address is the route itself. -/
def nodeAt : (a : List String) → Draft → Option Draft
  | [], draft => some draft
  | path :: rest, draft => (find? path draft.children).bind (nodeAt rest)

theorem pageAt_eq_bind (a : List String) (draft : Draft) :
    pageAt a draft = (nodeAt a draft).bind Draft.page := by
  induction a generalizing draft with
  | nil => rfl
  | cons path rest ih =>
    rw [pageAt, nodeAt, Option.bind_assoc]
    congr 1
    funext child
    exact ih child

/-- Below a new route there is no other one. -/
theorem nodeAt_fresh (ha : a ≠ []) (path : String) : nodeAt a (fresh path) = none := by
  cases a with
  | nil => exact absurd rfl ha
  | cons p rest => rfl

theorem path_of_find? (h : find? path drafts = some draft) : draft.path = path := by
  simpa using List.find?_some h

/-- **Away from the way to a key every route stays as it is.** -/
theorem nodeAt_place_of_not_prefix (h : ¬a <+: key) (page : Page) (draft : Draft) :
    nodeAt a (place page key draft) = nodeAt a draft := by
  induction key generalizing a draft with
  | nil =>
    cases a with
    | nil => exact absurd List.nil_prefix h
    | cons path rest => rw [place, nodeAt, nodeAt, children_withPage]
  | cons path' rest' ih =>
    cases a with
    | nil => exact absurd List.nil_prefix h
    | cons path rest =>
      rw [place, nodeAt, nodeAt, children_withChildren]
      by_cases hp : path = path'
      · subst hp
        have hrest : ¬rest <+: rest' := fun hpre => h (List.cons_prefix_cons.mpr ⟨rfl, hpre⟩)
        have hne : rest ≠ [] := by
          rintro rfl
          exact hrest List.nil_prefix
        rw [find?_update (keepsPath_place page rest'), Option.bind_some, ih hrest]
        cases find? path draft.children with
        | none => exact nodeAt_fresh hne path
        | some child => rfl
      · rw [find?_update_of_ne (keepsPath_place page rest') hp]

/-- **On the way to a key every route is there, and the page is placed below it.** -/
theorem nodeAt_place_append (a more : List String) (page : Page) (draft : Draft) :
    nodeAt a (place page (a ++ more) draft)
      = some (place page more ((nodeAt a draft).getD (fresh (a.getLastD draft.path)))) := by
  induction a generalizing draft with
  | nil => rfl
  | cons path rest ih =>
    rw [List.cons_append, place, nodeAt, nodeAt, children_withChildren,
      find?_update (keepsPath_place page _), Option.bind_some, ih, List.getLastD_cons]
    cases hchild : find? path draft.children with
    | none =>
      rw [Option.getD_none, Option.bind_none, Option.getD_none, path_fresh]
      cases rest with
      | nil => rfl
      | cons p rest => rw [nodeAt_fresh (List.cons_ne_nil _ _), Option.getD_none]
    | some child => rw [Option.getD_some, Option.bind_some, path_of_find? hchild]

/-! ## Siblings with distinct paths -/

/-- Siblings have distinct paths, and so have all routes below them. -/
inductive IsDistinct : List Draft → Prop
  | intro {drafts : List Draft} (paths : (drafts.map Draft.path).Nodup)
      (below : ∀ draft ∈ drafts, IsDistinct draft.children) : IsDistinct drafts

theorem IsDistinct.nodup_paths (h : IsDistinct drafts) : (drafts.map Draft.path).Nodup := by
  cases h
  assumption

theorem IsDistinct.of_mem (h : IsDistinct drafts) (hdraft : draft ∈ drafts) :
    IsDistinct draft.children := by
  cases h with
  | intro _ below => exact below draft hdraft

theorem isDistinct_nil : IsDistinct [] :=
  .intro List.nodup_nil nofun

/-- A change puts a new path behind those of the siblings, if it is new. -/
theorem map_path_update (hf : KeepsPath f) (path : String) (drafts : List Draft) :
    (update path f drafts).map Draft.path
      = if path ∈ drafts.map Draft.path then drafts.map Draft.path
        else drafts.map Draft.path ++ [path] := by
  induction drafts with
  | nil => simp [update, hf _]
  | cons draft drafts ih =>
    by_cases hp : draft.path = path
    · simp [update_cons_self hp, hf _, hp]
    · rw [update_cons_of_ne hp, List.map_cons, ih, List.map_cons]
      split
      · next hmem => rw [if_pos (List.mem_cons_of_mem _ hmem)]
      · next hnew =>
        rw [if_neg (mt List.mem_cons.mp (not_or.mpr ⟨Ne.symm hp, hnew⟩)), List.cons_append]

theorem mem_update (h : draft ∈ update path f drafts) :
    draft ∈ drafts ∨ ∃ old, (old ∈ drafts ∨ old = fresh path) ∧ draft = f old := by
  induction drafts with
  | nil => exact .inr ⟨fresh path, .inr rfl, List.mem_singleton.mp h⟩
  | cons first drafts ih =>
    by_cases hp : first.path = path
    · rw [update_cons_self hp, List.mem_cons] at h
      rcases h with rfl | h
      · exact .inr ⟨first, .inl List.mem_cons_self, rfl⟩
      · exact .inl (List.mem_cons_of_mem _ h)
    · rw [update_cons_of_ne hp, List.mem_cons] at h
      rcases h with rfl | h
      · exact .inl List.mem_cons_self
      · rcases ih h with hmem | ⟨old, hold, rfl⟩
        · exact .inl (List.mem_cons_of_mem _ hmem)
        · exact .inr ⟨old, hold.imp_left (List.mem_cons_of_mem _), rfl⟩

/-- Siblings keep their distinct paths if the one that is changed does below. -/
theorem IsDistinct.update (h : IsDistinct drafts) (hf : KeepsPath f)
    (hchange : ∀ old, IsDistinct old.children → IsDistinct (f old).children) :
    IsDistinct (update path f drafts) := by
  refine .intro ?_ fun draft hdraft => ?_
  · rw [map_path_update hf]
    split
    · exact h.nodup_paths
    · next hnew =>
      refine List.nodup_append.mpr ⟨h.nodup_paths, List.nodup_singleton path, ?_⟩
      rintro p hp q hq rfl
      exact hnew (List.mem_singleton.mp hq ▸ hp)
  · rcases mem_update hdraft with hmem | ⟨old, hmem | rfl, rfl⟩
    · exact h.of_mem hmem
    · exact hchange old (h.of_mem hmem)
    · exact hchange _ isDistinct_nil

theorem IsDistinct.place (h : IsDistinct draft.children) (page : Page) (key : List String) :
    IsDistinct (place page key draft).children := by
  induction key generalizing draft with
  | nil => rwa [Draft.place, children_withPage]
  | cons path rest ih =>
    rw [Draft.place, children_withChildren]
    exact h.update (keepsPath_place page rest) fun old hold => ih hold

/-- **Putting a page keeps the paths of siblings distinct.** -/
theorem IsDistinct.put (h : IsDistinct drafts) (page : Page) (key : List String) :
    IsDistinct (put page key drafts) := by
  cases key with
  | nil => exact h
  | cons path rest =>
    rw [put_cons]
    exact h.update (keepsPath_place page rest) fun old hold => hold.place page rest

theorem isDistinct_putAll (entries : List (Keyed Page)) : IsDistinct (putAll entries) := by
  induction entries using List.reverseRecOn with
  | nil => exact isDistinct_nil
  | append_singleton entries entry ih =>
    rw [putAll_concat]
    exact ih.put entry.value entry.key

/-- **In every draft that a run ends with siblings have distinct paths.** -/
theorem isDistinct_of_addFiles {cwd : Address} {root : String} {extensions files : List String}
    {policy : DuplicatePolicy}
    (h : (addFiles cwd root extensions policy files []).result = .ok drafts) :
    IsDistinct drafts := by
  rw [(of_addFiles h).2]
  exact isDistinct_putAll _

/-! ## The routes of a draft -/

/-- There is a route with a page, or without one, at an address. -/
inductive Has : List String → Option Page → List Draft → Prop
  | top {draft : Draft} {drafts : List Draft} (h : draft ∈ drafts) :
      Has [draft.path] draft.page drafts
  | under {draft : Draft} {drafts : List Draft} {a : List String} {page? : Option Page}
      (h : draft ∈ drafts) (hunder : Has a page? draft.children) :
      Has (draft.path :: a) page? drafts

/-- There is a route at an address. -/
def IsAddress (a : List String) (drafts : List Draft) : Prop :=
  ∃ page?, Has a page? drafts

variable {page? : Option Page}

theorem Has.ne_nil (h : Has a page? drafts) : a ≠ [] := by
  cases h <;> simp

theorem has_cons_iff :
    Has (path :: rest) page? drafts ↔ ∃ draft ∈ drafts, draft.path = path ∧
      (rest = [] ∧ draft.page = page? ∨ Has rest page? draft.children) := by
  constructor
  · intro h
    cases h with
    | top hmem => exact ⟨_, hmem, rfl, .inl ⟨rfl, rfl⟩⟩
    | under hmem hunder => exact ⟨_, hmem, rfl, .inr hunder⟩
  · rintro ⟨draft, hmem, rfl, ⟨rfl, rfl⟩ | hunder⟩
    · exact .top hmem
    · exact .under hmem hunder

theorem find?_eq_some_iff (h : IsDistinct drafts) :
    find? path drafts = some draft ↔ draft ∈ drafts ∧ draft.path = path := by
  constructor
  · intro hfind
    exact ⟨List.mem_of_find?_eq_some hfind, path_of_find? hfind⟩
  · rintro ⟨hmem, rfl⟩
    cases hfind : find? draft.path drafts with
    | none => simpa using List.find?_eq_none.mp hfind draft hmem
    | some other =>
      rw [List.inj_on_of_nodup_map h.nodup_paths (List.mem_of_find?_eq_some hfind) hmem
        (path_of_find? hfind)]

/-- Below a sibling an address goes on as below a root over the routes under it. -/
theorem nodeAt_root_children (ha : a ≠ []) (draft : Draft) :
    nodeAt a (root draft.children) = nodeAt a draft := by
  cases a with
  | nil => exact absurd rfl ha
  | cons path rest => rfl

theorem nodeAt_cons_root (path : String) (rest : List String) (drafts : List Draft) :
    nodeAt (path :: rest) (root drafts) = (find? path drafts).bind (nodeAt rest) := rfl

/-- **Where siblings have distinct paths, looking for an address finds the route there.** -/
theorem has_iff_nodeAt (h : IsDistinct drafts) :
    Has a page? drafts
      ↔ a ≠ [] ∧ ∃ draft, nodeAt a (root drafts) = some draft ∧ draft.page = page? := by
  induction a generalizing drafts with
  | nil => exact iff_of_false (fun hhas => hhas.ne_nil rfl) (fun hne => hne.1 rfl)
  | cons path rest ih =>
    rw [has_cons_iff, nodeAt_cons_root, and_iff_right (List.cons_ne_nil _ _)]
    constructor
    · rintro ⟨draft, hmem, hpath, hrest⟩
      rw [(find?_eq_some_iff h).mpr ⟨hmem, hpath⟩, Option.bind_some]
      rcases hrest with ⟨rfl, hpage⟩ | hunder
      · exact ⟨draft, rfl, hpage⟩
      · obtain ⟨hne, hfound⟩ := (ih (h.of_mem hmem)).mp hunder
        rwa [nodeAt_root_children hne] at hfound
    · rintro ⟨found, hfound, hpage⟩
      obtain ⟨draft, hdraft, hnode⟩ := Option.bind_eq_some_iff.mp hfound
      obtain ⟨hmem, hpath⟩ := (find?_eq_some_iff h).mp hdraft
      refine ⟨draft, hmem, hpath, ?_⟩
      by_cases hne : rest = []
      · subst hne
        exact .inl ⟨rfl, by rw [Option.some.inj hnode, hpage]⟩
      · rw [← nodeAt_root_children hne] at hnode
        exact .inr ((ih (h.of_mem hmem)).mpr ⟨hne, found, hnode, hpage⟩)

theorem isAddress_iff_nodeAt (h : IsDistinct drafts) :
    IsAddress a drafts ↔ a ≠ [] ∧ ∃ draft, nodeAt a (root drafts) = some draft := by
  simp only [IsAddress, has_iff_nodeAt h]
  constructor
  · rintro ⟨_, hne, draft, hnode, -⟩
    exact ⟨hne, draft, hnode⟩
  · rintro ⟨hne, draft, hnode⟩
    exact ⟨draft.page, hne, draft, hnode, rfl⟩

/-- The paths of the routes right below an address, in their order; the routes of the draft itself
are those below the empty address. -/
def pathsBelow (a : List String) (drafts : List Draft) : List String :=
  (nodeAt a (root drafts)).elim [] fun draft => draft.children.map Draft.path

/-- Below an address without a route there is as much as below a new route. -/
theorem pathsBelow_eq (a : List String) (path : String) (drafts : List Draft) :
    pathsBelow a drafts = ((nodeAt a (root drafts)).getD (fresh path)).children.map Draft.path := by
  rw [pathsBelow]
  cases nodeAt a (root drafts) <;> rfl

/-! ## Putting a page -/

/--
All that putting a page at a key does to a draft.

What it says of a route is said of its address, so it holds wherever the routes come to stand.
-/
structure IsPut (key : List String) (page : Page) (before after : List Draft) : Prop where
  /-- The addresses are the old ones and those on the way to the key. -/
  isAddress_iff : ∀ a, IsAddress a after ↔ IsAddress a before ∨ a ≠ [] ∧ a <+: key
  /-- At the key there is the page. -/
  has_key : ∀ page?, Has key page? after ↔ page? = some page
  /-- Every other route that was there keeps the page it had, or stays without one. -/
  has_old : ∀ a page?, a ≠ key → IsAddress a before → (Has a page? after ↔ Has a page? before)
  /-- Every other route that was not there has no page. -/
  has_new : ∀ a page?, a ≠ key → ¬IsAddress a before → Has a page? after → page? = none
  /-- Siblings have distinct paths. -/
  isDistinct : IsDistinct after
  /-- At every level the siblings stay in their order, and a new one comes behind them. -/
  order : ∀ a, pathsBelow a after = pathsBelow a before ∨
    ∃ path, a ++ [path] <+: key ∧ path ∉ pathsBelow a before ∧
      pathsBelow a after = pathsBelow a before ++ [path]

theorem page_place_of_ne_nil (h : key ≠ []) (page : Page) (draft : Draft) :
    (place page key draft).page = draft.page := by
  cases key with
  | nil => exact absurd rfl h
  | cons path rest => rw [place, page_withChildren]

/-- Right below a route a page that is placed adds the first path of its key, if it is new. -/
theorem map_path_children_place (page : Page) (key : List String) (draft : Draft) :
    (place page key draft).children.map Draft.path = draft.children.map Draft.path ∨
      ∃ path, [path] <+: key ∧ path ∉ draft.children.map Draft.path ∧
        (place page key draft).children.map Draft.path
          = draft.children.map Draft.path ++ [path] := by
  cases key with
  | nil => exact .inl (by rw [place, children_withPage])
  | cons path rest =>
    rw [place, children_withChildren, map_path_update (keepsPath_place page rest)]
    split
    · exact .inl rfl
    · next hnew => exact .inr ⟨path, ⟨rest, rfl⟩, hnew, rfl⟩

/-- **Putting a page makes what is missing on the way to its key, and changes nothing else.** -/
theorem isPut_put (h : IsDistinct drafts) (hkey : key ≠ []) (page : Page) :
    IsPut key page drafts (put page key drafts) := by
  have hafter := h.put page key
  -- On the way to the key, and away from it.
  have hon : ∀ a more, a ++ more = key → nodeAt a (root (put page key drafts))
      = some (place page more ((nodeAt a (root drafts)).getD (fresh (a.getLastD "")))) := by
    rintro a more rfl
    rw [← place_root page hkey, nodeAt_place_append]
    rfl
  have hoff : ∀ a, ¬a <+: key →
      nodeAt a (root (put page key drafts)) = nodeAt a (root drafts) := by
    intro a hpre
    rw [← place_root page hkey, nodeAt_place_of_not_prefix hpre]
  -- Above the key something of the key is left.
  have hbelow : ∀ a, a <+: key → a ≠ key → ∃ more, a ++ more = key ∧ more ≠ [] := by
    rintro a ⟨more, hmore⟩ hne
    refine ⟨more, hmore, ?_⟩
    rintro rfl
    exact hne (by rw [← hmore, List.append_nil])
  constructor
  case isAddress_iff =>
    intro a
    rw [isAddress_iff_nodeAt hafter, isAddress_iff_nodeAt h, ← and_or_left, and_congr_right_iff]
    intro _
    by_cases hpre : a <+: key
    · obtain ⟨more, hmore⟩ := hpre
      exact iff_of_true ⟨_, hon a more hmore⟩ (.inr ⟨more, hmore⟩)
    · rw [hoff a hpre, or_iff_left hpre]
  case has_key =>
    intro page?
    rw [has_iff_nodeAt hafter, and_iff_right hkey, hon key [] (List.append_nil key)]
    simp [place, eq_comm]
  case has_old =>
    intro a page? hne hold
    rw [has_iff_nodeAt hafter, has_iff_nodeAt h]
    by_cases hpre : a <+: key
    · obtain ⟨more, hmore, hnil⟩ := hbelow a hpre hne
      obtain ⟨-, draft, hdraft⟩ := (isAddress_iff_nodeAt h).mp hold
      rw [hon a more hmore, hdraft]
      simp [page_place_of_ne_nil hnil]
    · rw [hoff a hpre]
  case has_new =>
    intro a page? hne hnew hhas
    obtain ⟨ha, draft, hdraft, rfl⟩ := (has_iff_nodeAt hafter).mp hhas
    have hnone : nodeAt a (root drafts) = none :=
      Option.eq_none_iff_forall_ne_some.mpr fun draft hdraft =>
        hnew ((isAddress_iff_nodeAt h).mpr ⟨ha, draft, hdraft⟩)
    by_cases hpre : a <+: key
    · obtain ⟨more, hmore, hnil⟩ := hbelow a hpre hne
      rw [hon a more hmore, hnone, Option.some.injEq] at hdraft
      rw [← hdraft, page_place_of_ne_nil hnil]
      rfl
    · rw [hoff a hpre, hnone] at hdraft
      cases hdraft
  case isDistinct => exact hafter
  case order =>
    intro a
    by_cases hpre : a <+: key
    · obtain ⟨more, hmore⟩ := hpre
      rw [pathsBelow_eq a (a.getLastD "") drafts, pathsBelow, hon a more hmore, Option.elim_some]
      refine (map_path_children_place page more _).imp_right ?_
      rintro ⟨path, hpath, hnew⟩
      exact ⟨path, hmore ▸ (List.prefix_append_right_inj a).mpr hpath, hnew⟩
    · exact .inl (by rw [pathsBelow, pathsBelow, hoff a hpre])

end PageRoutes.Draft
