import PageRoutes.Proofs.Draft
import PageRoutes.Proofs.Occurrence
import PageRoutes.Route.Group

/-!
# Putting pages one by one and grouping them at once

A draft that was made by putting one page after the other is the grouping of all the pages:

* `putAll_eq` — the draft is said by one equation, with no word on the order of the puts.
* `toTree_putAll` — as a tree it is `RouteTree.group` of the same entries.
* `group_eq` — `RouteTree.group` without its bound on the depth.

Both sides are read off the end of the list: the entry that comes last adds at most one path to
`heads`, one entry to `under` its first path, and nothing anywhere else.
-/

namespace PageRoutes

namespace Keyed

variable {α β : Type}

/-! ## One more entry -/

section Concat

variable (entries : List (Keyed α)) (value : α)

theorem heads_concat_nil : heads (entries ++ [⟨[], value⟩]) = heads entries := by
  rw [heads, List.filterMap_append]
  exact congrArg List.eraseDups (List.append_nil _)

theorem heads_concat_cons (path : String) (rest : List String) :
    heads (entries ++ [⟨path :: rest, value⟩])
      = if path ∈ heads entries then heads entries else heads entries ++ [path] := by
  have h : path ∈ heads entries ↔ path ∈ entries.filterMap fun entry => entry.key.head? := by
    rw [heads, List.mem_eraseDups]
  simp only [h]
  rw [heads, List.filterMap_append]
  exact Occurrence.eraseDups_concat _ _

theorem under_concat_nil (path : String) :
    under path (entries ++ [⟨[], value⟩]) = under path entries := by
  simp [under, below?]

theorem under_concat_self (path : String) (rest : List String) :
    under path (entries ++ [⟨path :: rest, value⟩]) = under path entries ++ [⟨rest, value⟩] := by
  simp [under, below?]

theorem under_concat_of_ne {path head : String} (h : head ≠ path) (rest : List String) :
    under path (entries ++ [⟨head :: rest, value⟩]) = under path entries := by
  simp [under, below?, h]

theorem here?_concat_nil : here? (entries ++ [⟨[], value⟩]) = some value := by
  simp [here?]

theorem here?_concat_cons (path : String) (rest : List String) :
    here? (entries ++ [⟨path :: rest, value⟩]) = here? entries := by
  simp [here?]

theorem deeper_concat_nil : deeper (entries ++ [⟨[], value⟩]) = deeper entries := by
  simp [deeper]

theorem deeper_concat_cons (path : String) (rest : List String) :
    deeper (entries ++ [⟨path :: rest, value⟩]) = deeper entries ++ [⟨path :: rest, value⟩] := by
  simp [deeper]

end Concat

theorem nodup_heads (entries : List (Keyed α)) : (heads entries).Nodup :=
  Occurrence.nodup_eraseDups _

/-- No entry is under a path that no key starts with. -/
theorem under_eq_nil_of_not_mem_heads {path : String} {entries : List (Keyed α)}
    (h : path ∉ heads entries) : under path entries = [] := by
  rw [heads, List.mem_eraseDups, List.mem_filterMap] at h
  rw [under, List.filterMap_eq_nil_iff]
  intro entry he
  rw [below?]
  split
  · next head rest hk =>
    refine if_neg fun hp => h ⟨entry, he, ?_⟩
    rw [hk, List.head?_cons, hp]
  · rfl

/-! ## The depth of entries -/

/-- A bound on the length of the keys. -/
def DepthLe (depth : Nat) (entries : List (Keyed α)) : Prop :=
  ∀ entry ∈ entries, entry.key.length ≤ depth

theorem depthLe_maxDepth (entries : List (Keyed α)) : DepthLe (maxDepth entries) entries := by
  intro entry he
  have hm : entry.key.length ∈ entries.map fun entry => entry.key.length :=
    List.mem_map_of_mem he
  exact List.le_max?_getD_of_mem hm

theorem maxDepth_le {depth : Nat} {entries : List (Keyed α)} (h : DepthLe depth entries) :
    maxDepth entries ≤ depth := by
  rw [maxDepth]
  cases hm : (entries.map fun entry => entry.key.length).max? with
  | none => exact Nat.zero_le _
  | some n =>
    obtain ⟨entry, he, rfl⟩ := List.mem_map.mp (List.max?_mem hm)
    exact h entry he

/-- One level down the keys are shorter. -/
theorem DepthLe.deeper_under {depth : Nat} {entries : List (Keyed α)}
    (h : DepthLe (depth + 1) entries) (path : String) :
    DepthLe depth (deeper (under path entries)) := by
  intro entry he
  obtain ⟨hu, -⟩ := List.mem_filter.mp he
  obtain ⟨longer, hl, hb⟩ := List.mem_filterMap.mp hu
  have hlen := h longer hl
  rw [below?] at hb
  split at hb
  · next head rest hk =>
    rw [hk, List.length_cons] at hlen
    split at hb
    · rw [Option.some.injEq] at hb
      subst hb
      exact Nat.le_of_succ_le_succ hlen
    · simp at hb
  · simp at hb

/-- Entries without keys have no first paths. -/
theorem DepthLe.heads_eq_nil {entries : List (Keyed α)} (h : DepthLe 0 entries) :
    heads entries = [] := by
  have hn : (entries.filterMap fun entry => entry.key.head?) = [] := by
    rw [List.filterMap_eq_nil_iff]
    intro entry he
    rw [List.length_eq_zero_iff.mp (Nat.le_zero.mp (h entry he))]
    rfl
  rw [heads, hn]
  rfl

/-! ## Other values under the same keys -/

/-- The entry with its value changed. -/
def map (f : α → β) (entry : Keyed α) : Keyed β :=
  ⟨entry.key, f entry.value⟩

theorem heads_map (f : α → β) (entries : List (Keyed α)) :
    heads (entries.map (map f)) = heads entries := by
  simp only [heads, List.filterMap_map]
  rfl

theorem under_map (f : α → β) (path : String) (entries : List (Keyed α)) :
    under path (entries.map (map f)) = (under path entries).map (map f) := by
  rw [under, under, List.filterMap_map, List.map_filterMap]
  congr 1
  funext entry
  obtain ⟨key, value⟩ := entry
  cases key with
  | nil => rfl
  | cons head rest =>
    by_cases h : head = path <;> simp [below?, map, h]

theorem here?_map (f : α → β) (entries : List (Keyed α)) :
    here? (entries.map (map f)) = (here? entries).map f := by
  simp only [here?, List.filter_map, List.getLast?_map, Option.map_map]
  rfl

theorem deeper_map (f : α → β) (entries : List (Keyed α)) :
    deeper (entries.map (map f)) = (deeper entries).map (map f) := by
  rw [deeper, deeper, List.filter_map]
  rfl

end Keyed

/-! ## Drafts -/

namespace Draft

open Keyed

/-- Puts the pages of the entries one after the other, beginning with nothing. -/
def putAll (entries : List (Keyed Page)) : List Draft :=
  entries.foldl (fun drafts entry => put entry.value entry.key drafts) []

/-- Places the pages of the entries one after the other below a route. -/
def placeAll (entries : List (Keyed Page)) (draft : Draft) : Draft :=
  entries.foldl (fun draft entry => place entry.value entry.key draft) draft

@[simp] theorem putAll_nil : putAll [] = [] := rfl

theorem putAll_concat (entries : List (Keyed Page)) (entry : Keyed Page) :
    putAll (entries ++ [entry]) = put entry.value entry.key (putAll entries) := by
  rw [putAll, List.foldl_append]
  rfl

theorem placeAll_concat (entries : List (Keyed Page)) (entry : Keyed Page) (draft : Draft) :
    placeAll (entries ++ [entry]) draft = place entry.value entry.key (placeAll entries draft) := by
  rw [placeAll, List.foldl_append]
  rfl

theorem path_placeAll (entries : List (Keyed Page)) (draft : Draft) :
    (placeAll entries draft).path = draft.path := by
  induction entries using List.reverseRecOn with
  | nil => rfl
  | append_singleton entries entry ih => rw [placeAll_concat, keepsPath_place, ih]

/-- Changing one of several siblings that are made from their paths. -/
theorem update_map {make : String → Draft} (hmake : ∀ path, (make path).path = path)
    {change : Draft → Draft} {path : String} {paths : List String} (hnd : paths.Nodup) :
    update path change (paths.map make)
      = if path ∈ paths then paths.map fun p => if p = path then change (make p) else make p
        else paths.map make ++ [change (fresh path)] := by
  induction paths with
  | nil => rfl
  | cons p paths ih =>
    obtain ⟨hp, hnd⟩ := List.nodup_cons.mp hnd
    rw [List.map_cons]
    by_cases he : p = path
    · subst he
      rw [update_cons_self (hmake p), if_pos List.mem_cons_self, List.map_cons, if_pos rfl]
      congr 1
      apply List.map_congr_left
      intro q hq
      rw [if_neg]
      intro hqp
      exact hp (hqp ▸ hq)
    · rw [update_cons_of_ne (by rw [hmake]; exact he), ih hnd]
      by_cases hm : path ∈ paths
      · rw [if_pos hm, if_pos (List.mem_cons_of_mem _ hm), List.map_cons, if_neg he]
      · have hm' : path ∉ p :: paths := by
          rw [List.mem_cons, not_or]
          exact ⟨Ne.symm he, hm⟩
        rw [if_neg hm, if_neg hm', List.cons_append]

/-- Below a new route there is the page of the entry that ends there and the draft of the rest. -/
theorem placeAll_fresh (entries : List (Keyed Page)) (path : String) :
    placeAll entries (fresh path) = mk path (here? entries) (putAll (deeper entries)) := by
  induction entries using List.reverseRecOn with
  | nil => rfl
  | append_singleton entries entry ih =>
    obtain ⟨key, page⟩ := entry
    rw [placeAll_concat, ih]
    cases key with
    | nil => rw [here?_concat_nil, deeper_concat_nil]; rfl
    | cons p rest =>
      rw [here?_concat_cons, deeper_concat_cons, putAll_concat, put_cons]
      rfl

/-- The top routes of a draft, each with the entries under its path. -/
theorem putAll_eq_map_placeAll (entries : List (Keyed Page)) :
    putAll entries
      = (heads entries).map fun path => placeAll (under path entries) (fresh path) := by
  induction entries using List.reverseRecOn with
  | nil => rfl
  | append_singleton entries entry ih =>
    obtain ⟨key, page⟩ := entry
    rw [putAll_concat, ih]
    cases key with
    | nil =>
      simp only [under_concat_nil, heads_concat_nil]
      rfl
    | cons path rest =>
      rw [put_cons, update_map (fun p => path_placeAll _ _) (nodup_heads entries),
        heads_concat_cons]
      -- The route of the new entry gets it as its last one, its siblings stay as they are.
      have hne : ∀ p, p ≠ path →
          under p (entries ++ [⟨path :: rest, page⟩]) = under p entries :=
        fun p hp => under_concat_of_ne entries page hp.symm rest
      split
      · apply List.map_congr_left
        intro p _
        by_cases hp : p = path
        · subst hp
          rw [if_pos rfl, under_concat_self, placeAll_concat]
        · rw [if_neg hp, hne p hp]
      · next hpath =>
        rw [List.map_append, List.map_singleton, under_concat_self,
          under_eq_nil_of_not_mem_heads hpath]
        congr 1
        apply List.map_congr_left
        intro p hp
        rw [hne p]
        intro he
        exact hpath (he ▸ hp)

/-- **The draft of entries in one equation**: the first paths of the keys are its top routes, and
each has the page of the entry that ends there and below it the draft of the entries that go on. -/
theorem putAll_eq (entries : List (Keyed Page)) :
    putAll entries = (heads entries).map fun path =>
      mk path (here? (under path entries)) (putAll (deeper (under path entries))) := by
  rw [putAll_eq_map_placeAll]
  apply List.map_congr_left
  intro path _
  exact placeAll_fresh _ path

/-- The tree of siblings is the list of their trees. -/
theorem toTree_eq_map (drafts : List Draft) : toTree drafts = drafts.map toRoute := by
  induction drafts with
  | nil => rfl
  | cons draft drafts ih => rw [toTree, List.map_cons, ih]

end Draft

/-! ## Trees -/

namespace RouteTree

open Keyed

/-- The bound on the depth does not matter once it is large enough. -/
theorem groupAux_succ {depth : Nat} {entries : List (Keyed String)} (h : DepthLe depth entries) :
    groupAux (depth + 1) entries = groupAux depth entries := by
  induction depth generalizing entries with
  | zero =>
    show (heads entries).map _ = []
    rw [h.heads_eq_nil, List.map_nil]
  | succ depth ih =>
    rw [groupAux, groupAux]
    apply List.map_congr_left
    intro path _
    show Route.mk _ _ (ofList? _) = Route.mk _ _ (ofList? _)
    rw [ih (h.deeper_under path)]

theorem groupAux_eq_group {depth : Nat} {entries : List (Keyed String)}
    (h : DepthLe depth entries) : groupAux depth entries = group entries := by
  have hmin : maxDepth entries ≤ depth := maxDepth_le h
  obtain ⟨more, rfl⟩ := Nat.le.dest hmin
  clear hmin h
  induction more with
  | zero => rfl
  | succ more ih =>
    rw [← Nat.add_assoc, groupAux_succ, ih]
    intro entry he
    exact Nat.le_trans (depthLe_maxDepth entries entry he) (Nat.le_add_right _ more)

/-- **Grouping in one equation.** -/
theorem group_eq (entries : List (Keyed String)) :
    group entries = (heads entries).map fun path =>
      .mk path (here? (under path entries))
        (ofList? (group (deeper (under path entries)))) := by
  have h := depthLe_maxDepth entries
  have h' : DepthLe (maxDepth entries + 1) entries :=
    fun entry he => Nat.le_succ_of_le (h entry he)
  rw [← groupAux_eq_group h', groupAux]
  apply List.map_congr_left
  intro path _
  show Route.mk _ _ (ofList? _) = Route.mk _ _ (ofList? _)
  rw [groupAux_eq_group (h'.deeper_under path)]

end RouteTree

/-- **The tree of a draft groups the views of the pages that were put into it.** -/
theorem Draft.toTree_putAll (entries : List (Keyed Page)) :
    toTree (putAll entries) = RouteTree.group (entries.map (Keyed.map Page.view)) := by
  suffices h : ∀ depth entries, Keyed.DepthLe depth entries →
      toTree (putAll entries) = RouteTree.group (entries.map (Keyed.map Page.view)) from
    h _ entries (Keyed.depthLe_maxDepth entries)
  intro depth
  induction depth with
  | zero =>
    intro entries h
    rw [putAll_eq, RouteTree.group_eq, Keyed.heads_map, h.heads_eq_nil]
    rfl
  | succ depth ih =>
    intro entries h
    rw [putAll_eq, RouteTree.group_eq, Keyed.heads_map, toTree_eq_map, List.map_map]
    apply List.map_congr_left
    intro path _
    rw [Function.comp_apply, toRoute, ih _ (h.deeper_under path), Keyed.under_map,
      Keyed.here?_map, Keyed.deeper_map]

end PageRoutes
