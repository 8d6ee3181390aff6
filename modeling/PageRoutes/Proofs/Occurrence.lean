import Mathlib.Data.List.Basic
import Mathlib.Data.List.Induction
import Mathlib.Data.List.Nodup
import Mathlib.Order.Basic

/-!
# First and last occurrences

A list can hold several elements with the same key. `lastWith?` is the last element with a key,
`lastOfEach` the list with one element for each key: the last one with the key, at the place of the
first.
-/

namespace PageRoutes.Occurrence

variable {α κ : Type}

theorem nodup_map_concat {key : α → κ} {xs : List α} {x : α} :
    ((xs ++ [x]).map key).Nodup ↔ key x ∉ xs.map key ∧ (xs.map key).Nodup := by
  rw [List.map_append, List.map_singleton, ← List.concat_eq_append]
  exact List.nodup_concat _ _

/-- The keys are distinct just if no two places hold elements with the same key. -/
theorem nodup_map_iff_getElem? {key : α → κ} {xs : List α} :
    (xs.map key).Nodup
      ↔ ∀ (i j : Nat) (x y : α), i < j → xs[i]? = some x → xs[j]? = some y → key x ≠ key y := by
  rw [List.nodup_iff_getElem?_ne_getElem?]
  simp only [List.getElem?_map, List.length_map]
  constructor
  · intro h i j x y hij hx hy hkey
    have hj : j < xs.length := (List.getElem?_eq_some_iff.mp hy).1
    exact h i j hij hj (by rw [hx, hy, Option.map_some, Option.map_some, hkey])
  · intro h i j hij hj heq
    have hi : i < xs.length := Nat.lt_trans hij hj
    rw [List.getElem?_eq_getElem hi, List.getElem?_eq_getElem hj, Option.map_some,
      Option.map_some, Option.some.injEq] at heq
    exact h i j _ _ hij (List.getElem?_eq_getElem hi) (List.getElem?_eq_getElem hj) heq

variable [DecidableEq κ]

/-! ## Distinct elements in the order of their first occurrence -/

theorem eraseDups_concat (ks : List κ) (k : κ) :
    (ks ++ [k]).eraseDups = if k ∈ ks then ks.eraseDups else ks.eraseDups ++ [k] := by
  rw [List.eraseDups_append]
  by_cases h : k ∈ ks
  · simp [h, List.removeAll]
  · simp [h, List.removeAll, List.eraseDups_cons]

theorem nodup_eraseDups (ks : List κ) : ks.eraseDups.Nodup := by
  induction ks using List.reverseRecOn with
  | nil => simp
  | append_singleton ks k ih =>
    rw [eraseDups_concat]
    split
    · exact ih
    · next h =>
      rw [← List.concat_eq_append]
      exact (List.nodup_concat _ _).mpr ⟨fun hk => h (List.mem_eraseDups.mp hk), ih⟩

/-! ## The last element with a key -/

/-- The last element with a key. -/
def lastWith? (key : α → κ) (k : κ) (xs : List α) : Option α :=
  (xs.filter fun x => key x = k).getLast?

theorem lastWith?_concat (key : α → κ) (k : κ) (xs : List α) (x : α) :
    lastWith? key k (xs ++ [x]) = if key x = k then some x else lastWith? key k xs := by
  by_cases h : key x = k <;> simp [lastWith?, h]

theorem key_of_lastWith? {key : α → κ} {k : κ} {xs : List α} {x : α}
    (h : lastWith? key k xs = some x) : key x = k := by
  have hm := List.mem_of_getLast? h
  simpa using (List.mem_filter.mp hm).2

theorem mem_of_lastWith? {key : α → κ} {k : κ} {xs : List α} {x : α}
    (h : lastWith? key k xs = some x) : x ∈ xs :=
  (List.mem_filter.mp (List.mem_of_getLast? h)).1

theorem lastWith?_eq_none_iff {key : α → κ} {k : κ} {xs : List α} :
    lastWith? key k xs = none ↔ k ∉ xs.map key := by
  simp [lastWith?]

theorem lastWith?_map {β : Type} (key : β → κ) (f : α → β) (k : κ) (xs : List α) :
    lastWith? key k (xs.map f) = (lastWith? (key ∘ f) k xs).map f := by
  simp only [lastWith?, List.filter_map, List.getLast?_map, Function.comp_def]

/-! ## The last element with each key -/

/-- The last element with each key, in the order in which the keys first occur. -/
def lastOfEach (key : α → κ) (xs : List α) : List α :=
  (xs.map key).eraseDups.filterMap fun k => lastWith? key k xs

theorem mem_of_mem_lastOfEach {key : α → κ} {xs : List α} {x : α} (h : x ∈ lastOfEach key xs) :
    x ∈ xs := by
  obtain ⟨k, -, hk⟩ := List.mem_filterMap.mp h
  exact mem_of_lastWith? hk

theorem lastOfEach_map {β : Type} (key : β → κ) (f : α → β) (xs : List α) :
    lastOfEach key (xs.map f) = (lastOfEach (key ∘ f) xs).map f := by
  simp only [lastOfEach, List.map_map, lastWith?_map, List.map_filterMap]

/-- Every key has one element left. -/
theorem map_key_lastOfEach (key : α → κ) (xs : List α) :
    (lastOfEach key xs).map key = (xs.map key).eraseDups := by
  rw [lastOfEach, List.map_filterMap]
  have hkey : ∀ k ∈ (xs.map key).eraseDups, (lastWith? key k xs).map key = some k := by
    intro k hk
    rw [List.mem_eraseDups] at hk
    cases hl : lastWith? key k xs with
    | none => exact absurd hk (lastWith?_eq_none_iff.mp hl)
    | some x => rw [Option.map_some, key_of_lastWith? hl]
  rw [List.filterMap_congr hkey, List.filterMap_some]

theorem mem_map_key_lastOfEach {key : α → κ} {k : κ} {xs : List α} :
    k ∈ (lastOfEach key xs).map key ↔ k ∈ xs.map key := by
  rw [map_key_lastOfEach, List.mem_eraseDups]

theorem nodup_map_key_lastOfEach (key : α → κ) (xs : List α) :
    ((lastOfEach key xs).map key).Nodup := by
  rw [map_key_lastOfEach]
  exact nodup_eraseDups _

theorem mem_lastOfEach_iff {key : α → κ} {xs : List α} {x : α} :
    x ∈ lastOfEach key xs ↔ lastWith? key (key x) xs = some x := by
  constructor
  · intro h
    obtain ⟨k, -, hk⟩ := List.mem_filterMap.mp h
    rwa [key_of_lastWith? hk]
  · intro h
    refine List.mem_filterMap.mpr ⟨key x, ?_, h⟩
    exact List.mem_eraseDups.mpr (List.mem_map_of_mem (mem_of_lastWith? h))

/-- In an ordered list the last element with a key is the greatest one. -/
theorem le_of_lastWith? [Preorder α] {key : α → κ} {k : κ} {xs : List α} {x y : α}
    (hxs : xs.Pairwise (· ≤ ·)) (h : lastWith? key k xs = some x) (hy : y ∈ xs)
    (hkey : key y = k) : y ≤ x := by
  obtain ⟨before, hsplit⟩ := List.getLast?_eq_some_iff.mp h
  have hordered := hxs.filter fun x => decide (key x = k)
  have hmem : y ∈ xs.filter fun x => decide (key x = k) :=
    List.mem_filter.mpr ⟨hy, decide_eq_true hkey⟩
  rw [hsplit] at hordered hmem
  rcases List.mem_append.mp hmem with hmem | hmem
  · exact (List.pairwise_append.mp hordered).2.2 y hmem x List.mem_cons_self
  · exact (List.mem_singleton.mp hmem).le

/-- **In an ordered list the last element of each key is the greatest one.** -/
theorem mem_lastOfEach_iff_greatest [PartialOrder α] {key : α → κ} {xs : List α} {x : α}
    (hxs : xs.Pairwise (· ≤ ·)) :
    x ∈ lastOfEach key xs ↔ x ∈ xs ∧ ∀ y ∈ xs, key y = key x → y ≤ x := by
  rw [mem_lastOfEach_iff]
  constructor
  · intro h
    exact ⟨mem_of_lastWith? h, fun y hy hkey => le_of_lastWith? hxs h hy hkey⟩
  · rintro ⟨hx, hgreatest⟩
    cases h : lastWith? key (key x) xs with
    | none => exact absurd (List.mem_map_of_mem hx) (lastWith?_eq_none_iff.mp h)
    | some y =>
      have hle : y ≤ x := hgreatest y (mem_of_lastWith? h) (key_of_lastWith? h)
      rw [hle.antisymm (le_of_lastWith? hxs h hx rfl)]

/-- An element with a new key comes last; any other one takes the place of the one before it. -/
theorem lastOfEach_concat (key : α → κ) (xs : List α) (x : α) :
    lastOfEach key (xs ++ [x])
      = if key x ∈ xs.map key then (lastOfEach key xs).map fun y => if key y = key x then x else y
        else lastOfEach key xs ++ [x] := by
  rw [lastOfEach, List.map_append, List.map_singleton, eraseDups_concat]
  split
  · next hx =>
    rw [lastOfEach, List.map_filterMap]
    apply List.filterMap_congr
    intro k hk
    rw [List.mem_eraseDups] at hk
    rw [lastWith?_concat]
    cases hl : lastWith? key k xs with
    | none => exact absurd hk (lastWith?_eq_none_iff.mp hl)
    | some y =>
      rw [Option.map_some, key_of_lastWith? hl]
      by_cases he : key x = k
      · rw [if_pos he, if_pos he.symm]
      · rw [if_neg he, if_neg (Ne.symm he)]
  · next hx =>
    rw [List.filterMap_append]
    congr 1
    · apply List.filterMap_congr
      intro k hk
      rw [List.mem_eraseDups] at hk
      rw [lastWith?_concat, if_neg]
      intro he
      rw [he] at hx
      exact hx hk
    · simp [lastWith?_concat]

/-! ## Parts -/

/-- The parts of a list that have the same mark are the whole list in another order. -/
theorem flatMap_filter_perm {mark : α → Option κ} {ks : List κ} (hnd : ks.Nodup) {xs : List α}
    (h : ∀ x ∈ xs, ∃ k ∈ ks, mark x = some k) :
    (ks.flatMap fun k => xs.filter fun x => mark x = some k).Perm xs := by
  induction ks generalizing xs with
  | nil =>
    have hxs : xs = [] := by
      rw [List.eq_nil_iff_forall_not_mem]
      intro x hx
      obtain ⟨k, hk, -⟩ := h x hx
      simp at hk
    rw [hxs]
    rfl
  | cons k ks ih =>
    obtain ⟨hk, hnd⟩ := List.nodup_cons.mp hnd
    -- What has another mark than `k` is marked by one of `ks`, and it is all that they mark.
    have hrest : ∀ x ∈ xs.filter fun x => ¬mark x = some k, ∃ j ∈ ks, mark x = some j := by
      intro x hx
      obtain ⟨hx, hne⟩ := List.mem_filter.mp hx
      obtain ⟨j, hj, hm⟩ := h x hx
      rcases List.mem_cons.mp hj with rfl | hj
      · simp [hm] at hne
      · exact ⟨j, hj, hm⟩
    have hsame : (ks.flatMap fun j => xs.filter fun x => mark x = some j)
        = ks.flatMap fun j => (xs.filter fun x => ¬mark x = some k).filter fun x =>
            mark x = some j := by
      apply List.flatMap_congr
      intro j hj
      rw [List.filter_filter]
      apply List.filter_congr
      intro x _
      by_cases hm : mark x = some j
      · have hne : j ≠ k := fun he => hk (he ▸ hj)
        simp [hm, hne]
      · simp [hm]
    rw [List.flatMap_cons, hsame]
    refine ((ih hnd hrest).append_left _).trans ?_
    simpa using List.filter_append_perm (fun x => decide (mark x = some k)) xs

end PageRoutes.Occurrence
