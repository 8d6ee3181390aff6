import Mathlib.Data.List.Nodup
import Mathlib.Data.List.Perm.Subperm
import Mathlib.Data.String.Basic
import PageRoutes.Json.Alike

/-!
# The order of members

`Json.sorted` picks one of several alike values.

* `isOrdered_sorted` — in it the names of every object increase.
* `alike_sorted` — it is alike to the value it comes from.
* `alike_iff_sorted_eq` — exact values are alike just if their sorted ones are the same.

The last one turns a comparison without order into an equality. Its proof goes through permutations:
two objects alike have the same members after sorting their values, and a list of members whose
names increase is determined by its members.
-/

namespace PageRoutes.Json

/-! ## Facts about values from facts about their parts -/

/-- Induction on a value, with the hypothesis for all items of a list and all values of an
object. -/
theorem induction {P : Json → Prop} (null : P .null) (bool : ∀ b, P (.bool b))
    (int : ∀ n, P (.int n)) (number : ∀ x, P (.number x)) (text : ∀ s, P (.text s))
    (list : ∀ items : List Json, (∀ item ∈ items, P item) → P (.list items))
    (object : ∀ members : List (String × Json), (∀ member ∈ members, P member.2) →
      P (.object members)) : ∀ value, P value :=
  Json.rec (motive_1 := P) (motive_2 := fun items => ∀ item ∈ items, P item)
    (motive_3 := fun members => ∀ member ∈ members, P member.2)
    (motive_4 := fun member => P member.2)
    null bool int number text (fun items ih => list items ih) (fun members ih => object members ih)
    (fun _ h => absurd h List.not_mem_nil)
    (fun _ _ hitem hitems => List.forall_mem_cons.mpr ⟨hitem, hitems⟩)
    (fun _ h => absurd h List.not_mem_nil)
    (fun _ _ hmember hmembers => List.forall_mem_cons.mpr ⟨hmember, hmembers⟩)
    (fun _ _ hvalue => hvalue)

theorem allExact_iff {items : List Json} : AllExact items ↔ ∀ item ∈ items, item.IsExact := by
  induction items with
  | nil => exact ⟨fun _ _ h => absurd h List.not_mem_nil, fun _ => trivial⟩
  | cons item items ih => rw [AllExact, ih, List.forall_mem_cons]

theorem membersExact_iff {members : List (String × Json)} :
    MembersExact members ↔ ∀ member ∈ members, member.2.IsExact := by
  induction members with
  | nil => exact ⟨fun _ _ h => absurd h List.not_mem_nil, fun _ => trivial⟩
  | cons member members ih => rw [MembersExact, ih, List.forall_mem_cons]

theorem allOrdered_iff {items : List Json} : AllOrdered items ↔ ∀ item ∈ items, item.IsOrdered := by
  induction items with
  | nil => exact ⟨fun _ _ h => absurd h List.not_mem_nil, fun _ => trivial⟩
  | cons item items ih => rw [AllOrdered, ih, List.forall_mem_cons]

theorem membersOrdered_iff {members : List (String × Json)} :
    MembersOrdered members ↔ ∀ member ∈ members, member.2.IsOrdered := by
  induction members with
  | nil => exact ⟨fun _ _ h => absurd h List.not_mem_nil, fun _ => trivial⟩
  | cons member members ih => rw [MembersOrdered, ih, List.forall_mem_cons]

theorem alikeItems_iff {xs ys : List Json} : AlikeItems xs ys ↔ List.Forall₂ Alike xs ys := by
  induction xs generalizing ys with
  | nil => cases ys <;> simp [AlikeItems]
  | cons x xs ih => cases ys <;> simp [AlikeItems, ih]

theorem alikeMembers_iff {xs ys : List (String × Json)} :
    AlikeMembers xs ys ↔ ∀ member ∈ xs, ∃ y, (member.1, y) ∈ ys ∧ member.2.Alike y := by
  induction xs with
  | nil => exact ⟨fun _ _ h => absurd h List.not_mem_nil, fun _ => trivial⟩
  | cons x xs ih => rw [AlikeMembers, ih, List.forall_mem_cons]

/-! ## Sorting members -/

theorem sortedItems_eq_map (items : List Json) : sortedItems items = items.map sorted := by
  induction items with
  | nil => rfl
  | cons item items ih => rw [sortedItems, ih, List.map_cons]

theorem forall_mem_sortedItems {P : Json → Prop} {items : List Json} :
    (∀ item ∈ sortedItems items, P item) ↔ ∀ item ∈ items, P item.sorted := by
  rw [sortedItems_eq_map, List.forall_mem_map]

theorem insertMember_perm (member : String × Json) (members : List (String × Json)) :
    (insertMember member members).Perm (member :: members) := by
  induction members with
  | nil => exact .refl _
  | cons first rest ih =>
    unfold insertMember
    split
    · exact .refl _
    · exact (ih.cons first).trans (.swap member first rest)

/-- A member with its value sorted. -/
def sortedMember (member : String × Json) : String × Json := (member.1, member.2.sorted)

/-- Sorting an object keeps its members but for what happens inside their values. -/
theorem sortedMembers_perm (members : List (String × Json)) :
    (sortedMembers members).Perm (members.map sortedMember) := by
  induction members with
  | nil => exact .refl _
  | cons member members ih => exact (insertMember_perm _ _).trans (ih.cons _)

theorem map_fst_sortedMembers_perm (members : List (String × Json)) :
    ((sortedMembers members).map Prod.fst).Perm (members.map Prod.fst) := by
  have hperm := (sortedMembers_perm members).map Prod.fst
  rwa [List.map_map] at hperm

theorem forall_mem_sortedMembers {P : Json → Prop} {members : List (String × Json)} :
    (∀ member ∈ sortedMembers members, P member.2) ↔ ∀ member ∈ members, P member.2.sorted := by
  simp only [(sortedMembers_perm members).mem_iff, List.forall_mem_map, sortedMember]

theorem insertMember_pairwise {member : String × Json} {members : List (String × Json)}
    (hmembers : (members.map Prod.fst).Pairwise (· < ·)) (hname : member.1 ∉ members.map Prod.fst) :
    ((insertMember member members).map Prod.fst).Pairwise (· < ·) := by
  induction members with
  | nil => exact List.pairwise_singleton _ _
  | cons first rest ih =>
    obtain ⟨hfirst, hrest⟩ := List.pairwise_cons.mp hmembers
    obtain ⟨hne, hnot⟩ := not_or.mp (mt List.mem_cons.mpr hname)
    unfold insertMember
    split
    · next hle =>
      have hlt : member.1 < first.1 := lt_of_le_of_ne hle hne
      refine List.pairwise_cons.mpr ⟨List.forall_mem_cons.mpr ⟨hlt, fun name hmem => ?_⟩, hmembers⟩
      exact hlt.trans (hfirst name hmem)
    · next hgt =>
      refine List.pairwise_cons.mpr ⟨fun name hmem => ?_, ih hrest hnot⟩
      rcases List.mem_cons.mp (((insertMember_perm member rest).map Prod.fst).mem_iff.mp hmem)
        with rfl | hmem
      · exact not_le.mp hgt
      · exact hfirst name hmem

/-- Names that are distinct increase after sorting. -/
theorem sortedMembers_pairwise {members : List (String × Json)}
    (h : (members.map Prod.fst).Nodup) :
    ((sortedMembers members).map Prod.fst).Pairwise (· < ·) := by
  induction members with
  | nil => exact .nil
  | cons member members ih =>
    obtain ⟨hname, hnames⟩ := List.nodup_cons.mp h
    refine insertMember_pairwise (ih hnames) fun hmem => hname ?_
    exact (map_fst_sortedMembers_perm members).mem_iff.mp hmem

/-! ## The sorted value -/

/-- **A sorted value is ordered**, if it is exact. -/
theorem isOrdered_sorted {value : Json} (h : value.IsExact) : value.sorted.IsOrdered := by
  induction value using induction with
  | null => trivial
  | bool => trivial
  | int => trivial
  | number => trivial
  | text => trivial
  | list items ih =>
    refine allOrdered_iff.mpr (forall_mem_sortedItems.mpr fun item hitem => ?_)
    exact ih item hitem (allExact_iff.mp h item hitem)
  | object members ih =>
    obtain ⟨hnames, hmembers⟩ := h
    refine ⟨sortedMembers_pairwise hnames, membersOrdered_iff.mpr ?_⟩
    refine forall_mem_sortedMembers.mpr fun member hmember => ?_
    exact ih member hmember (membersExact_iff.mp hmembers member hmember)

/-- Sorting keeps a value exact. -/
theorem isExact_sorted {value : Json} (h : value.IsExact) : value.sorted.IsExact := by
  induction value using induction with
  | null => trivial
  | bool => trivial
  | int => trivial
  | number => exact h
  | text => trivial
  | list items ih =>
    refine allExact_iff.mpr (forall_mem_sortedItems.mpr fun item hitem => ?_)
    exact ih item hitem (allExact_iff.mp h item hitem)
  | object members ih =>
    obtain ⟨hnames, hmembers⟩ := h
    refine ⟨(map_fst_sortedMembers_perm members).nodup_iff.mpr hnames, membersExact_iff.mpr ?_⟩
    refine forall_mem_sortedMembers.mpr fun member hmember => ?_
    exact ih member hmember (membersExact_iff.mp hmembers member hmember)

/-- **A sorted value is alike** to the value it comes from. -/
theorem alike_sorted (value : Json) : value.Alike value.sorted := by
  induction value using induction with
  | null => trivial
  | bool => rfl
  | int => rfl
  | number => rfl
  | text => rfl
  | list items ih =>
    refine alikeItems_iff.mpr ?_
    rw [sortedItems_eq_map, List.forall₂_map_right_iff]
    exact List.forall₂_same.mpr ih
  | object members ih =>
    refine ⟨?_, alikeMembers_iff.mpr fun member hmember => ⟨_, ?_, ih member hmember⟩⟩
    · rw [(sortedMembers_perm members).length_eq, List.length_map]
    · exact (sortedMembers_perm members).mem_iff.mpr (List.mem_map_of_mem hmember)

/-- Members whose names increase are determined up to their order. -/
theorem eq_of_perm_of_increasing {xs ys : List (String × Json)} (h : xs.Perm ys)
    (hxs : (xs.map Prod.fst).Pairwise (· < ·)) (hys : (ys.map Prod.fst).Pairwise (· < ·)) :
    xs = ys := by
  refine h.eq_of_pairwise (fun a b _ _ hab hba => ?_) (List.pairwise_map.mp hxs)
    (List.pairwise_map.mp hys)
  exact absurd (hab.trans hba) (lt_irrefl _)

/-! ## Alike values -/

/-- Items that are alike just if their sorted values are the same make lists of that kind. -/
theorem alikeItems_iff_map_sorted {xs ys : List Json}
    (h : ∀ x ∈ xs, ∀ y ∈ ys, (x.Alike y ↔ x.sorted = y.sorted)) :
    AlikeItems xs ys ↔ xs.map sorted = ys.map sorted := by
  rw [alikeItems_iff, ← List.forall₂_eq_eq_eq, List.forall₂_map_left_iff,
    List.forall₂_map_right_iff, List.forall₂_iff_zip, List.forall₂_iff_zip]
  refine and_congr_right fun _ => forall_congr' fun x => forall_congr' fun y => ?_
  refine imp_congr_right fun hmem => ?_
  obtain ⟨hx, hy⟩ := List.of_mem_zip hmem
  exact h x hx y hy

theorem alikeMembers_iff_subset {xs ys : List (String × Json)}
    (h : ∀ x ∈ xs, ∀ y ∈ ys, (x.2.Alike y.2 ↔ x.2.sorted = y.2.sorted)) :
    AlikeMembers xs ys ↔ xs.map sortedMember ⊆ ys.map sortedMember := by
  rw [alikeMembers_iff]
  constructor
  · intro halike member hmem
    obtain ⟨x, hx, rfl⟩ := List.mem_map.mp hmem
    obtain ⟨y, hy, hxy⟩ := halike x hx
    exact List.mem_map.mpr ⟨(x.1, y), hy, Prod.ext rfl ((h x hx _ hy).mp hxy).symm⟩
  · intro hsubset x hx
    obtain ⟨y, hy, hxy⟩ := List.mem_map.mp (hsubset (List.mem_map_of_mem hx))
    obtain ⟨hname, hvalue⟩ := Prod.ext_iff.mp hxy
    exact ⟨y.2, hname ▸ hy, (h x hx y hy).mpr hvalue.symm⟩

/-- The same for objects: their members are the same after sorting the values, so they are the same
list after sorting the members. -/
theorem alikeMembers_iff_sortedMembers {xs ys : List (String × Json)}
    (h : ∀ x ∈ xs, ∀ y ∈ ys, (x.2.Alike y.2 ↔ x.2.sorted = y.2.sorted))
    (hxs : (xs.map Prod.fst).Nodup) (hys : (ys.map Prod.fst).Nodup) :
    xs.length = ys.length ∧ AlikeMembers xs ys ↔ sortedMembers xs = sortedMembers ys := by
  rw [alikeMembers_iff_subset h]
  constructor
  · rintro ⟨hlength, hsubset⟩
    -- The members of the first object are as many, and each is in the second one.
    have hnodup : (xs.map sortedMember).Nodup := .of_map Prod.fst (by rwa [List.map_map])
    have hperm : (xs.map sortedMember).Perm (ys.map sortedMember) :=
      (List.subperm_of_subset hnodup hsubset).perm_of_length_le (by simp [hlength])
    refine eq_of_perm_of_increasing ?_ (sortedMembers_pairwise hxs) (sortedMembers_pairwise hys)
    exact (sortedMembers_perm xs).trans (hperm.trans (sortedMembers_perm ys).symm)
  · intro heq
    have hperm : (xs.map sortedMember).Perm (ys.map sortedMember) :=
      (sortedMembers_perm xs).symm.trans (heq ▸ sortedMembers_perm ys)
    exact ⟨by simpa using hperm.length_eq, hperm.subset⟩

/-- **Exact values are alike just if their sorted values are the same.** -/
theorem alike_iff_sorted_eq {value other : Json} (hvalue : value.IsExact) (hother : other.IsExact) :
    value.Alike other ↔ value.sorted = other.sorted := by
  induction value using induction generalizing other with
  | null => cases other <;> simp [Alike, sorted]
  | bool => cases other <;> simp [Alike, sorted]
  | int => cases other <;> simp [Alike, sorted]
  | number => cases other <;> simp [Alike, sorted]
  | text => cases other <;> simp [Alike, sorted]
  | list xs ih =>
    cases other with
    | list ys =>
      rw [Alike, sorted, sorted, sortedItems_eq_map, sortedItems_eq_map, list.injEq]
      exact alikeItems_iff_map_sorted fun x hx y hy =>
        ih x hx (allExact_iff.mp hvalue x hx) (allExact_iff.mp hother y hy)
    | _ => simp [Alike, sorted]
  | object xs ih =>
    cases other with
    | object ys =>
      obtain ⟨hxs, hxvalues⟩ := hvalue
      obtain ⟨hys, hyvalues⟩ := hother
      rw [Alike, sorted, sorted, object.injEq]
      refine alikeMembers_iff_sortedMembers (fun x hx y hy => ?_) hxs hys
      exact ih x hx (membersExact_iff.mp hxvalues x hx) (membersExact_iff.mp hyvalues y hy)
    | _ => simp [Alike, sorted]

end PageRoutes.Json
