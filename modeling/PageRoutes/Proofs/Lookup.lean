import Mathlib.Data.List.Nodup
import PageRoutes.FileSystem
import PageRoutes.Proofs.FilePaths

/-!
# What is in a file system

A file system is a table of items, and its paths are followed name by name. Here both are told by
what is at an address.

* `get?_eq_some_iff` — what is at an address is what the table says.
* `mem_filesBelow_iff`, `nodup_filesBelow` — the files below an address are those that are there.
* `lookup_eq_some_iff` — what a path leads to is at the address it resolves to.

The names in a file system are names of files (`FileSystem.IsProper`), so that the text of a path
tells which file is meant.
-/

namespace PageRoutes

/-! ## The table of items -/

namespace FileSystem

/-- The names in a file system are names of files. -/
structure IsProper (fs : FileSystem) : Prop where
  /-- This holds for the current directory. -/
  cwd : ∀ name ∈ fs.cwd, IsFileName name
  /-- This holds for all that is there. -/
  items : ∀ entry ∈ fs.items, ∀ name ∈ entry.1, IsFileName name

instance (fs : FileSystem) : Decidable fs.IsProper :=
  decidable_of_iff ((∀ name ∈ fs.cwd, IsFileName name) ∧
      ∀ entry ∈ fs.items, ∀ name ∈ entry.1, IsFileName name)
    ⟨fun h => ⟨h.1, h.2⟩, fun h => ⟨h.cwd, h.items⟩⟩

variable {fs : FileSystem} {a b : Address} {item : Item}

theorem get?_eq_some_iff (ha : a ≠ []) : fs.get? a = some item ↔ (a, item) ∈ fs.items := by
  rw [get?, if_neg ha, Option.map_eq_some_iff]
  constructor
  · rintro ⟨⟨b, found⟩, hfind, rfl⟩
    have hb : b = a := by simpa using List.find?_some hfind
    exact hb ▸ List.mem_of_find?_eq_some hfind
  · intro hmem
    cases hfind : fs.items.find? (fun entry => entry.1 == a) with
    | none => exact absurd (List.find?_eq_none.mp hfind _ hmem) (by simp)
    | some entry =>
      have hentry : entry.1 = a := by simpa using List.find?_some hfind
      -- The addresses of a table are distinct, so no other entry has this one.
      have hsame := List.inj_on_of_nodup_map fs.distinct (List.mem_of_find?_eq_some hfind) hmem
        hentry
      exact ⟨entry, rfl, congrArg Prod.snd hsame⟩

/-- The names that lead from an address to a file, as `filesBelow` finds them. -/
theorem below_eq_some_iff {entry : Address × Item} {names : List String} :
    (match entry.2, a.isPrefixOf? entry.1 with
      | .file _, some (name :: names) => some (name :: names)
      | _, _ => none) = some names
      ↔ names ≠ [] ∧ ∃ bytes, entry = (a ++ names, .file bytes) := by
  obtain ⟨b, item⟩ := entry
  dsimp only
  constructor
  · intro h
    split at h
    · next bytes name rest hbelow =>
      obtain rfl := Option.some.inj h
      rw [← List.isPrefixOf?_eq_some_iff_append_eq.mp hbelow]
      exact ⟨List.cons_ne_nil _ _, bytes, rfl⟩
    · exact absurd h (by simp)
  · rintro ⟨hne, bytes, heq⟩
    obtain ⟨rfl, rfl⟩ := Prod.mk.inj heq
    have hbelow : a.isPrefixOf? (a ++ names) = some names :=
      List.isPrefixOf?_eq_some_iff_append_eq.mpr rfl
    cases names with
    | nil => exact absurd rfl hne
    | cons name rest => simp only [hbelow]

/-- **The files below an address are those that are there.** -/
theorem mem_filesBelow_iff {names : List String} :
    names ∈ fs.filesBelow a ↔ names ≠ [] ∧ ∃ bytes, fs.get? (a ++ names) = some (.file bytes) := by
  rw [filesBelow, List.mem_filterMap]
  constructor
  · rintro ⟨entry, hmem, hbelow⟩
    obtain ⟨hne, bytes, rfl⟩ := below_eq_some_iff.mp hbelow
    exact ⟨hne, bytes, (get?_eq_some_iff (List.append_ne_nil_of_right_ne_nil _ hne)).mpr hmem⟩
  · rintro ⟨hne, bytes, hget⟩
    exact ⟨_, (get?_eq_some_iff (List.append_ne_nil_of_right_ne_nil _ hne)).mp hget,
      below_eq_some_iff.mpr ⟨hne, bytes, rfl⟩⟩

theorem nodup_filesBelow (fs : FileSystem) (a : Address) : (fs.filesBelow a).Nodup := by
  refine List.pairwise_filterMap.mpr ((List.pairwise_map.mp fs.distinct).imp ?_)
  intro entry other hne names hnames names' hnames' heq
  obtain ⟨-, bytes, rfl⟩ := below_eq_some_iff.mp hnames
  obtain ⟨-, bytes', rfl⟩ := below_eq_some_iff.mp hnames'
  exact hne (congrArg (a ++ ·) heq)

/-- Whatever is in a file system has names of files. -/
theorem IsProper.of_get? (h : fs.IsProper) (hget : fs.get? a = some item) :
    ∀ name ∈ a, IsFileName name := by
  by_cases ha : a = []
  · rw [ha]
    exact fun _ hname => absurd hname List.not_mem_nil
  · exact h.items _ ((get?_eq_some_iff ha).mp hget)

/-! ## Following paths -/

/-- Following names ends where they lead. -/
theorem follow_eq_ok {names : List String} (h : fs.follow a names = .ok b) :
    b = Address.walk a names := by
  induction names generalizing a with
  | nil => exact (Except.ok.inj h).symm
  | cons name names ih =>
    rw [follow] at h
    split at h
    · split at h
      · exact absurd h (by simp)
      · exact ih h
    · exact absurd h (by simp)
    · exact absurd h (by simp)

/-- Names are followed one part after the other. -/
theorem follow_append (names more : List String) :
    fs.follow a (names ++ more) = (fs.follow a names >>= fun b => fs.follow b more) := by
  induction names generalizing a with
  | nil => rfl
  | cons name names ih =>
    rw [List.cons_append, follow, follow]
    split
    · split
      · rfl
      · exact ih
    · rfl
    · rfl

theorem locate_eq_ok {p : Path} (h : fs.locate p = .ok a) : a = p.resolve fs.cwd := by
  rw [locate] at h
  split at h
  · exact absurd h (by simp)
  · exact follow_eq_ok h

/-- **What a path leads to is at the address it resolves to**, if the path can be followed. -/
theorem lookup_eq_some_iff {p : Path} :
    fs.lookup p = .ok (some item)
      ↔ fs.locate p = .ok (p.resolve fs.cwd) ∧ fs.get? (p.resolve fs.cwd) = some item := by
  rw [lookup]
  constructor
  · intro h
    split at h
    · next a hlocate =>
      obtain rfl := locate_eq_ok hlocate
      exact ⟨hlocate, Except.ok.inj h⟩
    · exact absurd h (by simp)
    · exact absurd h (by simp)
  · rintro ⟨hlocate, hget⟩
    rw [hlocate]
    exact congrArg Except.ok hget

end FileSystem

/-! ## Addresses -/

/-- A path has no other address than the one that it resolves to. -/
theorem address?_eq_some {p : Path} {cwd a : Address} (h : p.address? cwd = some a) :
    a = p.resolve cwd := by
  unfold Path.address? at h
  split at h
  · exact absurd h (by simp)
  · exact (Option.some.inj h).symm

theorem addressOf_of_ne_none {p : Path} {cwd : Address} (h : p.address? cwd ≠ none) :
    addressOf cwd p = .ok (p.resolve cwd) := by
  obtain ⟨a, haddress⟩ := Option.ne_none_iff_exists'.mp h
  rw [addressOf, haddress, address?_eq_some haddress]

theorem addressOf_of_none {p : Path} {cwd : Address} (h : p.address? cwd = none) :
    addressOf cwd p = .error .nulInText := by
  rw [addressOf, h]

/-- A walk adds only plain names that are on the way. -/
theorem Address.mem_walk {a : Address} {names : List String} {n : String} (h : n ∈ walk a names) :
    n ∈ a ∨ n ∈ names ∧ IsPlain n := by
  induction names generalizing a with
  | nil => exact .inl h
  | cons name names ih =>
    rcases ih h with hn | ⟨hmem, hplain⟩
    · unfold step at hn
      split at hn
      · exact .inl hn
      · next hstay =>
        split at hn
        · exact .inl ((List.dropLast_sublist a).subset hn)
        · next hup =>
          rcases List.mem_append.mp hn with hn | hn
          · exact .inl hn
          · rw [not_or] at hstay
            obtain rfl := List.mem_singleton.mp hn
            exact .inr ⟨List.mem_cons_self, hstay.1, hstay.2, hup⟩
    · exact .inr ⟨List.mem_cons_of_mem _ hmem, hplain⟩

/-- A walk adds plain names only. -/
theorem Address.forall_isPlain_walk {a : Address} (ha : ∀ name ∈ a, IsPlain name)
    (names : List String) : ∀ name ∈ walk a names, IsPlain name := by
  intro name hname
  rcases mem_walk hname with hmem | ⟨-, hplain⟩
  · exact ha name hmem
  · exact hplain

end PageRoutes
