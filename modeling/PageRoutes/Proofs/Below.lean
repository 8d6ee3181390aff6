import PageRoutes.Route.Build

/-!
# View files below the pages root

`LiesBelow` says without any computation of paths between the two when a view file lies strictly
below the pages root: the way to the file goes on where the way to the root ends.

Main statements:

* `location_isOk_iff` — exactly the files below the root have a location.
* `fileKey_eq_ok_iff` — exactly they have a key, which is never empty.
-/

namespace PageRoutes

namespace Address

/-- A way between two places that does not begin upwards leads from a directory to something in
it. -/
theorem relativeTo_eq_cons_iff {base target : Address} {name : String} {names : List String}
    (h : name ≠ "..") :
    relativeTo base target = name :: names ↔ target = base ++ name :: names := by
  induction base generalizing target with
  | nil => cases target <;> simp [relativeTo]
  | cons b bs ih =>
    cases target with
    | nil =>
      -- Above the base the way begins upwards.
      simp [relativeTo, List.replicate_succ, h.symm]
    | cons t ts =>
      by_cases hbt : b = t
      · subst hbt
        simp [relativeTo, ih]
      · simp [relativeTo, hbt, List.replicate_succ, h.symm, Ne.symm hbt]

end Address

namespace Route

/-- A path of the options or of a view file, which may be written with backslashes. -/
def readPath (path : String) : Path :=
  .ofString (forwardSlashes path)

/--
A view file lies strictly below the pages root: both paths are absolute or both are relative, and
the names on the way to the root and at least one more lead to the file.
-/
def LiesBelow (cwd : Address) (root file : String) : Prop :=
  (readPath file).isAbsolute = (readPath root).isAbsolute ∧
    ∃ name names, name ≠ ".." ∧
      (readPath file).resolve cwd = (readPath root).resolve cwd ++ name :: names

section

variable {cwd : Address} {root file : String}

/-- The location of a file below the root is the rest of the way. -/
theorem location_eq_ok {name : String} {names : List String}
    (habs : (readPath file).isAbsolute = (readPath root).isAbsolute) (hname : name ≠ "..")
    (hway : (readPath file).resolve cwd = (readPath root).resolve cwd ++ name :: names) :
    location cwd file root = .ok (normalizePath (Text.join '/' (name :: names))) := by
  have hrel := (Address.relativeTo_eq_cons_iff hname).mpr hway
  unfold readPath at habs hrel
  unfold location
  simp [habs, hrel, hname]

/-- **Exactly the files below the root have a location.** -/
theorem location_isOk_iff :
    (∃ path, location cwd file root = .ok path) ↔ LiesBelow cwd root file := by
  constructor
  · rintro ⟨path, h⟩
    unfold location at h
    dsimp only at h
    split at h
    · simp at h
    · next habs =>
      split at h
      · simp at h
      · next name names hrel =>
        split at h
        · simp at h
        · next hname =>
          refine ⟨by simpa [readPath] using habs, name, names, hname, ?_⟩
          exact (Address.relativeTo_eq_cons_iff hname).mp hrel
  · rintro ⟨habs, name, names, hname, hway⟩
    exact ⟨_, location_eq_ok habs hname hway⟩

/-- Whether a file lies below the root is found out by looking for its location. -/
instance (cwd : Address) (root file : String) : Decidable (LiesBelow cwd root file) :=
  decidable_of_iff ((location cwd file root).isOk = true) <| by
    rw [← location_isOk_iff]
    cases location cwd file root with
    | error e => exact ⟨nofun, nofun⟩
    | ok path => exact ⟨fun _ => ⟨path, rfl⟩, fun _ => rfl⟩

/-- Every other file is refused for lying elsewhere. -/
theorem location_eq_error (h : ¬LiesBelow cwd root file) :
    location cwd file root = .error (.outsideRoot file root) := by
  rw [← location_isOk_iff] at h
  unfold location at h ⊢
  dsimp only at h ⊢
  split
  · rfl
  · next habs =>
    rw [if_neg habs] at h
    split
    · rfl
    · next name names hrel =>
      rw [hrel] at h
      split
      · rfl
      · next hname => exact absurd ⟨_, if_neg hname⟩ h

end

/-! ## Keys -/

theorem segments_ne_nil (path : String) : segments path ≠ [] := by
  simp [segments, Text.split, Text.splitChars_ne_nil]

/-- The key of a view file below the root; a file elsewhere has none. -/
def keyOf (cwd : Address) (root : String) (extensions : List String) (file : String) :
    List String :=
  (fileKey cwd root extensions file).toOption.getD []

section

variable {cwd : Address} {root file : String} {extensions : List String}

/-- **Exactly the files below the root have a key.** -/
theorem fileKey_eq_ok_iff {key : List String} :
    fileKey cwd root extensions file = .ok key
      ↔ LiesBelow cwd root file ∧ key = keyOf cwd root extensions file := by
  rw [← location_isOk_iff, keyOf, fileKey]
  cases hl : location cwd file root with
  | error e => simp [Except.map]
  | ok path => simp [Except.map, Except.toOption, eq_comm]

theorem fileKey_of_liesBelow (h : LiesBelow cwd root file) :
    fileKey cwd root extensions file = .ok (keyOf cwd root extensions file) :=
  fileKey_eq_ok_iff.mpr ⟨h, rfl⟩

/-- The key of a file comes from the segments of its location. -/
theorem keyOf_eq_key {path : String} (h : location cwd file root = .ok path) :
    keyOf cwd root extensions file = key (segments (stripExtension path extensions)) := by
  simp [keyOf, fileKey, h, Except.map, Except.toOption]

theorem keyOf_ne_nil (h : LiesBelow cwd root file) : keyOf cwd root extensions file ≠ [] := by
  obtain ⟨path, hl⟩ := location_isOk_iff.mpr h
  rw [keyOf_eq_key hl]
  exact key_ne_nil (segments_ne_nil _)

end

-- From here on a key is known by the lemmas above only; no proof computes one.
attribute [irreducible] keyOf

end Route

end PageRoutes
