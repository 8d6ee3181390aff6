import PageRoutes.Proofs.Lookup

/-!
# What a change of files leaves alone

`FileSystem.Frame targets` relates a file system to a later one: what was a directory still is one,
and away from the targets the files are the same. Making directories and writing files stays in a
frame, and in a frame every path that could be followed can be followed again.

* `frame_makeDirectories` — making directories changes no file at all, whether it succeeds or not.
* `frame_writeFile`, `holds_writeFile` — writing a file changes this file, and leaves it written.
* `Holds.of_frame` — a file away from the targets stays as it is.
-/

namespace PageRoutes.FileSystem

/-- The later file system has the directories of the earlier one and, away from the targets, its
files. -/
structure Frame (targets : List Address) (before after : FileSystem) : Prop where
  cwd : after.cwd = before.cwd
  directory : ∀ a, before.get? a = some .directory → after.get? a = some .directory
  file : ∀ a ∉ targets, ∀ bytes,
    after.get? a = some (.file bytes) ↔ before.get? a = some (.file bytes)

variable {targets targets' : List Address} {fs fs' fs'' : FileSystem} {a b : Address} {p : Path}
  {bytes : Text.Bytes}

theorem Frame.refl (targets : List Address) (fs : FileSystem) : Frame targets fs fs :=
  ⟨rfl, fun _ h => h, fun _ _ _ => Iff.rfl⟩

theorem Frame.trans (h : Frame targets fs fs') (h' : Frame targets fs' fs'') :
    Frame targets fs fs'' :=
  ⟨h'.cwd.trans h.cwd, fun a ha => h'.directory a (h.directory a ha),
    fun a ha bytes => (h'.file a ha bytes).trans (h.file a ha bytes)⟩

/-- With more targets less is said. -/
theorem Frame.mono (h : Frame targets fs fs') (hsub : ∀ a ∈ targets, a ∈ targets') :
    Frame targets' fs fs' :=
  ⟨h.cwd, h.directory, fun a ha => h.file a fun hmem => ha (hsub a hmem)⟩

/-! ## Paths in a frame -/

theorem Frame.follow_eq_ok (h : Frame targets fs fs') {names : List String}
    (hfollow : fs.follow a names = .ok b) : fs'.follow a names = .ok b := by
  induction names generalizing a with
  | nil => exact hfollow
  | cons name names ih =>
    rw [follow] at hfollow ⊢
    split at hfollow
    · next hdirectory =>
      rw [h.directory a hdirectory]
      dsimp only
      split at hfollow
      · exact absurd hfollow (by simp)
      · next hshort =>
        rw [if_neg hshort]
        exact ih hfollow
    · exact absurd hfollow (by simp)
    · exact absurd hfollow (by simp)

theorem Frame.locate_eq_ok (h : Frame targets fs fs') (hlocate : fs.locate p = .ok a) :
    fs'.locate p = .ok a := by
  rw [locate] at hlocate ⊢
  split at hlocate
  · exact absurd hlocate (by simp)
  · next hshort =>
    rw [if_neg hshort, h.cwd]
    exact h.follow_eq_ok hlocate

theorem Frame.resolve_eq (h : Frame targets fs fs') (p : Path) :
    p.resolve fs'.cwd = p.resolve fs.cwd := by
  rw [h.cwd]

/-- A file is found by its path, with the given bytes in it. -/
def Holds (fs : FileSystem) (p : Path) (bytes : Text.Bytes) : Prop :=
  p.hasNul = false ∧ fs.lookup p = .ok (some (.file bytes))

/-- The directory that a path leads to is still there. -/
theorem Frame.lookup_directory (h : Frame targets fs fs')
    (hlookup : fs.lookup p = .ok (some .directory)) : fs'.lookup p = .ok (some .directory) := by
  obtain ⟨hlocate, hget⟩ := lookup_eq_some_iff.mp hlookup
  rw [lookup_eq_some_iff, h.resolve_eq]
  exact ⟨h.locate_eq_ok hlocate, h.directory _ hget⟩

/-- **A file away from the targets stays as it is.** -/
theorem Holds.of_frame (hholds : fs.Holds p bytes) (h : Frame targets fs fs')
    (hp : p.resolve fs.cwd ∉ targets) : fs'.Holds p bytes := by
  obtain ⟨hnul, hlookup⟩ := hholds
  obtain ⟨hlocate, hget⟩ := lookup_eq_some_iff.mp hlookup
  refine ⟨hnul, ?_⟩
  rw [lookup_eq_some_iff, h.resolve_eq]
  exact ⟨h.locate_eq_ok hlocate, (h.file _ hp bytes).mpr hget⟩

/-! ## Making directories -/

/-- A directory where nothing was. -/
theorem frame_put_directory (h : fs.get? a = none) : Frame targets fs (fs.put a .directory) := by
  have ha : a ≠ [] := by
    rintro rfl
    exact absurd h (by simp [get?])
  refine ⟨rfl, fun b hb => ?_, fun b _ bytes => ?_⟩
  · by_cases hba : b = a
    · rw [hba, get?_put_self fs ha]
    · rwa [get?_put_of_ne fs hba]
  · by_cases hba : b = a
    · rw [hba, get?_put_self fs ha, h]
      simp
    · rw [get?_put_of_ne fs hba]

theorem frame_makeDirectory (h : fs.makeDirectory p = .ok fs') : Frame targets fs fs' := by
  unfold makeDirectory at h
  cases hlocate : fs.locate p with
  | error e => rw [hlocate] at h; exact absurd h (by simp [bind, Except.bind])
  | ok a =>
    simp only [hlocate, bind, Except.bind] at h
    split at h
    · exact absurd h (by simp)
    · next hfree =>
      obtain rfl := Except.ok.inj h
      exact frame_put_directory hfree

theorem frame_ensureDirectory (h : fs.ensureDirectory p = .ok fs') : Frame targets fs fs' := by
  unfold ensureDirectory at h
  split at h
  · next hmake =>
    obtain rfl := Except.ok.inj h
    exact frame_makeDirectory hmake
  · exact absurd h (by simp)
  · split at h
    · obtain rfl := Except.ok.inj h
      exact .refl _ _
    · exact absurd h (by simp)

theorem frame_ensureDirectories (anchor : Anchor) (backward : List String) (fs : FileSystem) :
    Frame targets fs (ensureDirectories anchor backward fs).2 := by
  induction backward generalizing fs with
  | nil => exact .refl _ _
  | cons name above ih =>
    unfold ensureDirectories
    dsimp only
    split
    · next hensure => exact frame_ensureDirectory hensure
    · -- The parents are made first, and then the directory is tried again.
      have hparents := ih fs
      split
      · next habove => rwa [habove] at hparents
      · next habove =>
        rw [habove] at hparents
        split
        · next hensure => exact hparents.trans (frame_ensureDirectory hensure)
        · exact hparents
    · exact .refl _ _

/-- **Making directories changes no file.** -/
theorem frame_makeDirectories (fs : FileSystem) (p : Path) :
    Frame targets fs (fs.makeDirectories p).2 :=
  frame_ensureDirectories _ _ fs

/-! ## Writing files -/

theorem writeFile_eq_ok (h : fs.writeFile p bytes = .ok fs') :
    fs.locate p = .ok (p.resolve fs.cwd) ∧ fs.get? (p.resolve fs.cwd) ≠ some .directory ∧
      fs' = fs.put (p.resolve fs.cwd) (.file bytes) := by
  unfold writeFile at h
  cases hlocate : fs.locate p with
  | error e => rw [hlocate] at h; exact absurd h (by simp [bind, Except.bind])
  | ok a =>
    obtain rfl := locate_eq_ok hlocate
    simp only [hlocate, bind, Except.bind] at h
    split at h
    · exact absurd h (by simp)
    · next hfree => exact ⟨rfl, hfree, (Except.ok.inj h).symm⟩

/-- **Writing a file changes this file only.** -/
theorem frame_writeFile (h : fs.writeFile p bytes = .ok fs') :
    Frame [p.resolve fs.cwd] fs fs' := by
  obtain ⟨-, hfree, rfl⟩ := writeFile_eq_ok h
  refine ⟨rfl, fun b hb => ?_, fun b hb bytes => ?_⟩
  · rw [get?_put_of_ne]
    · exact hb
    · rintro rfl
      exact hfree hb
  · rw [get?_put_of_ne _ (mt List.mem_singleton.mpr hb)]

/-- **What was written is there.** -/
theorem lookup_writeFile (h : fs.writeFile p bytes = .ok fs') :
    fs'.lookup p = .ok (some (.file bytes)) := by
  have hframe := frame_writeFile h
  obtain ⟨hlocate, hfree, rfl⟩ := writeFile_eq_ok h
  have hne : p.resolve fs.cwd ≠ [] := by
    intro hnil
    rw [hnil] at hfree
    exact hfree (by simp [get?])
  rw [lookup_eq_some_iff, hframe.resolve_eq]
  exact ⟨hframe.locate_eq_ok hlocate, get?_put_self _ hne _⟩

end PageRoutes.FileSystem
