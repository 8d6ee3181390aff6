import PageRoutes.Project
import PageRoutes.Proofs.Listing

/-!
# The view files of a project

`Settings.IsSelected` says which files below the pages root are view files, by what is in the file
system and by the names that lead to a file. `viewFiles` finds them.

* `mem_views_iff` — exactly the selected files are views.
* `viewFiles_eq`, `rootIsDirectory_of_viewFiles` — just if the root is a directory, view files are
  listed, as the texts of the selected ones.
* `mem_viewTexts_iff`, `nodup_viewTexts`, `pairwise_viewTexts` — each of them once, in order.
-/

namespace PageRoutes

open Text Route

/-! ## Selected files -/

namespace Settings

/-- The pages root is a directory, and its path leads there. -/
def RootIsDirectory (s : Settings) (fs : FileSystem) : Prop :=
  s.root.address? fs.cwd = some (s.rootAddress fs.cwd) ∧
    fs.lookup (.ofAddress (s.rootAddress fs.cwd)) = .ok (some .directory)

/-- The names lead from the pages root to a view file. -/
structure IsSelected (s : Settings) (fs : FileSystem) (names : List String) : Prop where
  /-- The file lies below the root. -/
  below : names ≠ []
  /-- It is there, and it is a file. -/
  isFile : ∃ bytes, fs.get? (s.rootAddress fs.cwd ++ names) = some (.file bytes)
  /-- Its name ends in a dot and one of the extensions. -/
  extension : ∃ extension ∈ normalizeExtensions s.extensions,
    '.' :: extension.toList <:+ (names.getLastD "").toList
  /-- No name on the way starts with a dot. -/
  visible : ∀ name ∈ names, name.toList.head? ≠ some '.'
  /-- No pattern excludes it. -/
  kept : ∀ pattern ∈ s.exclude, Glob.accepts pattern (join '/' names) = false

/-- The names that lead from the pages root to the view files. -/
def views (s : Settings) (fs : FileSystem) : List (List String) :=
  (fs.filesBelow (s.rootAddress fs.cwd)).filter
    (isView (normalizeExtensions s.extensions) (isExcluded s.exclude))

/-- The absolute path of a view file. -/
def viewText (s : Settings) (fs : FileSystem) (names : List String) : String :=
  Address.text (s.rootAddress fs.cwd ++ names)

/-- The view files as absolute paths in order. -/
def viewTexts (s : Settings) (fs : FileSystem) : List String :=
  ((s.views fs).map (s.viewText fs)).mergeSort fun a b => a ≤ b

variable {s : Settings} {fs : FileSystem} {names : List String}

/-- **Exactly the selected files are views.** -/
theorem mem_views_iff : names ∈ s.views fs ↔ s.IsSelected fs names := by
  have hlisted : names ∈ s.views fs ↔
      fs.IsListed (s.rootAddress fs.cwd) s.extensions s.exclude Glob.accepts names :=
    mem_filter_isView_iff
  rw [hlisted]
  exact ⟨fun h => ⟨h.below, h.isFile, h.extension, h.visible, h.kept⟩,
    fun h => ⟨h.below, h.isFile, h.extension, h.visible, h.kept⟩⟩

/-- **If the root is a directory, the view files are listed.** -/
theorem viewFiles_eq (hroot : s.RootIsDirectory fs) :
    viewFiles fs s.root s.extensions s.exclude = .ok (s.viewTexts fs) :=
  viewFilesWhere_of_isDirectory hroot

/-- View files are listed only if the root is a directory. -/
theorem rootIsDirectory_of_viewFiles {files : List String}
    (h : viewFiles fs s.root s.extensions s.exclude = .ok files) : s.RootIsDirectory fs :=
  isDirectory_of_viewFilesWhere h

/-! ## The list of view files -/

theorem mem_viewTexts_iff {file : String} :
    file ∈ s.viewTexts fs ↔ ∃ names, s.IsSelected fs names ∧ s.viewText fs names = file := by
  rw [viewTexts, List.mem_mergeSort, List.mem_map]
  simp only [mem_views_iff]

theorem pairwise_viewTexts : (s.viewTexts fs).Pairwise (· ≤ ·) :=
  pairwise_sortedTexts _

section Proper

variable (hproper : fs.IsProper) (hroot : s.RootIsDirectory fs)
include hproper hroot

/-- The names on the way to the root are names of files. -/
theorem isFileName_rootAddress : ∀ name ∈ s.rootAddress fs.cwd, IsFileName name := by
  refine hproper.of_get? (?_ : fs.get? (s.rootAddress fs.cwd) = some .directory)
  -- The root is reached from the current directory, whose names are plain.
  have hplain : ∀ name ∈ s.rootAddress fs.cwd, Address.IsPlain name := by
    refine Address.forall_isPlain_walk ?_ _
    split
    · exact fun _ hname => absurd hname List.not_mem_nil
    · exact fun name hname => (hproper.cwd name hname).plain
  have hresolve : (Path.ofAddress (s.rootAddress fs.cwd)).resolve fs.cwd = s.rootAddress fs.cwd :=
    Address.walk_eq_of_plain hplain []
  have hget := (FileSystem.lookup_eq_some_iff.mp hroot.2).2
  rwa [hresolve] at hget

omit hroot in
theorem isFileName_of_isSelected (h : s.IsSelected fs names) :
    ∀ name ∈ s.rootAddress fs.cwd ++ names, IsFileName name := by
  obtain ⟨bytes, hget⟩ := h.isFile
  exact hproper.of_get? hget

omit hroot in
theorem viewText_injOn {other : List String} (h : s.IsSelected fs names)
    (hother : s.IsSelected fs other) (heq : s.viewText fs names = s.viewText fs other) :
    names = other :=
  List.append_cancel_left (text_injective (isFileName_of_isSelected hproper h)
    (isFileName_of_isSelected hproper hother) heq)

omit hroot in
/-- **Each view file is listed once.** -/
theorem nodup_viewTexts : (s.viewTexts fs).Nodup := by
  rw [viewTexts, (List.mergeSort_perm _ _).nodup_iff]
  exact nodup_textsBelow hproper _

end Proper

end Settings

end PageRoutes
