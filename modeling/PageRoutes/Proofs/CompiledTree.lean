import PageRoutes.Proofs.Duplicates
import PageRoutes.Proofs.ViewFiles

/-!
# The compiled tree

`compileTree` goes from the file system to the route tree. Every selected file has its place in it.

* `keyOfFile_viewText` — the key of a view file depends on the names below the root only.
* `path_mem_walk_group` — every path of a grouping comes from a key, so none is the catch-all one.
* `compileTree_complete` — the compiled tree shows the selected files, each at its key, and nothing
  else but the view for unmatched addresses.

Paths are read with backslashes as slashes, so the path of a view file may hold none
(`Settings.NoBackslash`).
-/

namespace PageRoutes

open Text Route Occurrence

/-! ## Paths of a grouping -/

theorem Route.mem_key {path : String} {segments : List String} (h : path ∈ key segments) :
    ∃ segment ∈ segments, path = pathOfSegment segment := by
  induction segments with
  | nil => exact absurd h List.not_mem_nil
  | cons segment rest ih =>
    rw [key, List.mem_cons] at h
    rcases h with rfl | h
    · exact ⟨segment, List.mem_cons_self, rfl⟩
    · split at h
      · exact absurd h List.not_mem_nil
      · obtain ⟨other, hother, hpath⟩ := ih h
        exact ⟨other, List.mem_cons_of_mem _ hother, hpath⟩

/-- The path of a segment begins with a slash. -/
theorem Route.pathOfSegment_ne_catchAllPath (segment : String) :
    pathOfSegment segment ≠ catchAllPath := by
  -- One begins with a slash, the other with a star.
  intro h
  have hhead : (pathOfSegment segment).toList.head? = some '/' := by
    unfold pathOfSegment
    split
    · rfl
    · rw [String.toList_append]
      rfl
  rw [h] at hhead
  exact absurd hhead (by decide)

theorem RouteTree.children_mk_ofList? (path : String) (view : Option String)
    (routes : RouteTree) : (Route.mk path view (ofList? routes)).children = routes := by
  cases routes <;> rfl

/-- An entry under a path is an entry whose key starts with the path. -/
theorem Keyed.exists_of_mem_under {α : Type} {path : String} {entries : List (Keyed α)}
    {entry : Keyed α} (h : entry ∈ under path entries) :
    ∃ whole ∈ entries, whole.key = path :: entry.key ∧ whole.value = entry.value := by
  obtain ⟨whole, hwhole, hbelow⟩ := List.mem_filterMap.mp h
  refine ⟨whole, hwhole, ?_⟩
  unfold below? at hbelow
  split at hbelow
  · next head rest hkey =>
    split at hbelow
    · next hhead =>
      obtain rfl := Option.some.inj hbelow
      exact ⟨by rw [hkey, hhead], rfl⟩
    · exact absurd hbelow (by simp)
  · exact absurd hbelow (by simp)

/-- A first path is in the key of an entry. -/
theorem Keyed.exists_of_mem_heads {α : Type} {path : String} {entries : List (Keyed α)}
    (h : path ∈ heads entries) : ∃ entry ∈ entries, path ∈ entry.key := by
  obtain ⟨entry, hentry, hhead⟩ := List.mem_filterMap.mp (List.mem_eraseDups.mp h)
  exact ⟨entry, hentry, List.mem_of_mem_head? hhead⟩

/-- **Every path of a grouping comes from a key.** -/
theorem RouteTree.path_mem_walk_group {entries : List (Keyed String)} {depth : Int} {visit : Visit}
    (h : visit ∈ walk depth (group entries)) : ∃ entry ∈ entries, visit.path ∈ entry.key := by
  suffices haux : ∀ bound entries depth, visit ∈ walk depth (groupAux bound entries) →
      ∃ entry ∈ entries, visit.path ∈ entry.key from haux _ entries depth h
  intro bound
  induction bound with
  | zero => exact fun _ _ hmem => absurd hmem List.not_mem_nil
  | succ bound ih =>
    intro entries depth hmem
    obtain ⟨route, hroute, hvisit⟩ := mem_walk_iff.mp hmem
    obtain ⟨path, hpath, rfl⟩ := List.mem_map.mp hroute
    rw [walk_eq, children_mk_ofList?] at hvisit
    rcases List.mem_cons.mp hvisit with rfl | hvisit
    · exact Keyed.exists_of_mem_heads hpath
    · obtain ⟨entry, hentry, hkey⟩ := ih _ _ hvisit
      obtain ⟨whole, hwhole, heq, -⟩ := Keyed.exists_of_mem_under (List.mem_filter.mp hentry).1
      exact ⟨whole, hwhole, heq ▸ List.mem_cons_of_mem _ hkey⟩

namespace Settings

variable {s : Settings} {fs : FileSystem} {names : List String}

/-! ## Keys of view files -/

/-- The key of a file that is given by its path. -/
def keyOfFile (s : Settings) (fs : FileSystem) (file : String) : List String :=
  keyOf fs.cwd (s.rootAddress fs.cwd).text (normalizeExtensions s.extensions) file

/-- The key of the file that names lead to below the pages root. -/
def viewKey (s : Settings) (names : List String) : List String :=
  key (segments (stripExtension (join '/' names) (normalizeExtensions s.extensions)))

/-- The view of that file: its absolute path without the first slash. -/
def viewPath (s : Settings) (fs : FileSystem) (names : List String) : String :=
  join '/' (s.rootAddress fs.cwd ++ names)

/-- The view of that file under its key. -/
def viewEntry (s : Settings) (fs : FileSystem) (names : List String) : Keyed String :=
  ⟨s.viewKey names, s.viewPath fs names⟩

@[simp] theorem key_viewEntry : (s.viewEntry fs names).key = s.viewKey names := by
  rw [viewEntry]

/-- No backslash is in the absolute path of a view file. -/
def NoBackslash (s : Settings) (fs : FileSystem) : Prop :=
  ∀ names, s.IsSelected fs names → ∀ name ∈ s.rootAddress fs.cwd ++ names, '\\' ∉ name.toList

section Keys

variable (hproper : fs.IsProper) (hback : s.NoBackslash fs)
include hproper hback

theorem readPath_viewText (h : s.IsSelected fs names) :
    readPath (s.viewText fs names) = .ofAddress (s.rootAddress fs.cwd ++ names) := by
  rw [readPath, viewText, forwardSlashes_eq_self (backslash_not_mem_text (hback names h)),
    ofString_text (isFileName_of_isSelected hproper h)]

theorem normalizePath_viewText (h : s.IsSelected fs names) :
    normalizePath (s.viewText fs names) = s.viewPath fs names :=
  normalizePath_text (isFileName_of_isSelected hproper h) (hback names h)

variable (hroot : s.RootIsDirectory fs)
include hroot

theorem readPath_root (h : s.IsSelected fs names) :
    readPath (s.rootAddress fs.cwd).text = .ofAddress (s.rootAddress fs.cwd) := by
  have hnone := backslash_not_mem_text fun name hname =>
    hback names h name (List.mem_append_left _ hname)
  rw [readPath, forwardSlashes_eq_self hnone, ofString_text (isFileName_rootAddress hproper hroot)]

theorem location_viewText (h : s.IsSelected fs names) :
    location fs.cwd (s.viewText fs names) (s.rootAddress fs.cwd).text = .ok (join '/' names) := by
  have hnames : ∀ name ∈ names, IsFileName name :=
    fun name hname => isFileName_of_isSelected hproper h name (List.mem_append_right _ hname)
  obtain ⟨name, rest, rfl⟩ := List.exists_cons_of_ne_nil h.below
  rw [location_eq_ok ?_ (hnames name List.mem_cons_self).plain.2.2 ?_,
    normalizePath_join hnames fun name hname => hback _ h name (List.mem_append_right _ hname)]
  · rw [readPath_root hproper hback hroot h, readPath_viewText hproper hback h]
    rfl
  · rw [readPath_root hproper hback hroot h, readPath_viewText hproper hback h,
      resolve_ofAddress (isFileName_of_isSelected hproper h),
      resolve_ofAddress (isFileName_rootAddress hproper hroot)]

theorem liesBelow_viewText (h : s.IsSelected fs names) :
    LiesBelow fs.cwd (s.rootAddress fs.cwd).text (s.viewText fs names) :=
  location_isOk_iff.mp ⟨_, location_viewText hproper hback hroot h⟩

/-- **The key of a view file depends on the names below the root only.** -/
theorem keyOfFile_viewText (h : s.IsSelected fs names) :
    s.keyOfFile fs (s.viewText fs names) = s.viewKey names := by
  have hkey : fileKey fs.cwd (s.rootAddress fs.cwd).text (normalizeExtensions s.extensions)
      (s.viewText fs names) = .ok (s.viewKey names) := by
    rw [fileKey, location_viewText hproper hback hroot h]
    rfl
  exact (fileKey_eq_ok_iff.mp hkey).2.symm

end Keys

/-! ## From the file system to the tree -/

/-- The tree of files, with the view for unmatched addresses behind it, if there is one. -/
def treeOfFiles (s : Settings) (fs : FileSystem) (files : List String) : RouteTree :=
  RouteTree.group (RouteTree.fileViews fs.cwd (s.rootAddress fs.cwd).text
      (normalizeExtensions s.extensions) files)
    ++ s.notFound.toList.map fun view => .mk catchAllPath (some view) none

/-- The steps of a compilation once the root is known to be a directory. -/
theorem compileTree_eq (hroot : s.RootIsDirectory fs) :
    compileTree s fs
      = (Outcome.note (.discovered (s.viewTexts fs).length (s.rootAddress fs.cwd))).bind fun _ =>
          ((RouteTree.ofFiles fs.cwd (s.treeOptions fs.cwd) (s.viewTexts fs)).mapError .route).bind
            fun built => .pure (built ++ s.notFound.toList.map fun view =>
              .mk catchAllPath (some view) none) := by
  have haddress : addressOf fs.cwd s.root = .ok (s.rootAddress fs.cwd) := by
    rw [addressOf, hroot.1]
  rw [compileTree, haddress, viewFiles_eq hroot]
  cases s.notFound with
  | none =>
    simp only [Option.toList_none, List.map_nil, List.append_nil]
    rfl
  | some view => rfl

/-- A compiled tree is the built tree with the view for unmatched addresses behind it. -/
theorem compileTree_eq_ok_iff (hroot : s.RootIsDirectory fs) {tree : RouteTree} :
    (compileTree s fs).result = .ok tree
      ↔ ∃ built, (RouteTree.ofFiles fs.cwd (s.treeOptions fs.cwd) (s.viewTexts fs)).result
            = .ok built ∧
          tree = built ++ s.notFound.toList.map fun view => .mk catchAllPath (some view) none := by
  rw [compileTree_eq hroot, Outcome.result_bind_eq_ok_iff]
  simp only [Outcome.result_bind_eq_ok_iff, Outcome.result_mapError_eq_ok_iff]
  constructor
  · rintro ⟨-, -, built, hbuilt, htree⟩
    exact ⟨built, hbuilt, (Except.ok.inj htree).symm⟩
  · rintro ⟨built, hbuilt, rfl⟩
    exact ⟨(), rfl, built, hbuilt, rfl⟩

theorem usableExtensions_rootAddress (hextensions : normalizeExtensions s.extensions ≠ []) :
    usableExtensions (s.rootAddress fs.cwd).text s.extensions
      = .ok (normalizeExtensions s.extensions) := by
  have hblank : isAllBlank (s.rootAddress fs.cwd).text = false := by
    rw [isAllBlank, toList_text]
    rfl
  rw [usableExtensions, hblank, if_neg Bool.false_ne_true]
  split
  · next hnil => exact absurd hnil hextensions
  · rfl

section Trees

variable (hproper : fs.IsProper) (hback : s.NoBackslash fs) (hroot : s.RootIsDirectory fs)
include hproper hback hroot

theorem liesBelow_of_mem_viewTexts :
    ∀ file ∈ s.viewTexts fs, LiesBelow fs.cwd (s.rootAddress fs.cwd).text file := by
  intro file hfile
  obtain ⟨names, h, rfl⟩ := mem_viewTexts_iff.mp hfile
  exact liesBelow_viewText hproper hback hroot h

/-- Where second files are refused, the keys must be distinct. -/
theorem compileTree_refuse_eq_ok_iff (hextensions : normalizeExtensions s.extensions ≠ [])
    (hpolicy : s.onDuplicate = .refuse) (tree : RouteTree) :
    (compileTree s fs).result = .ok tree
      ↔ ((s.viewTexts fs).map (s.keyOfFile fs)).Nodup ∧
        tree = s.treeOfFiles fs (s.viewTexts fs) := by
  have hbelow := liesBelow_of_mem_viewTexts hproper hback hroot
  have hoptions : s.treeOptions fs.cwd =
      { root := (s.rootAddress fs.cwd).text, extensions := s.extensions,
        onDuplicate := DuplicatePolicy.refuse.name } := by
    rw [treeOptions, hpolicy]
  rw [compileTree_eq_ok_iff hroot, hoptions]
  simp only [RouteTree.result_ofFiles_refuse_eq_ok_iff (usableExtensions_rootAddress hextensions)]
  constructor
  · rintro ⟨built, ⟨-, hnodup, rfl⟩, htree⟩
    exact ⟨hnodup, htree⟩
  · rintro ⟨hnodup, htree⟩
    exact ⟨_, ⟨hbelow, hnodup, rfl⟩, htree⟩

/-- Where the last file wins, there is the tree of the last files. -/
theorem compileTree_lastWins (hextensions : normalizeExtensions s.extensions ≠ [])
    (hpolicy : s.onDuplicate = .lastWins) :
    (compileTree s fs).result
      = .ok (s.treeOfFiles fs (lastOfEach (s.keyOfFile fs) (s.viewTexts fs))) := by
  have hbelow := liesBelow_of_mem_viewTexts hproper hback hroot
  have hoptions : s.treeOptions fs.cwd =
      { root := (s.rootAddress fs.cwd).text, extensions := s.extensions,
        onDuplicate := DuplicatePolicy.lastWins.name } := by
    rw [treeOptions, hpolicy]
  refine (compileTree_eq_ok_iff hroot).mpr ⟨_, ?_, rfl⟩
  rw [hoptions, RouteTree.ofFiles_lastWins (usableExtensions_rootAddress hextensions) hbelow,
    ← RouteTree.group_fileViews_lastOfEach hbelow]
  rfl

/-! ## What a tree shows -/

omit hback hroot in
theorem viewEntry_injOn {other : List String} (h : s.IsSelected fs names)
    (hother : s.IsSelected fs other) (heq : s.viewEntry fs names = s.viewEntry fs other) :
    names = other :=
  viewText_injOn hproper h hother (congrArg (fun entry => "/" ++ entry.value) heq)

/-- The views of selected files under the keys that the tree gives them. -/
theorem mem_fileViews_iff {shown : List String → Prop}
    (hshown : ∀ names, shown names → s.IsSelected fs names) {files : List String}
    (hfiles : ∀ file, file ∈ files ↔ ∃ names, shown names ∧ s.viewText fs names = file)
    {entry : Keyed String} :
    entry ∈ RouteTree.fileViews fs.cwd (s.rootAddress fs.cwd).text
        (normalizeExtensions s.extensions) files
      ↔ ∃ names, shown names ∧ s.viewEntry fs names = entry := by
  have hentry : ∀ names, shown names →
      (⟨s.keyOfFile fs (s.viewText fs names), normalizePath (s.viewText fs names)⟩ : Keyed String)
        = s.viewEntry fs names := fun names h => by
    rw [keyOfFile_viewText hproper hback hroot (hshown names h),
      normalizePath_viewText hproper hback (hshown names h), viewEntry]
  rw [RouteTree.fileViews, List.mem_map]
  constructor
  · rintro ⟨file, hfile, rfl⟩
    obtain ⟨names, h, rfl⟩ := (hfiles file).mp hfile
    exact ⟨names, h, (hentry names h).symm⟩
  · rintro ⟨names, h, rfl⟩
    exact ⟨_, (hfiles _).mpr ⟨names, h, rfl⟩, hentry names h⟩

end Trees

/-- The tree shows the files that the names with a property lead to, each with its view at its key,
and no other views; behind them stands the view for unmatched addresses, if there is one, and no
other route has its path. -/
def Shows (s : Settings) (fs : FileSystem) (shown : List String → Prop) (tree : RouteTree) : Prop :=
  ∃ built : RouteTree,
    tree = built ++ s.notFound.toList.map (fun view => .mk catchAllPath (some view) none) ∧
    (∀ visit ∈ RouteTree.walk 0 built, visit.path ≠ catchAllPath) ∧
    ((RouteTree.views built).map Keyed.key).Nodup ∧
    (∀ names, shown names → s.viewEntry fs names ∈ RouteTree.views built) ∧
    ∀ entry ∈ RouteTree.views built, ∃! names, shown names ∧ s.viewEntry fs names = entry

section Shown

variable (hproper : fs.IsProper) (hback : s.NoBackslash fs) (hroot : s.RootIsDirectory fs)
include hproper hback hroot

/-- **The tree of selected files with distinct keys shows them.** -/
theorem shows_treeOfFiles {shown : List String → Prop}
    (hshown : ∀ names, shown names → s.IsSelected fs names) {files : List String}
    (hfiles : ∀ file, file ∈ files ↔ ∃ names, shown names ∧ s.viewText fs names = file)
    (hnodup : (files.map (s.keyOfFile fs)).Nodup) :
    s.Shows fs shown (s.treeOfFiles fs files) := by
  have hbelow : ∀ file ∈ files, LiesBelow fs.cwd (s.rootAddress fs.cwd).text file := by
    intro file hfile
    obtain ⟨names, h, rfl⟩ := (hfiles file).mp hfile
    exact liesBelow_viewText hproper hback hroot (hshown names h)
  have hperm := RouteTree.views_group_fileViews_perm hbelow hnodup
  have hmem : ∀ entry : Keyed String, entry ∈ RouteTree.fileViews fs.cwd
      (s.rootAddress fs.cwd).text (normalizeExtensions s.extensions) files
      ↔ ∃ names, shown names ∧ s.viewEntry fs names = entry :=
    fun _ => mem_fileViews_iff hproper hback hroot hshown hfiles
  refine ⟨_, rfl, ?_, ?_, ?_, ?_⟩
  · -- A path in the tree is one of a key, and the catch-all path is in no key.
    intro visit hvisit
    obtain ⟨entry, hentry, hpath⟩ := RouteTree.path_mem_walk_group hvisit
    obtain ⟨names, -, rfl⟩ := (hmem entry).mp hentry
    rw [key_viewEntry, viewKey] at hpath
    obtain ⟨segment, -, hsegment⟩ := mem_key hpath
    exact hsegment ▸ pathOfSegment_ne_catchAllPath segment
  · rw [(hperm.map Keyed.key).nodup_iff, RouteTree.map_key_fileViews]
    exact hnodup
  · exact fun names h => hperm.mem_iff.mpr ((hmem _).mpr ⟨names, h, rfl⟩)
  · intro entry hentry
    obtain ⟨names, h, heq⟩ := (hmem entry).mp (hperm.mem_iff.mp hentry)
    refine ⟨names, ⟨h, heq⟩, fun other ⟨hother, hotherEq⟩ => ?_⟩
    exact viewEntry_injOn hproper (hshown _ hother) (hshown _ h) (hotherEq.trans heq.symm)

/-- The files have distinct keys just if the names that lead to them have. -/
theorem nodup_map_keyOfFile_iff :
    ((s.viewTexts fs).map (s.keyOfFile fs)).Nodup
      ↔ ∀ a b, s.IsSelected fs a → s.IsSelected fs b → s.viewKey a = s.viewKey b → a = b := by
  rw [List.nodup_map_iff_inj_on (nodup_viewTexts hproper)]
  constructor
  · intro hinj a b ha hb hkey
    refine viewText_injOn hproper ha hb (hinj _ (mem_viewTexts_iff.mpr ⟨a, ha, rfl⟩) _
      (mem_viewTexts_iff.mpr ⟨b, hb, rfl⟩) ?_)
    rw [keyOfFile_viewText hproper hback hroot ha, keyOfFile_viewText hproper hback hroot hb, hkey]
  · intro hinj file hfile other hother hkey
    obtain ⟨a, ha, rfl⟩ := mem_viewTexts_iff.mp hfile
    obtain ⟨b, hb, rfl⟩ := mem_viewTexts_iff.mp hother
    rw [keyOfFile_viewText hproper hback hroot ha,
      keyOfFile_viewText hproper hback hroot hb] at hkey
    rw [hinj a b ha hb hkey]

/-- Of the files with one key the last one is the greatest. -/
theorem mem_lastOfEach_viewTexts_iff (file : String) :
    file ∈ lastOfEach (s.keyOfFile fs) (s.viewTexts fs)
      ↔ ∃ names, (s.IsSelected fs names ∧ ∀ other, s.IsSelected fs other →
          s.viewKey other = s.viewKey names → s.viewText fs other ≤ s.viewText fs names) ∧
        s.viewText fs names = file := by
  rw [mem_lastOfEach_iff_greatest pairwise_viewTexts, mem_viewTexts_iff]
  constructor
  · rintro ⟨⟨names, h, rfl⟩, hgreatest⟩
    refine ⟨names, ⟨h, fun other hother hkey => ?_⟩, rfl⟩
    refine hgreatest _ (mem_viewTexts_iff.mpr ⟨other, hother, rfl⟩) ?_
    rw [keyOfFile_viewText hproper hback hroot hother, keyOfFile_viewText hproper hback hroot h,
      hkey]
  · rintro ⟨names, ⟨h, hgreatest⟩, rfl⟩
    refine ⟨⟨names, h, rfl⟩, fun file hfile hkey => ?_⟩
    obtain ⟨other, hother, rfl⟩ := mem_viewTexts_iff.mp hfile
    rw [keyOfFile_viewText hproper hback hroot hother,
      keyOfFile_viewText hproper hback hroot h] at hkey
    exact hgreatest other hother hkey

end Shown

/-- Two files for one route, a file in a directory, an excluded one and a hidden one. -/
def aboutFiles : FileSystem where
  cwd := ["w"]
  items := [(["w"], .directory), (["w", "pages"], .directory),
    (["w", "pages", "about.tsx"], .file []), (["w", "pages", "about.jsx"], .file []),
    (["w", "pages", "_app.tsx"], .file []), (["w", "pages", ".tsx"], .file []),
    (["w", "pages", "blog"], .directory), (["w", "pages", "blog", "[slug].tsx"], .file [])]
  distinct := by decide

/-- Settings with two extensions, an exclusion and an empty view for unmatched addresses. -/
def aboutSettings (onDuplicate : DuplicatePolicy) : Settings where
  root := .ofString "pages"
  extensions := ["tsx", "jsx"]
  exclude := ["_*"]
  notFound := some ""
  fallback := none
  output := none
  declarations := none
  router := none
  moduleName := none
  stem := none
  onDuplicate
  generateOnStart := none

end Settings

end PageRoutes
