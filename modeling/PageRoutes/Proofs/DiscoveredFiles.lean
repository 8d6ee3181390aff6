import PageRoutes.Proofs.CompiledTree
import PageRoutes.Proofs.Components
import PageRoutes.Proofs.FirstOffence

/-!
# Where discovered files are found

Discovery follows the names in the file system, and hands on the texts of absolute paths. `location`
reads such a text again, with backslashes as slashes.

* `stripChars_begins`, `forall₂_segments` — each segment of a view file is made of the beginning of
  one name.
* `discovered_files_are_located` — exactly the files whose names below the root hold no backslash
  are found where discovery found them, and only another one can be refused for lying elsewhere.
-/

namespace PageRoutes

open Text Route

/-! ## Beginnings of texts -/

namespace Text

/-- The pieces of a beginning of a text are beginnings of its first pieces. -/
theorem exists_forall₂_splitChars (sep : Char) {kept cs : List Char} (h : kept <+: cs) :
    ∃ above, above <+: splitChars sep cs ∧
      List.Forall₂ (· <+: ·) (splitChars sep kept) above := by
  induction kept generalizing cs with
  | nil =>
    obtain ⟨piece, pieces, hpieces⟩ := List.exists_cons_of_ne_nil (splitChars_ne_nil sep cs)
    refine ⟨[piece], ?_, .cons List.nil_prefix .nil⟩
    rw [hpieces]
    exact ⟨pieces, rfl⟩
  | cons c kept ih =>
    obtain ⟨rest, rfl⟩ := h
    obtain ⟨above, habove, hpieces⟩ := ih (List.prefix_append kept rest)
    by_cases hc : c = sep
    · subst hc
      rw [List.cons_append, splitChars_cons_sep, splitChars_cons_sep]
      exact ⟨[] :: above, (List.prefix_cons_inj _).mpr habove, .cons List.nil_prefix hpieces⟩
    · obtain ⟨w, ws, hw⟩ := List.exists_cons_of_ne_nil (splitChars_ne_nil sep kept)
      rw [hw] at hpieces
      obtain ⟨v, vs, hv, hvs, rfl⟩ := List.forall₂_cons_left_iff.mp hpieces
      obtain ⟨more, hmore⟩ := habove
      refine ⟨(c :: v) :: vs, ⟨more, ?_⟩, ?_⟩
      · simp [splitChars, hc, ← hmore]
      · simp only [splitChars, if_neg hc, hw]
        exact .cons ((List.prefix_cons_inj c).mpr hv) hvs

end Text

namespace Route

/-- What is left of a text without an extension is a beginning of it, unless it ends in a line
feed. -/
theorem stripChars_begins {extensions : List String} {cs : List Char}
    (h : cs.getLast? ≠ some '\n') : stripChars extensions cs <+: cs := by
  induction cs with
  | nil => exact List.prefix_refl _
  | cons c cs ih =>
    rw [stripChars]
    split
    · next rest hrest =>
      split at hrest
      · obtain ⟨extension, -, hending⟩ := List.exists_of_findSome?_eq_some hrest
        obtain ⟨hbegin, hshort⟩ := Option.filter_eq_some_iff.mp hending
        obtain rfl := List.isPrefixOf?_eq_some_iff_append_eq.mp hbegin
        rw [Bool.or_eq_true, beq_iff_eq, beq_iff_eq] at hshort
        rcases hshort with rfl | rfl
        · exact List.nil_prefix
        · refine absurd ?_ h
          rw [← List.cons_append, List.getLast?_append]
          rfl
      · exact absurd hrest nofun
    · refine (List.prefix_cons_inj c).mpr (ih fun hlast => h ?_)
      rw [List.getLast?_cons, hlast]
      rfl

/-- No extension ends in a blank character. -/
theorem isBlank_of_getLast?_normalizeExtension {extension : String} {c : Char}
    (h : (normalizeExtension extension).toList.getLast? = some c) : isBlank c = false := by
  rw [normalizeExtension, String.toList_ofList] at h
  have htrim : (trim extension).toList.getLast? = some c := by
    obtain ⟨dots, hdots⟩ := List.dropWhile_suffix (· == '.') (l := (trim extension).toList)
    rw [← hdots, List.getLast?_append, h]
    rfl
  rw [trim, String.toList_ofList] at htrim
  exact not_of_getLast?_dropBothWhile htrim

/-- No listed extension ends in a line feed. -/
theorem getLast?_ne_lineFeed_of_mem {given : List String} {extension : String}
    (h : extension ∈ normalizeExtensions given) : extension.toList.getLast? ≠ some '\n' := by
  obtain ⟨origin, -, rfl⟩ := List.mem_map.mp (List.mem_filter.mp h).1
  exact fun hfeed => absurd (isBlank_of_getLast?_normalizeExtension hfeed) (by decide)

/-- A text that ends in a listed extension ends in no line feed. -/
theorem getLast?_ne_lineFeed_of_suffix {given : List String} {extension : String} {cs : List Char}
    (h : extension ∈ normalizeExtensions given) (hends : '.' :: extension.toList <:+ cs) :
    cs.getLast? ≠ some '\n' := by
  obtain ⟨stem, rfl⟩ := hends
  rw [List.getLast?_append, List.getLast?_cons]
  intro hfeed
  cases hend : extension.toList.getLast? with
  | none =>
    rw [hend] at hfeed
    exact absurd (Option.some.inj hfeed) (by decide)
  | some c =>
    rw [hend] at hfeed
    exact getLast?_ne_lineFeed_of_mem h (hend.trans hfeed)

/-- No normalised path holds a backslash. -/
theorem backslash_not_mem_normalizePath (path : String) : '\\' ∉ (normalizePath path).toList := by
  rw [normalizePath, String.toList_ofList]
  exact fun hmem =>
    backslash_not_mem_forwardSlashes path ((dropBothWhile_sublist _ _).mem hmem)

/-- No location holds a backslash. -/
theorem backslash_not_mem_location {cwd : Address} {file root path : String}
    (h : location cwd file root = .ok path) : '\\' ∉ path.toList := by
  obtain ⟨habs, name, names, hname, hway⟩ := location_isOk_iff.mp ⟨path, h⟩
  rw [location_eq_ok habs hname hway] at h
  exact Except.ok.inj h ▸ backslash_not_mem_normalizePath _

end Route

namespace Settings

variable {s : Settings} {fs : FileSystem} {names : List String}

theorem isPiece_of_isSelected (hproper : fs.IsProper) (h : s.IsSelected fs names)
    (hback : ∀ name ∈ names, '\\' ∉ name.toList) : ∀ name ∈ names, IsPiece name :=
  fun name hname => ⟨isFileName_of_isSelected hproper h name (List.mem_append_right _ hname),
    hback name hname⟩

/-- The path of a view file below the root does not end in a line feed. -/
theorem getLast?_join_ne_lineFeed (h : s.IsSelected fs names) :
    (join '/' names).toList.getLast? ≠ some '\n' := by
  obtain ⟨extension, hmem, hsuffix⟩ := h.extension
  have hlast : (names.getLastD "").toList <:+ (join '/' names).toList := by
    obtain ⟨init, last, rfl⟩ := (List.eq_nil_or_concat names).resolve_left h.below
    rw [List.concat_eq_append, List.getLastD_concat]
    by_cases hinit : init = []
    · simp [hinit, toList_join_singleton]
    · rw [toList_join_append hinit (List.cons_ne_nil _ _), toList_join_singleton]
      exact (List.suffix_cons _ _).trans (List.suffix_append _ _)
  exact getLast?_ne_lineFeed_of_suffix hmem (hsuffix.trans hlast)

/-- The segment is made of the beginning of the name. -/
def IsSegmentOf (segment name : String) : Prop :=
  ∃ kept, kept <+: name.toList ∧ segment = colonSegment (String.ofList kept)

/-- **Each segment of a view file is made of the beginning of one name**, in the order of the names
from the pages root on. -/
theorem forall₂_segments (h : s.IsSelected fs names) (hnames : ∀ name ∈ names, IsPiece name) :
    ∃ above, above <+: names ∧
      List.Forall₂ IsSegmentOf
        (segments (stripExtension (join '/' names) (normalizeExtensions s.extensions))) above := by
  have hkept : stripChars (normalizeExtensions s.extensions) (join '/' names).toList
      <+: (join '/' names).toList := stripChars_begins (getLast?_join_ne_lineFeed h)
  obtain ⟨above, habove, hpieces⟩ := exists_forall₂_splitChars '/' hkept
  have hsplit : split '/' (join '/' names) = names :=
    split_join h.below fun name hname => (hnames name hname).fileName.noSlash
  refine ⟨above.map String.ofList, ?_, ?_⟩
  · rw [← hsplit, split]
    exact habove.map _
  · rw [segments, split, stripExtension, String.toList_ofList, List.map_map,
      List.forall₂_map_left_iff, List.forall₂_map_right_iff]
    refine hpieces.imp fun kept piece hbegin => ⟨kept, ?_, rfl⟩
    rw [String.toList_ofList]
    exact hbegin

/--
**Discovery and the builder agree on where a file is**, unless a name below the pages root holds a
backslash.

A discovered file is found at the path below the root that discovery went and matched with the
patterns, just if none of the names on it holds a backslash; the way to the root may be made of any
names. The segments of such a file are made of the beginnings of its names, one of each, from the
first on. A compilation that refuses a file for lying elsewhere refuses a discovered file with a
backslash in a name.
-/
theorem discovered_files_are_located (hproper : fs.IsProper) {files : List String}
    (h : viewFiles fs s.root s.extensions s.exclude = .ok files) :
    let root := (s.rootAddress fs.cwd).text
    let usable := normalizeExtensions s.extensions
    (∀ file ∈ files, ∃ names, s.IsSelected fs names ∧ s.viewText fs names = file ∧
      (location fs.cwd file root = .ok (join '/' names) ↔ ∀ name ∈ names, '\\' ∉ name.toList) ∧
      ((∀ name ∈ names, '\\' ∉ name.toList) →
        fileKey fs.cwd root usable file
            = .ok (key (segments (stripExtension (join '/' names) usable))) ∧
          ∃ above, above <+: names ∧ List.Forall₂ IsSegmentOf
            (segments (stripExtension (join '/' names) usable)) above)) ∧
    ∀ file other, (compileTree s fs).result = .error (.route (.outsideRoot file other)) →
      file ∈ files ∧ ∃ names, s.IsSelected fs names ∧ s.viewText fs names = file ∧
        ∃ name ∈ names, '\\' ∈ name.toList := by
  intro root usable
  have hroot := rootIsDirectory_of_viewFiles h
  obtain rfl : s.viewTexts fs = files := Except.ok.inj ((viewFiles_eq hroot).symm.trans h)
  have hlocation : ∀ names, s.IsSelected fs names → (∀ name ∈ names, '\\' ∉ name.toList) →
      location fs.cwd (s.viewText fs names) root = .ok (join '/' names) :=
    fun names hnames hback => location_text_append fs.cwd (s.rootAddress fs.cwd) hnames.below
      (isPiece_of_isSelected hproper hnames hback)
  refine ⟨fun file hfile => ?_, fun file other hfail => ?_⟩
  · obtain ⟨names, hnames, rfl⟩ := mem_viewTexts_iff.mp hfile
    refine ⟨names, hnames, rfl, ⟨fun hlocated name hname hmem => ?_, hlocation names hnames⟩,
      fun hback => ⟨?_, forall₂_segments hnames (isPiece_of_isSelected hproper hnames hback)⟩⟩
    · exact backslash_not_mem_location hlocated (subset_toList_join hname hmem)
    · rw [fileKey, hlocation names hnames hback]
      rfl
  · rw [compileTree_eq hroot] at hfail
    obtain ⟨error, hbuild, herror⟩ : ∃ error,
        (RouteTree.ofFiles fs.cwd (s.treeOptions fs.cwd) (s.viewTexts fs)).result = .error error ∧
          Failure.route error = .route (.outsideRoot file other) := by
      rcases Outcome.result_bind_eq_error_iff.mp hfail with hnote | ⟨-, -, hrest⟩
      · simp [Outcome.note] at hnote
      · rcases Outcome.result_bind_eq_error_iff.mp hrest with hbuild | ⟨built, -, hlast⟩
        · exact mapError_eq_error_iff.mp hbuild
        · simp [Outcome.pure] at hlast
    obtain rfl := Failure.route.inj herror
    obtain ⟨hmem, hout⟩ := RouteTree.of_ofFiles_outsideRoot hbuild
    obtain ⟨names, hnames, rfl⟩ := mem_viewTexts_iff.mp hmem
    refine ⟨hmem, names, hnames, rfl, ?_⟩
    by_contra hnone
    have hback : ∀ name ∈ names, '\\' ∉ name.toList := by simpa using hnone
    exact hout (location_isOk_iff.mp ⟨_, hlocation names hnames hback⟩)

/-- A file with dots, brackets and a line feed on its way, below a root with a backslash. -/
def oddFiles : FileSystem where
  cwd := ["w"]
  items := [(["w"], .directory), (["w", "p\\..\\q"], .directory),
    (["w", "p\\..\\q", "..a\n"], .directory),
    (["w", "p\\..\\q", "a\n.."], .directory),
    (["w", "p\\..\\q", "a\n..", "[id].tsx.tsx"], .file [])]
  distinct := by decide

/-- Discovery finds it, and the builder finds it there. -/
theorem discovered_files_are_located_odd :
    let s := { aboutSettings .refuse with root := .ofString "p\\..\\q" }
    viewFiles oddFiles s.root s.extensions s.exclude
        = .ok ["/w/p\\..\\q/a\n../[id].tsx.tsx"] ∧
      location ["w"] "/w/p\\..\\q/a\n../[id].tsx.tsx" "/w/p\\..\\q"
        = .ok "a\n../[id].tsx.tsx" := by
  intro s
  have hroot : s.RootIsDirectory oddFiles := ⟨by decide +kernel, by decide +kernel⟩
  have htexts : s.viewTexts oddFiles = ["/w/p\\..\\q/a\n../[id].tsx.tsx"] := by decide +kernel
  have hviews : s.views oddFiles = [["a\n..", "[id].tsx.tsx"]] := by decide +kernel
  have hfound := htexts ▸ viewFiles_eq hroot
  obtain ⟨names, hnames, htext, hlocated, -⟩ :=
    (discovered_files_are_located (by decide) hfound).1 _ (List.mem_singleton_self _)
  have hmem := mem_views_iff.mpr hnames
  rw [hviews, List.mem_singleton] at hmem
  subst hmem
  exact ⟨hfound, hlocated.mpr (by decide)⟩

/-- A pages root with one file in it. -/
def oneFile (name : String) : FileSystem where
  cwd := ["w"]
  items := [(["w"], .directory), (["w", "p"], .directory), (["w", "p", name], .file [])]
  distinct := by simp

/-- One name with backslashes becomes several segments, or leads away from the root. -/
theorem backslash_cuts_discovered_files :
    let s := { aboutSettings .refuse with root := .ofString "p" }
    (viewFiles (oneFile "a\\b.tsx") s.root s.extensions s.exclude = .ok ["/w/p/a\\b.tsx"] ∧
      location ["w"] "/w/p/a\\b.tsx" "/w/p" = .ok "a/b.tsx" ∧
      fileKey ["w"] "/w/p" ["tsx", "jsx"] "/w/p/a\\b.tsx" = .ok ["/a", "/b"]) ∧
    viewFiles (oneFile "a\\..\\..\\b.tsx") s.root s.extensions s.exclude
        = .ok ["/w/p/a\\..\\..\\b.tsx"] ∧
      (compileTree s (oneFile "a\\..\\..\\b.tsx")).result
        = .error (.route (.outsideRoot "/w/p/a\\..\\..\\b.tsx" "/w/p")) := by
  intro s
  have hcwd : ∀ name ∈ ["w"], IsPiece name := by decide
  have hroot : ∀ name ∈ ["a\\b.tsx", "a\\..\\..\\b.tsx"], s.RootIsDirectory (oneFile name) := by
    intro name hname
    simp only [List.mem_cons, List.not_mem_nil, or_false] at hname
    rcases hname with rfl | rfl <;> exact ⟨by decide +kernel, by decide +kernel⟩
  have hcut : s.viewTexts (oneFile "a\\b.tsx") = ["/w/p/a\\b.tsx"] := by decide +kernel
  have hup : s.viewTexts (oneFile "a\\..\\..\\b.tsx") = ["/w/p/a\\..\\..\\b.tsx"] := by
    decide +kernel
  have hlocation : location ["w"] "/w/p/a\\b.tsx" "/w/p" = .ok "a/b.tsx" :=
    location_eq_join hcwd (by decide) (List.cons_ne_nil "a" ["b.tsx"]) (by decide +kernel)
  have hout : ¬LiesBelow ["w"] "/w/p" "/w/p/a\\..\\..\\b.tsx" := by decide +kernel
  refine ⟨⟨hcut ▸ viewFiles_eq (hroot _ (by simp)), hlocation, ?_⟩,
    hup ▸ viewFiles_eq (hroot _ (by simp)), ?_⟩
  · rw [fileKey, hlocation]
    decide +kernel
  · have husable : usableExtensions "/w/p" ["tsx", "jsx"] = .ok ["tsx", "jsx"] := by decide
    have hnone : Draft.IsPlaceable ["w"] "/w/p" ["tsx", "jsx"] [] := ⟨by simp, List.nodup_nil⟩
    have hfail : RouteTree.ofFiles (oneFile "a\\..\\..\\b.tsx").cwd
        (s.treeOptions (oneFile "a\\..\\..\\b.tsx").cwd) ["/w/p/a\\..\\..\\b.tsx"]
        = .fail (.outsideRoot "/w/p/a\\..\\..\\b.tsx" "/w/p") :=
      RouteTree.ofFiles_refuse_of_fail husable hnone (Draft.addFile_of_outside hout _ _) []
    rw [compileTree_eq (hroot _ (by simp)), hup, hfail]
    rfl

end Settings

end PageRoutes
