import Mathlib.Data.Nat.Find
import PageRoutes.Proofs.TreeOfFiles

/-!
# The first file that cannot be placed

Where second files for a route are refused, a run over view files ends at the first file that
offends (`Offends`): one that does not lie below the root, or one whose key an earlier file has.

* `isPlaceable_iff` — files can be placed just if none of them offends.
* `addFiles_refuse_of_isPlaceable`, `addFile_refuse_of_taken` — what a run has made of the files
  before the first offence, and how it ends there.
* `of_addFiles_outsideRoot` — under any policy, only a file that lies elsewhere is refused for that.
* `getLastD_key` — which route an error names.
* `ofFiles_refuse_reports_first` — unusable options are reported before any file, and otherwise the
  first offence, whatever stands behind it.
-/

namespace PageRoutes

open Text Route Occurrence

/-- A list can be cut at each of its elements. -/
theorem exists_append_of_getElem? {α : Type} {xs : List α} {i : Nat} {x : α}
    (h : xs[i]? = some x) : ∃ before after, xs = before ++ x :: after ∧ before.length = i := by
  obtain ⟨hi, rfl⟩ := List.getElem?_eq_some_iff.mp h
  refine ⟨xs.take i, xs.drop (i + 1), ?_, List.length_take_of_le (Nat.le_of_lt hi)⟩
  rw [← List.drop_eq_getElem_cons hi, List.take_append_drop]

/-- Steps that log nothing log nothing in a row. -/
theorem Outcome.log_bind_eq_nil {ε α β : Type} {x : Outcome ε α} {f : α → Outcome ε β}
    (hx : x.log = []) (hf : ∀ a, (f a).log = []) : (bind x f).log = [] := by
  unfold bind
  split
  · rw [hx, hf, List.append_nil]
  · exact hx

/-! ## The last path of a key -/

namespace Route

/-- The path of the route that stands for a file with the given segments: the one of its last
segment or, for an `index` file, the one of its directory, if it is in one. -/
def nodePath (segments : List String) : String :=
  match segments.reverse with
  | last :: directory :: _ =>
    if last = indexName then pathOfSegment directory else pathOfSegment last
  | [last] => pathOfSegment last
  | [] => rootPath

/-- In front of a longer way a segment does not matter. -/
theorem nodePath_cons {segment : String} {rest : List String} (hne : rest ≠ [])
    (hindex : rest ≠ [indexName]) : nodePath (segment :: rest) = nodePath rest := by
  unfold nodePath
  rw [List.reverse_cons]
  rcases List.eq_nil_or_concat rest with rfl | ⟨before, last, rfl⟩
  · exact absurd rfl hne
  · rw [List.concat_eq_append, List.reverse_append]
    cases hbefore : before.reverse with
    | nil =>
      rw [List.reverse_eq_nil_iff] at hbefore
      subst hbefore
      have hlast : last ≠ indexName := fun heq => hindex (by rw [heq]; rfl)
      exact if_neg hlast
    | cons directory above => rfl

/-- **A file's route is the one of its last segment**, or of its directory for an `index` file. -/
theorem getLastD_key (segments : List String) :
    (key segments).getLastD rootPath = nodePath segments := by
  induction segments with
  | nil => rfl
  | cons segment rest ih =>
    rw [key]
    by_cases hindex : rest = [indexName]
    · subst hindex
      rfl
    · rw [if_neg hindex]
      by_cases hne : rest = []
      · subst hne
        rfl
      · have hlast := List.getLast?_eq_some_getLast (key_ne_nil hne)
        rw [List.getLastD_eq_getLast?, hlast, Option.getD_some] at ih
        rw [nodePath_cons hne hindex, List.getLastD_cons, List.getLastD_eq_getLast?, hlast,
          Option.getD_some, ih]

end Route

/-! ## Offences -/

namespace Draft

/-- All files have a place: they lie below the root, and no two of them have the same key. -/
def IsPlaceable (cwd : Address) (root : String) (extensions : List String)
    (files : List String) : Prop :=
  (∀ file ∈ files, LiesBelow cwd root file) ∧ (files.map (keyOf cwd root extensions)).Nodup

/-- The file with the given number does not lie below the root, or an earlier file has its key. -/
def Offends (cwd : Address) (root : String) (extensions : List String) (files : List String)
    (i : Nat) : Prop :=
  ∃ file, files[i]? = some file ∧
    (¬LiesBelow cwd root file ∨ ∃ j first, j < i ∧ files[j]? = some first ∧
      keyOf cwd root extensions first = keyOf cwd root extensions file)

section

variable {cwd : Address} {root : String} {extensions files : List String} {i : Nat}

/-- **Files can be placed just if none of them offends.** -/
theorem isPlaceable_iff :
    IsPlaceable cwd root extensions files ↔ ∀ i, ¬Offends cwd root extensions files i := by
  rw [IsPlaceable, nodup_map_iff_getElem?]
  constructor
  · rintro ⟨hbelow, hdistinct⟩ i ⟨file, hfile, hout | ⟨j, first, hlt, hfirst, hkey⟩⟩
    · exact hout (hbelow file (List.mem_of_getElem? hfile))
    · exact hdistinct j i first file hlt hfirst hfile hkey
  · intro hnone
    refine ⟨fun file hfile => ?_, fun j i first file hlt hfirst hfile hkey => ?_⟩
    · obtain ⟨i, hi⟩ := List.getElem?_of_mem hfile
      by_contra hout
      exact hnone i ⟨file, hi, .inl hout⟩
    · exact hnone i ⟨file, hfile, .inr ⟨j, first, hlt, hfirst, hkey⟩⟩

/-- Whether a file offends depends on the files up to it only. -/
theorem offends_append_iff {files' : List String} (h : i < files.length) :
    Offends cwd root extensions (files ++ files') i ↔ Offends cwd root extensions files i := by
  unfold Offends
  rw [List.getElem?_append_left h]
  refine exists_congr fun file => and_congr_right fun _ => or_congr_right ?_
  refine exists_congr fun j => exists_congr fun first => and_congr_right fun hlt => ?_
  rw [List.getElem?_append_left (Nat.lt_trans hlt h)]

/-- The files before the first offence can be placed. -/
theorem isPlaceable_of_first {before after : List String}
    (h : ∀ j < before.length, ¬Offends cwd root extensions (before ++ after) j) :
    IsPlaceable cwd root extensions before := by
  refine isPlaceable_iff.mpr fun j hj => ?_
  have hlt : j < before.length := by
    obtain ⟨file, hfile, -⟩ := hj
    exact (List.getElem?_eq_some_iff.mp hfile).1
  exact h j hlt ((offends_append_iff hlt).mpr hj)

/-- A file below the root offends by an earlier file that has its key. -/
theorem mem_map_keyOf_of_offends {before after : List String} {file : String}
    (hoffends : Offends cwd root extensions (before ++ file :: after) before.length)
    (hbelow : LiesBelow cwd root file) :
    keyOf cwd root extensions file ∈ before.map (keyOf cwd root extensions) := by
  obtain ⟨found, hfound, hcause⟩ := hoffends
  rw [List.getElem?_append_right (Nat.le_refl _), Nat.sub_self] at hfound
  obtain rfl : file = found := Option.some.inj hfound
  rcases hcause with hout | ⟨j, first, hlt, hfirst, hkey⟩
  · exact absurd hbelow hout
  · rw [List.getElem?_append_left hlt] at hfirst
    exact hkey ▸ List.mem_map_of_mem (List.mem_of_getElem? hfirst)

/-! ## A run and how it ends -/

/-- Where second files are refused, nothing is logged. -/
theorem log_addFiles_refuse (drafts : List Draft) :
    (addFiles cwd root extensions .refuse files drafts).log = [] := by
  induction files generalizing drafts with
  | nil => rfl
  | cons file files ih =>
    rw [addFiles_cons, addFile]
    refine Outcome.log_bind_eq_nil (Outcome.log_bind_eq_nil rfl fun key => ?_) ih
    rw [add]
    split <;> rfl

/-- **Files that can be placed are placed**, one after the other. -/
theorem addFiles_refuse_of_isPlaceable (h : IsPlaceable cwd root extensions files) :
    addFiles cwd root extensions .refuse files []
      = .pure (putAll (entriesOf cwd root extensions files)) := by
  have hresult := addFiles_refuse_eq_ok_iff.mpr ⟨h.1, h.2, rfl⟩
  have hlog : (addFiles cwd root extensions .refuse files []).log = [] := log_addFiles_refuse []
  revert hresult hlog
  cases addFiles cwd root extensions .refuse files [] with
  | mk log result =>
    rintro rfl rfl
    rfl

/-- A file that lies elsewhere is refused. -/
theorem addFile_of_outside {file : String} (h : ¬LiesBelow cwd root file)
    (policy : DuplicatePolicy) (drafts : List Draft) :
    addFile cwd root extensions policy file drafts = .fail (.outsideRoot file root) := by
  rw [addFile, fileKey, location_eq_error h]
  rfl

/-- **A file that is refused for lying elsewhere does not lie below the root.** -/
theorem of_addFiles_outsideRoot {policy : DuplicatePolicy} {drafts : List Draft}
    {file root' : String}
    (h : (addFiles cwd root extensions policy files drafts).result
      = .error (.outsideRoot file root')) :
    file ∈ files ∧ ¬LiesBelow cwd root file := by
  induction files generalizing drafts with
  | nil => exact absurd h (by simp [addFiles, Outcome.pure])
  | cons first files ih =>
    rw [addFiles_cons, Outcome.result_bind_eq_error_iff] at h
    rcases h with hfirst | ⟨drafts', -, hrest⟩
    · by_cases hbelow : LiesBelow cwd root first
      · -- A file below the root can be refused for its key only.
        rw [addFile_of_liesBelow hbelow, add] at hfirst
        split at hfirst
        · simp [Outcome.pure] at hfirst
        · cases policy <;> simp [Outcome.fail] at hfirst
      · rw [addFile_of_outside hbelow] at hfirst
        cases hfirst
        exact ⟨List.mem_cons_self, hbelow⟩
    · obtain ⟨hmem, hout⟩ := ih hrest
      exact ⟨List.mem_cons_of_mem _ hmem, hout⟩

/-- A second file for a route is refused, and the first one is named with it. -/
theorem addFile_refuse_of_taken {before : List String} {file : String}
    (hbelow : LiesBelow cwd root file)
    (htaken : keyOf cwd root extensions file ∈ before.map (keyOf cwd root extensions)) :
    ∃ first ∈ before, keyOf cwd root extensions first = keyOf cwd root extensions file ∧
      addFile cwd root extensions .refuse file (putAll (entriesOf cwd root extensions before))
        = .fail (.ambiguousRoute ((keyOf cwd root extensions file).getLastD rootPath)
            first file) := by
  cases hlast : lastWith? (keyOf cwd root extensions) (keyOf cwd root extensions file) before with
  | none => exact absurd htaken (lastWith?_eq_none_iff.mp hlast)
  | some first =>
    refine ⟨first, mem_of_lastWith? hlast, key_of_lastWith? hlast, ?_⟩
    have hpage : page? (keyOf cwd root extensions file)
        (putAll (entriesOf cwd root extensions before)) = _ := page?_putAll_entriesOf hbelow before
    rw [hlast, Option.map_some] at hpage
    rw [addFile_of_liesBelow hbelow, add_refuse_of_taken hpage]
    rfl

end

end Draft

/-! ## Trees -/

namespace RouteTree

open Draft

variable {cwd : Address} {options : TreeOptions} {root : String}
  {extensions usable files : List String} {error : RouteError}

/-- A missing root and missing extensions are reported before any file. -/
theorem ofFiles_of_unusable (h : usableExtensions options.root options.extensions = .error error)
    (files : List String) : ofFiles cwd options files = .fail error := by
  show Outcome.bind _ _ = _
  rw [h]
  rfl

/-- An unknown policy is reported after them, and before any file. -/
theorem ofFiles_of_unknownPolicy
    (h : usableExtensions options.root options.extensions = .ok usable)
    (hpolicy : ∀ policy : DuplicatePolicy, options.onDuplicate ≠ some policy.name)
    (files : List String) :
    ofFiles cwd options files = .fail (.invalidOptions (.unknownPolicy options.onDuplicate)) := by
  have hunknown : duplicatePolicy options.onDuplicate
      = .error (.invalidOptions (.unknownPolicy options.onDuplicate)) := by
    unfold duplicatePolicy
    split
    · next policy hfound =>
      obtain ⟨name, hname, hpolicyName⟩ := Option.bind_eq_some_iff.mp hfound
      have heq : policy.name = name := by simpa using List.find?_some hpolicyName
      exact absurd (hname.trans (congrArg some heq.symm)) (hpolicy policy)
    · rfl
  show Outcome.bind _ _ = _
  rw [h, Outcome.ofExcept_ok, Outcome.pure_bind]
  show Outcome.bind _ _ = _
  rw [hunknown]
  rfl

/-- **A run ends at the first file that cannot be placed**, whatever stands behind it. -/
theorem ofFiles_refuse_of_fail (h : usableExtensions root extensions = .ok usable)
    {before : List String} {file : String} (hbefore : IsPlaceable cwd root usable before)
    (hfile : addFile cwd root usable .refuse file (putAll (entriesOf cwd root usable before))
      = .fail error) (after : List String) :
    ofFiles cwd { root, extensions, onDuplicate := DuplicatePolicy.refuse.name }
      (before ++ file :: after) = .fail error := by
  rw [ofFiles_eq h, addFiles_append, addFiles_refuse_of_isPlaceable hbefore, Outcome.pure_bind,
    addFiles_cons, hfile]
  rfl

/-- Under any policy a tree is refused for a file that lies elsewhere only if there is one. -/
theorem of_ofFiles_outsideRoot {file root' : String}
    (h : (ofFiles cwd options files).result = .error (.outsideRoot file root')) :
    file ∈ files ∧ ¬LiesBelow cwd options.root file := by
  change (Outcome.bind _ _).result = _ at h
  rcases Outcome.result_bind_eq_error_iff.mp h with husable | ⟨usable, -, h⟩
  · -- Options are refused as options.
    rw [Outcome.result_ofExcept, usableExtensions] at husable
    split at husable
    · simp at husable
    · split at husable <;> simp at husable
  change (Outcome.bind _ _).result = _ at h
  rcases Outcome.result_bind_eq_error_iff.mp h with hpolicy | ⟨policy, -, h⟩
  · rw [Outcome.result_ofExcept, duplicatePolicy] at hpolicy
    split at hpolicy <;> simp at hpolicy
  change (Outcome.bind _ _).result = _ at h
  rcases Outcome.result_bind_eq_error_iff.mp h with hrun | ⟨drafts, -, h⟩
  · exact Draft.of_addFiles_outsideRoot hrun
  · change Except.ok _ = Except.error _ at h
    simp at h

/-- If there is no tree, some file is the first that offends. -/
theorem exists_first_offence (h : usableExtensions root extensions = .ok usable)
    (hfail : (ofFiles cwd { root, extensions, onDuplicate := DuplicatePolicy.refuse.name }
      files).result = .error error) :
    ∃ i, Offends cwd root usable files i ∧ ∀ j < i, ¬Offends cwd root usable files j := by
  have hoffence : ∃ i, Offends cwd root usable files i := by
    by_contra hnone
    obtain ⟨hbelow, hnodup⟩ := isPlaceable_iff.mpr (not_exists.mp hnone)
    have hok := (result_ofFiles_refuse_eq_ok_iff h).mpr ⟨hbelow, hnodup, rfl⟩
    rw [hfail] at hok
    exact absurd hok (by simp)
  classical
  exact ⟨Nat.find hoffence, Nat.find_spec hoffence, fun j hj => Nat.find_min hoffence hj⟩

/--
**A failure names the first file that cannot be placed, and nothing else.**

Options that cannot be used are reported whatever the files are: first a missing root, then missing
extensions, then an unknown policy. With usable options, where second files for a route are refused
and there is no tree, some file is the first that offends. If it does not lie below the root, it is
refused for that. Otherwise exactly one earlier file has its key, and the error names the route at
the end of the key, that file and the offending one. The files behind it do not matter.
-/
theorem ofFiles_refuse_reports_first (cwd : Address) (root : String)
    (extensions files : List String) :
    let build (policy : Option String) := ofFiles cwd { root, extensions, onDuplicate := policy }
    let built := build (some DuplicatePolicy.refuse.name)
    let usable := normalizeExtensions extensions
    let key := keyOf cwd root usable
    let offends := Offends cwd root usable files
    (isAllBlank root = true →
      ∀ policy, build policy files = .fail (.invalidOptions .missingRoot)) ∧
    (isAllBlank root = false → usable = [] →
      ∀ policy, build policy files = .fail (.invalidOptions .missingExtensions)) ∧
    (isAllBlank root = false → usable ≠ [] →
      ∀ policy, (∀ known : DuplicatePolicy, policy ≠ some known.name) →
        build policy files = .fail (.invalidOptions (.unknownPolicy policy))) ∧
    (isAllBlank root = false → usable ≠ [] →
      (∀ error, (built files).result = .error error → ∃ i, offends i ∧ ∀ j < i, ¬offends j) ∧
      ∀ i file, files[i]? = some file → offends i → (∀ j < i, ¬offends j) →
        (¬LiesBelow cwd root file → built files = .fail (.outsideRoot file root)) ∧
        (LiesBelow cwd root file →
          ∃ j first path, j < i ∧ files[j]? = some first ∧ key first = key file ∧
            (∀ j' other, j' < i → files[j']? = some other → key other = key file → j' = j) ∧
            location cwd file root = .ok path ∧
            (key file).getLastD rootPath = nodePath (segments (stripExtension path usable)) ∧
            built files
              = .fail (.ambiguousRoute ((key file).getLastD rootPath) first file)) ∧
        ∀ rest, built (files.take (i + 1) ++ rest) = built files) := by
  intro build built usable key offends
  have husable : isAllBlank root = false → usable ≠ [] →
      usableExtensions root extensions = .ok usable := by
    intro hroot hextensions
    rw [usableExtensions, hroot, if_neg Bool.false_ne_true]
    split
    · next hnil => exact absurd hnil hextensions
    · rfl
  refine ⟨fun hroot policy => ofFiles_of_unusable ?_ files,
    fun hroot hextensions policy => ofFiles_of_unusable ?_ files,
    fun hroot hextensions policy hpolicy =>
      ofFiles_of_unknownPolicy (husable hroot hextensions) hpolicy files,
    fun hroot hextensions => ⟨fun error => exists_first_offence (husable hroot hextensions),
      fun i file hfile hoffends hfirst => ?_⟩⟩
  · rw [usableExtensions, hroot, if_pos rfl]
  · have hnil : normalizeExtensions extensions = [] := hextensions
    rw [usableExtensions, hroot, if_neg Bool.false_ne_true, hnil]
  · obtain ⟨before, after, rfl, rfl⟩ := exists_append_of_getElem? hfile
    have husable := husable hroot hextensions
    have hbefore : IsPlaceable cwd root usable before := isPlaceable_of_first hfirst
    have hends : ∀ error, addFile cwd root usable .refuse file
        (putAll (entriesOf cwd root usable before)) = .fail error →
        ∀ after, built (before ++ file :: after) = .fail error :=
      fun error hfail after => ofFiles_refuse_of_fail husable hbefore hfail after
    have htake : ∀ rest, (before ++ file :: after).take (before.length + 1) ++ rest
        = before ++ file :: rest := fun rest => by
      rw [List.take_length_add_append, List.append_assoc]
      rfl
    by_cases hbelow : LiesBelow cwd root file
    · obtain ⟨first, hmem, hkey, hfail⟩ :=
        addFile_refuse_of_taken hbelow (mem_map_keyOf_of_offends hoffends hbelow)
      obtain ⟨j, hj⟩ := List.getElem?_of_mem hmem
      obtain ⟨path, hpath⟩ := location_isOk_iff.mpr hbelow
      have hlt : j < before.length := (List.getElem?_eq_some_iff.mp hj).1
      have hshared := hends _ hfail
      refine ⟨fun hout => absurd hbelow hout, fun _ => ⟨j, first, path, hlt, ?_, hkey, ?_, hpath,
        ?_, hshared after⟩, fun rest => ?_⟩
      · rw [List.getElem?_append_left hlt, hj]
      · intro j' other hlt' hother hkey'
        rw [List.getElem?_append_left hlt'] at hother
        have hdistinct := nodup_map_iff_getElem?.mp hbefore.2
        rcases Nat.lt_trichotomy j' j with hless | heq | hmore
        · exact absurd (hkey'.trans hkey.symm) (hdistinct j' j other first hless hother hj)
        · exact heq
        · exact absurd (hkey.trans hkey'.symm) (hdistinct j j' first other hmore hj hother)
      · show (keyOf cwd root usable file).getLastD rootPath = _
        rw [keyOf_eq_key hpath, getLastD_key]
      · rw [htake, hshared, hshared]
    · have houtside := hends _ (addFile_of_outside hbelow .refuse _)
      refine ⟨fun _ => houtside after, fun h => absurd h hbelow, fun rest => ?_⟩
      rw [htake, houtside, houtside]

/-- Two spellings of one route, with other files before, between and behind them. -/
theorem ofFiles_refuse_reports_first_blog :
    let files := ["pages/a.tsx", "./pages/blog/index.jsx", "pages/[id].tsx", "pages\\blog.tsx",
      "elsewhere.tsx"]
    let built := ofFiles ["w"] { root := "pages", extensions := ["tsx", "jsx"] }
    built files = .fail (.ambiguousRoute "/blog" "./pages/blog/index.jsx" "pages\\blog.tsx") ∧
      (∀ rest, built (files.take 4 ++ rest) = built files) ∧
      ofFiles ["w"] { root := " ", extensions := [], onDuplicate := none } files
        = .fail (.invalidOptions .missingRoot) ∧
      ofFiles ["w"] { root := "pages", extensions := [" ."], onDuplicate := none } files
        = .fail (.invalidOptions .missingExtensions) ∧
      ofFiles ["w"] { root := "pages", extensions := ["tsx", "jsx"], onDuplicate := none } files
        = .fail (.invalidOptions (.unknownPolicy none)) := by
  intro files built
  have hplaceable : IsPlaceable ["w"] "pages" ["tsx", "jsx"] (files.take 3) :=
    ⟨by decide +kernel, by decide +kernel⟩
  have hfirst : ∀ j < 3, ¬Offends ["w"] "pages" ["tsx", "jsx"] (files.take 3 ++ files.drop 3) j :=
    fun j hj hoffends => isPlaceable_iff.mp hplaceable j ((offends_append_iff hj).mp hoffends)
  have hbelow : LiesBelow ["w"] "pages" "pages\\blog.tsx" := by decide +kernel
  have hkey : keyOf ["w"] "pages" ["tsx", "jsx"] "./pages/blog/index.jsx"
      = keyOf ["w"] "pages" ["tsx", "jsx"] "pages\\blog.tsx" := by decide +kernel
  have hroute : (keyOf ["w"] "pages" ["tsx", "jsx"] "pages\\blog.tsx").getLastD rootPath
      = "/blog" := by decide +kernel
  have husable : normalizeExtensions ["tsx", "jsx"] = ["tsx", "jsx"] := by decide +kernel
  have hreports := (ofFiles_refuse_reports_first ["w"] "pages" ["tsx", "jsx"] files).2.2.2
    (by decide) (by rw [husable]; decide)
  rw [husable] at hreports
  obtain ⟨-, htaken, hrest⟩ := hreports.2 3 "pages\\blog.tsx" rfl
    ⟨_, rfl, .inr ⟨1, _, by decide, rfl, hkey⟩⟩ hfirst
  obtain ⟨j, first, -, -, hj, -, honly, -, -, hfail⟩ := htaken hbelow
  obtain rfl : 1 = j := honly 1 _ (by decide) rfl hkey
  obtain rfl : "./pages/blog/index.jsx" = first := Option.some.inj hj
  refine ⟨by rw [← hroute]; exact hfail, hrest,
    (ofFiles_refuse_reports_first ["w"] " " [] files).1 (by decide) none,
    (ofFiles_refuse_reports_first ["w"] "pages" [" ."] files).2.1 (by decide) (by decide +kernel)
      none,
    (ofFiles_refuse_reports_first ["w"] "pages" ["tsx", "jsx"] files).2.2.1 (by decide)
      (by rw [husable]; decide) none (by simp)⟩

end RouteTree

end PageRoutes
