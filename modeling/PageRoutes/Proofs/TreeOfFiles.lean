import PageRoutes.Proofs.Below
import PageRoutes.Proofs.GroupViews

/-!
# The tree of view files

`RouteTree.ofFiles` places view files one after the other. Here it is tied to the grouping of all
files at once.

* `add_refuse_eq_ok_iff`, `addFile_refuse_eq_ok_iff` — what one step does when a second file for a
  route is refused.
* `addFiles_refuse_eq_ok_iff` — what a whole run does: it ends exactly if every file lies below
  the root and no two have the same key, and then with the draft of all of them.
* `ofFiles_refuse_eq_ok_iff` — the tree of such a run is the grouping of the files.

The files are taken from the end of the list, since that is where the order of a run puts the last
step.
-/

namespace PageRoutes

open Route Occurrence

namespace Draft

/-! ## One page -/

section

variable {policy : DuplicatePolicy} {key : List String} {page earlier : Page}
  {drafts drafts' : List Draft}

theorem add_of_free (h : page? key drafts = none) :
    add policy key page drafts = .pure (put page key drafts) := by
  rw [add, h]

theorem add_refuse_of_taken (h : page? key drafts = some earlier) :
    add .refuse key page drafts
      = .fail (.ambiguousRoute (key.getLastD rootPath) earlier.file page.file) := by
  rw [add, h]

theorem add_lastWins_of_taken (h : page? key drafts = some earlier) :
    add .lastWins key page drafts
      = ⟨[.routeReplaced (key.getLastD rootPath) earlier.file page.file],
          .ok (put page key drafts)⟩ := by
  rw [add, h]

theorem add_refuse_eq_ok_iff :
    (add .refuse key page drafts).result = .ok drafts'
      ↔ page? key drafts = none ∧ drafts' = put page key drafts := by
  cases h : page? key drafts with
  | none => simp [add_of_free h, Outcome.pure, eq_comm]
  | some earlier => simp [add_refuse_of_taken h, Outcome.fail]

/-- Under any policy a page that is accepted is put at its key. -/
theorem eq_put_of_add (h : (add policy key page drafts).result = .ok drafts') :
    drafts' = put page key drafts := by
  cases hpage : page? key drafts with
  | none =>
    rw [add_of_free hpage] at h
    exact (Except.ok.inj h).symm
  | some earlier =>
    cases policy with
    | refuse =>
      rw [add_refuse_of_taken hpage] at h
      exact absurd h nofun
    | lastWins =>
      rw [add_lastWins_of_taken hpage] at h
      exact (Except.ok.inj h).symm

/-- The page at a key is the one that was put there last. -/
theorem page?_putAll {key : List String} (hkey : key ≠ []) (entries : List (Keyed Page)) :
    page? key (putAll entries) = (lastWith? Keyed.key key entries).map Keyed.value := by
  induction entries using List.reverseRecOn with
  | nil =>
    cases key with
    | nil => exact absurd rfl hkey
    | cons path rest => rw [putAll_nil, page?_cons]; rfl
  | append_singleton entries entry ih =>
    rw [putAll_concat, lastWith?_concat]
    by_cases he : entry.key = []
    · have hne : entry.key ≠ key := by rw [he]; exact hkey.symm
      rw [if_neg hne, ← ih, he]
      rfl
    · rw [page?_put he, ih]
      by_cases hk : key = entry.key
      · rw [if_pos hk, if_pos hk.symm, Option.map_some]
      · rw [if_neg hk, if_neg (Ne.symm hk)]

/-! ## One file -/

variable (cwd : Address) (root : String) (extensions : List String) (policy : DuplicatePolicy)

/-- Places one view file under the root. -/
def addFile (file : String) (drafts : List Draft) : Outcome RouteError (List Draft) :=
  (Outcome.ofExcept (fileKey cwd root extensions file)).bind fun key =>
    add policy key (.ofFile file) drafts

theorem addFiles_cons (file : String) (files : List String) (drafts : List Draft) :
    addFiles cwd root extensions policy (file :: files) drafts
      = (addFile cwd root extensions policy file drafts).bind
          (addFiles cwd root extensions policy files) := by
  rw [addFiles, addFile, Outcome.bind_assoc]

/-- A run over files and more files is two runs. -/
theorem addFiles_append (before after : List String) (drafts : List Draft) :
    addFiles cwd root extensions policy (before ++ after) drafts
      = (addFiles cwd root extensions policy before drafts).bind
          (addFiles cwd root extensions policy after) := by
  induction before generalizing drafts with
  | nil => exact (Outcome.pure_bind _ _).symm
  | cons file before ih =>
    rw [List.cons_append, addFiles_cons, addFiles_cons, Outcome.bind_assoc]
    congr 1
    funext drafts
    exact ih drafts

/-- The last file is placed last. -/
theorem addFiles_concat (files : List String) (file : String) (drafts : List Draft) :
    addFiles cwd root extensions policy (files ++ [file]) drafts
      = (addFiles cwd root extensions policy files drafts).bind
          (addFile cwd root extensions policy file) := by
  rw [addFiles_append]
  congr 1
  funext drafts
  rw [addFiles_cons]
  exact Outcome.bind_pure _

/-- The pages of view files under their keys. -/
def entriesOf (files : List String) : List (Keyed Page) :=
  files.map fun file => ⟨keyOf cwd root extensions file, .ofFile file⟩

theorem key_ne_nil_of_mem_entriesOf {files : List String}
    (h : ∀ file ∈ files, LiesBelow cwd root file) {entry : Keyed Page}
    (he : entry ∈ entriesOf cwd root extensions files) : entry.key ≠ [] := by
  obtain ⟨file, hfile, rfl⟩ := List.mem_map.mp he
  exact keyOf_ne_nil (h file hfile)

theorem entriesOf_concat (files : List String) (file : String) :
    entriesOf cwd root extensions (files ++ [file])
      = entriesOf cwd root extensions files
        ++ [⟨keyOf cwd root extensions file, .ofFile file⟩] := by
  simp [entriesOf]

variable {cwd root extensions policy}

theorem addFile_of_liesBelow {file : String} (h : LiesBelow cwd root file)
    (drafts : List Draft) :
    addFile cwd root extensions policy file drafts
      = add policy (keyOf cwd root extensions file) (.ofFile file) drafts := by
  rw [addFile, fileKey_of_liesBelow h, Outcome.ofExcept_ok, Outcome.pure_bind]

theorem addFile_refuse_eq_ok_iff {file : String} {drafts drafts' : List Draft} :
    (addFile cwd root extensions .refuse file drafts).result = .ok drafts'
      ↔ LiesBelow cwd root file ∧ page? (keyOf cwd root extensions file) drafts = none
        ∧ drafts' = put (.ofFile file) (keyOf cwd root extensions file) drafts := by
  rw [addFile, Outcome.result_bind_eq_ok_iff, Outcome.result_ofExcept]
  constructor
  · rintro ⟨key, hkey, hadd⟩
    obtain ⟨hbelow, rfl⟩ := fileKey_eq_ok_iff.mp hkey
    exact ⟨hbelow, add_refuse_eq_ok_iff.mp hadd⟩
  · rintro ⟨hbelow, hadd⟩
    exact ⟨_, fileKey_of_liesBelow hbelow, add_refuse_eq_ok_iff.mpr hadd⟩

/-- After a run the page of a file's route is the page of the last file for the route. -/
theorem page?_putAll_entriesOf {file : String} (h : LiesBelow cwd root file)
    (files : List String) :
    page? (keyOf cwd root extensions file) (putAll (entriesOf cwd root extensions files))
      = (lastWith? (keyOf cwd root extensions) (keyOf cwd root extensions file) files).map
          Page.ofFile := by
  rw [page?_putAll (keyOf_ne_nil h), entriesOf, lastWith?_map, Option.map_map]
  rfl

/-! ## All files -/

/-- **A run without second files for a route.** -/
theorem addFiles_refuse_eq_ok_iff {files : List String} {drafts : List Draft} :
    (addFiles cwd root extensions .refuse files []).result = .ok drafts
      ↔ (∀ file ∈ files, LiesBelow cwd root file)
        ∧ (files.map (keyOf cwd root extensions)).Nodup
        ∧ drafts = putAll (entriesOf cwd root extensions files) := by
  induction files using List.reverseRecOn generalizing drafts with
  | nil => simp [addFiles, Outcome.pure, entriesOf, eq_comm]
  | append_singleton files file ih =>
    rw [addFiles_concat, Outcome.result_bind_eq_ok_iff, entriesOf_concat, putAll_concat,
      nodup_map_concat]
    simp only [ih, addFile_refuse_eq_ok_iff, List.forall_mem_append, List.forall_mem_singleton]
    constructor
    · rintro ⟨earlier, ⟨hbelow, hnd, rfl⟩, hfile, hfree, rfl⟩
      rw [page?_putAll_entriesOf hfile, Option.map_eq_none_iff, lastWith?_eq_none_iff] at hfree
      exact ⟨⟨hbelow, hfile⟩, ⟨hfree, hnd⟩, rfl⟩
    · rintro ⟨⟨hbelow, hfile⟩, ⟨hfree, hnd⟩, rfl⟩
      refine ⟨_, ⟨hbelow, hnd, rfl⟩, hfile, ?_, rfl⟩
      rw [page?_putAll_entriesOf hfile, Option.map_eq_none_iff, lastWith?_eq_none_iff]
      exact hfree

/-- **Under any policy a run that ends well has put every file**, and all of them lie below the
root. -/
theorem of_addFiles {files : List String} {drafts : List Draft}
    (h : (addFiles cwd root extensions policy files []).result = .ok drafts) :
    (∀ file ∈ files, LiesBelow cwd root file) ∧
      drafts = putAll (entriesOf cwd root extensions files) := by
  induction files using List.reverseRecOn generalizing drafts with
  | nil => exact ⟨fun _ hfile => absurd hfile List.not_mem_nil, (Except.ok.inj h).symm⟩
  | append_singleton files file ih =>
    rw [addFiles_concat, Outcome.result_bind_eq_ok_iff] at h
    obtain ⟨earlier, hearlier, hfile⟩ := h
    obtain ⟨hbelow, rfl⟩ := ih hearlier
    rw [addFile, Outcome.result_bind_eq_ok_iff, Outcome.result_ofExcept] at hfile
    obtain ⟨key, hkey, hadd⟩ := hfile
    obtain ⟨hfileBelow, rfl⟩ := fileKey_eq_ok_iff.mp hkey
    rw [entriesOf_concat, putAll_concat, List.forall_mem_append, List.forall_mem_singleton]
    exact ⟨⟨hbelow, hfileBelow⟩, eq_put_of_add hadd⟩

end

end Draft

/-! ## Trees -/

namespace RouteTree

variable {cwd : Address} {root : String} {extensions usable : List String}

/-- With usable options the tree is the tree of the draft that the run ends with. -/
theorem ofFiles_eq (h : usableExtensions root extensions = .ok usable) (policy : DuplicatePolicy)
    (files : List String) :
    ofFiles cwd { root, extensions, onDuplicate := policy.name } files
      = (Draft.addFiles cwd root usable policy files []).bind fun drafts =>
          .pure (Draft.toTree drafts) := by
  have hpolicy : duplicatePolicy (some policy.name) = .ok policy := by
    simp [duplicatePolicy]
  show Outcome.bind _ _ = _
  rw [h, Outcome.ofExcept_ok, Outcome.pure_bind]
  show Outcome.bind _ _ = _
  rw [hpolicy, Outcome.ofExcept_ok, Outcome.pure_bind]
  rfl

/-- The views of files under the keys of their routes. -/
def fileViews (cwd : Address) (root : String) (extensions : List String) (files : List String) :
    List (Keyed String) :=
  files.map fun file => ⟨keyOf cwd root extensions file, normalizePath file⟩

theorem map_key_fileViews (cwd : Address) (root : String) (extensions : List String)
    (files : List String) :
    (fileViews cwd root extensions files).map Keyed.key
      = files.map (keyOf cwd root extensions) := by
  rw [fileViews, List.map_map]
  rfl

theorem toTree_putAll_entriesOf (cwd : Address) (root : String) (extensions : List String)
    (files : List String) :
    Draft.toTree (Draft.putAll (Draft.entriesOf cwd root extensions files))
      = group (fileViews cwd root extensions files) := by
  rw [Draft.toTree_putAll, Draft.entriesOf, List.map_map]
  rfl

/-- **A tree shows every view file, once and at its key.** -/
theorem views_group_fileViews_perm {files : List String}
    (hbelow : ∀ file ∈ files, LiesBelow cwd root file)
    (hnd : (files.map (keyOf cwd root usable)).Nodup) :
    (views (group (fileViews cwd root usable files))).Perm (fileViews cwd root usable files) := by
  apply views_group_perm
  · intro entry he
    obtain ⟨file, hfile, rfl⟩ := List.mem_map.mp he
    exact keyOf_ne_nil (hbelow file hfile)
  · rw [map_key_fileViews]
    exact hnd

theorem result_ofFiles_refuse_eq_ok_iff (h : usableExtensions root extensions = .ok usable)
    {files : List String} {tree : RouteTree} :
    (ofFiles cwd { root, extensions, onDuplicate := DuplicatePolicy.refuse.name } files).result
        = .ok tree
      ↔ (∀ file ∈ files, LiesBelow cwd root file) ∧ (files.map (keyOf cwd root usable)).Nodup
        ∧ tree = group (fileViews cwd root usable files) := by
  rw [ofFiles_eq h, Outcome.result_bind_eq_ok_iff]
  constructor
  · rintro ⟨drafts, hrun, htree⟩
    obtain ⟨hbelow, hnd, rfl⟩ := Draft.addFiles_refuse_eq_ok_iff.mp hrun
    rw [Outcome.pure, Except.ok.injEq, toTree_putAll_entriesOf] at htree
    exact ⟨hbelow, hnd, htree.symm⟩
  · rintro ⟨hbelow, hnd, rfl⟩
    refine ⟨_, Draft.addFiles_refuse_eq_ok_iff.mpr ⟨hbelow, hnd, rfl⟩, ?_⟩
    rw [Outcome.pure, toTree_putAll_entriesOf]

/-- The usable extensions are the normalised ones, if there are any and the root is not blank. -/
theorem usableExtensions_eq_ok_iff :
    usableExtensions root extensions = .ok usable
      ↔ Text.isAllBlank root = false ∧ usable = normalizeExtensions extensions ∧ usable ≠ [] := by
  unfold usableExtensions
  cases Text.isAllBlank root with
  | true => simp
  | false =>
    rcases normalizeExtensions extensions with _ | ⟨extension, rest⟩
    · simp
    · have hne : usable = extension :: rest → usable ≠ [] := by
        rintro rfl
        exact List.cons_ne_nil _ _
      simpa [eq_comm] using hne

/-- Under any policy a tree is the grouping of its files under the keys that the usable extensions
give, and all of them lie below the root. -/
theorem eq_group_normalized_of_ofFiles {options : TreeOptions} {files : List String}
    {tree : RouteTree} (h : (ofFiles cwd options files).result = .ok tree) :
    (∀ file ∈ files, LiesBelow cwd options.root file) ∧
      tree = group (fileViews cwd options.root (normalizeExtensions options.extensions) files) := by
  change (Outcome.bind _ _).result = _ at h
  obtain ⟨usable, husable, h⟩ := Outcome.result_bind_eq_ok_iff.mp h
  obtain ⟨-, rfl, -⟩ := usableExtensions_eq_ok_iff.mp husable
  change (Outcome.bind _ _).result = _ at h
  obtain ⟨policy, -, h⟩ := Outcome.result_bind_eq_ok_iff.mp h
  change (Outcome.bind _ _).result = _ at h
  obtain ⟨drafts, hdrafts, htree⟩ := Outcome.result_bind_eq_ok_iff.mp h
  obtain ⟨hbelow, rfl⟩ := Draft.of_addFiles hdrafts
  exact ⟨hbelow, by rw [← toTree_putAll_entriesOf]; exact (Except.ok.inj htree).symm⟩

/-- Under any policy a tree is the grouping of its files, and all of them lie below the root. -/
theorem eq_group_of_ofFiles {options : TreeOptions} {files : List String} {tree : RouteTree}
    (h : (ofFiles cwd options files).result = .ok tree) :
    ∃ usable, (∀ file ∈ files, LiesBelow cwd options.root file) ∧
      tree = group (fileViews cwd options.root usable files) :=
  ⟨_, eq_group_normalized_of_ofFiles h⟩

/--
**Where second files for a route are refused, the tree of view files is their grouping.**

There is a tree exactly if every file lies below the root and the keys of the files are distinct.
It is then the grouping of the files under their keys, in the order in which they are given, and
shows each of them once and at its key.
-/
theorem ofFiles_refuse_eq_group (cwd : Address)
    (h : usableExtensions root extensions = .ok usable) (files : List String)
    (tree : RouteTree) :
    let built :=
      (ofFiles cwd { root, extensions, onDuplicate := DuplicatePolicy.refuse.name } files).result
    (built = .ok tree
        ↔ (∀ file ∈ files, LiesBelow cwd root file) ∧ (files.map (keyOf cwd root usable)).Nodup
          ∧ tree = group (fileViews cwd root usable files))
      ∧ (built = .ok tree → (views tree).Perm (fileViews cwd root usable files)) := by
  intro built
  have hiff : built = .ok tree ↔ _ := result_ofFiles_refuse_eq_ok_iff h
  refine ⟨hiff, fun hbuilt => ?_⟩
  obtain ⟨hbelow, hnd, rfl⟩ := hiff.mp hbuilt
  exact views_group_fileViews_perm hbelow hnd

/-- A page of a directory that is there before the directory's own page. -/
theorem ofFiles_refuse_blog :
    usableExtensions "pages" [".tsx", "jsx"] = .ok ["tsx", "jsx"]
      ∧ (ofFiles ["w"] { root := "pages", extensions := [".tsx", "jsx"], onDuplicate := "error" }
          ["pages/blog/[slug].tsx", "./pages/index.jsx", "pages/blog/index.tsx"]).result
        = .ok [
          .mk "/blog" (some "pages/blog/index.tsx")
            (some [.mk "/:slug" (some "pages/blog/[slug].tsx") none]),
          .mk "/" (some "./pages/index.jsx") none] := by
  have husable : usableExtensions "pages" [".tsx", "jsx"] = .ok ["tsx", "jsx"] := by decide
  have hviews : fileViews ["w"] "pages" ["tsx", "jsx"]
      ["pages/blog/[slug].tsx", "./pages/index.jsx", "pages/blog/index.tsx"]
      = [⟨["/blog", "/:slug"], "pages/blog/[slug].tsx"⟩, ⟨["/"], "./pages/index.jsx"⟩,
        ⟨["/blog"], "pages/blog/index.tsx"⟩] := by decide +kernel
  refine ⟨husable, (ofFiles_refuse_eq_group ["w"] husable _ _).1.mpr ⟨?_, ?_, ?_⟩⟩
  · intro file hfile
    simp only [List.mem_cons, List.not_mem_nil, or_false] at hfile
    rcases hfile with rfl | rfl | rfl
    · exact ⟨by decide, "blog", ["[slug].tsx"], by decide, by cbv⟩
    · exact ⟨by decide, "index.jsx", [], by decide, by cbv⟩
    · exact ⟨by decide, "blog", ["index.tsx"], by decide, by cbv⟩
  · rw [← map_key_fileViews, hviews]
    decide
  · rw [hviews]
    rfl

end RouteTree

end PageRoutes
