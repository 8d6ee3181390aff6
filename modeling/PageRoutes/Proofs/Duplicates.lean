import PageRoutes.Proofs.TreeOfFiles

/-!
# Two ways with second files for a route

Where the last file for a route wins, every list of files below the root has a tree, and it is the
tree of a list without second files: each route keeps the place of its first file and shows its
last one.

* `putAll_lastOfEach` — a page that takes over a route changes the draft nowhere else.
* `addFiles_lastWins` — a run notes every replacement, with the file that was there before.
* `ofFiles_lastWins_refines` — what that means for trees and for the log.
-/

namespace PageRoutes

open Route Occurrence

/-! ## The log -/

/-- The entry for a view file whose route has one of the earlier files. -/
def replacement? (key : String → List String) (earlierFiles : List String) (file : String) :
    Option LogEntry :=
  (lastWith? key (key file) earlierFiles).map fun earlier =>
    .routeReplaced ((key file).getLastD rootPath) earlier file

/-- The entries for a list of view files: one for each file whose route has an earlier file, with
the nearest of these. -/
def replacements (key : String → List String) (files : List String) : List LogEntry :=
  (List.range files.length).filterMap fun i => files[i]?.bind (replacement? key (files.take i))

theorem replacements_concat (key : String → List String) (files : List String) (file : String) :
    replacements key (files ++ [file])
      = replacements key files ++ (replacement? key files file).toList := by
  rw [replacements, List.length_append, List.length_singleton, List.range_succ,
    List.filterMap_append]
  congr 1
  · -- The entry of a file depends only on the files up to it.
    apply List.filterMap_congr
    intro i hi
    have hlt : i < files.length := List.mem_range.mp hi
    rw [List.getElem?_append_left hlt, List.take_append_of_le_length (Nat.le_of_lt hlt)]
  · cases h : replacement? key files file <;> simp [h]

/-- Nothing is replaced exactly if the keys are distinct. -/
theorem replacements_eq_nil_iff {key : String → List String} {files : List String} :
    replacements key files = [] ↔ (files.map key).Nodup := by
  induction files using List.reverseRecOn with
  | nil => simp [replacements]
  | append_singleton files file ih =>
    rw [replacements_concat, List.append_eq_nil_iff, ih, nodup_map_concat, and_comm,
      Option.toList_eq_nil_iff, replacement?, Option.map_eq_none_iff, lastWith?_eq_none_iff]

/-! ## Drafts -/

namespace Draft

/-- A page that takes over a key stands where the page before it stood. -/
theorem put_putAll {entry : Keyed Page} {entries : List (Keyed Page)} (hkey : entry.key ≠ [])
    (hnd : (entries.map Keyed.key).Nodup) (hmem : entry.key ∈ entries.map Keyed.key) :
    put entry.value entry.key (putAll entries)
      = putAll (entries.map fun e => if e.key = entry.key then entry else e) := by
  induction entries using List.reverseRecOn with
  | nil => simp at hmem
  | append_singleton entries last ih =>
    obtain ⟨hlast, hnd⟩ := nodup_map_concat.mp hnd
    rw [List.map_append, List.map_singleton, putAll_concat, putAll_concat]
    by_cases he : last.key = entry.key
    · -- The page before it came last, so it is simply overwritten.
      have hkept : (entries.map fun e => if e.key = entry.key then entry else e)
          = entries.map id := by
        apply List.map_congr_left
        intro e hmem
        apply if_neg
        intro hek
        exact hlast (List.mem_map.mpr ⟨e, hmem, hek.trans he.symm⟩)
      rw [if_pos he, he, put_put_self, hkept, List.map_id]
    · rw [List.map_append, List.mem_append, List.map_singleton, List.mem_singleton] at hmem
      have hmem' : entry.key ∈ entries.map Keyed.key := hmem.resolve_right (Ne.symm he)
      rw [if_neg he, ← ih hnd hmem']
      apply put_comm (Ne.symm he)
      rw [page?_putAll hkey, ne_eq, Option.map_eq_none_iff, lastWith?_eq_none_iff]
      exact fun h => h hmem'

/-- **Only the last page at each key matters, and only the place of the first.** -/
theorem putAll_lastOfEach {entries : List (Keyed Page)}
    (hkeys : ∀ entry ∈ entries, entry.key ≠ []) :
    putAll (lastOfEach Keyed.key entries) = putAll entries := by
  induction entries using List.reverseRecOn with
  | nil => rfl
  | append_singleton entries entry ih =>
    have hkey : entry.key ≠ [] := hkeys entry (by simp)
    have ih := ih fun e he => hkeys e (List.mem_append_left _ he)
    rw [lastOfEach_concat, putAll_concat]
    split
    · next hmem =>
      rw [← put_putAll hkey (nodup_map_key_lastOfEach _ _) (mem_map_key_lastOfEach.mpr hmem), ih]
    · rw [putAll_concat, ih]

section

variable {cwd : Address} {root : String} {extensions : List String}

theorem putAll_entriesOf_lastOfEach {files : List String}
    (h : ∀ file ∈ files, LiesBelow cwd root file) :
    putAll (entriesOf cwd root extensions (lastOfEach (keyOf cwd root extensions) files))
      = putAll (entriesOf cwd root extensions files) := by
  rw [← putAll_lastOfEach fun entry he => key_ne_nil_of_mem_entriesOf cwd root extensions h he,
    entriesOf, entriesOf, lastOfEach_map]
  rfl

/-- One step where the last file wins. -/
theorem addFile_lastWins {files : List String} {file : String} (h : LiesBelow cwd root file) :
    addFile cwd root extensions .lastWins file (putAll (entriesOf cwd root extensions files))
      = ⟨(replacement? (keyOf cwd root extensions) files file).toList,
          .ok (putAll (entriesOf cwd root extensions (files ++ [file])))⟩ := by
  have hpage : page? (keyOf cwd root extensions file)
      (putAll (entriesOf cwd root extensions files)) = _ := page?_putAll_entriesOf h files
  rw [addFile_of_liesBelow h, entriesOf_concat, putAll_concat, replacement?]
  cases hl : lastWith? (keyOf cwd root extensions) (keyOf cwd root extensions file) files with
  | none =>
    rw [hl, Option.map_none] at hpage
    rw [add_of_free hpage]
    rfl
  | some earlier =>
    rw [hl, Option.map_some] at hpage
    rw [add_lastWins_of_taken hpage]
    rfl

/-- **A run where the last file wins.** -/
theorem addFiles_lastWins {files : List String} (h : ∀ file ∈ files, LiesBelow cwd root file) :
    addFiles cwd root extensions .lastWins files []
      = ⟨replacements (keyOf cwd root extensions) files,
          .ok (putAll (entriesOf cwd root extensions files))⟩ := by
  induction files using List.reverseRecOn with
  | nil => rfl
  | append_singleton files file ih =>
    have hfiles : ∀ f ∈ files, LiesBelow cwd root f :=
      fun f hf => h f (List.mem_append_left _ hf)
    rw [addFiles_concat, replacements_concat]
    exact Outcome.bind_of_ok (ih hfiles) (addFile_lastWins (h file (by simp)))

end

end Draft

/-! ## Trees -/

namespace RouteTree

variable {cwd : Address} {root : String} {extensions usable : List String}

theorem ofFiles_lastWins (h : usableExtensions root extensions = .ok usable) {files : List String}
    (hbelow : ∀ file ∈ files, LiesBelow cwd root file) :
    ofFiles cwd { root, extensions, onDuplicate := DuplicatePolicy.lastWins.name } files
      = ⟨replacements (keyOf cwd root usable) files,
          .ok (group (fileViews cwd root usable files))⟩ := by
  rw [ofFiles_eq h, Draft.addFiles_lastWins hbelow, ← toTree_putAll_entriesOf]
  simp [Outcome.bind, Outcome.pure]

/-- The grouping of files shows the last file of each route in the place of the first. -/
theorem group_fileViews_lastOfEach {files : List String}
    (hbelow : ∀ file ∈ files, LiesBelow cwd root file) :
    group (fileViews cwd root usable (lastOfEach (keyOf cwd root usable) files))
      = group (fileViews cwd root usable files) := by
  rw [← toTree_putAll_entriesOf, ← toTree_putAll_entriesOf,
    Draft.putAll_entriesOf_lastOfEach hbelow]

/--
**Where the last file for a route wins, the tree is one without second files.**

It is the tree that the list with the last file of each route, in the place of the first, has where
second files are refused. The log has an entry for every file whose route has an earlier file. So
second files are refused exactly where something would be logged.
-/
theorem ofFiles_lastWins_refines (cwd : Address)
    (h : usableExtensions root extensions = .ok usable) {files : List String}
    (hbelow : ∀ file ∈ files, LiesBelow cwd root file) :
    let build (policy : DuplicatePolicy) :=
      ofFiles cwd { root, extensions, onDuplicate := policy.name }
    let key := keyOf cwd root usable
    (∃ tree, build .lastWins files = ⟨replacements key files, .ok tree⟩
        ∧ (build .refuse (lastOfEach key files)).result = .ok tree)
      ∧ ((∃ tree, (build .refuse files).result = .ok tree) ↔ (build .lastWins files).log = [])
      ∧ ∀ tree, (build .refuse files).result = .ok tree →
          (build .lastWins files).result = .ok tree := by
  intro build key
  have hlast : build .lastWins files
      = ⟨replacements key files, .ok (group (fileViews cwd root usable files))⟩ :=
    ofFiles_lastWins h hbelow
  have hrefuse : ∀ {files tree}, (build .refuse files).result = .ok tree ↔ _ :=
    result_ofFiles_refuse_eq_ok_iff h
  refine ⟨⟨_, hlast, ?_⟩, ?_, ?_⟩
  · rw [hrefuse, group_fileViews_lastOfEach hbelow]
    exact ⟨fun file hf => hbelow file (mem_of_mem_lastOfEach hf), nodup_map_key_lastOfEach _ _, rfl⟩
  · rw [hlast, replacements_eq_nil_iff]
    constructor
    · rintro ⟨tree, htree⟩
      exact (hrefuse.mp htree).2.1
    · intro hnd
      exact ⟨_, hrefuse.mpr ⟨hbelow, hnd, rfl⟩⟩
  · intro tree htree
    rw [hlast, (hrefuse.mp htree).2.2]

/-- Three spellings of one route, with another route between them. -/
theorem ofFiles_lastWins_three :
    let files := ["pages/a/index.tsx", "pages/b.tsx", "pages/a.jsx", "./pages/a.tsx"]
    let build (policy : DuplicatePolicy) :=
      ofFiles ["w"] { root := "pages", extensions := ["tsx", "jsx"], onDuplicate := policy.name }
    usableExtensions "pages" ["tsx", "jsx"] = .ok ["tsx", "jsx"]
      ∧ (∀ file ∈ files, LiesBelow ["w"] "pages" file)
      ∧ ∃ tree,
        build .lastWins files
          = ⟨[.routeReplaced "/a" "pages/a/index.tsx" "pages/a.jsx",
              .routeReplaced "/a" "pages/a.jsx" "./pages/a.tsx"], .ok tree⟩
        ∧ (build .refuse ["./pages/a.tsx", "pages/b.tsx"]).result = .ok tree := by
  intro files build
  have husable : usableExtensions "pages" ["tsx", "jsx"] = .ok ["tsx", "jsx"] := by decide
  have hbelow : ∀ file ∈ files, LiesBelow ["w"] "pages" file := by
    intro file hfile
    simp only [files, List.mem_cons, List.not_mem_nil, or_false] at hfile
    rcases hfile with rfl | rfl | rfl | rfl
    · exact ⟨by decide, "a", ["index.tsx"], by decide, by cbv⟩
    · exact ⟨by decide, "b.tsx", [], by decide, by cbv⟩
    · exact ⟨by decide, "a.jsx", [], by decide, by cbv⟩
    · exact ⟨by decide, "a.tsx", [], by decide, by cbv⟩
  obtain ⟨tree, hlast, hrefuse⟩ := (ofFiles_lastWins_refines ["w"] husable hbelow).1
  have hlog : replacements (keyOf ["w"] "pages" ["tsx", "jsx"]) files
      = [.routeReplaced "/a" "pages/a/index.tsx" "pages/a.jsx",
          .routeReplaced "/a" "pages/a.jsx" "./pages/a.tsx"] := by decide +kernel
  have hleft : lastOfEach (keyOf ["w"] "pages" ["tsx", "jsx"]) files
      = ["./pages/a.tsx", "pages/b.tsx"] := by decide +kernel
  rw [hlog] at hlast
  rw [hleft] at hrefuse
  exact ⟨husable, hbelow, tree, hlast, hrefuse⟩

end RouteTree

end PageRoutes
