import PageRoutes.Proofs.DiscoveredFiles
import PageRoutes.Proofs.NestedPaths
import PageRoutes.Proofs.PrunedTrees

/-!
# The routes of a built tree

What holds of every route in a tree of view files, at any depth and under any policy. Each part of
it comes from another step on the way from a file to its route.

* `backslash_not_mem_of_mem_keyOf` — from slashes, extensions and brackets no backslash is left in
  the path of a route.
* `isView_of_liesBelow` — the view of a file has slashes only, none at its ends, and is not empty
  unless the file is.
* `of_mem_group` — a route of a grouping has a view or something nested in it, and shows a given
  value.
* `ofFiles_siblings_wellFormed` — all of it, for every list of siblings in the tree.
-/

namespace PageRoutes

open Text Route

/-- The list of nested routes that a route holds, if it holds one. -/
def Route.nested : Route → Option RouteTree
  | .mk _ _ nested => nested

/-! ## Paths -/

namespace Route

variable {cwd : Address} {root file : String} {extensions : List String}

/-- Taking off an extension leaves no other characters than there were. -/
theorem stripChars_sublist (extensions : List String) (cs : List Char) :
    (stripChars extensions cs).Sublist cs := by
  induction cs with
  | nil => exact .slnil
  | cons c cs ih =>
    rw [stripChars]
    split
    · next rest hrest =>
      split at hrest
      · obtain ⟨extension, -, hending⟩ := List.exists_of_findSome?_eq_some hrest
        obtain ⟨hbegin, -⟩ := Option.filter_eq_some_iff.mp hending
        obtain rfl := List.isPrefixOf?_eq_some_iff_append_eq.mp hbegin
        exact (List.sublist_append_right _ _).cons _
      · cases hrest
    · exact ih.cons_cons _

theorem backslash_not_mem_of_mem_segments {path segment : String} (hpath : '\\' ∉ path.toList)
    (h : segment ∈ segments path) : '\\' ∉ segment.toList := by
  obtain ⟨piece, hpiece, rfl⟩ := List.mem_map.mp h
  obtain ⟨cs, hcs, rfl⟩ := List.mem_map.mp hpiece
  rw [colonSegment, String.toList_ofList, String.toList_ofList]
  intro hmem
  rcases mem_colonChars hmem with hcolon | hback
  · exact absurd hcolon (by decide)
  · exact hpath (mem_of_mem_splitChars hcs hback)

theorem backslash_not_mem_pathOfSegment {segment : String} (h : '\\' ∉ segment.toList) :
    '\\' ∉ (pathOfSegment segment).toList := by
  unfold pathOfSegment
  split
  · decide
  · rw [String.toList_append, List.mem_append, not_or]
    exact ⟨by decide, h⟩

/-- No path in the key of a view file holds a backslash. -/
theorem backslash_not_mem_of_mem_keyOf {path : String} (hbelow : LiesBelow cwd root file)
    (h : path ∈ keyOf cwd root extensions file) : '\\' ∉ path.toList := by
  obtain ⟨located, hlocated⟩ := location_isOk_iff.mpr hbelow
  rw [keyOf_eq_key hlocated] at h
  obtain ⟨segment, hsegment, rfl⟩ := mem_key h
  refine backslash_not_mem_pathOfSegment (backslash_not_mem_of_mem_segments ?_ hsegment)
  rw [stripExtension, String.toList_ofList]
  exact fun hmem => backslash_not_mem_location hlocated ((stripChars_sublist _ _).mem hmem)

/-! ## Views -/

/-- A path is normalised to nothing just if it is made of slashes and backslashes. -/
theorem normalizePath_eq_empty_iff {path : String} :
    normalizePath path = "" ↔ ∀ c ∈ path.toList, c = '/' ∨ c = '\\' := by
  rw [normalizePath, ← String.toList_eq_nil_iff, String.toList_ofList, dropBothWhile_eq_nil_iff,
    toList_forwardSlashes, List.forall_mem_map]
  refine forall₂_congr fun c _ => ?_
  by_cases hc : c = '\\'
  · simp [hc]
  · simp [hc]

/-- A path of slashes and backslashes leads to the root of the file system. -/
theorem resolve_of_slashes {path : String} (hne : path ≠ "")
    (h : ∀ c ∈ path.toList, c = '/' ∨ c = '\\') : (readPath path).resolve cwd = [] := by
  have hrooted : IsRooted path := by
    obtain ⟨c, cs, hcs⟩ := List.exists_cons_of_ne_nil (mt String.toList_eq_nil_iff.mp hne)
    rw [IsRooted, hcs]
    rcases h c (by rw [hcs]; exact List.mem_cons_self) with rfl | rfl
    · exact .inl rfl
    · exact .inr rfl
  rw [resolve_readPath, if_pos hrooted, List.eq_nil_iff_forall_not_mem]
  intro name hname
  rcases Address.mem_walk hname with hnil | ⟨hmem, hplain⟩
  · exact List.not_mem_nil hnil
  · obtain ⟨cs, hcs, rfl⟩ := List.mem_map.mp hmem
    obtain ⟨c, hc⟩ := List.exists_mem_of_ne_nil cs fun hnil => hplain.1 (by rw [hnil])
    -- A character of a piece is one of the path with slashes, and is none of them.
    have hpath := mem_of_mem_splitChars hcs hc
    rw [toList_forwardSlashes, List.mem_map] at hpath
    obtain ⟨d, hd, rfl⟩ := hpath
    refine not_mem_of_mem_splitChars hcs ?_
    rcases h d hd with rfl | rfl <;> exact hc

/-- The view that a list of files gives to a route: the normalised path of one of them. It holds no
backslash and has no slash at its ends, and only an empty path is normalised to nothing. -/
structure IsView (files : List String) (view : String) : Prop where
  file : ∃ file ∈ files, view = normalizePath file ∧ (view = "" → file = "")
  noBackslash : '\\' ∉ view.toList
  head : view.toList.head? ≠ some '/'
  last : view.toList.getLast? ≠ some '/'

/-- The path of a file below the root is a view. -/
theorem isView_of_liesBelow {files : List String} (hfile : file ∈ files)
    (hbelow : LiesBelow cwd root file) : IsView files (normalizePath file) where
  file := by
    refine ⟨file, hfile, rfl, fun hempty => ?_⟩
    by_contra hne
    obtain ⟨-, name, names, -, hway⟩ := hbelow
    rw [resolve_of_slashes hne (normalizePath_eq_empty_iff.mp hempty)] at hway
    exact List.cons_ne_nil _ _ (List.append_eq_nil_iff.mp hway.symm).2
  noBackslash := backslash_not_mem_normalizePath file
  head := by
    rw [normalizePath, String.toList_ofList]
    exact fun hhead => absurd (not_of_head?_dropBothWhile hhead) (by decide)
  last := by
    rw [normalizePath, String.toList_ofList]
    exact fun hlast => absurd (not_of_getLast?_dropBothWhile hlast) (by decide)

end Route

/-! ## Routes of a grouping -/

namespace Keyed

variable {α : Type} {entries : List (Keyed α)} {path : String} {value : α}

theorem exists_key_eq_of_mem_heads (h : path ∈ heads entries) :
    ∃ entry ∈ entries, ∃ rest, entry.key = path :: rest := by
  obtain ⟨entry, hentry, hhead⟩ := List.mem_filterMap.mp (List.mem_eraseDups.mp h)
  exact ⟨entry, hentry, List.head?_eq_some_iff.mp hhead⟩

theorem exists_of_here?_eq_some (h : here? entries = some value) :
    ∃ entry ∈ entries, entry.value = value := by
  obtain ⟨entry, hlast, hvalue⟩ := Option.map_eq_some_iff.mp h
  exact ⟨entry, (List.mem_filter.mp (List.mem_of_getLast? hlast)).1, hvalue⟩

/-- Among entries under a path there is one that is at its end, or one that goes on. -/
theorem here?_ne_none_or_deeper_ne_nil (h : path ∈ heads entries) :
    here? (under path entries) ≠ none ∨ deeper (under path entries) ≠ [] := by
  obtain ⟨entry, hentry, rest, hkey⟩ := exists_key_eq_of_mem_heads h
  by_cases hrest : rest = []
  · left
    have hmem : ⟨rest, entry.value⟩ ∈ (under path entries).filter fun entry => entry.key = [] := by
      refine List.mem_filter.mpr ⟨List.mem_filterMap.mpr ⟨entry, hentry, ?_⟩, by simpa using hrest⟩
      rw [below?, hkey]
      exact if_pos rfl
    rw [here?, Ne, Option.map_eq_none_iff, List.getLast?_eq_none_iff]
    exact List.ne_nil_of_mem hmem
  · exact .inr (List.ne_nil_of_mem (mem_deeper_under_of_key_eq hentry hkey hrest))

theorem heads_deeper_ne_nil (h : deeper entries ≠ []) : heads (deeper entries) ≠ [] := by
  obtain ⟨entry, hentry⟩ := List.exists_mem_of_ne_nil _ h
  have hkey : entry.key ≠ [] := by simpa using (List.mem_filter.mp hentry).2
  obtain ⟨path, rest, hcons⟩ := List.exists_cons_of_ne_nil hkey
  exact List.ne_nil_of_mem (mem_heads_of_key_eq hentry hcons)

end Keyed

namespace RouteTree

open Keyed

/-- **A route of a grouping** has the first path of a key, a view or something nested in it, no
empty list of nested routes, and a given value for its view. -/
theorem of_mem_group {entries : List (Keyed String)} {route : Route} (h : route ∈ group entries) :
    route.path ∈ heads entries ∧ route.nested ≠ some [] ∧
      (route.children = [] → route.view ≠ none) ∧
      ∀ view, route.view = some view → ∃ entry ∈ entries, entry.value = view := by
  rw [group_eq] at h
  obtain ⟨path, hpath, rfl⟩ := List.mem_map.mp h
  refine ⟨hpath, ofList?_ne_some_nil _, fun hleaf => ?_, fun view hview => ?_⟩
  · refine (here?_ne_none_or_deeper_ne_nil hpath).resolve_right fun hdeeper => ?_
    rw [children_mk_ofList?, group_eq, List.map_eq_nil_iff] at hleaf
    exact heads_deeper_ne_nil hdeeper hleaf
  · obtain ⟨entry, hentry, rfl⟩ := exists_of_here?_eq_some hview
    obtain ⟨whole, hwhole, -, hvalue⟩ := exists_of_mem_under hentry
    exact ⟨whole, hwhole, hvalue⟩

/-- A route as it stands in a tree of view files. -/
structure IsWellFormed (files : List String) (route : Route) : Prop where
  /-- Its path is one slash, and behind it a name without slashes and backslashes. -/
  path : ∃ name, '/' ∉ name ∧ '\\' ∉ name ∧ route.path.toList = '/' :: name
  /-- It holds no empty list of nested routes. -/
  nested : route.nested ≠ some []
  /-- It has a view if nothing is nested in it. -/
  shows : route.children = [] → route.view ≠ none
  /-- Its view comes from one of the files. -/
  view : ∀ view, route.view = some view → IsView files view

/--
**Every route of a built tree is well formed, and siblings have distinct paths.**

Take a tree of view files, under any policy, and a list of siblings in it, at the top or nested in a
route. No two of them have the same path. The path of each is one slash and a name without slashes
and backslashes. Each has a view or something nested in it, and its view is the normalised path of
one of the files, with slashes only and none at its ends. The view is empty only for the file with
the empty path, which is the current directory.
-/
theorem ofFiles_siblings_wellFormed {cwd : Address} {options : TreeOptions} {files : List String}
    {tree : RouteTree} (h : (ofFiles cwd options files).result = .ok tree) :
    ∀ siblings, IsSiblings tree siblings →
      (siblings.map Route.path).Nodup ∧ ∀ route ∈ siblings, IsWellFormed files route := by
  intro siblings hsiblings
  obtain ⟨hbelow, rfl⟩ := eq_group_normalized_of_ofFiles h
  obtain ⟨nested, rfl, hnested⟩ := hsiblings.of_group
  -- Each entry that is left has an end of the key of a file, and the view of that file.
  have hentries : ∀ entry ∈ nested, ∃ file ∈ files, LiesBelow cwd options.root file ∧
      (∀ path ∈ entry.key, path ∈ keyOf cwd options.root
        (normalizeExtensions options.extensions) file) ∧ entry.value = normalizePath file := by
    intro entry hentry
    obtain ⟨whole, hwhole, hend, hvalue⟩ := hnested entry hentry
    obtain ⟨file, hfile, rfl⟩ := List.mem_map.mp hwhole
    exact ⟨file, hfile, hbelow file hfile, fun path hpath => hend.mem hpath, hvalue⟩
  refine ⟨map_path_group nested ▸ nodup_heads nested, fun route hroute => ?_⟩
  obtain ⟨hpath, hlist, hshows, hview⟩ := of_mem_group hroute
  refine ⟨?_, hlist, hshows, fun view hsome => ?_⟩
  · obtain ⟨entry, hentry, hkey⟩ := exists_of_mem_heads hpath
    obtain ⟨file, -, hfile, hkeys, -⟩ := hentries entry hentry
    obtain ⟨name, hslash, htext⟩ := isSlashed_of_mem_keyOf hfile (hkeys _ hkey)
    refine ⟨name, hslash, fun hback => ?_, htext⟩
    refine backslash_not_mem_of_mem_keyOf hfile (hkeys _ hkey) ?_
    rw [htext]
    exact List.mem_cons_of_mem _ hback
  · obtain ⟨entry, hentry, rfl⟩ := hview view hsome
    obtain ⟨file, hmem, hfile, -, hvalue⟩ := hentries entry hentry
    rw [hvalue]
    exact isView_of_liesBelow hmem hfile

/-- A file is written with backslashes and brackets, and one stands for its directory. -/
theorem ofFiles_siblings_wellFormed_blog :
    ∃ tree, (ofFiles ["w"] { root := "pages" }
        ["pages\\blog\\[slug].tsx", "./pages/blog/index.tsx"]).result = .ok tree ∧
      IsWellFormed ["pages\\blog\\[slug].tsx", "./pages/blog/index.tsx"]
        (.mk "/:slug" (some "pages/blog/[slug].tsx") none) := by
  have husable : usableExtensions "pages" ["tsx", "jsx"] = .ok ["tsx", "jsx"] := by decide
  have hviews : fileViews ["w"] "pages" ["tsx", "jsx"]
      ["pages\\blog\\[slug].tsx", "./pages/blog/index.tsx"]
      = [⟨["/blog", "/:slug"], "pages/blog/[slug].tsx"⟩,
        ⟨["/blog"], "./pages/blog/index.tsx"⟩] := by decide +kernel
  have hbuilt : (ofFiles ["w"] { root := "pages" }
      ["pages\\blog\\[slug].tsx", "./pages/blog/index.tsx"]).result
      = .ok [.mk "/blog" (some "./pages/blog/index.tsx")
          (some [.mk "/:slug" (some "pages/blog/[slug].tsx") none])] := by
    refine (result_ofFiles_refuse_eq_ok_iff husable).mpr ⟨by decide +kernel, ?_, ?_⟩
    · rw [← map_key_fileViews, hviews]
      decide
    · rw [hviews]
      rfl
  have hnested := (ofFiles_siblings_wellFormed hbuilt _
    (.nested .top (List.mem_singleton_self _))).2
  exact ⟨_, hbuilt, hnested _ (List.mem_singleton_self _)⟩

/-- The current directory lies below its parent, and its path is empty. -/
theorem ofFiles_emptyView :
    ∃ tree, (∀ name ∈ ["work", "app"], '\\' ∉ name.toList) ∧
      (ofFiles ["work", "app"] { root := ".." } [""]).result = .ok tree ∧
      ∃ siblings, IsSiblings tree siblings ∧ ∃ route ∈ siblings, route.view = some "" := by
  have husable : usableExtensions ".." ["tsx", "jsx"] = .ok ["tsx", "jsx"] := by decide
  have hviews : fileViews ["work", "app"] ".." ["tsx", "jsx"] [""] = [⟨["/app"], ""⟩] := by
    decide +kernel
  have hbuilt : (ofFiles ["work", "app"] { root := ".." } [""]).result
      = .ok [.mk "/app" (some "") none] := by
    refine (result_ofFiles_refuse_eq_ok_iff husable).mpr ⟨by decide +kernel, by decide, ?_⟩
    rw [hviews]
    rfl
  exact ⟨_, by decide, hbuilt, _, .top, _, List.mem_singleton_self _, rfl⟩

end RouteTree

end PageRoutes
