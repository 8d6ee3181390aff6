import PageRoutes.Proofs.CompiledTree
import PageRoutes.RoutesModule

/-!
# Paths of siblings

In a tree of view files no two siblings have the same path. A route object shows the path without
its slash, and behind the tree may stand the route for unmatched addresses, whose path has none.

* `objectPath_injOn` — no two paths of view files lose their difference with the slash.
* `IsSiblings.of_group` — what is nested in a grouping is a grouping of the given values, under ends
  of their keys.
* `ofFiles_distinct_siblings_iff` — the route objects of a tree have distinct paths among siblings,
  and with the route for unmatched addresses just if no top route has a path that is shown as `*`.
-/

namespace PageRoutes

open Text Route RoutesModule

/-! ## Segments -/

namespace Route

/-- The colon form of a text holds nothing but its characters and colons. -/
theorem mem_colonChars {c : Char} {cs : List Char} (h : c ∈ colonChars cs) : c = ':' ∨ c ∈ cs := by
  induction cs using colonChars.induct with
  | case1 => exact absurd (colonChars_nil ▸ h) List.not_mem_nil
  | case2 cs name rest htoken ih =>
    rw [colonChars_of_token htoken, List.mem_cons, List.mem_append] at h
    rw [(takeToken_eq_some htoken).1]
    rcases h with rfl | hname | hrest
    · exact .inl rfl
    · exact .inr (by simp [hname])
    · exact (ih hrest).imp_right fun hmem => by simp [hmem]
  | case3 cs htoken ih =>
    rw [colonChars_of_no_token htoken, List.mem_cons] at h
    rcases h with rfl | h
    · exact .inr List.mem_cons_self
    · exact (ih h).imp_right (List.mem_cons_of_mem _)
  | case4 d cs hd ih =>
    rw [colonChars_of_ne hd, List.mem_cons] at h
    rcases h with rfl | h
    · exact .inr List.mem_cons_self
    · exact (ih h).imp_right (List.mem_cons_of_mem _)

/-- No segment holds a slash. -/
theorem slash_not_mem_of_mem_segments {path segment : String} (h : segment ∈ segments path) :
    '/' ∉ segment.toList := by
  obtain ⟨piece, hpiece, rfl⟩ := List.mem_map.mp h
  obtain ⟨cs, hcs, rfl⟩ := List.mem_map.mp hpiece
  rw [colonSegment, String.toList_ofList, String.toList_ofList]
  intro hmem
  rcases mem_colonChars hmem with hcolon | hslash
  · exact absurd hcolon (by decide)
  · exact not_mem_of_mem_splitChars hcs hslash

/-- A path with one slash, the first character. -/
def IsSlashed (path : String) : Prop :=
  ∃ name, '/' ∉ name ∧ path.toList = '/' :: name

theorem isSlashed_pathOfSegment {segment : String} (h : '/' ∉ segment.toList) :
    IsSlashed (pathOfSegment segment) := by
  unfold pathOfSegment
  split
  · exact ⟨[], List.not_mem_nil, rfl⟩
  · exact ⟨segment.toList, h, by rw [String.toList_append]; rfl⟩

/-- The paths in the key of a view file have one slash each. -/
theorem isSlashed_of_mem_keyOf {cwd : Address} {root file path : String}
    {extensions : List String} (hbelow : LiesBelow cwd root file)
    (h : path ∈ keyOf cwd root extensions file) : IsSlashed path := by
  obtain ⟨located, hlocated⟩ := location_isOk_iff.mpr hbelow
  rw [keyOf_eq_key hlocated] at h
  obtain ⟨segment, hsegment, rfl⟩ := mem_key h
  exact isSlashed_pathOfSegment (slash_not_mem_of_mem_segments hsegment)

end Route

/-! ## Paths of route objects -/

namespace RoutesModule

/-- A path with one slash loses it, unless it is nothing else. -/
theorem toList_objectPath {path : String} {name : List Char} (h : path.toList = '/' :: name) :
    (objectPath path).toList = if name = [] then ['/'] else name := by
  unfold objectPath
  by_cases hroot : path = rootPath
  · subst hroot
    obtain rfl : name = [] := (List.cons.inj h).2.symm
    rfl
  · have hname : name ≠ [] := by
      rintro rfl
      exact hroot (String.toList_injective h)
    rw [if_neg hroot, if_neg hname, h]
    exact String.toList_ofList

/-- **No two paths of view files lose their difference with the slash.** -/
theorem objectPath_injOn {path other : String} (hpath : IsSlashed path) (hother : IsSlashed other)
    (h : objectPath path = objectPath other) : path = other := by
  obtain ⟨name, hname, htext⟩ := hpath
  obtain ⟨name', hname', htext'⟩ := hother
  have hlists := congrArg String.toList h
  rw [toList_objectPath htext, toList_objectPath htext'] at hlists
  refine String.toList_injective ?_
  rw [htext, htext']
  split at hlists
  · next hnil =>
    split at hlists
    · next hnil' => rw [hnil, hnil']
    · -- A name is not the slash that is left of the path of a top route.
      exact absurd (hlists ▸ List.mem_cons_self) hname'
  · split at hlists
    · exact absurd (hlists ▸ List.mem_cons_self) hname
    · rw [hlists]

/-- The path of a view file that is shown as the one for unmatched addresses. -/
theorem objectPath_eq_catchAllPath_iff {path : String} (h : IsSlashed path) :
    objectPath path = objectPath catchAllPath ↔ path = "/*" := by
  constructor
  · intro heq
    exact objectPath_injOn h ⟨['*'], by decide, rfl⟩ (heq.trans (by decide))
  · rintro rfl
    decide

end RoutesModule

/-! ## Siblings -/

/-- The lists of siblings in a tree: its top routes, and the routes that are nested in one of
them. -/
inductive IsSiblings (tree : RouteTree) : RouteTree → Prop
  | top : IsSiblings tree tree
  | nested {siblings : RouteTree} {route : Route} : IsSiblings tree siblings → route ∈ siblings →
      IsSiblings tree route.children

/-- The paths in the route objects of siblings are distinct. -/
def HasDistinctPaths (siblings : RouteTree) : Prop :=
  (siblings.map fun route => objectPath route.path).Nodup

namespace RouteTree

open Keyed

theorem map_path_group (entries : List (Keyed String)) :
    (group entries).map Route.path = heads entries := by
  rw [group_eq, List.map_map]
  exact List.map_id _

end RouteTree

namespace IsSiblings

open Keyed RouteTree

/-- **What is nested in a grouping is a grouping** of given values, each under an end of its key. -/
theorem of_group {entries : List (Keyed String)} {siblings : RouteTree}
    (h : IsSiblings (group entries) siblings) :
    ∃ nested, siblings = group nested ∧
      ∀ entry ∈ nested, ∃ whole ∈ entries, entry.key <:+ whole.key ∧
        entry.value = whole.value := by
  induction h with
  | top => exact ⟨entries, rfl, fun entry hentry => ⟨entry, hentry, List.suffix_refl _, rfl⟩⟩
  | nested hsiblings hroute ih =>
    obtain ⟨nested, rfl, hnested⟩ := ih
    rw [group_eq] at hroute
    obtain ⟨head, -, rfl⟩ := List.mem_map.mp hroute
    refine ⟨deeper (under head nested), children_mk_ofList? _ _ _, ?_⟩
    intro entry hentry
    obtain ⟨longer, hlonger, hkey, hvalue⟩ := exists_of_mem_under (List.mem_filter.mp hentry).1
    obtain ⟨whole, hwhole, hend, hwholeValue⟩ := hnested longer hlonger
    refine ⟨whole, hwhole, ?_, hvalue.symm.trans hwholeValue⟩
    exact (hkey ▸ List.suffix_cons _ _ : entry.key <:+ longer.key).trans hend

/-- The route for unmatched addresses has nothing nested in it, and the others have what they have
without it. -/
theorem children_of_withNotFound {tree siblings : RouteTree} {view : String}
    (h : IsSiblings (tree.withNotFound view) siblings) :
    ∀ route ∈ siblings, route.children = [] ∨ IsSiblings tree route.children := by
  induction h with
  | top =>
    intro route hroute
    rcases List.mem_append.mp hroute with htree | hlast
    · exact .inr (.nested .top htree)
    · obtain rfl := List.mem_singleton.mp hlast
      exact .inl rfl
  | nested hsiblings hroute ih =>
    intro below hbelow
    rcases ih _ hroute with hnil | hnested
    · exact absurd (hnil ▸ hbelow) List.not_mem_nil
    · exact .inr (.nested hnested hbelow)

end IsSiblings

namespace RouteTree

open Keyed

section

variable {entries : List (Keyed String)}
  (hentries : ∀ entry ∈ entries, ∀ path ∈ entry.key, IsSlashed path)
include hentries

theorem isSlashed_of_mem_heads {path : String} (h : path ∈ heads entries) : IsSlashed path := by
  obtain ⟨entry, hentry, hkey⟩ := exists_of_mem_heads h
  exact hentries entry hentry path hkey

/-- In a grouping of paths with one slash the top routes are shown with distinct paths. -/
theorem hasDistinctPaths_group : HasDistinctPaths (group entries) := by
  have hmap : ((group entries).map fun route => objectPath route.path)
      = (heads entries).map objectPath := by
    rw [← map_path_group, List.map_map]
    rfl
  rw [HasDistinctPaths, hmap]
  exact (nodup_heads entries).map_on fun path hpath other hother heq =>
    objectPath_injOn (isSlashed_of_mem_heads hentries hpath)
      (isSlashed_of_mem_heads hentries hother) heq

/-- So are the routes that are nested in one of them. -/
theorem hasDistinctPaths_of_isSiblings_group {siblings : RouteTree}
    (h : IsSiblings (group entries) siblings) : HasDistinctPaths siblings := by
  obtain ⟨nested, rfl, hnested⟩ := h.of_group
  refine hasDistinctPaths_group fun entry hentry path hpath => ?_
  obtain ⟨whole, hwhole, hend, -⟩ := hnested entry hentry
  exact hentries whole hwhole path (hend.mem hpath)

/-- One more top route has a path of its own unless a top route is shown as `*` already. -/
theorem hasDistinctPaths_withNotFound_group_iff {view : String} :
    HasDistinctPaths ((group entries).withNotFound view)
      ↔ ∀ route ∈ group entries, route.path ≠ "/*" := by
  have hslashed : ∀ route ∈ group entries, IsSlashed route.path := fun route hroute =>
    isSlashed_of_mem_heads hentries (map_path_group entries ▸ List.mem_map_of_mem hroute)
  have hmap : (((group entries).withNotFound view).map fun route => objectPath route.path)
      = ((group entries).map fun route => objectPath route.path) ++ [objectPath catchAllPath] :=
    List.map_append
  rw [HasDistinctPaths, hmap, ← List.concat_eq_append, List.nodup_concat, List.mem_map]
  constructor
  · rintro ⟨hlast, -⟩ route hroute hpath
    exact hlast ⟨route, hroute, (objectPath_eq_catchAllPath_iff (hslashed route hroute)).mpr hpath⟩
  · intro hnone
    refine ⟨?_, hasDistinctPaths_group hentries⟩
    rintro ⟨route, hroute, hpath⟩
    exact hnone route hroute ((objectPath_eq_catchAllPath_iff (hslashed route hroute)).mp hpath)

end

/--
**Sibling route objects have distinct paths**, with one exception.

Take a tree of view files, under any policy, with or without the route for unmatched addresses
behind it. Routes that are nested in a route always have distinct paths in their route objects. So
have the top routes, unless there is a route for unmatched addresses and beside it one for a file
or a directory named `*`: the two are shown alike.
-/
theorem ofFiles_distinct_siblings_iff {cwd : Address} {options : TreeOptions} {files : List String}
    {tree : RouteTree} (h : (ofFiles cwd options files).result = .ok tree)
    (notFound : Option String) :
    let whole := notFound.elim tree tree.withNotFound
    ((∀ siblings, IsSiblings whole siblings → HasDistinctPaths siblings)
        ↔ notFound = none ∨ ∀ route ∈ tree, route.path ≠ "/*") ∧
      ∀ siblings, IsSiblings whole siblings → ∀ route ∈ siblings,
        HasDistinctPaths route.children := by
  intro whole
  obtain ⟨usable, hbelow, rfl⟩ := eq_group_of_ofFiles h
  have hentries : ∀ entry ∈ fileViews cwd options.root usable files,
      ∀ path ∈ entry.key, IsSlashed path := by
    intro entry hentry path hpath
    obtain ⟨file, hfile, rfl⟩ := List.mem_map.mp hentry
    exact isSlashed_of_mem_keyOf (hbelow file hfile) hpath
  have hdistinct : ∀ siblings,
      IsSiblings (group (fileViews cwd options.root usable files)) siblings →
        HasDistinctPaths siblings := fun siblings => hasDistinctPaths_of_isSiblings_group hentries
  cases notFound with
  | none =>
    exact ⟨⟨fun _ => .inl rfl, fun _ => hdistinct⟩,
      fun siblings hsiblings route hroute => hdistinct _ (.nested hsiblings hroute)⟩
  | some view =>
    have hlast := @hasDistinctPaths_withNotFound_group_iff _ hentries view
    have hnested : ∀ siblings, IsSiblings whole siblings → ∀ route ∈ siblings,
        HasDistinctPaths route.children := by
      intro siblings hsiblings route hroute
      rcases hsiblings.children_of_withNotFound route hroute with hnil | htree
      · rw [hnil]
        exact List.nodup_nil
      · exact hdistinct _ htree
    refine ⟨⟨fun hall => .inr (hlast.mp (hall _ .top)), ?_⟩, hnested⟩
    intro hnone siblings hsiblings
    cases hsiblings with
    | top => exact hlast.mpr (hnone.resolve_left nofun)
    | nested hsiblings hroute => exact hnested _ hsiblings _ hroute

/-- In a directory below the pages root a file may be named `*`. -/
theorem ofFiles_distinct_siblings_blog :
    ∃ tree, (ofFiles ["w"] { root := "pages" }
        ["pages/index.tsx", "pages/blog/*.tsx", "pages/blog/index.tsx"]).result = .ok tree ∧
      ∀ siblings, IsSiblings (tree.withNotFound "pages/404.tsx") siblings →
        HasDistinctPaths siblings := by
  have husable : usableExtensions "pages" ["tsx", "jsx"] = .ok ["tsx", "jsx"] := by decide
  have hviews : fileViews ["w"] "pages" ["tsx", "jsx"]
      ["pages/index.tsx", "pages/blog/*.tsx", "pages/blog/index.tsx"]
      = [⟨["/"], "pages/index.tsx"⟩, ⟨["/blog", "/*"], "pages/blog/*.tsx"⟩,
        ⟨["/blog"], "pages/blog/index.tsx"⟩] := by decide +kernel
  have hbuilt : (ofFiles ["w"] { root := "pages" }
      ["pages/index.tsx", "pages/blog/*.tsx", "pages/blog/index.tsx"]).result
      = .ok [.mk "/" (some "pages/index.tsx") none, .mk "/blog" (some "pages/blog/index.tsx")
          (some [.mk "/*" (some "pages/blog/*.tsx") none])] := by
    refine (result_ofFiles_refuse_eq_ok_iff husable).mpr ⟨by decide +kernel, ?_, ?_⟩
    · rw [← map_key_fileViews, hviews]
      decide
    · rw [hviews]
      rfl
  refine ⟨_, hbuilt, (ofFiles_distinct_siblings_iff hbuilt (some "pages/404.tsx")).1.mpr ?_⟩
  refine .inr fun route hroute => ?_
  simp only [List.mem_cons, List.not_mem_nil, or_false] at hroute
  rcases hroute with rfl | rfl
  · show "/" ≠ "/*"
    decide
  · show "/blog" ≠ "/*"
    decide

/-- At the top a file named `*` is shown like the route for unmatched addresses. -/
theorem ofFiles_siblings_alike :
    ∃ tree, (ofFiles ["w"] { root := "pages" } ["pages/*.tsx"]).result = .ok tree ∧
      ((tree.withNotFound "pages/404.tsx").map fun route => objectPath route.path) = ["*", "*"] ∧
      ¬HasDistinctPaths (tree.withNotFound "pages/404.tsx") := by
  have husable : usableExtensions "pages" ["tsx", "jsx"] = .ok ["tsx", "jsx"] := by decide
  have hviews : fileViews ["w"] "pages" ["tsx", "jsx"] ["pages/*.tsx"]
      = [⟨["/*"], "pages/*.tsx"⟩] := by decide +kernel
  have hbuilt : (ofFiles ["w"] { root := "pages" } ["pages/*.tsx"]).result
      = .ok [.mk "/*" (some "pages/*.tsx") none] := by
    refine (result_ofFiles_refuse_eq_ok_iff husable).mpr ⟨by decide +kernel, by decide, ?_⟩
    rw [hviews]
    rfl
  have hshown : ((RouteTree.withNotFound [.mk "/*" (some "pages/*.tsx") none] "pages/404.tsx").map
      fun route => objectPath route.path) = ["*", "*"] := by decide
  refine ⟨_, hbuilt, hshown, ?_⟩
  rw [HasDistinctPaths, hshown]
  decide

end RouteTree

end PageRoutes
