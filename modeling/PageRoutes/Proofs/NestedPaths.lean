import PageRoutes.Proofs.SiblingPaths

/-!
# Paths of nested route objects

A route object shows the path of its route without the slash, so that the path of a nested one
counts from the route above it. The path that is nothing but the slash is shown as it is, at every
depth.

* `exists_nested_visit_iff` — what is nested in a grouping stands in a key, behind its first path.
* `rootPath_mem_tail_key_iff` — the segments that lead to the slash alone, below the top.
* `ofFiles_nested_paths` — a nested route object has a path that starts with a slash just if its
  route has the slash for its path, and which files lead to such a route.
-/

namespace PageRoutes

open Text Route RoutesModule

/-! ## Segments that stand for the slash -/

namespace Route

theorem pathOfSegment_eq_rootPath_iff {segment : String} :
    pathOfSegment segment = rootPath ↔ segment = indexName ∨ segment = "" := by
  unfold pathOfSegment
  split
  · next h => exact iff_of_true rfl (.inl h)
  · next h =>
    have hslash : ("/" ++ segment).toList = '/' :: segment.toList := by
      rw [String.toList_append]
      rfl
    have hroot : rootPath.toList = ['/'] := rfl
    rw [← String.toList_inj, hslash, hroot, List.cons.injEq, String.toList_eq_nil_iff]
    exact ⟨fun hempty => .inr hempty.2, fun hempty => ⟨rfl, hempty.resolve_left h⟩⟩

/-- Among the segments is `index`, with more behind it, or an empty one. -/
def HasSlashSegment (segments : List String) : Prop :=
  ∃ before segment after, segments = before ++ segment :: after ∧
    (segment = indexName ∧ after ≠ [] ∨ segment = "")

theorem hasSlashSegment_cons_iff {segment : String} {rest : List String} :
    HasSlashSegment (segment :: rest)
      ↔ (segment = indexName ∧ rest ≠ [] ∨ segment = "") ∨ HasSlashSegment rest := by
  constructor
  · rintro ⟨_ | ⟨first, before⟩, other, after, heq, hother⟩
    · obtain ⟨rfl, rfl⟩ := List.cons.inj heq
      exact .inl hother
    · obtain ⟨rfl, rfl⟩ := List.cons.inj heq
      exact .inr ⟨before, other, after, rfl, hother⟩
  · rintro (hfirst | ⟨before, other, after, rfl, hother⟩)
    · exact ⟨[], segment, rest, rfl, hfirst⟩
    · exact ⟨segment :: before, other, after, rfl, hother⟩

/-- Behind the first path of a key the slash stands for a segment behind the first one. -/
theorem rootPath_mem_tail_key_iff {segments : List String} :
    rootPath ∈ (key segments).tail ↔ HasSlashSegment segments.tail := by
  cases segments with
  | nil =>
    refine iff_of_false List.not_mem_nil ?_
    rintro ⟨before, segment, after, heq, -⟩
    simp at heq
  | cons first rest =>
    rw [key, List.tail_cons, List.tail_cons]
    induction rest with
    | nil =>
      refine iff_of_false (by decide) ?_
      rintro ⟨before, segment, after, heq, -⟩
      simp at heq
    | cons segment rest ih =>
      rw [hasSlashSegment_cons_iff, ← ih]
      by_cases hfinal : segment :: rest = [indexName]
      · obtain ⟨rfl, rfl⟩ := List.cons.inj hfinal
        decide
      · rw [if_neg hfinal, key, List.mem_cons, eq_comm, pathOfSegment_eq_rootPath_iff]
        have hindex : segment = indexName → rest ≠ [] := by
          rintro rfl rfl
          exact hfinal rfl
        exact or_congr_left (or_congr_left ⟨fun h => ⟨h, hindex h⟩, fun h => h.1⟩)

end Route

/-! ## What is nested in a grouping -/

namespace Keyed

variable {α : Type} {entries : List (Keyed α)} {entry : Keyed α} {path : String}
  {rest : List String}

theorem mem_heads_of_key_eq (hentry : entry ∈ entries) (hkey : entry.key = path :: rest) :
    path ∈ heads entries :=
  List.mem_eraseDups.mpr (List.mem_filterMap.mpr ⟨entry, hentry, by rw [hkey]; rfl⟩)

/-- An entry whose key goes on is found below its first path. -/
theorem mem_deeper_under_of_key_eq (hentry : entry ∈ entries) (hkey : entry.key = path :: rest)
    (hrest : rest ≠ []) : ⟨rest, entry.value⟩ ∈ deeper (under path entries) := by
  refine List.mem_filter.mpr ⟨List.mem_filterMap.mpr ⟨entry, hentry, ?_⟩, by simpa using hrest⟩
  rw [below?, hkey]
  exact if_pos rfl

end Keyed

mutual

theorem Route.le_depth_of_mem_walk {depth : Int} {visit : Visit} :
    (r : Route) → visit ∈ r.walk depth → depth ≤ visit.depth
  | .mk path view none, h => by
    rw [List.mem_singleton.mp h]
  | .mk path view (some routes), h => by
    rcases List.mem_cons.mp h with rfl | h
    · exact Int.le_refl _
    · have hbelow := RouteTree.le_depth_of_mem_walk routes h
      omega

/-- A walk does not get above the depth at which it starts. -/
theorem RouteTree.le_depth_of_mem_walk {depth : Int} {visit : Visit} :
    (t : List Route) → visit ∈ RouteTree.walk depth t → depth ≤ visit.depth
  | [], h => absurd h List.not_mem_nil
  | r :: t, h =>
    (List.mem_append.mp h).elim (Route.le_depth_of_mem_walk r) (RouteTree.le_depth_of_mem_walk t)

end

namespace RouteTree

open Keyed

variable {entries : List (Keyed String)} {depth : Int} {visit : Visit} {path : String}

/-- A walk through a grouping visits the first paths and what is nested below them. -/
theorem mem_walk_group_iff :
    visit ∈ walk depth (group entries) ↔ ∃ path ∈ heads entries,
      visit = ⟨depth, path, here? (under path entries)⟩ ∨
        visit ∈ walk (depth + 1) (group (deeper (under path entries))) := by
  rw [mem_walk_iff, group_eq]
  simp only [List.mem_map, exists_exists_and_eq_and, walk_eq, children_mk_ofList?, List.mem_cons]
  rfl

/-- **The paths of a grouping are those of the keys.** -/
theorem exists_visit_iff :
    (∃ visit ∈ walk depth (group entries), visit.path = path)
      ↔ ∃ entry ∈ entries, path ∈ entry.key := by
  constructor
  · rintro ⟨visit, hvisit, rfl⟩
    exact path_mem_walk_group hvisit
  · rintro ⟨entry, hentry, hpath⟩
    obtain ⟨key, hkey⟩ : ∃ key, entry.key = key := ⟨_, rfl⟩
    rw [hkey] at hpath
    -- The induction is on the key; the entries are those that are left one level further down.
    induction key generalizing depth entries entry with
    | nil => exact absurd hpath List.not_mem_nil
    | cons first rest ih =>
      have hfirst := mem_heads_of_key_eq hentry hkey
      rcases List.mem_cons.mp hpath with rfl | hrest
      · exact ⟨_, mem_walk_group_iff.mpr ⟨path, hfirst, .inl rfl⟩, rfl⟩
      · have hbelow := mem_deeper_under_of_key_eq hentry hkey (List.ne_nil_of_mem hrest)
        obtain ⟨visit, hvisit, hpath⟩ : ∃ visit ∈ walk (depth + 1)
            (group (deeper (under first entries))), visit.path = path := ih _ hbelow hrest rfl
        exact ⟨visit, mem_walk_group_iff.mpr ⟨first, hfirst, .inr hvisit⟩, hpath⟩

/-- **The paths of nested routes are those of the keys, behind their first paths.** -/
theorem exists_nested_visit_iff :
    (∃ visit ∈ walk depth (group entries), depth < visit.depth ∧ visit.path = path)
      ↔ ∃ entry ∈ entries, path ∈ entry.key.tail := by
  constructor
  · rintro ⟨visit, hvisit, hdepth, hpath⟩
    obtain ⟨first, -, rfl | hnested⟩ := mem_walk_group_iff.mp hvisit
    · exact absurd hdepth (Int.lt_irrefl _)
    · obtain ⟨entry, hentry, hkey⟩ := exists_visit_iff.mp ⟨visit, hnested, hpath⟩
      obtain ⟨whole, hwhole, heq, -⟩ := exists_of_mem_under (List.mem_filter.mp hentry).1
      exact ⟨whole, hwhole, by rwa [heq]⟩
  · rintro ⟨⟨_ | ⟨first, rest⟩, value⟩, hentry, hpath⟩
    · exact absurd hpath List.not_mem_nil
    · have hbelow := mem_deeper_under_of_key_eq hentry rfl (List.ne_nil_of_mem hpath)
      obtain ⟨visit, hvisit, heq⟩ : ∃ visit ∈ walk (depth + 1)
          (group (deeper (under first entries))), visit.path = path :=
        exists_visit_iff.mpr ⟨_, hbelow, hpath⟩
      have hdepth := le_depth_of_mem_walk _ hvisit
      exact ⟨visit, mem_walk_group_iff.mpr ⟨first, mem_heads_of_key_eq hentry rfl, .inr hvisit⟩,
        by omega, heq⟩

end RouteTree

/-! ## Nested route objects -/

/-- A path with one slash keeps it in its route object just if it is nothing else. -/
theorem RoutesModule.head?_objectPath_iff {path : String} (h : IsSlashed path) :
    (objectPath path).toList.head? = some '/' ↔ path = rootPath := by
  obtain ⟨name, hname, htext⟩ := h
  have hroot : path = rootPath ↔ name = [] := by
    rw [← String.toList_inj, htext]
    exact ⟨fun h => (List.cons.inj h).2, fun h => h ▸ rfl⟩
  rw [toList_objectPath htext, hroot]
  split
  · next hnil => exact iff_of_true rfl hnil
  · next hne => exact iff_of_false (fun hhead => hname (List.mem_of_mem_head? hhead)) hne

namespace RouteTree

open Keyed

/--
**Nested route objects have relative paths, unless their route has the slash for its path.**

Take a tree of view files, under any policy. The path in the object of a nested route starts with a
slash if and only if the path of the route is the slash and nothing else. There is such a route just
if a file has, behind its first segment, a directory `index` or a name that is nothing but its
extension.
-/
theorem ofFiles_nested_paths {cwd : Address} {options : TreeOptions} {files : List String}
    {tree : RouteTree} (h : (ofFiles cwd options files).result = .ok tree) :
    (∀ visit ∈ walk 0 tree, 0 < visit.depth →
      ((objectPath visit.path).toList.head? = some '/' ↔ visit.path = rootPath)) ∧
    ((∃ visit ∈ walk 0 tree, 0 < visit.depth ∧ (objectPath visit.path).toList.head? = some '/')
      ↔ ∃ file ∈ files, ∃ path, location cwd file options.root = .ok path ∧
          HasSlashSegment
            (segments (stripExtension path (normalizeExtensions options.extensions))).tail) := by
  obtain ⟨hbelow, rfl⟩ := eq_group_normalized_of_ofFiles h
  have hslashed : ∀ visit ∈ walk 0 (group (fileViews cwd options.root
      (normalizeExtensions options.extensions) files)), IsSlashed visit.path := by
    intro visit hvisit
    obtain ⟨entry, hentry, hkey⟩ := path_mem_walk_group hvisit
    obtain ⟨file, hfile, rfl⟩ := List.mem_map.mp hentry
    exact isSlashed_of_mem_keyOf (hbelow file hfile) hkey
  refine ⟨fun visit hvisit _ => head?_objectPath_iff (hslashed visit hvisit), ?_⟩
  have hnested := @exists_nested_visit_iff (fileViews cwd options.root
    (normalizeExtensions options.extensions) files) 0 rootPath
  constructor
  · rintro ⟨visit, hvisit, hdepth, hhead⟩
    have hpath := (head?_objectPath_iff (hslashed visit hvisit)).mp hhead
    obtain ⟨entry, hentry, hkey⟩ := hnested.mp ⟨visit, hvisit, hdepth, hpath⟩
    obtain ⟨file, hfile, rfl⟩ := List.mem_map.mp hentry
    obtain ⟨path, hlocated⟩ := location_isOk_iff.mpr (hbelow file hfile)
    rw [keyOf_eq_key hlocated] at hkey
    exact ⟨file, hfile, path, hlocated, rootPath_mem_tail_key_iff.mp hkey⟩
  · rintro ⟨file, hfile, path, hlocated, hsegment⟩
    have hkey : rootPath ∈ (keyOf cwd options.root
        (normalizeExtensions options.extensions) file).tail := by
      rw [keyOf_eq_key hlocated]
      exact rootPath_mem_tail_key_iff.mpr hsegment
    obtain ⟨visit, hvisit, hdepth, hpath⟩ :=
      hnested.mpr ⟨_, List.mem_map_of_mem hfile, hkey⟩
    exact ⟨visit, hvisit, hdepth, (head?_objectPath_iff (hslashed visit hvisit)).mpr hpath⟩

/-- At the top a directory `index` does no harm, nor does a final `index` below it. -/
theorem ofFiles_nested_paths_settings :
    ∃ tree, (ofFiles ["w"] { root := "pages" }
        ["pages/index/settings.tsx", "pages/blog/index.tsx", "pages/blog/[slug].tsx"]).result
          = .ok tree ∧
      ∀ visit ∈ walk 0 tree, 0 < visit.depth →
        (objectPath visit.path).toList.head? ≠ some '/' := by
  have husable : usableExtensions "pages" ["tsx", "jsx"] = .ok ["tsx", "jsx"] := by decide
  have hviews : fileViews ["w"] "pages" ["tsx", "jsx"]
      ["pages/index/settings.tsx", "pages/blog/index.tsx", "pages/blog/[slug].tsx"]
      = [⟨["/", "/settings"], "pages/index/settings.tsx"⟩, ⟨["/blog"], "pages/blog/index.tsx"⟩,
        ⟨["/blog", "/:slug"], "pages/blog/[slug].tsx"⟩] := by decide +kernel
  have hbuilt : (ofFiles ["w"] { root := "pages" }
      ["pages/index/settings.tsx", "pages/blog/index.tsx", "pages/blog/[slug].tsx"]).result
      = .ok [.mk "/" none (some [.mk "/settings" (some "pages/index/settings.tsx") none]),
          .mk "/blog" (some "pages/blog/index.tsx")
            (some [.mk "/:slug" (some "pages/blog/[slug].tsx") none])] := by
    refine (result_ofFiles_refuse_eq_ok_iff husable).mpr ⟨by decide +kernel, ?_, ?_⟩
    · rw [← map_key_fileViews, hviews]
      decide
    · rw [hviews]
      rfl
  refine ⟨_, hbuilt, fun visit hvisit hdepth hhead => ?_⟩
  have hpath := ((ofFiles_nested_paths hbuilt).1 visit hvisit hdepth).mp hhead
  revert visit
  decide

/-- A directory `index` further down makes an absolute path of its own below another route. -/
theorem innerIndex_is_absolute :
    ∃ tree, (ofFiles ["w"] { root := "pages" } ["pages/a/index/b.tsx"]).result = .ok tree ∧
      (∃ visit ∈ walk 0 tree, visit.depth = 1 ∧ objectPath visit.path = "/") := by
  have husable : usableExtensions "pages" ["tsx", "jsx"] = .ok ["tsx", "jsx"] := by decide
  have hviews : fileViews ["w"] "pages" ["tsx", "jsx"] ["pages/a/index/b.tsx"]
      = [⟨["/a", "/", "/b"], "pages/a/index/b.tsx"⟩] := by decide +kernel
  have hbuilt : (ofFiles ["w"] { root := "pages" } ["pages/a/index/b.tsx"]).result
      = .ok [.mk "/a" none
          (some [.mk "/" none (some [.mk "/b" (some "pages/a/index/b.tsx") none])])] := by
    refine (result_ofFiles_refuse_eq_ok_iff husable).mpr ⟨by decide +kernel, by decide, ?_⟩
    rw [hviews]
    rfl
  exact ⟨_, hbuilt, ⟨1, "/", none⟩, by decide, rfl, by decide⟩

end RouteTree

end PageRoutes
