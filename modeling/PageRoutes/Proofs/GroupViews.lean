import Mathlib.Data.List.Perm.Basic
import PageRoutes.Proofs.Grouping

/-!
# The views of a tree

`RouteTree.views` lists what a tree shows and where: every view of a route under the key that leads
to the route. Grouping neither loses nor doubles a view nor moves it to another route:
`views_group_perm` says that the views of a grouping are the views that were grouped.
-/

namespace PageRoutes

/-- The entry one level further down, below a route with the given path. -/
def Keyed.below {α : Type} (path : String) (entry : Keyed α) : Keyed α :=
  { entry with key := path :: entry.key }

mutual

/-- The views of a route and of what is nested in it, under the keys that lead there. -/
def Route.views : Route → List (Keyed String)
  | .mk path view none => (view.toList.map (Keyed.mk [])).map (Keyed.below path)
  | .mk path view (some routes) =>
    (view.toList.map (Keyed.mk []) ++ RouteTree.views routes).map (Keyed.below path)

/-- The views of a tree, under the keys that lead to their routes. -/
def RouteTree.views : List Route → List (Keyed String)
  | [] => []
  | route :: routes => route.views ++ RouteTree.views routes

end

mutual

/-- The views of a route are those of a walk through it. -/
theorem Route.map_value_views (depth : Int) :
    (r : Route) → r.views.map Keyed.value = (r.walk depth).filterMap Visit.view
  | .mk path view none => by
    cases view <;> simp [Route.views, Route.walk, Keyed.below]
  | .mk path view (some routes) => by
    have ih := RouteTree.map_value_views (depth + 1) routes
    cases view <;>
      simp [Route.views, Route.walk, Keyed.below, Function.comp_def, ih]

/-- The views of a tree are those of a walk through it. -/
theorem RouteTree.map_value_views (depth : Int) :
    (t : List Route) →
      (RouteTree.views t).map Keyed.value = (RouteTree.walk depth t).filterMap Visit.view
  | [] => rfl
  | r :: t => by
    simp [RouteTree.views, RouteTree.walk, Route.map_value_views depth r,
      RouteTree.map_value_views depth t]

end

namespace RouteTree

open Keyed

theorem views_eq_flatMap (t : RouteTree) : views t = t.flatMap Route.views := by
  induction t with
  | nil => rfl
  | cons route t ih => rw [views, List.flatMap_cons, ih]

/-- A list of nested routes shows the same whether it is left out when empty or not. -/
theorem views_mk_ofList? (path : String) (view : Option String) (routes : RouteTree) :
    (Route.mk path view (ofList? routes)).views
      = (view.toList.map (Keyed.mk []) ++ views routes).map (below path) := by
  cases routes with
  | nil =>
    show Route.views (.mk path view none) = _
    rw [Route.views, views, List.append_nil]
  | cons route routes => rfl

end RouteTree

namespace Keyed

variable {α : Type}

/-- The entries under a path, with the path, are those whose keys start with it. -/
theorem map_below_under (path : String) (entries : List (Keyed α)) :
    (under path entries).map (below path)
      = entries.filter fun entry => entry.key.head? = some path := by
  induction entries with
  | nil => rfl
  | cons entry entries ih =>
    obtain ⟨key, value⟩ := entry
    rw [under] at ih ⊢
    cases key with
    | nil =>
      rw [List.filterMap_cons]
      simpa [below?] using ih
    | cons head rest =>
      rw [List.filterMap_cons]
      by_cases h : head = path
      · subst h
        simpa [below?, below] using ih
      · simpa [below?, h] using ih

/-- Without the common start different keys are still different. -/
theorem nodup_key_under {path : String} {entries : List (Keyed α)}
    (h : (entries.map key).Nodup) : ((under path entries).map key).Nodup := by
  have hsub : (((under path entries).map (below path)).map key).Nodup := by
    rw [map_below_under]
    exact (List.filter_sublist.map key).nodup h
  rw [List.map_map] at hsub
  have hcons : key ∘ below path = (path :: ·) ∘ (key : Keyed α → List String) := rfl
  rw [hcons, ← List.map_map] at hsub
  exact hsub.of_map _

/-- At most one of several entries with different keys is at its end. -/
theorem filter_key_nil {entries : List (Keyed α)} (h : (entries.map key).Nodup) :
    (entries.filter fun entry => entry.key = []) = (here? entries).toList.map (Keyed.mk []) := by
  rw [here?]
  have hnd : ((entries.filter fun entry => entry.key = []).map key).Nodup :=
    (List.filter_sublist.map key).nodup h
  have hnil : ∀ entry ∈ entries.filter fun entry => entry.key = [], entry.key = [] := by
    intro entry he
    simpa using (List.mem_filter.mp he).2
  rcases hf : entries.filter fun entry => entry.key = [] with
    _ | ⟨⟨key, value⟩, _ | ⟨second, rest⟩⟩
  · rw [hf]
    rfl
  · rw [hf] at hnil ⊢
    have hkey : key = [] := hnil _ List.mem_cons_self
    subst hkey
    rfl
  · rw [hf] at hnd hnil
    have hfirst := hnil _ List.mem_cons_self
    have hsecond := hnil second (by simp)
    have hne := (List.nodup_cons.mp hnd).1
    rw [List.map_cons, hfirst, hsecond] at hne
    exact absurd List.mem_cons_self hne

theorem here?_append_deeper_perm {entries : List (Keyed α)} (h : (entries.map key).Nodup) :
    ((here? entries).toList.map (Keyed.mk []) ++ deeper entries).Perm entries := by
  rw [← filter_key_nil h, deeper]
  simpa using List.filter_append_perm (fun entry => decide (entry.key = [])) entries

end Keyed

namespace RouteTree

open Keyed

/-- **The views of a grouping are the views that were grouped.** -/
theorem views_group_perm {entries : List (Keyed String)}
    (hkeys : ∀ entry ∈ entries, entry.key ≠ []) (hnd : (entries.map key).Nodup) :
    (views (group entries)).Perm entries := by
  suffices h : ∀ depth entries, DepthLe depth entries → (∀ entry ∈ entries, entry.key ≠ []) →
      (entries.map key).Nodup → (views (group entries)).Perm entries from
    h _ entries (depthLe_maxDepth entries) hkeys hnd
  intro depth
  induction depth with
  | zero =>
    intro entries hdepth hkeys _
    have hnil : entries = [] := by
      rw [List.eq_nil_iff_forall_not_mem]
      intro entry he
      exact hkeys entry he (List.length_eq_zero_iff.mp (Nat.le_zero.mp (hdepth entry he)))
    rw [hnil]
    rfl
  | succ depth ih =>
    intro entries hdepth hkeys hnd
    rw [group_eq, views_eq_flatMap, List.flatMap_map]
    -- Each top route shows the entries whose keys start with its path.
    have hroute : ∀ path ∈ heads entries,
        (Route.mk path (here? (under path entries))
          (ofList? (group (deeper (under path entries))))).views.Perm
        (entries.filter fun entry => entry.key.head? = some path) := by
      intro path _
      have hunder : ((under path entries).map key).Nodup := nodup_key_under hnd
      have hdeeper : (views (group (deeper (under path entries)))).Perm
          (deeper (under path entries)) := by
        refine ih _ (hdepth.deeper_under path) ?_ ?_
        · intro entry he
          simpa using (List.mem_filter.mp he).2
        · exact (List.filter_sublist.map key).nodup hunder
      rw [views_mk_ofList?, ← map_below_under]
      exact ((hdeeper.append_left _).trans (here?_append_deeper_perm hunder)).map _
    refine (List.Perm.flatMap_left _ hroute).trans ?_
    refine Occurrence.flatMap_filter_perm (nodup_heads entries) ?_
    intro entry he
    obtain ⟨path, rest, hk⟩ := List.exists_cons_of_ne_nil (hkeys entry he)
    have hhead : entry.key.head? = some path := by rw [hk, List.head?_cons]
    refine ⟨path, ?_, hhead⟩
    rw [heads, List.mem_eraseDups]
    exact List.mem_filterMap.mpr ⟨entry, he, hhead⟩

end RouteTree

end PageRoutes
