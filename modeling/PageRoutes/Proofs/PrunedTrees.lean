import PageRoutes.Console
import PageRoutes.Proofs.NestedPaths
import PageRoutes.Proofs.TreeDocument

/-!
# Pruned trees

A route without nested routes may hold no list or the empty one. Nothing that is made of a tree
shows which of the two it was, and a walk shows all else.

* `walk_prune`, `emitAll_prune`, `drawAll_prune` — a walk, the route objects and the drawing are
  those of the pruned tree.
* `walk_eq_walk_iff` — two trees have the same walk just if they are the same after pruning: the
  visits below a route are those that follow with a greater depth.
* `prune_invisible` — pruning changes nothing that is made of a tree, and leaves the only tree
  without empty lists that has the walk of the tree.
-/

namespace PageRoutes

mutual

/-- No list of nested routes in the route is empty. -/
def Route.IsPruned : Route → Prop
  | .mk _ _ none => True
  | .mk _ _ (some routes) => routes ≠ [] ∧ RouteTree.IsPruned routes

/-- No list of nested routes in the tree is empty. -/
def RouteTree.IsPruned : List Route → Prop
  | [] => True
  | route :: routes => route.IsPruned ∧ RouteTree.IsPruned routes

end

/-! ## What pruning leaves -/

namespace RouteTree

@[simp] theorem isEmpty_prune (t : RouteTree) : (prune t).isEmpty = t.isEmpty := by
  cases t <;> rfl

/-- No empty list is kept. -/
theorem ofList?_ne_some_nil (t : RouteTree) : ofList? t ≠ some [] := by
  cases t <;> simp [ofList?]

end RouteTree

/-- A pruned route keeps its path, its view and, pruned, what is nested in it. -/
theorem Route.prune_eq (r : Route) :
    r.prune = .mk r.path r.view (RouteTree.ofList? (RouteTree.prune r.children)) := by
  obtain ⟨path, view, _ | routes⟩ := r <;> rfl

@[simp] theorem Route.children_prune (r : Route) :
    r.prune.children = RouteTree.prune r.children := by
  rw [Route.prune_eq, RouteTree.children_mk_ofList?]

theorem RouteTree.prune_eq_map (t : RouteTree) : RouteTree.prune t = t.map Route.prune := by
  induction t with
  | nil => rfl
  | cons r t ih => rw [RouteTree.prune, List.map_cons, ih]

mutual

theorem Route.isPruned_prune : (r : Route) → r.prune.IsPruned
  | .mk _ _ none => trivial
  | .mk _ _ (some []) => trivial
  | .mk _ _ (some (r :: t)) =>
    ⟨List.cons_ne_nil _ _, Route.isPruned_prune r, RouteTree.isPruned_prune t⟩

/-- What is pruned holds no empty list. -/
theorem RouteTree.isPruned_prune : (t : List Route) → RouteTree.IsPruned (RouteTree.prune t)
  | [] => trivial
  | r :: t => ⟨Route.isPruned_prune r, RouteTree.isPruned_prune t⟩

end

mutual

theorem Route.prune_of_isPruned : {r : Route} → r.IsPruned → r.prune = r
  | .mk _ _ none, _ => rfl
  | .mk path view (some routes), h => by
    rw [Route.prune, RouteTree.prune_of_isPruned h.2, RouteTree.ofList?,
      if_neg (by simpa using h.1)]

/-- A tree without empty lists stays as it is. -/
theorem RouteTree.prune_of_isPruned : {t : List Route} → RouteTree.IsPruned t →
    RouteTree.prune t = t
  | [], _ => rfl
  | r :: t, h => by
    rw [RouteTree.prune, Route.prune_of_isPruned h.1, RouteTree.prune_of_isPruned h.2]

end

/-! ## What is made of a tree -/

mutual

theorem Route.walk_prune (depth : Int) : (r : Route) → r.prune.walk depth = r.walk depth
  | .mk _ _ none => rfl
  | .mk _ _ (some []) => rfl
  | .mk path view (some (r :: t)) => by
    have ih := RouteTree.walk_prune (depth + 1) (r :: t)
    rw [RouteTree.prune] at ih
    exact congrArg (⟨depth, path, view⟩ :: ·) ih

/-- **A walk visits the same routes.** -/
theorem RouteTree.walk_prune (depth : Int) :
    (t : List Route) → RouteTree.walk depth (RouteTree.prune t) = RouteTree.walk depth t
  | [] => rfl
  | r :: t => by
    rw [RouteTree.prune, RouteTree.walk, RouteTree.walk, Route.walk_prune, RouteTree.walk_prune]

end

/-- So does a walk that counts no depths. -/
theorem RouteTree.flatVisits?_prune (t : RouteTree) : flatVisits? (prune t) = flatVisits? t := by
  have hall : (prune t).all (fun r => r.children.isEmpty) = t.all fun r => r.children.isEmpty := by
    rw [prune_eq_map, List.all_map]
    exact congrArg _ (funext fun r => by simp)
  have hmap : (prune t).map (fun r => (r.path, r.view)) = t.map fun r => (r.path, r.view) := by
    rw [prune_eq_map, List.map_map]
    exact congrArg (t.map ·) (funext fun r => by rw [Function.comp_apply, Route.prune_eq]; rfl)
  rw [flatVisits?, flatVisits?, hall, hmap]

theorem RouteTree.size_prune (t : RouteTree) : size (prune t) = size t := by
  rw [← length_walk 0, walk_prune, length_walk]

namespace RoutesModule

variable (options : ModuleOptions)

mutual

theorem emitRoute_prune (depth : Nat) (bindings : List String) : (r : Route) →
    emitRoute options depth bindings r.prune = emitRoute options depth bindings r
  | .mk _ _ none => rfl
  | .mk _ _ (some []) => rfl
  | .mk path view (some (r :: t)) => by
    have hprune : (Route.mk path view (some (r :: t))).prune
        = .mk path view (some (RouteTree.prune (r :: t))) := rfl
    rw [hprune, emitRoute, emitRoute, emitAll_prune]

/-- **The bindings and the route objects are the same.** -/
theorem emitAll_prune (depth : Nat) (bindings : List String) : (t : List Route) →
    emitAll options depth bindings (RouteTree.prune t) = emitAll options depth bindings t
  | [] => rfl
  | r :: t => by
    simp only [RouteTree.prune, emitAll, emitRoute_prune, emitAll_prune]

end

theorem ofTreeOfSize_prune (expected : Option Int) (t : RouteTree) :
    ofTreeOfSize options expected (RouteTree.prune t) = ofTreeOfSize options expected t := by
  rw [ofTreeOfSize, ofTreeOfSize, emit, emit, emitAll_prune]

end RoutesModule

namespace Console

mutual

theorem drawRoute_prune (guides : String) (isLast : Bool) : (r : Route) →
    drawRoute guides isLast r.prune = drawRoute guides isLast r
  | .mk _ _ none => rfl
  | .mk path view (some []) => by
    show labelLines guides isLast path view = _
    rw [drawRoute, drawAll, List.append_nil]
  | .mk path view (some (r :: t)) => by
    have hprune : (Route.mk path view (some (r :: t))).prune
        = .mk path view (some (RouteTree.prune (r :: t))) := rfl
    rw [hprune, drawRoute, drawRoute, drawAll_prune]

/-- **The lines of a drawing are the same.** -/
theorem drawAll_prune (guides : String) : (t : List Route) →
    drawAll guides (RouteTree.prune t) = drawAll guides t
  | [] => rfl
  | r :: t => by
    rw [RouteTree.prune, drawAll, drawAll, drawRoute_prune, drawAll_prune, RouteTree.isEmpty_prune]

end

theorem drawTree_prune (title : String) (t : RouteTree) :
    drawTree title (RouteTree.prune t) = drawTree title t := by
  rw [drawTree, drawTree, drawAll_prune]

end Console

/-! ## A tree is known by its walk -/

theorem Route.size_eq (r : Route) : r.size = RouteTree.size r.children + 1 := by
  obtain ⟨path, view, _ | routes⟩ := r <;> rfl

namespace RouteTree

/-- The visits below a route are those that follow with a greater depth. -/
theorem takeWhile_walk_append (depth : Int) (below rest : RouteTree) :
    (walk (depth + 1) below ++ walk depth rest).takeWhile (depth < ·.depth)
      = walk (depth + 1) below := by
  have hbelow : ∀ visit ∈ walk (depth + 1) below, decide (depth < visit.depth) = true := by
    intro visit hvisit
    have hle := le_depth_of_mem_walk below hvisit
    exact decide_eq_true (by omega)
  have hrest : (walk depth rest).takeWhile (depth < ·.depth) = [] := by
    cases rest with
    | nil => rfl
    | cons r rest =>
      rw [walk, Route.walk_eq, List.cons_append]
      exact List.takeWhile_cons_of_neg (by simp)
  rw [List.takeWhile_append_of_pos hbelow, hrest, List.append_nil]

/-- So the walk of a route and of those behind it can be cut where the route ends. -/
theorem walk_append_inj {depth : Int} {below rest below' rest' : RouteTree}
    (h : walk (depth + 1) below ++ walk depth rest = walk (depth + 1) below' ++ walk depth rest') :
    walk (depth + 1) below = walk (depth + 1) below' ∧ walk depth rest = walk depth rest' := by
  have hbelow := congrArg (List.takeWhile (depth < ·.depth)) h
  rw [takeWhile_walk_append, takeWhile_walk_append] at hbelow
  exact ⟨hbelow, List.append_cancel_left (hbelow ▸ h)⟩

/-- Trees with the same walk are the same after pruning. -/
theorem prune_eq_of_walk_eq (depth : Int) :
    (t u : List Route) → walk depth t = walk depth u → prune t = prune u
  | [], [], _ => rfl
  | [], r :: u, h => absurd h (by simp [walk, Route.walk_eq])
  | r :: t, [], h => absurd h (by simp [walk, Route.walk_eq])
  | r :: t, s :: u, h => by
    rw [walk, walk, Route.walk_eq, Route.walk_eq, List.cons_append, List.cons_append,
      List.cons.injEq, Visit.mk.injEq] at h
    obtain ⟨⟨-, hpath, hview⟩, hvisits⟩ := h
    obtain ⟨hbelow, hrest⟩ := walk_append_inj hvisits
    have hchildren := prune_eq_of_walk_eq (depth + 1) r.children s.children hbelow
    have hbehind := prune_eq_of_walk_eq depth t u hrest
    rw [prune, prune, Route.prune_eq, Route.prune_eq, hpath, hview, hchildren, hbehind]
-- What is nested in a route is no part of it that the recursion knows, but it is smaller.
termination_by t => size t
decreasing_by
  all_goals
    rw [size, Route.size_eq]
    omega

/-- **Two trees have the same walk just if they are the same after pruning.** -/
theorem walk_eq_walk_iff {depth : Int} {t u : RouteTree} :
    walk depth t = walk depth u ↔ prune t = prune u := by
  refine ⟨prune_eq_of_walk_eq depth t u, fun h => ?_⟩
  rw [← walk_prune depth t, h, walk_prune]

/--
**Pruning is invisible.**

The pruned tree holds no empty list of nested routes, and pruning it again leaves it as it is. It
has the walk of the tree from any depth on, its number of routes, its export as values and as text
for any indentation, its drawing below any title, and its module for any options. And it is the only
tree without empty lists that has a walk in common with the tree.
-/
theorem prune_invisible (tree : RouteTree) :
    IsPruned (prune tree) ∧ prune (prune tree) = prune tree ∧
    (∀ depth, walk depth (prune tree) = walk depth tree) ∧
    flatVisits? (prune tree) = flatVisits? tree ∧
    size (prune tree) = size tree ∧
    toJsonList (prune tree) = toJsonList tree ∧
    (∀ indent, Json.document indent (toJson (prune tree)) = Json.document indent (toJson tree)) ∧
    (∀ title, Console.drawTree title (prune tree) = Console.drawTree title tree) ∧
    (∀ options, RoutesModule.ofTree options (prune tree) = RoutesModule.ofTree options tree) ∧
    ∀ other, IsPruned other → ∀ depth, walk depth other = walk depth tree → other = prune tree := by
  refine ⟨isPruned_prune tree, prune_of_isPruned (isPruned_prune tree),
    fun depth => walk_prune depth tree, flatVisits?_prune tree, size_prune tree,
    toJsonList_prune tree, fun indent => ?_, fun title => Console.drawTree_prune title tree,
    fun options => ?_, fun other hother depth hwalk => ?_⟩
  · rw [toJson_prune]
  · rw [RoutesModule.ofTree, RoutesModule.ofTree, size_prune, RoutesModule.ofTreeOfSize_prune]
  · rw [← walk_eq_walk_iff.mp hwalk, prune_of_isPruned hother]

end RouteTree

end PageRoutes
