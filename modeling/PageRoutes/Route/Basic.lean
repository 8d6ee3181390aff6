/-!
# Routes and route trees

A route has a path, the reference of the view it shows (a directory without a view of its own has
none) and the routes nested in it. A route tree is a list of routes.

A route without nested routes may hold no list or the empty one; `prune` makes that the absent
list everywhere, and no other function on trees tells the two apart.
-/

namespace PageRoutes

/-- A route: its path, the import reference of its view, and the routes nested in it. -/
inductive Route where
  | mk (path : String) (view : Option String) (nested : Option (List Route))
deriving Repr, Inhabited

/-- A list of sibling routes with all that is nested in them. -/
abbrev RouteTree := List Route

namespace Route

/-- The path of a route. -/
def path : Route → String
  | mk path _ _ => path

/-- The import reference of a route's view. -/
def view : Route → Option String
  | mk _ view _ => view

/-- The routes nested in a route; an absent list counts as the empty one. -/
def children : Route → RouteTree
  | mk _ _ nested => nested.getD []

/-- The path of the top route of a directory. -/
def rootPath : String := "/"

/-- The path of the route that matches whatever no other route matches. -/
def catchAllPath : String := "*"

/-- The name of a file that stands for its directory. -/
def indexName : String := "index"

end Route

namespace RouteTree

/-- A list of nested routes as it is kept after pruning: absent when empty. -/
def ofList? (routes : RouteTree) : Option RouteTree :=
  if routes.isEmpty then none else some routes

end RouteTree

mutual

/-- A route with every empty list of nested routes dropped. -/
def Route.prune : Route → Route
  | .mk path view none => .mk path view none
  | .mk path view (some routes) => .mk path view (RouteTree.ofList? (RouteTree.prune routes))

/-- A route tree with every empty list of nested routes dropped. -/
def RouteTree.prune : List Route → RouteTree
  | [] => []
  | route :: routes => route.prune :: RouteTree.prune routes

end

/-- One step of a walk through a tree: how deep the route is nested, its path and its view. -/
structure Visit where
  depth : Int
  path : String
  view : Option String
deriving Repr, DecidableEq

mutual

/-- Visits a route at the given depth and then what is nested in it. -/
def Route.walk (depth : Int) : Route → List Visit
  | .mk path view none => [⟨depth, path, view⟩]
  | .mk path view (some routes) => ⟨depth, path, view⟩ :: RouteTree.walk (depth + 1) routes

/-- Visits the routes of a tree, each before what is nested in it, starting at a given depth. -/
def RouteTree.walk (depth : Int) : List Route → List Visit
  | [] => []
  | route :: routes => route.walk depth ++ RouteTree.walk depth routes

end

/-- A route is visited before what is nested in it. -/
theorem Route.walk_eq (depth : Int) (r : Route) :
    r.walk depth = ⟨depth, r.path, r.view⟩ :: RouteTree.walk (depth + 1) r.children := by
  obtain ⟨path, view, _ | routes⟩ := r <;> rfl

/-- Every visit belongs to one of the routes. -/
theorem RouteTree.mem_walk_iff {depth : Int} {visit : Visit} {t : RouteTree} :
    visit ∈ RouteTree.walk depth t ↔ ∃ r ∈ t, visit ∈ Route.walk depth r := by
  induction t with
  | nil => simp [walk]
  | cons r t ih => simp [walk, ih]

mutual

/-- How many routes there are in a route, itself included. -/
def Route.size : Route → Nat
  | .mk _ _ none => 1
  | .mk _ _ (some routes) => RouteTree.size routes + 1

/-- How many routes there are in a tree. -/
def RouteTree.size : List Route → Nat
  | [] => 0
  | route :: routes => route.size + RouteTree.size routes

end

mutual

/-- A walk through a route has one visit for each of its routes. -/
theorem Route.length_walk (depth : Int) : (r : Route) → (r.walk depth).length = r.size
  | .mk _ _ none => rfl
  | .mk _ _ (some routes) => by
    simp [Route.walk, Route.size, RouteTree.length_walk (depth + 1) routes]

/-- A walk through a tree has one visit for each of its routes. -/
theorem RouteTree.length_walk (depth : Int) :
    (t : List Route) → (RouteTree.walk depth t).length = RouteTree.size t
  | [] => rfl
  | r :: t => by
    simp [RouteTree.walk, RouteTree.size, Route.length_walk depth r,
      RouteTree.length_walk depth t]

end

/-- The visits of a walk that counts no depths: the path and the view of each route. It gets no
further than the top routes, so there is none if something is nested in one of them. -/
def RouteTree.flatVisits? (tree : RouteTree) : Option (List (String × Option String)) :=
  if tree.all fun route => route.children.isEmpty then
    some (tree.map fun route => (route.path, route.view))
  else none

/-- A tree with a route for unmatched addresses at its end, which may be without a view. -/
def RouteTree.withCatchAll (routes : RouteTree) (view : Option String) : RouteTree :=
  routes ++ [.mk Route.catchAllPath view none]

/-- A tree with the view for unmatched addresses at its end. -/
def RouteTree.withNotFound (routes : RouteTree) (view : String) : RouteTree :=
  routes.withCatchAll (some view)

end PageRoutes
