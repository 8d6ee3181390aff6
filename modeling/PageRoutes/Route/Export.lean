import PageRoutes.Json.Basic
import PageRoutes.Route.Basic

/-!
# Route trees as JSON

A route is an object with its `path`, its view as `importPath` if it has one, and the routes nested
in it as `children` if there are any. A tree is exported as an object with its routes as `routes`.
-/

namespace PageRoutes

mutual

/-- A route as a JSON object. -/
def Route.toJson : Route → Json
  | .mk path view nested =>
    let viewMember :=
      match view with
      | some view => [("importPath", Json.text view)]
      | none => []
    let childMember :=
      match nested with
      | none => []
      | some [] => []
      | some (route :: routes) =>
        [("children", Json.list (route.toJson :: RouteTree.toJsonList routes))]
    .object (("path", .text path) :: (viewMember ++ childMember))

/-- The routes of a tree as JSON objects. -/
def RouteTree.toJsonList : List Route → List Json
  | [] => []
  | route :: routes => route.toJson :: RouteTree.toJsonList routes

end

/-- The JSON export of a route tree. -/
def RouteTree.toJson (tree : RouteTree) : Json :=
  .object [("routes", .list (RouteTree.toJsonList tree))]

end PageRoutes
