import PageRoutes.Json.Basic
import PageRoutes.Route.Basic

/-!
# Reading route trees

`RouteTree.ofJson?` is the other side of `RouteTree.toJson`: it rebuilds a tree from an object with
its routes as `routes`. A route must have a `path`; its `importPath` and its `children` may be
missing, and then it has no view, or no list of nested routes.

The members are found by their names, so their order does not matter.
-/

namespace PageRoutes

/-- The text of a member, if it is there and a text. -/
def Json.text? (name : String) (value : Json) : Option String :=
  match value.field? name with
  | some (.text s) => some s
  | _ => none

/-- The text of a member that may be missing. -/
def Json.optionalText? (name : String) (value : Json) : Option (Option String) :=
  match value.field? name with
  | none => some none
  | some (.text s) => some (some s)
  | some _ => none

mutual

/-- The route that an object denotes. -/
def Route.ofJson? : Json → Option Route
  | .object members => do
    let path ← (Json.object members).text? "path"
    let view ← (Json.object members).optionalText? "importPath"
    return .mk path view (← Route.nestedOf? members)
  | _ => none

/-- The nested routes that the members of an object denote, which may be missing. -/
def Route.nestedOf? : List (String × Json) → Option (Option (List Route))
  | [] => some none
  | (name, value) :: members =>
    if name = "children" then
      match value with
      | .list items => (RouteTree.ofItems? items).map some
      | _ => none
    else Route.nestedOf? members

/-- The sibling routes that the items of a list denote. -/
def RouteTree.ofItems? : List Json → Option (List Route)
  | [] => some []
  | item :: items => do
    let route ← Route.ofJson? item
    return route :: (← RouteTree.ofItems? items)

end

/-- The route tree that an object denotes. -/
def RouteTree.ofJson? (value : Json) : Option RouteTree :=
  match value.field? "routes" with
  | some (.list items) => RouteTree.ofItems? items
  | _ => none

end PageRoutes
