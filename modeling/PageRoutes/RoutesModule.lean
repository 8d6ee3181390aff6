import PageRoutes.Error
import PageRoutes.Route.Basic
import PageRoutes.Script.Literal

/-!
# The routes module

The module generated from a route tree imports every view lazily and exports the tree as a nested
array of route objects. Each route has a binding of its own, named by a stem and a running number;
the numbers follow the order of a walk through the tree, and `emit` threads the bindings through
the tree so that their number is the next free one.

Main statement: `length_emit` — a tree adds one binding for each of its routes, so
`RoutesModule.ofTree` never fails.
-/

namespace PageRoutes

open Script

/-- A generated module: its import lines, one binding for each route, and the route objects. -/
structure RoutesModule where
  imports : List String := []
  bindings : List String := []
  routes : String := ""
deriving DecidableEq, Repr

/-- The parts of a module as given. The import lines may be missing, though no module can be made
without them. -/
structure RoutesModule.Parts where
  imports : Option (List String) := some []
  bindings : List String := []
  routes : String := ""
deriving DecidableEq, Repr

/-- The module with the given parts. -/
def RoutesModule.ofParts (parts : Parts) : Except Failure RoutesModule := do
  let imports ← require .importLines parts.imports
  return { imports, bindings := parts.bindings, routes := parts.routes }

/-- The stem of binding names that is used for a stem that may be missing. -/
def stemOf (stem : Option String) : String :=
  stem.getD absentText

/-- The choices that shape a module: the stem of the binding names, and the import reference of
the component shown while a view loads. -/
structure ModuleOptions where
  stem : String := "FileRoute"
  fallback : Option String := none
deriving DecidableEq, Repr

namespace RoutesModule

/-- The comment at the top of every generated script. -/
def header : String :=
  "// AUTO-GENERATED by litestar-file-router. Do not edit.\n/* eslint-disable */"

/-- The name under which the fallback component is imported. -/
def fallbackName : String := "FileRouteFallback"

/-- The text of a module. -/
def source (m : RoutesModule) : String :=
  let exported :=
    if m.routes = "" then "export default [];\n" else "export default [\n" ++ m.routes ++ "\n];\n"
  let bindings := if m.bindings = [] then [] else ["\n".intercalate m.bindings]
  "\n\n".intercalate ([header, "\n".intercalate m.imports] ++ bindings ++ [exported])

/-- The path in a route object: without its leading slash, unless it is nothing but that. -/
def objectPath (path : String) : String :=
  if path = Route.rootPath then path
  else
    match path.toList with
    | '/' :: rest => String.ofList rest
    | _ => path

/-- The declaration of a binding: the lazily loaded view, or a fragment where there is none. -/
def binding (name : String) : (view : Option String) → String
  | some view => "const " ++ name ++ " = React.lazy(() => import(" ++ literal view ++ "));"
  | none => "const " ++ name ++ " = React.Fragment;"

/-- The element shown while a view loads. -/
def fallbackElement (options : ModuleOptions) : String :=
  if options.fallback.isSome then "<" ++ fallbackName ++ " />" else "<></>"

/-- The blanks before the lines of a route object at the given depth. -/
def indentation (depth : Nat) : String :=
  String.ofList (List.replicate (2 * (1 + 2 * depth)) ' ')

/-- A route object; `children` is the text of the objects nested in it, empty if there are none. -/
def object (options : ModuleOptions) (depth : Nat) (name path children : String) : String :=
  let pad := indentation depth
  let nested :=
    if children = "" then [pad ++ "  )"]
    else [pad ++ "  ),", pad ++ "  children: [", children, pad ++ "  ]"]
  "\n".intercalate
    ([ pad ++ "\x7b",
       pad ++ "  path: " ++ literal (objectPath path) ++ ",",
       pad ++ "  element: (",
       pad ++ "    <React.Suspense fallback=\x7b" ++ fallbackElement options ++ "\x7d>",
       pad ++ "      <" ++ name ++ " />",
       pad ++ "    </React.Suspense>" ]
      ++ nested ++ [pad ++ "\x7d"])

/-- The name of the binding with the given number. -/
def bindingName (options : ModuleOptions) (number : Nat) : String :=
  options.stem ++ toString number

mutual

/-- Emits a route: the bindings so far with those of the route, and the text of its object. -/
def emitRoute (options : ModuleOptions) (depth : Nat) (bindings : List String) :
    Route → List String × String
  | .mk path view nested =>
    let name := bindingName options bindings.length
    let bindings := bindings ++ [binding name view]
    match nested with
    | none => (bindings, object options depth name path "")
    | some routes =>
      let (bindings, objects) := emitAll options (depth + 1) bindings routes
      (bindings, object options depth name path (",\n".intercalate objects))

/-- Emits sibling routes one after the other, with the text of each object. -/
def emitAll (options : ModuleOptions) (depth : Nat) (bindings : List String) :
    List Route → List String × List String
  | [] => (bindings, [])
  | route :: routes =>
    let (bindings, object) := emitRoute options depth bindings route
    let (bindings, objects) := emitAll options depth bindings routes
    (bindings, object :: objects)

end

/-- Emits a tree: the bindings so far with those of the tree, and the text of its objects. -/
def emit (options : ModuleOptions) (depth : Nat) (bindings : List String) (tree : RouteTree) :
    List String × String :=
  let (bindings, objects) := emitAll options depth bindings tree
  (bindings, ",\n".intercalate objects)

mutual

theorem length_emitRoute (options : ModuleOptions) (depth : Nat) (bindings : List String) :
    (r : Route) → (emitRoute options depth bindings r).1.length = bindings.length + r.size
  | .mk _ _ none => by simp [emitRoute, Route.size]
  | .mk path view (some routes) => by
    simp [emitRoute, Route.size, length_emitAll]
    omega

theorem length_emitAll (options : ModuleOptions) (depth : Nat) (bindings : List String) :
    (t : List Route) →
      (emitAll options depth bindings t).1.length = bindings.length + RouteTree.size t
  | [] => rfl
  | r :: t => by
    simp [emitAll, RouteTree.size, length_emitAll, length_emitRoute]
    omega

end

/-- A tree adds one binding for each of its routes. -/
theorem length_emit (options : ModuleOptions) (depth : Nat) (bindings : List String)
    (tree : RouteTree) :
    (emit options depth bindings tree).1.length = bindings.length + RouteTree.size tree :=
  length_emitAll options depth bindings tree

/-- The import lines of a module. -/
def importLines (options : ModuleOptions) : List String :=
  "import React from 'react';" ::
    match options.fallback with
    | some view => ["import " ++ fallbackName ++ " from " ++ literal view ++ ";"]
    | none => []

/-- The module of a tree that is said to have `expected` routes; refused if the bindings differ
from that in number, or if the number is unknown. -/
def ofTreeOfSize (options : ModuleOptions) (expected : Option Int) (tree : RouteTree) :
    Except RouteError RoutesModule :=
  let (bindings, routes) := emit options 0 [] tree
  if some (bindings.length : Int) = expected then
    .ok { imports := importLines options, bindings, routes }
  else .error (.bindingMismatch expected bindings.length)

/-- The module of a tree. -/
def ofTree (options : ModuleOptions) (tree : RouteTree) : Except RouteError RoutesModule :=
  ofTreeOfSize options (some (RouteTree.size tree)) tree

/-- Every tree has a module. -/
theorem ofTree_eq_ok (options : ModuleOptions) (tree : RouteTree) :
    ofTree options tree =
      .ok { imports := importLines options, bindings := (emit options 0 [] tree).1,
            routes := (emit options 0 [] tree).2 } := by
  simp [ofTree, ofTreeOfSize, length_emit]

end RoutesModule

end PageRoutes
