import PageRoutes.RoutesModule

/-!
# Reading a routes module

`RoutesModule.read` is the other side of `RoutesModule.source`: it says which routes the text of a
module denotes. The options of the module have to be known, for the stem of the names and the
reference of the fallback component can be any text at all.

## Two passes

The bindings come first, and with them the views of all routes in the order of a walk. The objects
take the views out of that list one by one, and they are numbered in the order in which they are
opened, so at every place the text of the next fixed piece is known. Only a path and the reference
of a view are not known before they are read, and both stand in literals.

## Termination

A list of objects is read with fuel. The reader of a list and the reader of an object take one unit
each; two units for each view are enough, because every object takes a view.

What is read are the routes as they are shown in the module (`RouteTree.shown`).

## Heads

`RoutesModule.readHeads` asks for less and knows less: it looks for the heads of objects wherever
they stand in a script, and takes from each one the path and the name in its element. The names are
read with their numbers, not expected.
-/

namespace PageRoutes

open Script

mutual

/-- A route as its module shows it: with the path of its object, and without a list of nested
routes where nothing is nested in it. -/
def Route.shown : Route → Route
  | .mk path view none => .mk (RoutesModule.objectPath path) view none
  | .mk path view (some routes) =>
    .mk (RoutesModule.objectPath path) view (RouteTree.ofList? (RouteTree.shown routes))

/-- A route tree as its module shows it. -/
def RouteTree.shown : List Route → RouteTree
  | [] => []
  | route :: routes => route.shown :: RouteTree.shown routes

end

namespace RoutesModule

/-! ## The fixed pieces of a module -/

/-- All that stands before the bindings. -/
def preamble (options : ModuleOptions) : String :=
  header ++ "\n\n" ++ "\n".intercalate (importLines options) ++ "\n\n"

/-- The declaration of a binding up to the library that loads its view. -/
def bindingHead (options : ModuleOptions) (number : Nat) : String :=
  "const " ++ bindingName options number ++ " = React."

/-- A route object up to its path. -/
def objectHead (depth : Nat) : String :=
  "\n".intercalate [indentation depth ++ "\x7b", indentation depth ++ "  path: "]

/-- A route object from its path on, up to the line in which its element ends. -/
def objectElement (options : ModuleOptions) (depth number : Nat) : String :=
  let pad := indentation depth
  "\n".intercalate
    [ ",",
      pad ++ "  element: (",
      pad ++ "    <React.Suspense fallback=\x7b" ++ fallbackElement options ++ "\x7d>",
      pad ++ "      <" ++ bindingName options number ++ " />",
      pad ++ "    </React.Suspense>",
      "" ]

/-- The end of an element, as far as it does not depend on what follows. -/
def elementEnd (depth : Nat) : String :=
  indentation depth ++ "  )"

/-- What stands behind the element of a route object without nested objects. -/
def objectEnd (depth : Nat) : String :=
  "\n".intercalate ["", indentation depth ++ "\x7d"]

/-- What stands between an element and nested objects. -/
def childrenHead (depth : Nat) : String :=
  "\n".intercalate [",", indentation depth ++ "  children: [", ""]

/-- What stands behind nested objects. -/
def childrenEnd (depth : Nat) : String :=
  "\n".intercalate ["", indentation depth ++ "  ]", indentation depth ++ "\x7d"]

/-! ## The reader -/

/-- What follows a text that has to stand at the front of a script. -/
def expect (text : String) (script : List Char) : Option (List Char) :=
  text.toList.isPrefixOf? script

/-- Reads a literal in single quotes: the text it denotes, and what follows it. -/
def readQuoted (script : List Char) : Option (String × List Char) := do
  let script ← expect "'" script
  let (text, script) ← readLiteral '\'' script
  return (String.ofList text, script)

/-- Reads what a binding loads. -/
def readLoader (script : List Char) : Option (Option String × List Char) :=
  match expect "Fragment;" script with
  | some script => some (none, script)
  | none => do
    let script ← expect "lazy(() => import(" script
    let (view, script) ← readQuoted script
    let script ← expect "));" script
    return (some view, script)

/-- Reads the bindings from the given number on, up to the blank line behind them: the view that
each one loads. -/
def readBindings (options : ModuleOptions) :
    (fuel number : Nat) → List Char → Option (List (Option String) × List Char)
  | 0, _, _ => none
  | fuel + 1, number, script => do
    let script ← expect (bindingHead options number) script
    let (view, script) ← readLoader script
    let script ← expect "\n" script
    match expect "\n" script with
    | some script => return ([view], script)
    | none =>
      let (views, script) ← readBindings options fuel (number + 1) script
      return (view :: views, script)

mutual

/-- Reads a route object; the views that are left for what follows it come with the result. -/
def readObject (options : ModuleOptions) :
    (fuel depth number : Nat) → (views : List (Option String)) → List Char →
      Option (Route × List (Option String) × List Char)
  | 0, _, _, _, _ => none
  | _, _, _, [], _ => none
  | fuel + 1, depth, number, view :: views, script => do
    let script ← expect (objectHead depth) script
    let (path, script) ← readQuoted script
    let script ← expect (objectElement options depth number) script
    let script ← expect (elementEnd depth) script
    match expect (childrenHead depth) script with
    | some script =>
      let (routes, views, script) ← readObjects options fuel (depth + 1) (number + 1) views script
      let script ← expect (childrenEnd depth) script
      return (.mk path view (some routes), views, script)
    | none =>
      let script ← expect (objectEnd depth) script
      return (.mk path view none, views, script)

/-- Reads route objects one after the other, of which there is at least one. -/
def readObjects (options : ModuleOptions) :
    (fuel depth number : Nat) → (views : List (Option String)) → List Char →
      Option (RouteTree × List (Option String) × List Char)
  | 0, _, _, _, _ => none
  | fuel + 1, depth, number, views, script => do
    let (route, views, script) ← readObject options fuel depth number views script
    match expect ",\n" script with
    | none => return ([route], views, script)
    | some script =>
      let (routes, views, script) ←
        readObjects options fuel depth (number + route.size) views script
      return (route :: routes, views, script)

end

/-- The routes that the text of a module with the given options denotes. -/
def read (options : ModuleOptions) (text : String) : Option RouteTree := do
  let script ← expect (preamble options) text.toList
  match expect "export default [];\n" script with
  | some rest => if rest = [] then some [] else none
  | none =>
    let (views, script) ← readBindings options script.length 0 script
    let script ← expect "export default [\n" script
    let (routes, views, script) ← readObjects options (2 * views.length) 0 0 views script
    let script ← expect "\n];\n" script
    if views = [] ∧ script = [] then some routes else none

/-! ## The heads of objects -/

/-- What follows a text that has to stand at the front of a script, behind any blanks. -/
def expectIndented (text : String) (script : List Char) : Option (List Char) :=
  expect text (script.dropWhile (· == ' '))

/-- Reads a route object from its path up to the end of its element: the path, the name in the
element, and what follows. -/
def readHead (options : ModuleOptions) (script : List Char) :
    Option ((String × String) × List Char) := do
  let script ← expect "path: " script
  let (path, script) ← readQuoted script
  let script ← expect ",\n" script
  let script ← expectIndented "element: (\n" script
  let script ← expectIndented "<React.Suspense fallback=\x7b" script
  let script ← expect (fallbackElement options) script
  let script ← expect "\x7d>\n" script
  let script ← expectIndented "<" script
  let script ← expect options.stem script
  let number := script.takeWhile Char.isDigit
  let script ← expect " />\n" (script.dropWhile Char.isDigit)
  let script ← expectIndented "</React.Suspense>\n" script
  let script ← expectIndented ")" script
  return ((path, options.stem ++ String.ofList number), script)

/-- Reads the heads of route objects wherever they stand in a script, from the front to the end:
the path and the name in the element of each. The first `skip` characters belong to a head that is
read already. -/
def readHeads (options : ModuleOptions) : (skip : Nat) → List Char → List (String × String)
  | _, [] => []
  | skip + 1, _ :: script => readHeads options skip script
  | 0, c :: script =>
    match readHead options (c :: script) with
    | some (head, rest) => head :: readHeads options (script.length - rest.length) script
    | none => readHeads options 0 script

end RoutesModule

end PageRoutes
