import PageRoutes.Error
import PageRoutes.Script.Literal

/-!
# The router component

A component that renders the generated routes. It imports them by a specifier: either a module
name, or the path from the component to the routes module, as `importSpecifier` finds it.
-/

namespace PageRoutes.RouterComponent

open Text Script

/-- The lines of the component before the import of the routes. -/
def before : String :=
  "import React from 'react';\n"
    ++ "import \x7b BrowserRouter, Route, Routes \x7d from 'react-router-dom';\n"

/-- The lines of the component after the import of the routes. -/
def after : String :=
  "\n".intercalate [
    "",
    "type FileRouteObject = \x7b",
    "  path: string;",
    "  element: React.ReactNode;",
    "  children?: FileRouteObject[];",
    "\x7d;",
    "",
    "function renderRoutes(routes: FileRouteObject[]): JSX.Element[] \x7b",
    "  return routes.map((route, idx) => (",
    "    <Route key=\x7b`$\x7broute.path\x7d-$\x7bidx\x7d`\x7d path=\x7broute.path\x7d "
      ++ "element=\x7broute.element\x7d>",
    "      \x7broute.children ? renderRoutes(route.children) : null\x7d",
    "    </Route>",
    "  ));",
    "\x7d",
    "",
    "const FileRouter: React.FC = () => (",
    "  <BrowserRouter>",
    "    <Routes>\x7brenderRoutes(fileRoutes)\x7d</Routes>",
    "  </BrowserRouter>",
    ");",
    "",
    "export default FileRouter;",
    ""]

/-- The component that imports the routes by a specifier. -/
def source (specifier : String) : String :=
  before ++ "import fileRoutes from " ++ literal specifier ++ ";\n" ++ after

/--
The specifier by which the component at `router` imports the routes module at `module`: the way
from the component's directory to the module without its suffix. A way that does not start with a
dot gets `./` in front. The root of the file system is no module.
-/
def importSpecifier (cwd : Address) (router module : Path) : Except Failure String := do
  match (← addressOf cwd module).reverse with
  | [] => throw (.emptyName (.ofAddress []))
  | name :: directory =>
    let target := Address.step directory.reverse (dropSuffix name)
    let base := (← addressOf cwd router).dropLast
    let way : Path := { anchor := .relative, names := Address.relativeTo base target }
    return if way.text.toList.head? = some '.' then way.text else "./" ++ way.text

end PageRoutes.RouterComponent
