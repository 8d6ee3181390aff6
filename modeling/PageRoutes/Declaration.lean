import PageRoutes.RoutesModule

/-!
# The module declaration

Scripts can import the generated routes under a module name of their own. The ambient declaration
tells the type checker what such an import yields.
-/

namespace PageRoutes

open Script

/-- The name of the module that stands for the routes module in import declarations. -/
def defaultModuleName : String := "virtual:file-routes"

/-- The ambient declaration that gives the routes module its type under a module name. -/
def moduleDeclaration (moduleName : String) : String :=
  "\n".intercalate [
    RoutesModule.header,
    "",
    "declare module \"" ++ escape moduleName ++ "\" \x7b",
    "  import type \x7b ReactNode \x7d from \"react\";",
    "",
    "  export interface VirtualRoute \x7b",
    "    path: string;",
    "    element: ReactNode;",
    "    children?: VirtualRoute[];",
    "  \x7d",
    "",
    "  const routes: VirtualRoute[];",
    "  export default routes;",
    "\x7d",
    ""]

end PageRoutes
