import PageRoutes.Error
import PageRoutes.Text.Blank

/-!
# Where a view file lies below the pages root

Paths of view files and of the pages root may be written with slashes or backslashes, relative or
absolute. `location` gives the path of a file below the root, with slashes only and none at its
ends, and refuses a file that does not lie strictly below the root.
-/

namespace PageRoutes.Route

open Text

/-- A path with slashes in place of backslashes. -/
def forwardSlashes (path : String) : String :=
  String.ofList (path.toList.map fun c => if c = '\\' then '/' else c)

/-- A path with slashes only and none at its two ends. -/
def normalizePath (path : String) : String :=
  String.ofList (dropBothWhile (· == '/') (forwardSlashes path).toList)

/--
The path of a view file below the pages root. Relative paths start at the current directory `cwd`.
A file is refused unless the root is a proper part of the way to it, and also if one of the two
paths is absolute and the other is not.
-/
def location (cwd : Address) (file root : String) : Except RouteError String :=
  let filePath := Path.ofString (forwardSlashes file)
  let rootPath := Path.ofString (forwardSlashes root)
  if filePath.isAbsolute != rootPath.isAbsolute then .error (.outsideRoot file root)
  else
    match Address.relativeTo (rootPath.resolve cwd) (filePath.resolve cwd) with
    | [] => .error (.outsideRoot file root)
    | name :: names =>
      if name = ".." then .error (.outsideRoot file root)
      else .ok (normalizePath (join '/' (name :: names)))

end PageRoutes.Route
