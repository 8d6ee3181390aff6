import PageRoutes.Route.Basic

/-!
# Route keys

The key of a view file is where its route stands in the tree: the paths of the routes on the way
down to it. An `index` file stands for its directory, so a final `index` adds nothing to the key,
unless there is nothing before it.

Main statement: `key_ne_nil` — every file has a route of its own.
-/

namespace PageRoutes.Route

/-- The path of the route that a segment stands for. -/
def pathOfSegment (segment : String) : String :=
  if segment = indexName then rootPath else "/" ++ segment

/-- The key of the file with the given segments. -/
def key : (segments : List String) → List String
  | [] => []
  | segment :: rest =>
    pathOfSegment segment :: if rest = [indexName] then [] else key rest

theorem key_ne_nil {segments : List String} (h : segments ≠ []) : key segments ≠ [] := by
  cases segments with
  | nil => exact absurd rfl h
  | cons s rest => simp [key]

end PageRoutes.Route
