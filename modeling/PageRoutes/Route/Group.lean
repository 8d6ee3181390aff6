import PageRoutes.Route.Basic

/-!
# Grouping keyed values

A `Keyed` value stands under a key, the paths on the way to its route. `RouteTree.group` says which
tree a list of keyed views describes, all views at once: the first paths of the keys are the top
routes, in the order of their first occurrence; the entry whose key ends there gives a route its
view, and the longer keys, less their first path, give the routes nested in it. Where several
entries have the same key, the last of them counts.
-/

namespace PageRoutes

/-- A value and the key of the route it belongs to. -/
structure Keyed (α : Type) where
  key : List String
  value : α
deriving DecidableEq, Repr

namespace Keyed

variable {α β : Type}

/-- The first paths of the keys, each once, in the order of their first occurrence. -/
def heads (entries : List (Keyed α)) : List String :=
  (entries.filterMap fun entry => entry.key.head?).eraseDups

/-- The entry without its first path, if that is the given one. -/
def below? (path : String) (entry : Keyed α) : Option (Keyed α) :=
  match entry.key with
  | head :: rest => if head = path then some { entry with key := rest } else none
  | [] => none

/-- The entries under a path, their keys without it. -/
def under (path : String) (entries : List (Keyed α)) : List (Keyed α) :=
  entries.filterMap (below? path)

/-- The value of the entry whose key is at its end, the last one if there are several. -/
def here? (entries : List (Keyed α)) : Option α :=
  (entries.filter fun entry => entry.key = []).getLast?.map Keyed.value

/-- The entries whose keys go on. -/
def deeper (entries : List (Keyed α)) : List (Keyed α) :=
  entries.filter fun entry => entry.key ≠ []

/-- The length of the longest key. -/
def maxDepth (entries : List (Keyed α)) : Nat :=
  (entries.map fun entry => entry.key.length).max?.getD 0

end Keyed

namespace RouteTree

/-- Groups entries whose keys have at most `depth` paths. -/
def groupAux : (depth : Nat) → List (Keyed String) → RouteTree
  | 0, _ => []
  | depth + 1, entries =>
    (Keyed.heads entries).map fun path =>
      let under := Keyed.under path entries
      .mk path (Keyed.here? under) (ofList? (groupAux depth (Keyed.deeper under)))

/-- The tree that a list of keyed views describes. -/
def group (entries : List (Keyed String)) : RouteTree :=
  groupAux (Keyed.maxDepth entries) entries

end RouteTree

end PageRoutes
