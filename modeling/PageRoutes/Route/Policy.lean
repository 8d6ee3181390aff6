/-!
# Duplicate routes

Two view files can define the same route. A policy says what happens then.
-/

namespace PageRoutes

/-- What happens when a second view file defines a route. -/
inductive DuplicatePolicy where
  /-- The second file is refused. -/
  | refuse
  /-- The second file replaces the first. -/
  | lastWins
deriving DecidableEq, Repr

namespace DuplicatePolicy

/-- The name of a policy in the options. -/
def name : DuplicatePolicy → String
  | refuse => "error"
  | lastWins => "last_wins"

/-- The policies, in the order in which messages list them. -/
def all : List DuplicatePolicy := [refuse, lastWins]

/-- The policy of a name. -/
def ofName? (s : String) : Option DuplicatePolicy :=
  all.find? fun policy => policy.name == s

@[simp] theorem ofName?_name (policy : DuplicatePolicy) : ofName? policy.name = some policy := by
  cases policy <;> rfl

end DuplicatePolicy

end PageRoutes
