/-!
# Choices

An option of a project can be left open, so that its default holds; it can be set to a value; and
it can be set to nothing. A `Choice` tells the three apart.
-/

namespace PageRoutes

/-- How an option is set. -/
inductive Choice (α : Type) where
  /-- It is left open. -/
  | byDefault
  /-- It is set to nothing. -/
  | nothing
  /-- It is set to a value. -/
  | value (a : α)
deriving DecidableEq, Repr

namespace Choice

variable {α : Type}

/-- What is chosen, if anything is, where `default` holds for what is left open. -/
def orDefault (default : α) : Choice α → Option α
  | byDefault => some default
  | nothing => none
  | value a => some a

end Choice

end PageRoutes
