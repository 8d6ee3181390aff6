import PageRoutes.Json.Basic

/-!
# JSON values up to the order of members

In an object the order of the members means nothing. `Json.Alike` compares values that way, and
`Json.IsOrdered` picks the one of several alike values whose members are in the order of their
names. Both make sense for values without two members of one name in an object; `Json.IsExact` says
so, and that the value holds no number of double precision, whose text is not its value.
-/

namespace PageRoutes.Json

mutual

/-- No object has two members of one name, and no number is one of double precision. -/
def IsExact : Json → Prop
  | .null | .bool _ | .int _ | .text _ => True
  | .number _ => False
  | .list items => AllExact items
  | .object members => (members.map Prod.fst).Nodup ∧ MembersExact members

/-- All items of a list are exact. -/
def AllExact : List Json → Prop
  | [] => True
  | item :: items => item.IsExact ∧ AllExact items

/-- The values of all members are exact. -/
def MembersExact : List (String × Json) → Prop
  | [] => True
  | (_, value) :: members => value.IsExact ∧ MembersExact members

end

mutual

/-- In every object the names of the members increase. -/
def IsOrdered : Json → Prop
  | .null | .bool _ | .int _ | .number _ | .text _ => True
  | .list items => AllOrdered items
  | .object members => (members.map Prod.fst).Pairwise (· < ·) ∧ MembersOrdered members

/-- All items of a list are ordered. -/
def AllOrdered : List Json → Prop
  | [] => True
  | item :: items => item.IsOrdered ∧ AllOrdered items

/-- The values of all members are ordered. -/
def MembersOrdered : List (String × Json) → Prop
  | [] => True
  | (_, value) :: members => value.IsOrdered ∧ MembersOrdered members

end

mutual

/-- Two values are the same but for the order of members: lists agree item by item, and objects
have the same number of members and to each member of the first one of the same name with a value
alike. -/
def Alike : Json → Json → Prop
  | .null, .null => True
  | .bool a, .bool b => a = b
  | .int a, .int b => a = b
  | .number a, .number b => a = b
  | .text a, .text b => a = b
  | .list xs, .list ys => AlikeItems xs ys
  | .object xs, .object ys => xs.length = ys.length ∧ AlikeMembers xs ys
  | _, _ => False

/-- Two lists agree item by item. -/
def AlikeItems : List Json → List Json → Prop
  | [], [] => True
  | x :: xs, y :: ys => x.Alike y ∧ AlikeItems xs ys
  | _, _ => False

/-- Each of the first members is among the second ones, with a value alike. -/
def AlikeMembers : List (String × Json) → List (String × Json) → Prop
  | [], _ => True
  | (name, x) :: xs, ys => (∃ y, (name, y) ∈ ys ∧ x.Alike y) ∧ AlikeMembers xs ys

end

end PageRoutes.Json
