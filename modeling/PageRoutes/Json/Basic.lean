import PageRoutes.Decimal.Double

/-!
# JSON values

Integers of any size and numbers of double precision are kept apart. An object is a list of
members; `sorted` puts the members of every object into the order of their names, which is the
order of code points.
-/

namespace PageRoutes

/-- A JSON value. -/
inductive Json where
  | null
  | bool (value : Bool)
  | int (value : Int)
  | number (value : Double)
  | text (value : String)
  | list (items : List Json)
  | object (members : List (String × Json))
deriving Repr, Inhabited

namespace Json

/-- Puts a member before the first one whose name is not smaller. -/
def insertMember (member : String × Json) : List (String × Json) → List (String × Json)
  | [] => [member]
  | first :: rest =>
    if member.1 ≤ first.1 then member :: first :: rest else first :: insertMember member rest

mutual

/-- The value with the members of every object sorted by name. -/
def sorted : Json → Json
  | .list items => .list (sortedItems items)
  | .object members => .object (sortedMembers members)
  | .null => .null
  | .bool value => .bool value
  | .int value => .int value
  | .number value => .number value
  | .text value => .text value

/-- The items of a list, each sorted; their order stays. -/
def sortedItems : List Json → List Json
  | [] => []
  | item :: items => item.sorted :: sortedItems items

/-- The members of an object in the order of their names, each value sorted. -/
def sortedMembers : List (String × Json) → List (String × Json)
  | [] => []
  | (name, value) :: members => insertMember (name, value.sorted) (sortedMembers members)

end

/-- The value of a member of an object. -/
def field? (name : String) : Json → Option Json
  | .object members => (members.find? fun member => member.1 == name).map Prod.snd
  | _ => none

end Json

end PageRoutes
