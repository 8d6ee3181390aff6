import PageRoutes.Decimal.Shortest
import PageRoutes.Json.Basic
import PageRoutes.Text.Hex

/-!
# Writing JSON

`Json.encode` writes a value with the members of every object in the order of their names, so equal
values have equal texts. Three layouts exist: indented, on one line with blanks, and without any
blank. Only the quote, the backslash and the control characters are escaped in a text.
-/

namespace PageRoutes.Json

/-- How the parts of a value are set. -/
inductive Layout where
  /-- One item a line, each level indented by `width` blanks more. -/
  | indented (width : Nat)
  /-- On one line, a blank after each comma and colon. -/
  | spaced
  /-- On one line without blanks. -/
  | compact
deriving DecidableEq, Repr

/-- The layout for a requested indentation: none for zero, and not even blanks below zero. -/
def Layout.ofIndent (indent : Int) : Layout :=
  if 0 < indent then .indented indent.toNat else if indent = 0 then .spaced else .compact

/-- The break inside a bracket at a nesting depth. -/
def Layout.gap (layout : Layout) (depth : Nat) : List Char :=
  match layout with
  | .indented width => '\n' :: List.replicate (width * depth) ' '
  | .spaced | .compact => []

/-- What stands between two items at a nesting depth. -/
def Layout.comma (layout : Layout) (depth : Nat) : List Char :=
  match layout with
  | .indented _ => ',' :: layout.gap depth
  | .spaced => [',', ' ']
  | .compact => [',']

/-- What stands between a name and its value. -/
def Layout.colon : Layout → List Char
  | .indented _ | .spaced => [':', ' ']
  | .compact => [':']

/-- One character of a text. -/
def writeChar (c : Char) : List Char :=
  if c = '"' ∨ c = '\\' then ['\\', c]
  else if c = '\x08' then ['\\', 'b']
  else if c = '\x0c' then ['\\', 'f']
  else if c = '\n' then ['\\', 'n']
  else if c = '\r' then ['\\', 'r']
  else if c = '\t' then ['\\', 't']
  else if c.toNat < 0x20 then
    '\\' :: 'u' :: Text.hexDigits 4 c.toNat
  else [c]

/-- A text between quotes. -/
def writeText (s : String) : List Char :=
  '"' :: s.toList.flatMap writeChar ++ ['"']

/-- An integer. -/
def writeInt : Int → List Char
  | .ofNat n => Nat.toDigits 10 n
  | .negSucc n => '-' :: Nat.toDigits 10 (n + 1)

/-- Numbers below `10 ^ 16` and from `10 ^ -5` on are written without an exponent. -/
def numberText : NumberText := { large := 16, small := -5 }

/-- A number of double precision; what is no finite number is written as `null`. -/
def writeNumber (x : Double) : List Char :=
  if x.isFinite then numberText.ofDouble x else "null".toList

mutual

/-- A value at a nesting depth. -/
def write (layout : Layout) (depth : Nat) : Json → List Char
  | .null => "null".toList
  | .bool true => "true".toList
  | .bool false => "false".toList
  | .int value => writeInt value
  | .number value => writeNumber value
  | .text value => writeText value
  | .list [] => ['[', ']']
  | .list (item :: items) =>
    '[' :: layout.gap (depth + 1) ++ write layout (depth + 1) item
      ++ writeItems layout (depth + 1) items ++ layout.gap depth ++ [']']
  | .object [] => ['\x7b', '\x7d']
  | .object ((name, value) :: members) =>
    '\x7b' :: layout.gap (depth + 1) ++ writeText name ++ layout.colon
      ++ write layout (depth + 1) value
      ++ writeMembers layout (depth + 1) members ++ layout.gap depth ++ ['\x7d']

/-- The items of a list after the first, each with the comma before it. -/
def writeItems (layout : Layout) (depth : Nat) : List Json → List Char
  | [] => []
  | item :: items => layout.comma depth ++ write layout depth item ++ writeItems layout depth items

/-- The members of an object after the first, each with the comma before it. -/
def writeMembers (layout : Layout) (depth : Nat) : List (String × Json) → List Char
  | [] => []
  | (name, value) :: members =>
    layout.comma depth ++ writeText name ++ layout.colon ++ write layout depth value
      ++ writeMembers layout depth members

end

/-- A value as a text of its own: members sorted, and a line feed at the end. -/
def encode (indent : Int) (value : Json) : String :=
  String.ofList (write (.ofIndent indent) 0 value.sorted ++ ['\n'])

end PageRoutes.Json
