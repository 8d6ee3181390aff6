import PageRoutes.Error
import PageRoutes.Json.Printer

/-!
# JSON documents

The text of a value for an indentation that is asked for. An indentation is needed, and it must be
an integer of 64 bits.
-/

namespace PageRoutes.Json

/-- Whether a number can be an indentation: it has 64 bits with its sign. -/
def isIndentation (n : Int) : Bool :=
  -0x8000000000000000 ≤ n && n < 0x8000000000000000

/-- A value as a document, if the indentation can be used. -/
def document (indent : Option Int) (value : Json) : Except Failure String := do
  let indent ← require .indentation indent
  if isIndentation indent then return encode indent value
  else throw .indentationOutOfRange

end PageRoutes.Json
