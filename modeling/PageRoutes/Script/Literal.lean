import PageRoutes.Text.Hex

/-!
# String literals of the generated script

Every path and import reference of a generated module stands in a quoted literal. `escape` writes
a text so that it can stand between single or double quotes: both quotes and the backslash get a
backslash, and the four line terminators, which must not stand in a literal, are written as escape
sequences.

`readLiteral` is the other side, the reader of a literal: it says what the rest of a script
denotes after an opening quote.

Main statement: `readLiteral_escape` — what `escape` writes is read back as the text it was made
from, whatever follows the closing quote.
-/

namespace PageRoutes.Script

open Text

/-- One character as it stands in a literal. -/
def escapeChar (c : Char) : List Char :=
  if c = '\\' ∨ c = '\'' ∨ c = '"' then ['\\', c]
  else if c = '\n' then ['\\', 'n']
  else if c = '\r' then ['\\', 'r']
  else if c = '\u2028' then ['\\', 'u', '2', '0', '2', '8']
  else if c = '\u2029' then ['\\', 'u', '2', '0', '2', '9']
  else [c]

/-- A text as it stands in a literal. -/
def escape (s : String) : String :=
  String.ofList (s.toList.flatMap escapeChar)

/-- A text as a literal in single quotes. -/
def literal (s : String) : String :=
  "'" ++ escape s ++ "'"

/-! ## Reading a literal -/

/-- The line terminators: a literal that holds one as it is has no meaning. -/
def isLineTerminator (c : Char) : Bool :=
  c == '\n' || c == '\r' || c == '\u2028' || c == '\u2029'

/-- The character denoted by a backslash and the letter `e`, unless `e` begins a longer escape. -/
def escapedChar (e : Char) : Char :=
  if e = 'n' then '\n'
  else if e = 'r' then '\r'
  else if e = 't' then '\t'
  else if e = 'b' then '\x08'
  else if e = 'f' then '\x0c'
  else if e = 'v' then '\x0b'
  else if e = '0' then '\x00'
  else e

/--
Reads the rest of a literal opened by the quote `q`: the text it denotes, and what follows the
closing quote. The literal ends at the first `q` without a backslash before it. A line terminator
inside, an unfinished escape and a missing quote have no meaning.
-/
def readLiteral (q : Char) : List Char → Option (List Char × List Char)
  | [] => none
  | '\\' :: 'u' :: a :: b :: c :: d :: rest => do
    let u ← charOf? (← fourDigits? a b c d)
    let (text, rest) ← readLiteral q rest
    some (u :: text, rest)
  | '\\' :: e :: rest =>
    if e = 'u' ∨ e = 'x' ∨ isLineTerminator e then none
    else (readLiteral q rest).map fun (text, rest) => (escapedChar e :: text, rest)
  | c :: rest =>
    if c = q then some ([], rest)
    else if c = '\\' ∨ isLineTerminator c then none
    else (readLiteral q rest).map fun (text, rest) => (c :: text, rest)

/-- Reading one escaped character and going on. -/
theorem readLiteral_escapeChar {q : Char} (hq : q = '\'' ∨ q = '"') (c : Char) (rest : List Char) :
    readLiteral q (escapeChar c ++ rest)
      = (readLiteral q rest).map fun (text, rest) => (c :: text, rest) := by
  by_cases hb : c = '\\' ∨ c = '\'' ∨ c = '"'
  · rcases hb with rfl | rfl | rfl <;> simp [escapeChar, readLiteral, isLineTerminator, escapedChar]
  by_cases hn : c = '\n'
  · subst hn; simp [escapeChar, readLiteral, isLineTerminator, escapedChar]
  by_cases hr : c = '\r'
  · subst hr; simp [escapeChar, readLiteral, isLineTerminator, escapedChar]
  by_cases hl : c = '\u2028'
  · subst hl
    have h : fourDigits? '2' '0' '2' '8' = some 8232 := by decide
    have h' : charOf? 8232 = some '\u2028' := by decide
    cases hr : readLiteral q rest <;> simp [escapeChar, readLiteral, h, h', hr]
  by_cases hp : c = '\u2029'
  · subst hp
    have h : fourDigits? '2' '0' '2' '9' = some 8233 := by decide
    have h' : charOf? 8233 = some '\u2029' := by decide
    cases hr : readLiteral q rest <;> simp [escapeChar, readLiteral, h, h', hr]
  have hcq : c ≠ q := by rcases hq with rfl | rfl <;> simp_all
  have hcb : c ≠ '\\' := fun h => hb (.inl h)
  simp [escapeChar, hb, hn, hr, hl, hp]
  rw [readLiteral]
  · simp [hcq, hcb, isLineTerminator, hn, hr, hl, hp]
  · intro a b c d r h; simp_all
  · intro e r h; simp_all

/-- What `escape` writes is read back, whatever follows the closing quote. -/
theorem readLiteral_escape {q : Char} (hq : q = '\'' ∨ q = '"') (s : String) (rest : List Char) :
    readLiteral q ((escape s).toList ++ q :: rest) = some (s.toList, rest) := by
  rw [escape, String.toList_ofList]
  induction s.toList with
  | nil =>
    rcases hq with rfl | rfl <;> simp [readLiteral]
  | cons c cs ih =>
    rw [List.flatMap_cons, List.append_assoc, readLiteral_escapeChar hq, ih]
    rfl

end PageRoutes.Script
