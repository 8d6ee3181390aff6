/-!
# Lower case

Names that people write are told apart without regard to case: both sides are compared in lower
case. The names in question are written with letters of ASCII and Latin-1, so only the characters
whose small letters are among those matter.
-/

namespace PageRoutes.Text

/-- A letter in lower case: a letter of ASCII or Latin-1, the sign for kelvin, or the sign for the
unit of length that is written with a ring. -/
def lowerLetter (c : Char) : Char :=
  let n := c.toNat
  if (0x41 ≤ n ∧ n ≤ 0x5A) ∨ (0xC0 ≤ n ∧ n ≤ 0xDE ∧ n ≠ 0xD7) then Char.ofNat (n + 0x20)
  else if n = 0x212A then 'k'
  else if n = 0x212B then 'å'
  else c

/-- A text in lower case. -/
def lower (s : String) : String :=
  String.ofList (s.toList.map lowerLetter)

end PageRoutes.Text
