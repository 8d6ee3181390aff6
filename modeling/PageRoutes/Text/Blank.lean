/-!
# Blank characters

The characters that count as blank at the two ends of an option (a pages root, a file extension),
and how runs of characters are cut off both ends of a text.

The class is the one of Unicode white space, together with the four information separators
U+001C to U+001F.
-/

namespace PageRoutes.Text

/-- The blank characters: white space of Unicode and the information separators. -/
def isBlank (c : Char) : Bool :=
  let n := c.toNat
  (0x09 ≤ n && n ≤ 0x0D) || (0x1C ≤ n && n ≤ 0x20) || n == 0x85 || n == 0xA0 || n == 0x1680
    || (0x2000 ≤ n && n ≤ 0x200A) || n == 0x2028 || n == 0x2029 || n == 0x202F || n == 0x205F
    || n == 0x3000

/-- The list without the runs of elements satisfying `p` at its two ends. -/
def dropBothWhile {α : Type} (p : α → Bool) (xs : List α) : List α :=
  ((xs.dropWhile p).reverse.dropWhile p).reverse

/-- The text without the blank characters at its two ends. -/
def trim (s : String) : String :=
  String.ofList (dropBothWhile isBlank s.toList)

/-- Whether a text holds nothing but blank characters. -/
def isAllBlank (s : String) : Bool :=
  s.toList.all isBlank

end PageRoutes.Text
