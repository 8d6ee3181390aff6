import PageRoutes.Text.Hex
import PageRoutes.Text.Printable

/-!
# Quoted text in messages

Error messages show a path, a route or an option between quotes. The quote is a single one unless
the text holds a single and no double quote. Inside, the quote in use and the backslash are
escaped, line feed, carriage return and tab are written as letters, and any other character that
is not printable is written by its code point in two, four or eight hexadecimal digits.
-/

namespace PageRoutes.Text

/-- The quote that surrounds a text. -/
def quoteFor (cs : List Char) : Char :=
  if '\'' ∈ cs ∧ '"' ∉ cs then '"' else '\''

/-- One character as it stands between two quotes `q`. -/
def quoteChar (q c : Char) : List Char :=
  if c = q ∨ c = '\\' then ['\\', c]
  else if c = '\n' then ['\\', 'n']
  else if c = '\r' then ['\\', 'r']
  else if c = '\t' then ['\\', 't']
  else if isPrintable c then [c]
  else
    let n := c.toNat
    if n < 0x100 then '\\' :: 'x' :: hexDigits 2 n
    else if n < 0x10000 then '\\' :: 'u' :: hexDigits 4 n
    else '\\' :: 'U' :: hexDigits 8 n

/-- A text between quotes, as messages show it. -/
def quote (s : String) : String :=
  let q := quoteFor s.toList
  String.ofList (q :: s.toList.flatMap (quoteChar q) ++ [q])

end PageRoutes.Text
