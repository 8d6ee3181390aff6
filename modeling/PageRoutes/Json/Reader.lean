import PageRoutes.Json.Basic
import PageRoutes.Text.Hex

/-!
# Reading JSON

`Json.read?` reads a text that holds one value and blanks around it. Control characters must be
escaped in a text, and a number has no zero in front that could be left out. A number with a
fraction or an exponent is one of double precision, the nearest to what is written; any other is an
integer. The words `NaN`, `Infinity` and `-Infinity` are read as well, though they are never
written. Of two members of an object with one name the later counts.

The reader goes down from value to value on a number of steps that the length of the text bounds.
-/

namespace PageRoutes.Json

open Text

/-- What follows the blanks at the start of a text. -/
def skipBlanks (cs : List Char) : List Char :=
  cs.dropWhile fun c => c == ' ' || c == '\t' || c == '\n' || c == '\r'

/-- The character that a single letter stands for after a backslash. -/
def letterEscape? (c : Char) : Option Char :=
  match c with
  | '"' => some '"'
  | '\\' => some '\\'
  | '/' => some '/'
  | 'b' => some '\x08'
  | 'f' => some '\x0c'
  | 'n' => some '\n'
  | 'r' => some '\r'
  | 't' => some '\t'
  | _ => none

/-- A piece of a text: a character, or one half of a character beyond the first plane. -/
inductive TextUnit where
  | char (c : Char)
  | high (n : Nat)
  | low (n : Nat)

/-- The unit that an escape by four digits writes. -/
def TextUnit.ofCode? (n : Nat) : Option TextUnit :=
  if 0xD800 ≤ n ∧ n < 0xDC00 then some (.high (n - 0xD800))
  else if 0xDC00 ≤ n ∧ n < 0xE000 then some (.low (n - 0xDC00))
  else (charOf? n).map .char

/-- The characters of units; two halves in a row are one character. -/
def TextUnit.chars? : List TextUnit → Option (List Char)
  | [] => some []
  | .char c :: rest => (chars? rest).map (c :: ·)
  | .high h :: .low l :: rest => do
    let c ← charOf? (0x10000 + h * 0x400 + l)
    return c :: (← chars? rest)
  | _ => none

/-- The units of a text after its opening quote, and what follows the closing one. -/
def readUnits : List Char → Option (List TextUnit × List Char)
  | [] => none
  | '"' :: rest => some ([], rest)
  | '\\' :: 'u' :: a :: b :: c :: d :: rest => do
    let unit ← TextUnit.ofCode? (← fourDigits? a b c d)
    let (units, rest) ← readUnits rest
    return (unit :: units, rest)
  | '\\' :: e :: rest => do
    let c ← letterEscape? e
    let (units, rest) ← readUnits rest
    return (.char c :: units, rest)
  | c :: rest =>
    if c.toNat < 0x20 then none
    else (readUnits rest).map fun (units, rest) => (.char c :: units, rest)

/-- A text after its opening quote, and what follows the closing one. -/
def readText (cs : List Char) : Option (String × List Char) := do
  let (units, rest) ← readUnits cs
  return (String.ofList (← TextUnit.chars? units), rest)

/-- The number written by decimal digits. -/
def digitsValue (cs : List Char) : Nat :=
  cs.foldl (fun n c => 10 * n + (c.toNat - 48)) 0

/-- Decimal digits at the start of a text, and what follows them. -/
def takeDigits (cs : List Char) : List Char × List Char :=
  (cs.takeWhile Char.isDigit, cs.dropWhile Char.isDigit)

/-- The number nearest to `digits · 10 ^ exponent`; what is far too large or too small for any
number is not computed. -/
def nearestDecimal (digits : Nat) (exponent : Int) : Double :=
  let size : Int := (Nat.log2 digits : Int) + exponent
  if digits = 0 then ⟨0⟩
  else if 2000 < exponent then Double.infinity
  else if size < -2000 then ⟨0⟩
  else Double.nearest (digits * Nat.pow 10 exponent.toNat) (Nat.pow 10 (-exponent).toNat)

/-- The exponent at the start of a text, zero if there is none, and what follows it. -/
def readExponent : List Char → Option (Bool × Int × List Char)
  | e :: cs =>
    if e = 'e' ∨ e = 'E' then
      let (isNegative, cs) :=
        match cs with
        | '-' :: rest => (true, rest)
        | '+' :: rest => (false, rest)
        | _ => (false, cs)
      match takeDigits cs with
      | ([], _) => none
      | (digits, rest) =>
        let n : Int := digitsValue digits
        some (true, if isNegative then -n else n, rest)
    else some (false, 0, e :: cs)
  | [] => some (false, 0, [])

/-- Whether digits can stand before the fraction of a number: a zero in front stands alone. -/
def isWhole : List Char → Bool
  | [] => false
  | '0' :: rest => rest.isEmpty
  | _ => true

/-- The digits behind a point at the start of a text, none if there is no point, and what follows
them. -/
def readFraction : List Char → Option (List Char × List Char)
  | '.' :: after => if (takeDigits after).1 = [] then none else some (takeDigits after)
  | cs => some ([], cs)

/-- A number without its sign, and what follows it. -/
def readMagnitude (isNegative : Bool) (cs : List Char) : Option (Json × List Char) := do
  let (whole, rest) := takeDigits cs
  if !isWhole whole then none
  else
    let (fraction, rest) ← readFraction rest
    let (hasExponent, exponent, rest) ← readExponent rest
    if fraction = [] ∧ !hasExponent then
      let n : Int := digitsValue whole
      return (.int (if isNegative then -n else n), rest)
    else
      let x := nearestDecimal (digitsValue (whole ++ fraction)) (exponent - fraction.length)
      return (.number (if isNegative then x.negate else x), rest)

/-- A number or an infinity without its sign, and what follows it. -/
def readNumber (isNegative : Bool) : List Char → Option (Json × List Char)
  | 'I' :: 'n' :: 'f' :: 'i' :: 'n' :: 'i' :: 't' :: 'y' :: rest =>
    some (.number (if isNegative then Double.infinity.negate else .infinity), rest)
  | cs => readMagnitude isNegative cs

/-- The members of an object with one more in front, unless a later one has its name. -/
def addMember (name : String) (value : Json) (members : List (String × Json)) :
    List (String × Json) :=
  if members.any fun member => member.1 == name then members else (name, value) :: members

mutual

/-- A value at the start of a text, and what follows it. -/
def readValue : (steps : Nat) → List Char → Option (Json × List Char)
  | 0, _ => none
  | steps + 1, cs =>
    match skipBlanks cs with
    | '"' :: rest => (readText rest).map fun (s, rest) => (.text s, rest)
    | '[' :: rest =>
      match skipBlanks rest with
      | ']' :: rest => some (.list [], rest)
      | rest => (readItems steps rest).map fun (items, rest) => (.list items, rest)
    | '\x7b' :: rest =>
      match skipBlanks rest with
      | '\x7d' :: rest => some (.object [], rest)
      | rest => (readMembers steps rest).map fun (members, rest) => (.object members, rest)
    | 'n' :: 'u' :: 'l' :: 'l' :: rest => some (.null, rest)
    | 't' :: 'r' :: 'u' :: 'e' :: rest => some (.bool true, rest)
    | 'f' :: 'a' :: 'l' :: 's' :: 'e' :: rest => some (.bool false, rest)
    | 'N' :: 'a' :: 'N' :: rest => some (.number .notANumber, rest)
    | '-' :: rest => readNumber true rest
    | rest => readNumber false rest

/-- The items of a list up to its closing bracket, and what follows it. -/
def readItems : (steps : Nat) → List Char → Option (List Json × List Char)
  | 0, _ => none
  | steps + 1, cs => do
    let (item, rest) ← readValue steps cs
    match skipBlanks rest with
    | ']' :: rest => return ([item], rest)
    | ',' :: rest =>
      let (items, rest) ← readItems steps rest
      return (item :: items, rest)
    | _ => none

/-- The members of an object up to its closing brace, and what follows it. -/
def readMembers : (steps : Nat) → List Char → Option (List (String × Json) × List Char)
  | 0, _ => none
  | steps + 1, cs =>
    match skipBlanks cs with
    | '"' :: rest => do
      let (name, rest) ← readText rest
      match skipBlanks rest with
      | ':' :: rest =>
        let (value, rest) ← readValue steps rest
        match skipBlanks rest with
        | '\x7d' :: rest => return ([(name, value)], rest)
        | ',' :: rest =>
          let (members, rest) ← readMembers steps rest
          return (addMember name value members, rest)
        | _ => none
      | _ => none
    | _ => none

end

/-- Reads a text that holds one value. -/
def read? (s : String) : Option Json :=
  let cs := s.toList
  match readValue (2 * cs.length + 2) cs with
  | some (value, rest) => if skipBlanks rest = [] then some value else none
  | none => none

end PageRoutes.Json
