import PageRoutes.Console.Emoji.Names
import PageRoutes.Text.Blank
import PageRoutes.Text.Hex
import PageRoutes.Text.Lower
import PageRoutes.Text.Split

/-!
# Emoji codes

A name between two colons, with no blank in it, is a code: the console shows the emoji of that name
instead. Behind the name may stand `-emoji` or `-text`, which asks for a presentation as a picture
or as a sign. Names are told apart without regard to case. A code that names no emoji is shown as
it stands, and its closing colon opens no other code.

`Emoji.replace` is a text with its codes replaced.
-/

namespace PageRoutes.Emoji

open Text

/-! ## Names -/

/-- The entries of a part of the table, each with what stands behind its colon. -/
def entriesOf (part : String) : List (String × List Char) :=
  ((splitChars '\n' part.toList).flatMap (splitChars ' ')).filterMap fun entry =>
    match splitChars ':' entry with
    | [name, value] => some (String.ofList name, value)
    | _ => none

/-- The number that hexadecimal digits write; other characters count for nothing. -/
def hexNumber (digits : List Char) : Nat :=
  (digits.filterMap hexValue?).foldl (fun n digit => 16 * n + digit) 0

/-- The characters whose code points are written with hyphens between them. -/
def charsOf (codePoints : List Char) : List Char :=
  (splitChars '-' codePoints).filterMap fun digits => charOf? (hexNumber digits)

/-- The skin tones by their names. -/
def tones : List (String × Char) :=
  [("light", Char.ofNat 0x1F3FB), ("medium-light", Char.ofNat 0x1F3FC),
    ("medium", Char.ofNat 0x1F3FD), ("medium-dark", Char.ofNat 0x1F3FE),
    ("dark", Char.ofNat 0x1F3FF)]

/-- An emoji in a skin tone: the tone stands behind the first character, and in the place of a mark
for the presentation as a picture. -/
def inTone (tone : Char) : List Char → List Char
  | [] => []
  | c :: '\ufe0f' :: cs => c :: tone :: cs
  | c :: cs => c :: tone :: cs

/-- The flag of a country: the regional indicators that belong to its two letters. -/
def flagOf (letters : List Char) : List Char :=
  letters.map fun c => Char.ofNat (0x1F1E6 + (c.toNat - 'A'.toNat))

/-- All names with their emoji. -/
def table : List (String × List Char) :=
  let plain := (entriesOf plainNames).map fun (name, value) => (name, charsOf value)
  let persons := (entriesOf personNames).flatMap fun (name, value) =>
    (name, charsOf value) ::
      tones.map fun (tone, mark) =>
        (name ++ "_" ++ tone ++ "_skin_tone", inTone mark (charsOf value))
  let flags := (entriesOf countryNames).flatMap fun (name, value) =>
    [(name, flagOf value), ("flag_for_" ++ name, flagOf value)]
  plain ++ persons ++ flags

/-- The emoji of a name. -/
def named? (name : List Char) : Option (List Char) :=
  table.lookup (String.ofList (name.map lowerLetter))

/-! ## Codes -/

/-- A code after its opening colon, and what follows its closing one. -/
def takeCode (cs : List Char) : Option (List Char × List Char) :=
  match cs.dropWhile fun c => c != ':' && !isBlank c with
  | ':' :: rest => some (cs.takeWhile fun c => c != ':' && !isBlank c, rest)
  | _ => none

/-- What follows a code is shorter than the text it was taken from. -/
theorem length_lt_of_takeCode {cs code rest : List Char} (h : takeCode cs = some (code, rest)) :
    rest.length < cs.length := by
  have hdrop := (List.dropWhile_sublist (fun c => c != ':' && !isBlank c) (l := cs)).length_le
  rw [takeCode] at h
  split at h
  · next r hr =>
    simp only [Option.some.injEq, Prod.mk.injEq] at h
    rw [hr, List.length_cons, h.2] at hdrop
    omega
  · simp at h

/-- The part of a code before an ending, if the code has that ending. -/
def before? (ending : String) (code : List Char) : Option (List Char) :=
  if ending.toList.isSuffixOf code then some (code.take (code.length - ending.length)) else none

/-- What is shown for a code. -/
def shown (code : List Char) : List Char :=
  let emoji? :=
    match before? "-emoji" code, before? "-text" code with
    | some name, _ => (named? name).map (· ++ ['\ufe0f'])
    | none, some name => (named? name).map (· ++ ['\ufe0e'])
    | none, none => named? code
  emoji?.getD (':' :: code ++ [':'])

/-- A text with its codes replaced. -/
def replace (cs : List Char) : List Char :=
  match cs with
  | [] => []
  | c :: cs =>
    if c = ':' then
      match _h : takeCode cs with
      | some (code, rest) => shown code ++ replace rest
      | none => c :: replace cs
    else c :: replace cs
termination_by cs.length
decreasing_by
  · have hrest := length_lt_of_takeCode _h
    rw [List.length_cons]
    omega
  · simp
  · simp

end PageRoutes.Emoji
