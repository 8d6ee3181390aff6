import PageRoutes.Console.Markup

/-!
# Tags that open and close

A tag puts a style on what follows, up to the tag that closes it or to the end of the text. A
closing tag begins with a slash. With a name behind the slash it closes the tag of that name that
was opened last, where names are compared in their normal form; without a name it closes the last
tag of all. One that closes nothing is a fault of the text.

`Markup.readTags` goes through the pieces of a text and keeps the open tags apart from the closed
ones.
-/

namespace PageRoutes

open Text

/-- Why a marked-up text cannot be shown. -/
inductive MarkupFault where
  /-- A style has a color with an empty component. -/
  | emptyComponent
  /-- A closing tag names a style that no open tag has. -/
  | notOpen (tag : String) (position : Nat)
  /-- A closing tag without a name stands where no tag is open. -/
  | nothingOpen (position : Nat)
  /-- A closed tag calls a handler with arguments. Which arguments can be read is not told here, so
  that such a tag counts as a fault whatever they are. -/
  | handlerArguments
deriving DecidableEq, Repr

/-- The fault in words, where they are known. -/
def MarkupFault.message? : MarkupFault → Option String
  | .emptyComponent => some "invalid literal for int() with base 10: ''"
  | .notOpen tag position =>
    some ("closing tag '[" ++ tag ++ "]' at position " ++ toString position
      ++ " doesn't match any open tag")
  | .nothingOpen position =>
    some ("closing tag '[/]' at position " ++ toString position ++ " has nothing to close")
  | .handlerArguments => none

namespace Markup

/-- The name of a tag. -/
def nameOf (tag : List Char) : List Char :=
  tag.takeWhile (· != '=')

/-- What stands in a tag behind the equals sign, if there is one. -/
def parameters? (tag : List Char) : Option String :=
  match tag.dropWhile (· != '=') with
  | '=' :: parameters => some (String.ofList parameters)
  | _ => none

/-- The normal form of a name. -/
def normalName (name : List Char) : Except MarkupFault String :=
  (Style.normalize (String.ofList name)).mapError fun _ => .emptyComponent

/-- A tag that puts a style on what follows it. -/
structure OpenTag where
  /-- The name in its normal form. -/
  name : String
  /-- What stands behind the equals sign, if there is one. -/
  parameters : Option String
  /-- What the text has shown since. -/
  covered : List Char := []
deriving DecidableEq, Repr

/-- Reads a tag that opens. -/
def OpenTag.ofTag (tag : List Char) : Except MarkupFault OpenTag := do
  let name ← normalName (nameOf tag)
  return { name, parameters := parameters? tag }

/-- The style that a tag puts on what follows: its name and its parameters. -/
def OpenTag.style (tag : OpenTag) : String :=
  match tag.parameters with
  | some parameters => tag.name ++ " " ++ parameters
  | none => tag.name

/-- Whether a tag calls a handler with arguments. -/
def OpenTag.hasArguments (tag : OpenTag) : Bool :=
  tag.name.toList.head? == some '@' && tag.parameters.any (· != "")

/-- A tag that reaches over what the text shows next. -/
def OpenTag.cover (shown : List Char) (tag : OpenTag) : OpenTag :=
  { tag with covered := tag.covered ++ shown }

/-- The tags of a text, as far as it has been read. -/
structure Tags where
  /-- How many characters have been read. -/
  position : Nat := 0
  /-- The tags that are open, the last one first. -/
  opened : List OpenTag := []
  /-- The tags that have been closed. -/
  closed : List OpenTag := []
deriving DecidableEq, Repr

/-- How many characters a piece takes in the text. -/
def Piece.length : Piece → Nat
  | plain cs => cs.length
  | tag backslashes text => backslashes + text.length + 2

namespace Tags

/-- Reads on over what a piece shows. -/
def pass (tags : Tags) (piece : Piece) : Tags :=
  { tags with
    position := tags.position + piece.length
    opened := tags.opened.map (OpenTag.cover piece.shown) }

/-- Closes the last of the open tags that are meant. -/
def closeLast (tags : Tags) (isMeant : OpenTag → Bool) (fault : MarkupFault) :
    Except MarkupFault Tags :=
  match tags.opened.find? isMeant with
  | none => .error fault
  | some tag =>
    if tag.hasArguments then .error .handlerArguments
    else .ok { tags with opened := tags.opened.eraseP isMeant, closed := tag :: tags.closed }

/-- Closes the open tag that a closing tag at a position stands for. -/
def close (tags : Tags) (position : Nat) (tag : List Char) : Except MarkupFault Tags := do
  let name := dropBothWhile isBlank ((nameOf tag).drop 1)
  if name = [] then
    tags.closeLast (fun _ => true) (.nothingOpen position)
  else
    let name ← normalName name
    tags.closeLast (fun opened => opened.name == name) (.notOpen (String.ofList tag) position)

/-- Reads the next piece of a text. A tag behind an odd number of backslashes is plain text. -/
def read (tags : Tags) (piece : Piece) : Except MarkupFault Tags :=
  match piece with
  | .plain _ => .ok (tags.pass piece)
  | .tag backslashes tag =>
    if backslashes % 2 = 1 then .ok (tags.pass piece)
    else if tag.head? = some '/' then
      (tags.pass piece).close (tags.position + backslashes) tag
    else do
      let opened ← OpenTag.ofTag tag
      return { tags.pass piece with opened := opened :: (tags.pass piece).opened }

/-- Reads on to the end of a text. -/
def readAll (tags : Tags) (text : String) : Except MarkupFault Tags :=
  (pieces [] text.toList).foldlM read tags

/-- All tags that opened. -/
def all (tags : Tags) : List OpenTag := tags.closed ++ tags.opened

end Tags

/-- The tags of a marked-up text. -/
def readTags (markup : String) : Except MarkupFault Tags :=
  Tags.readAll {} markup

end Markup

end PageRoutes
