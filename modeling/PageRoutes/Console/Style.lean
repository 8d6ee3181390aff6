import PageRoutes.Console.Color

/-!
# Styles

A style is written as words: attributes such as `bold`, each of which `not` in front switches off, a
color, a color of the background behind `on`, and an address behind `link`. Of several words for one
thing the last counts. The word `none` alone is the style that changes nothing.

`Style.normalize` gives styles of the same effect the same text.
-/

namespace PageRoutes

open Text

/-- The effect of a style. -/
structure Style where
  /-- The attributes that are switched on or off. -/
  attributes : List (String × Bool) := []
  color : Option String := none
  background : Option String := none
  link : Option String := none
deriving DecidableEq, Repr

namespace Style

/-- The attributes, in the order in which they are written. -/
def attributeNames : List String :=
  ["bold", "dim", "italic", "underline", "blink", "blink2", "reverse", "conceal", "strike",
    "underline2", "frame", "encircle", "overline"]

/-- The short names of attributes. -/
def shortNames : List (String × String) :=
  [("b", "bold"), ("d", "dim"), ("i", "italic"), ("u", "underline"), ("r", "reverse"),
    ("c", "conceal"), ("s", "strike"), ("uu", "underline2"), ("o", "overline")]

/-- The attribute that a word names. -/
def attribute? (word : String) : Option String :=
  if attributeNames.contains word then some word else shortNames.lookup word

/-- The style with an attribute switched on or off. -/
def withAttribute (name : String) (isOn : Bool) (style : Style) : Style :=
  { style with attributes := (name, isOn) :: style.attributes.filter fun entry => entry.1 != name }

/-- The style that further words make of a style. -/
def extend (style : Style) : List String → Except StyleFault Style
  | [] => .ok style
  | word :: rest =>
    let word := lower word
    if word = "on" then
      match rest with
      | [] => .error .unknown
      | color :: rest => do
        Color.check color
        extend { style with background := some (lower color) } rest
    else if word = "not" then
      match rest with
      | [] => .error .unknown
      | name :: rest =>
        match attribute? name with
        | some name => extend (style.withAttribute name false) rest
        | none => .error .unknown
    else if word = "link" then
      match rest with
      | [] => .error .unknown
      | address :: rest => extend { style with link := some address } rest
    else
      match attribute? word with
      | some name => extend (style.withAttribute name true) rest
      | none => do
        Color.check word
        extend { style with color := some word } rest

/-- Reads a style. -/
def read (s : String) : Except StyleFault Style :=
  if trim s = "none" then .ok {} else extend {} (words s)

/-- The style in words. -/
def text (style : Style) : String :=
  let attributes := attributeNames.filterMap fun name =>
    (style.attributes.lookup name).map fun isOn => if isOn then name else "not " ++ name
  let background := style.background.map ("on " ++ ·)
  let link := style.link.map ("link " ++ ·)
  match attributes ++ style.color.toList ++ background.toList ++ link.toList with
  | [] => "none"
  | parts => " ".intercalate parts

/-- The text that all styles of one effect share. What is no style is only trimmed and put into
lower case. -/
def normalize (s : String) : Except StyleFault String :=
  match read s with
  | .ok style => .ok style.text
  | .error .unknown => .ok (lower (trim s))
  | .error .emptyComponent => .error .emptyComponent

/-- Whether a text in this style is refused. -/
def isRefused (s : String) : Bool :=
  match read s with
  | .error .emptyComponent => true
  | _ => false

end Style

end PageRoutes
