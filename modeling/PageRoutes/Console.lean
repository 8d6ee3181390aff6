import PageRoutes.Console.Tags
import PageRoutes.Route.Basic
import PageRoutes.Text.Columns
import PageRoutes.Text.Split

/-!
# Console output

What the commands show: marked-up lines, rules with a title, and route trees drawn with guides.

A text is shown without the control characters that move the cursor or ring the bell, and a tab
becomes the blanks, at least one, that fill up to the next multiple of eight columns. What a text is
styled as is not shown, but the console `refuses` a text with a tag that closes nothing, or with a
color that has an empty component.
-/

namespace PageRoutes.Console

open Text

/-- Whether a character is left out: bell, backspace, vertical tab, form feed, carriage return. -/
def isDropped (c : Char) : Bool :=
  c == '\x07' || c == '\x08' || c == '\x0b' || c == '\x0c' || c == '\r'

/-- The parts of a line between its tabs, from a column on: behind each but the last comes a blank,
and then the blanks that are missing to the next multiple of eight columns. -/
def fillParts (column : Nat) : List (List Char) → List Char
  | [] => []
  | [part] => part
  | part :: parts =>
    let reached := column + columns (part ++ [' '])
    let missing := (8 - reached % 8) % 8
    part ++ ' ' :: List.replicate missing ' ' ++ fillParts (reached + missing) parts

/-- A line with its tabs turned into blanks. -/
def expandTabs (cs : List Char) : List Char :=
  fillParts 0 (splitChars '\t' cs)

/-- The characters that a marked-up text shows, line feeds and tabs among them. -/
def shownChars (markup : String) : List Char :=
  (Markup.shown markup).toList.filter fun c => !isDropped c

/-- Whether the style of a tag is looked up. Where the text is cut at line feeds or tabs, a style
that is put on nothing but line feeds gets lost. -/
def isLookedUp (isCut : Bool) (tag : Markup.OpenTag) : Bool :=
  !isCut || tag.covered.any fun c => !isDropped c && c != '\n'

/-- Why the console refuses to show a marked-up text, if it does: a fault that is found in reading
the tags, or else a style that cannot be looked up. -/
def fault? (markup : String) : Option MarkupFault :=
  let isCut := (shownChars markup).any fun c => c == '\n' || c == '\t'
  match Markup.readTags markup with
  | .error fault => some fault
  | .ok tags =>
    if tags.all.any fun tag => isLookedUp isCut tag && Style.isRefused tag.style then
      some .emptyComponent
    else none

/-- Whether the console refuses to show a marked-up text. -/
def refuses (markup : String) : Bool :=
  (fault? markup).isSome

/-- The lines that a marked-up text shows. -/
def linesOf (markup : String) : List String :=
  (splitChars '\n' (shownChars markup)).map fun line => String.ofList (expandTabs line)

/-- Lines as output: each ends with a line feed. -/
def unlines (lines : List String) : String :=
  String.join (lines.map (· ++ "\n"))

/-- A marked-up text as output. -/
def line (markup : String) : String :=
  unlines (linesOf markup)

/-- A marked-up title with a rule behind it, all on one line. -/
def rule (title : String) : String :=
  let oneLine := (shownChars title).map fun c => if c = '\n' then ' ' else c
  String.ofList (expandTabs oneLine) ++ " ────\n"

/-- What stands before a message about a success. -/
def successMark : String := Markup.styled "bold green" "✓"

/-- What stands before a message that only informs. -/
def infoMark : String := Markup.styled "cyan" "•"

/-- What stands before a message about a failure. -/
def failureMark : String := Markup.styled "red" "x"

/-! ## Trees -/

/-- The guide before the first line of a route: whether more siblings follow decides its form. -/
def branch (isLast : Bool) : String :=
  if isLast then "└── " else "├── "

/-- The guide before everything else that belongs to a route. -/
def trunk (isLast : Bool) : String :=
  if isLast then "    " else "│   "

/-- The label of a route: its path, and its view if it has one. -/
def label (path : String) (view : Option String) : String :=
  Markup.styled "bold" (Markup.escape path) ++
    match view with
    | some view => " " ++ Markup.styled "dim" (Markup.escape view)
    | none => ""

/-- The lines of a label behind the guides of its route. -/
def labelLines (guides : String) (isLast : Bool) (path : String) (view : Option String) :
    List String :=
  match linesOf (label path view) with
  | [] => []
  | first :: rest =>
    (guides ++ branch isLast ++ first) :: rest.map fun next => guides ++ trunk isLast ++ next

mutual

/-- The lines of a route and of what is nested in it, behind the guides of the routes above. -/
def drawRoute (guides : String) (isLast : Bool) : Route → List String
  | .mk path view none => labelLines guides isLast path view
  | .mk path view (some routes) =>
    labelLines guides isLast path view ++ drawAll (guides ++ trunk isLast) routes

/-- The lines of sibling routes behind the guides of the routes above. -/
def drawAll (guides : String) : List Route → List String
  | [] => []
  | route :: routes => drawRoute guides routes.isEmpty route ++ drawAll guides routes

end

/-- A route tree below a marked-up title. -/
def drawTree (title : String) (tree : RouteTree) : String :=
  unlines (linesOf title ++ drawAll "" tree)

end PageRoutes.Console
