import PageRoutes.Text.Blank

/-!
# View file extensions

The extensions of view files are configured with or without a leading dot. `normalizeExtensions`
brings them to one form; `stripExtension` takes the extension off a path.

An extension counts as the end of a path also when one line feed follows it; the line feed is
kept.
-/

namespace PageRoutes.Route

open Text

/-- One configured extension without the blank characters around it and the dots before it. -/
def normalizeExtension (extension : String) : String :=
  String.ofList ((trim extension).toList.dropWhile (· == '.'))

/-- The configured extensions, normalised, in their order, without the empty ones. -/
def normalizeExtensions (extensions : List String) : List String :=
  (extensions.map normalizeExtension).filter (· != "")

/--
What stays of the end `cs` of a path once an extension is taken off its start: nothing or one line
feed. If more follows, or the extension is not there, it is no extension of the path.
-/
def endingAfter? (extension : String) (cs : List Char) : Option (List Char) :=
  (extension.toList.isPrefixOf? cs).filter fun rest => rest == [] || rest == ['\n']

/--
A path without the extension at its end: cut at the first dot that is followed by one of the
extensions and the end of the path.
-/
def stripChars (extensions : List String) : List Char → List Char
  | [] => []
  | c :: cs =>
    match if c = '.' then extensions.findSome? (endingAfter? · cs) else none with
    | some rest => rest
    | none => c :: stripChars extensions cs

/-- A path without its view file extension. -/
def stripExtension (path : String) (extensions : List String) : String :=
  String.ofList (stripChars extensions path.toList)

/-- Whether a file name ends in a dot and one of the extensions. -/
def hasExtension (extensions : List String) (name : String) : Bool :=
  extensions.any fun extension => ('.' :: extension.toList).isSuffixOf name.toList

end PageRoutes.Route
