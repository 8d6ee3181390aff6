import PageRoutes.Console.Tags
import PageRoutes.Path
import PageRoutes.Route.Policy
import PageRoutes.Text.Quoted

/-!
# What can go wrong

The causes of failure, each with what its message says about it. `RouteError` holds the errors of
route compilation; `FileError` the refusals of the file system; `Failure` is any of them, or one of
the faults that are neither. Among those is that something was left out which cannot be done
without: `Needed` lists what that can be.
-/

namespace PageRoutes

open Text

/-- The ways in which the options of a compilation can be unusable. -/
inductive OptionFault where
  /-- The pages root is blank. -/
  | missingRoot
  /-- No extension is left after normalisation. -/
  | missingExtensions
  /-- The duplicate policy is none of the known ones, or there is none. -/
  | unknownPolicy (given : Option String)
  /-- The pages root is not an existing directory. -/
  | missingDirectory (root : Address)
deriving DecidableEq, Repr

/-- Why a set of view files has no route tree or no module. -/
inductive RouteError where
  /-- An option is unusable. -/
  | invalidOptions (fault : OptionFault)
  /-- A view file does not lie below the pages root. -/
  | outsideRoot (file root : String)
  /-- Two view files define the same route. -/
  | ambiguousRoute (route first second : String)
  /-- The bindings of a module do not match the routes of its tree in number; that number may be
  unknown. -/
  | bindingMismatch (expected : Option Int) (emitted : Nat)
deriving DecidableEq, Repr

/-- How messages and generated names write that something is not there. -/
def absentText : String := "None"

/-- What is wrong with the options. -/
def OptionFault.message : OptionFault → String
  | .missingRoot => "A pages root directory is required."
  | .missingExtensions => "At least one view file extension is required."
  | .unknownPolicy given =>
    "Unknown duplicate route policy " ++ (given.map quote).getD absentText ++ ", expected one of ("
      ++ ", ".intercalate (DuplicatePolicy.all.map fun policy => quote policy.name) ++ ")."
  | .missingDirectory root => "Pages directory " ++ quote root.text ++ " does not exist."

/-- The error in words. -/
def RouteError.message : RouteError → String
  | .invalidOptions fault => fault.message
  | .outsideRoot file root =>
    "File " ++ quote file ++ " is not located under the pages root " ++ quote root ++ "."
  | .ambiguousRoute route first second =>
    "Route " ++ quote route ++ " is defined by both " ++ quote first ++ " and " ++ quote second
      ++ ". Remove one of the files or set on_duplicate='last_wins'."
  | .bindingMismatch expected emitted =>
    "Route tree has " ++ (expected.map toString).getD absentText ++ " nodes but "
      ++ toString emitted ++ " bindings were emitted."

/-- Why the file system refuses an operation. -/
inductive FileError where
  /-- Nothing exists at the path. -/
  | notFound
  /-- A file stands where the path needs a directory. -/
  | notDirectory
  /-- The path leads to a directory, where a file is needed. -/
  | isDirectory
  /-- The directory to be created is there as a file. -/
  | alreadyExists
  /-- The path, or a name in it, is longer than the file system allows. -/
  | nameTooLong
deriving DecidableEq, Repr

/-- What can be missing where it cannot be done without. -/
inductive Needed where
  /-- A path. -/
  | path
  /-- A list that is to be gone through. -/
  | list
  /-- A text that is to be quoted in a script. -/
  | text
  /-- A text with slashes or backslashes between its names. -/
  | location
  /-- A path of a view file that is to be split into segments. -/
  | segments
  /-- The path of a route. -/
  | routePath
  /-- A text in which something is to be found. -/
  | searched
  /-- The content of a file. -/
  | content
  /-- The import lines of a module. -/
  | importLines
  /-- The indentation of a JSON text. -/
  | indentation
  /-- The encoding of a text. -/
  | encoding
  /-- The depth at which a walk starts. -/
  | depth
deriving DecidableEq, Repr

/-- The message that something is missing. -/
def Needed.message : Needed → String
  | .path => "expected str, bytes or os.PathLike object, not NoneType"
  | .list => "'NoneType' object is not iterable"
  | .text => "'NoneType' object has no attribute 'translate'"
  | .location => "'NoneType' object has no attribute 'replace'"
  | .segments => "'NoneType' object has no attribute 'split'"
  | .routePath => "'NoneType' object has no attribute 'removeprefix'"
  | .searched => "expected string or bytes-like object, got 'NoneType'"
  | .content => "'NoneType' object has no attribute 'endswith'"
  | .importLines => "can only join an iterable"
  | .indentation => "'NoneType' object cannot be interpreted as an integer"
  | .encoding => "encode() argument 'encoding' must be str, not None"
  | .depth => "unsupported operand type(s) for +: 'NoneType' and 'int'"

/-- Any failure of an operation on a project. -/
inductive Failure where
  /-- The routes cannot be compiled. -/
  | route (error : RouteError)
  /-- A file cannot be read or written. -/
  | file (error : FileError)
  /-- A text has a character that its encoding cannot write. -/
  | unencodable
  /-- A declaration is to be written and no path is known for it. -/
  | noDeclarationsPath
  /-- The last name of a path is needed and the path has none. -/
  | emptyName (path : Path)
  /-- A path or an environment variable holds the character U+0000, which neither can. -/
  | nulInText
  /-- The indentation of a JSON text is too large a number, or too far below zero. -/
  | indentationOutOfRange
  /-- The console cannot show a message for its markup. -/
  | markup (fault : MarkupFault)
  /-- Something is missing that is needed. -/
  | missing (what : Needed)
  /-- A command gives up, for the reason told to the user. -/
  | command (reason : String)
deriving DecidableEq, Repr

/-- The failure in words. A refusal of the file system or of an encoding is told by its kind
alone, and so are arguments of a handler. -/
def Failure.message? : Failure → Option String
  | .route error => some error.message
  | .file _ => none
  | .unencodable => none
  | .noDeclarationsPath => some "No declarations path configured."
  | .emptyName path => some ("PosixPath(" ++ quote path.text ++ ") has an empty name")
  | .nulInText => some "embedded null byte"
  | .indentationOutOfRange => some "Python int too large to convert to C ssize_t"
  | .markup fault => fault.message?
  | .missing what => some what.message
  | .command reason => some reason

/-- What is needed, if it is there. -/
def require {α : Type} (what : Needed) : Option α → Except Failure α
  | some a => .ok a
  | none => .error (.missing what)

/-- The address that a path leads to, unless there is U+0000 on the way. -/
def addressOf (cwd : Address) (p : Path) : Except Failure Address :=
  match p.address? cwd with
  | some a => .ok a
  | none => .error .nulInText

end PageRoutes
