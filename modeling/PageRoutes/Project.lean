import PageRoutes.Console
import PageRoutes.Discovery
import PageRoutes.Json.Printer
import PageRoutes.Outcome
import PageRoutes.Route.Export
import PageRoutes.RouterComponent
import PageRoutes.Settings

/-!
# Working on a project

What can be done with the settings of a project and its files: compile the route tree and the
routes module, and bring the generated files up to date. A generated file is written only if that
changes it.

An `Action` changes the files, leaves log entries and console output, and may fail; what it did
before it failed stays done.
-/

namespace PageRoutes

open Text

/-- What the actions on a project work on and leave behind. -/
structure Workspace where
  files : FileSystem
  log : List LogEntry := []
  printed : String := ""

/-- Something done with a project. -/
abbrev Action (α : Type) := ExceptT Failure (StateM Workspace) α

namespace Action

/-- Makes a log entry. -/
def note (entry : LogEntry) : Action Unit :=
  modify fun w => { w with log := w.log ++ [entry] }

/-- Adds a text to the console output. -/
def print (text : String) : Action Unit :=
  modify fun w => { w with printed := w.printed ++ text }

/-- Prints a message behind a mark. The message may hold markup, and the console may refuse it. -/
def say (mark message : String) : Action Unit :=
  let markup := mark ++ " " ++ message
  match Console.fault? markup with
  | some fault => throw (.markup fault)
  | none => print (Console.line markup)

/-- Prints a message about a success. -/
def success (message : String) : Action Unit :=
  say Console.successMark message

/-- Prints a message that only informs. -/
def info (message : String) : Action Unit :=
  say Console.infoMark message

/-- Prints a message about a failure. -/
def failure (message : String) : Action Unit :=
  say Console.failureMark message

/-- Takes over the log entries and the result of a compilation. -/
def ofOutcome {α : Type} (o : Outcome Failure α) : Action α := do
  modify fun w => { w with log := w.log ++ o.log }
  liftExcept o.result

/-- What is needed, if it is there. -/
def require {α : Type} (what : Needed) (a? : Option α) : Action α :=
  liftExcept (PageRoutes.require what a?)

/-- What a path leads to, if anything. There is nothing where U+0000 is on the way. -/
def lookup (path : Path) : Action (Option Item) := do
  if path.hasNul then return none
  liftExcept (((← get).files.lookup path).mapError Failure.file)

/-- Changes the files; what was changed before a failure stays. -/
def changeFiles (change : FileSystem → Except FileError Unit × FileSystem) : Action Unit := do
  let w ← get
  let (result, files) := change w.files
  set { w with files }
  liftExcept (result.mapError Failure.file)

/-- Makes the directory that a path names and the parents that are missing. -/
def makeDirectories (path : Path) : Action Unit := do
  if path.hasNul then throw .nulInText
  changeFiles fun fs => fs.makeDirectories path

/-- Writes a file, over the file that may be there. -/
def writeFile (path : Path) (bytes : Bytes) : Action Unit := do
  if path.hasNul then throw .nulInText
  changeFiles fun fs =>
    match fs.writeFile path bytes with
    | .ok fs => (.ok (), fs)
    | .error e => (.error e, fs)

end Action

/-- Bytes with a line feed at the end, if they did not end in one. -/
def withLineFeed (bytes : Bytes) : Bytes :=
  if bytes.getLast? = some 0x0A then bytes else bytes ++ [0x0A]

/-- Brings a file up to date and says whether that changed it. Missing directories are made. -/
def writeIfChanged (path : Path) (bytes : Bytes) : Action Bool := do
  let bytes := withLineFeed bytes
  if (← Action.lookup path) = some (.file bytes) then return false
  Action.makeDirectories path.parent
  Action.writeFile path bytes
  return true

/-- Brings a file with a text up to date. A text that the encoding cannot write is refused before
anything else happens. -/
def writeTextIfChanged (path : Path) (text : String) (encoding : Encoding := .utf8) :
    Action Bool :=
  match encoding.encode? text with
  | some bytes => writeIfChanged path bytes
  | none => throw .unencodable

/-! ## Compiling -/

/-- The route tree of the view files, with the route for unmatched addresses if there is one. -/
def compileTree (s : Settings) (fs : FileSystem) : Outcome Failure RouteTree := do
  let root ← Outcome.ofExcept (addressOf fs.cwd s.root)
  let files ← Outcome.ofExcept (viewFiles fs s.root s.extensions s.exclude)
  Outcome.note (.discovered files.length root)
  let tree ← (RouteTree.ofFiles fs.cwd (s.treeOptions fs.cwd) files).mapError .route
  return match s.notFound with
    | some view => RouteTree.withNotFound tree view
    | none => tree

/-- The routes module of the view files. -/
def compileModule (s : Settings) (fs : FileSystem) : Outcome Failure RoutesModule := do
  let tree ← compileTree s fs
  Outcome.ofExcept ((RoutesModule.ofTree s.moduleOptions tree).mapError .route)

/-! ## Generated files -/

/-- Brings the routes module up to date, the given one or else the one of the view files. -/
def writeModule (s : Settings) (output : Option Path := none)
    (routesModule : Option RoutesModule := none) : Action Bool := do
  let path ← Action.require .path (output.or s.output)
  let m ← match routesModule with
    | some m => pure m
    | none => do Action.ofOutcome (compileModule s (← get).files)
  let changed ← writeTextIfChanged path m.source
  unless changed do Action.note (.moduleUpToDate path)
  return changed

/-- Brings the routes module up to date with one made of given parts. -/
def writeModuleOfParts (s : Settings) (output : Option Path) (parts : RoutesModule.Parts) :
    Action Bool := do
  let path ← Action.require .path (output.or s.output)
  writeModule s path (← liftExcept (RoutesModule.ofParts parts))

/-- Brings the module declaration up to date. -/
def writeDeclaration (s : Settings) (output : Option Path := none) : Action Bool := do
  match output.or s.declarations with
  | some path =>
    let moduleName ← Action.require .text s.moduleName
    writeTextIfChanged path (moduleDeclaration moduleName)
  | none => throw .noDeclarationsPath

/-- The JSON text of a route tree. -/
def treeText (tree : RouteTree) : String :=
  Json.encode 2 tree.toJson

/-- Brings the JSON export of the route tree up to date. -/
def exportTree (s : Settings) (output : Path) : Action Bool := do
  let tree ← Action.ofOutcome (compileTree s (← get).files)
  writeTextIfChanged output (treeText tree)

/-- Writes the router component, unless something is there and must not be overwritten. It imports
the routes by the module name or by the path of the routes module. -/
def writeRouter (s : Settings) (output : Option Path := none) (overwrite : Bool := false)
    (useModuleName : Bool := false) : Action Bool := do
  let path ← Action.require .path (output.or s.router)
  if (← Action.lookup path).isSome && !overwrite then
    Action.note (.routerExists path)
    return false
  let specifier ←
    if useModuleName then Action.require .text s.moduleName
    else do
      let routesModule ← Action.require .path s.output
      liftExcept (RouterComponent.importSpecifier (← get).files.cwd path routesModule)
  writeTextIfChanged path (RouterComponent.source specifier)

/-- Brings the routes module and, if it has a path, its declaration up to date. -/
def generate (s : Settings) : Action Bool := do
  let changed ← writeModule s
  if s.declarations.isSome then
    let declared ← writeDeclaration s
    return declared || changed
  return changed

/-- Generates the files when the application starts. A failure to compile is shown. -/
def generateOnStart (s : Settings) : Action Unit := do
  let changed ←
    tryCatch (generate s) fun
      | .route e => do
        Action.failure ("Route generation failed: " ++ e.message)
        throw (.route e)
      | e => throw e
  if changed then
    let output ← Action.require .path s.output
    Action.success ("Routes generated → " ++ output.text)
  else Action.note .startUpToDate

/-- How many start actions the settings add to an application. -/
def startActions (s : Settings) : Action Nat := do
  if s.generateOnStart = some true then return 1
  Action.note .startDisabled
  return 0

end PageRoutes
