import PageRoutes.Session

/-!
# The command line

Reads a command with its options, loads the part of the project that the command can look at, runs
the command, and writes back what changed. Settings come from the environment and the defaults.
-/

namespace PageRoutes.Main

/-- What the command line says about its use. -/
def usage : String :=
  "usage: file-routes generate [--output PATH] [--declarations PATH] [--verbose]\n"
    ++ "       file-routes tree [--json] [--output PATH]\n"
    ++ "       file-routes types [--output PATH]\n"
    ++ "       file-routes init [--output PATH] [--overwrite] [--use-module-name]\n"

/-- Sets one option of a command; what follows it on the command line is returned. -/
def readOption? (c : Command) (option : String) (rest : List String) :
    Option (Command × List String) :=
  match c, option, rest with
  | .generate _ declarations verbose, "--output", value :: rest =>
    some (.generate (some (.ofString value)) declarations verbose, rest)
  | .generate output _ verbose, "--declarations", value :: rest =>
    some (.generate output (some (.ofString value)) verbose, rest)
  | .generate output declarations _, "--verbose", rest =>
    some (.generate output declarations true, rest)
  | .tree _ asJson, "--output", value :: rest => some (.tree (some (.ofString value)) asJson, rest)
  | .tree output _, "--json", rest => some (.tree output true, rest)
  | .types _, "--output", value :: rest => some (.types (some (.ofString value)), rest)
  | .init _ overwrite useModuleName, "--output", value :: rest =>
    some (.init (some (.ofString value)) overwrite useModuleName, rest)
  | .init output _ useModuleName, "--overwrite", rest =>
    some (.init output true useModuleName, rest)
  | .init output overwrite _, "--use-module-name", rest =>
    some (.init output overwrite true, rest)
  | _, _, _ => none

/-- Sets the options of a command, on at most `steps` words. -/
def readOptions? : (steps : Nat) → Command → List String → Option Command
  | _, c, [] => some c
  | 0, _, _ => none
  | steps + 1, c, word :: rest => do
    let (c, rest) ← readOption? c word rest
    readOptions? steps c rest

/-- The command that the words of a command line ask for. -/
def command? (words : List String) : Option Command :=
  match words with
  | "generate" :: rest => readOptions? rest.length (.generate none none false) rest
  | "tree" :: rest => readOptions? rest.length (.tree none false) rest
  | "types" :: rest => readOptions? rest.length (.types none) rest
  | "init" :: rest => readOptions? rest.length (.init none false false) rest
  | _ => none

/-- The paths that a command may write to. -/
def targets (s : Settings) : Command → List Path
  | .generate output declarations _ =>
    (output.or s.output).toList ++ (declarations.or s.declarations).toList
  | .tree output _ => output.toList
  | .types output => (output.or s.declarations).toList
  | .init output _ _ => (output.or s.router).toList

/-- The addresses passed on the way along a path. -/
def addressesOf (cwd : Address) (p : Path) : List Address :=
  (List.range (p.names.length + 1)).map fun n => Path.resolve cwd { p with names := p.names.take n }

/-- The address and those above it. -/
def ancestors (a : Address) : List Address :=
  (List.range (a.length + 1)).map fun n => a.take n

/-- Takes what is at an address into the file system. -/
def loadAt (a : Address) (fs : FileSystem) : IO FileSystem := do
  if a = [] then return fs
  let place := (← IO.currentDir) / a.text
  if ← place.isDir then return fs.put a .directory
  if ← place.pathExists then
    return fs.put a (.file (← IO.FS.readBinFile place).data.toList)
  return fs

/-- Takes everything below an address into the file system. -/
partial def loadBelow (a : Address) (fs : FileSystem) : IO FileSystem := do
  let mut fs ← loadAt a fs
  let place := (← IO.currentDir) / a.text
  if ← place.isDir then
    for entry in ← place.readDir do
      fs ← loadBelow (a ++ [entry.fileName]) fs
  return fs

/-- Writes back what differs from the files that were loaded. -/
def store (before after : FileSystem) : IO Unit := do
  for (a, item) in after.items.mergeSort fun x y => x.1.length ≤ y.1.length do
    if before.get? a != some item then
      let place := (← IO.currentDir) / a.text
      match item with
      | .directory => IO.FS.createDirAll place
      | .file bytes => IO.FS.writeBinFile place bytes.toByteArray

/-- What is said of a failure. -/
def explain : Failure → String
  | .file .notFound => "No such file or directory"
  | .file .notDirectory => "Not a directory"
  | .file .isDirectory => "Is a directory"
  | .file .alreadyExists => "File exists"
  | .file .nameTooLong => "File name too long"
  | failure => failure.message?.getD "The text cannot be encoded"

/-- Runs a command in the current directory. -/
def runCommand (s : Settings) (cwd : Address) (c : Command) : IO UInt32 := do
  let mut files := FileSystem.empty cwd
  for a in ancestors cwd ++ (targets s c).flatMap (addressesOf cwd) do
    files ← loadAt a files
  let root := s.rootAddress cwd
  for a in ancestors root do
    files ← loadAt a files
  files ← loadBelow root files
  let (report, session) := ({ settings := s, files } : Session).step (.command c)
  store files session.files
  IO.print report.printed
  match report.result with
  | .ok _ => return 0
  | .error failure =>
    IO.eprintln ("Error: " ++ explain failure)
    return 1

end PageRoutes.Main

open PageRoutes in
/-- The command line. -/
def main (words : List String) : IO UInt32 := do
  match Main.command? words with
  | none =>
    IO.eprint Main.usage
    return 2
  | some c =>
    let environment : Environment :=
      { root := ← IO.getEnv "FILE_ROUTER_ROOT", generate := ← IO.getEnv "FILE_ROUTER_GENERATE" }
    match Settings.ofOptions environment {} with
    | .error failure =>
      IO.eprintln ("Error: " ++ Main.explain failure)
      return 1
    | .ok s =>
      let here ← IO.currentDir
      Main.runCommand s ((Path.ofString here.toString).resolve []) c
