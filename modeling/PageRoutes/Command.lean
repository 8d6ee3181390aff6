import PageRoutes.Project

/-!
# Commands

The four commands for a project: generate the files, show the route tree, write the module
declaration, and write the router component. A command reports what it did on the console; when it
gives up, it says why in one sentence.
-/

namespace PageRoutes

/-- A command with its options. -/
inductive Command where
  /-- Generates the routes module and the declaration, if it has a path. -/
  | generate (output declarations : Option Path) (verbose : Bool)
  /-- Shows the route tree, or exports it to a file. -/
  | tree (output : Option Path) (asJson : Bool)
  /-- Writes the module declaration. -/
  | types (output : Option Path)
  /-- Writes the router component. -/
  | init (output : Option Path) (overwrite useModuleName : Bool)
deriving DecidableEq, Repr

namespace Command

/-- The name of the group of commands. -/
def groupName : String := "file-routes"

/-- The names of the commands, in order. -/
def names : List String := ["generate", "init", "tree", "types"]

/-- Runs an action and gives up on failures: on one to compile with the message of the failure, and
on one of the file system with `refusal`, if there is one. -/
def orGiveUp (refusal : Option String) (action : Action Unit) : Action Unit :=
  tryCatch action fun failure =>
    match failure, refusal with
    | .route e, _ => throw (.command e.message)
    | .file _, some reason => throw (.command reason)
    | failure, _ => throw failure

/-- Reports whether a file was written. -/
def report (changed : Bool) (written upToDate : String) : Action Unit :=
  if changed then Action.success written else Action.info upToDate

/-- Generates the routes module and the declaration. -/
def runGenerate (s : Settings) (output declarations : Option Path) (verbose : Bool) :
    Action Unit := do
  let output ← Action.require .path (output.or s.output)
  Action.print (Console.rule
    (Markup.styled "yellow" ("Generating routes from " ++ Markup.escape s.root.text)))
  orGiveUp (some ("Failed to write routes to path " ++ output.text)) do
    let m ← Action.ofOutcome (compileModule s (← get).files)
    if verbose then
      Action.print (Console.line
        (Markup.styled "dim" ("  " ++ toString m.bindings.length ++ " route bindings")))
    let changed ← writeModule s output m
    report changed ("Routes module written to " ++ output.text)
      ("Routes module " ++ output.text ++ " is up to date")
    match declarations.or s.declarations with
    | none => return ()
    | some path =>
      let changed ← writeDeclaration s path
      report changed ("Module declaration written to " ++ path.text)
        ("Module declaration " ++ path.text ++ " is up to date")

/-- Shows the route tree, or exports it to a file. -/
def runTree (s : Settings) (output : Option Path) (asJson : Bool) : Action Unit :=
  orGiveUp none do
    match output with
    | some path =>
      let changed ← exportTree s path
      report changed ("Route tree exported to " ++ path.text)
        ("Route tree " ++ path.text ++ " is up to date")
    | none =>
      let tree ← Action.ofOutcome (compileTree s (← get).files)
      if asJson then Action.print (treeText tree)
      else
        Action.print (Console.drawTree
          (Markup.styled "yellow" (Markup.escape s.root.text)) tree)
        Action.print (Console.line
          (Markup.styled "dim" ("  " ++ toString (RouteTree.size tree) ++ " routes")))

/-- Writes the module declaration. -/
def runTypes (s : Settings) (output : Option Path) : Action Unit :=
  match output.or s.declarations with
  | none =>
    throw (.command
      "No declarations path configured. Pass --output or set FileRouterConfig.declarations_path.")
  | some path =>
    orGiveUp (some ("Failed to write module declaration to path " ++ path.text)) do
      let changed ← writeDeclaration s path
      report changed ("Module declaration written to " ++ path.text)
        ("Module declaration " ++ path.text ++ " is up to date")

/-- Writes the router component. -/
def runInit (s : Settings) (output : Option Path) (overwrite useModuleName : Bool) :
    Action Unit := do
  let path ← Action.require .path (output.or s.router)
  Action.print (Console.rule (Markup.styled "yellow" "Initializing router component"))
  if (← Action.lookup path).isSome && !overwrite then
    Action.print (Console.line
      (Markup.styled "yellow" ("Skipping " ++ Markup.escape path.text ++ " (exists)")))
  else
    orGiveUp (some ("Failed to write router component to path " ++ path.text)) do
      let changed ← writeRouter s path overwrite useModuleName
      report changed ("Router component written to " ++ path.text)
        ("Router component " ++ path.text ++ " is up to date")

/-- Runs a command on a project. -/
def run (s : Settings) : Command → Action Unit
  | generate output declarations verbose => runGenerate s output declarations verbose
  | tree output asJson => runTree s output asJson
  | types output => runTypes s output
  | init output overwrite useModuleName => runInit s output overwrite useModuleName

/-- Whether a command switches the application into debugging. -/
def debugs : Command → Bool
  | generate _ _ verbose => verbose
  | _ => false

end Command

end PageRoutes
