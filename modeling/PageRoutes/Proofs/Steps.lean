import PageRoutes.Session

/-!
# The steps of the operations

Each operation on a project as the steps it consists of, in order: what is needed is looked up, what
is to be written is compiled, and at the end at most two files are brought up to date. The steps
that several operations have in common, or that a later proof speaks about, have names.

* `writeModule_given_eq`, `writeModule_compiled_eq` — a routes module is brought up to date in one
  way, wherever it comes from.
* `writeRouter_eq` — the router component is written behind a look at what is there.
* `Command.runGenerate_eq`, `runTree_output_eq`, `runTree_show_eq`, `runTypes_eq`, `runInit_eq` —
  the commands.
-/

namespace PageRoutes

/-! ## Bringing files up to date -/

/-- A given module is brought up to date. -/
theorem writeModule_given_eq (s : Settings) (output : Option Path) (m : RoutesModule) :
    writeModule s output m = (do
      let path ← Action.require .path (output.or s.output)
      let m ← pure m
      let changed ← writeTextIfChanged path m.source
      if changed then pure changed
      else do
        Action.note (.moduleUpToDate path)
        pure changed) := rfl

/-- The module of the view files is brought up to date like a given one. -/
theorem writeModule_compiled_eq (s : Settings) (output : Option Path) :
    writeModule s output = (do
      let path ← Action.require .path (output.or s.output)
      let w ← get
      let m ← Action.ofOutcome (compileModule s w.files)
      writeModule s path m) := rfl

/-- The specifier by which the router component imports the routes. -/
def routesSpecifier (s : Settings) (router : Path) (useModuleName : Bool) : Action String :=
  if useModuleName then Action.require .text s.moduleName
  else do
    let output ← Action.require .path s.output
    let w ← get
    liftExcept (RouterComponent.importSpecifier w.files.cwd router output)

theorem writeRouter_eq (s : Settings) (output : Option Path) (overwrite useModuleName : Bool) :
    writeRouter s output overwrite useModuleName = (do
      let path ← Action.require .path (output.or s.router)
      let item ← Action.lookup path
      if item.isSome && !overwrite then do
        Action.note (.routerExists path)
        pure false
      else do
        let specifier ← routesSpecifier s path useModuleName
        writeTextIfChanged path (RouterComponent.source specifier)) := by
  unfold writeRouter routesSpecifier
  cases useModuleName
  · simp only [Bool.false_eq_true, ↓reduceIte, bind_assoc]
  · simp only [↓reduceIte]

/-! ## Commands -/

namespace Command

/-- What a generation prints first. -/
def heading (s : Settings) : String :=
  Console.rule (Markup.styled "yellow" ("Generating routes from " ++ Markup.escape s.root.text))

/-- What a verbose generation says about the compiled module. -/
def bindingCount (m : RoutesModule) : String :=
  Console.line (Markup.styled "dim" ("  " ++ toString m.bindings.length ++ " route bindings"))

/-- Says it, if the generation is verbose. -/
def announce (verbose : Bool) (m : RoutesModule) : Action Unit :=
  if verbose then Action.print (bindingCount m) else pure ()

/-- Brings a routes module up to date and reports on it. -/
def putModule (s : Settings) (output : Path) (m : RoutesModule) : Action Unit := do
  let changed ← writeModule s output m
  report changed ("Routes module written to " ++ output.text)
    ("Routes module " ++ output.text ++ " is up to date")

/-- Brings the declaration up to date and reports on it. -/
def putDeclaration (s : Settings) (path : Path) : Action Unit := do
  let changed ← writeDeclaration s path
  report changed ("Module declaration written to " ++ path.text)
    ("Module declaration " ++ path.text ++ " is up to date")

theorem runGenerate_eq (s : Settings) (output declarations : Option Path) (verbose : Bool) :
    runGenerate s output declarations verbose = (do
      let output ← Action.require .path (output.or s.output)
      Action.print (heading s)
      orGiveUp (some ("Failed to write routes to path " ++ output.text)) (do
        let w ← get
        let m ← Action.ofOutcome (compileModule s w.files)
        announce verbose m
        putModule s output m
        (declarations.or s.declarations).elim (pure ()) (putDeclaration s))) := by
  unfold runGenerate putModule putDeclaration announce heading bindingCount
  cases declarations.or s.declarations <;> cases verbose <;>
    simp only [Bool.false_eq_true, ↓reduceIte, bind_assoc] <;> rfl

theorem runTypes_eq (s : Settings) (output : Option Path) :
    runTypes s output = (output.or s.declarations).elim
      (throw (.command
        "No declarations path configured. Pass --output or set FileRouterConfig.declarations_path."))
      (fun path => orGiveUp (some ("Failed to write module declaration to path " ++ path.text))
        (putDeclaration s path)) := by
  unfold runTypes
  cases output.or s.declarations <;> rfl

/-- Shows a route tree, as a document or as a drawing. -/
def showTree (s : Settings) (asJson : Bool) (tree : RouteTree) : Action Unit :=
  if asJson then Action.print (treeText tree)
  else do
    Action.print (Console.drawTree (Markup.styled "yellow" (Markup.escape s.root.text)) tree)
    Action.print (Console.line
      (Markup.styled "dim" ("  " ++ toString (RouteTree.size tree) ++ " routes")))

theorem runTree_output_eq (s : Settings) (path : Path) (asJson : Bool) :
    runTree s (some path) asJson = orGiveUp none (do
      let changed ← exportTree s path
      report changed ("Route tree exported to " ++ path.text)
        ("Route tree " ++ path.text ++ " is up to date")) := rfl

theorem runTree_show_eq (s : Settings) (asJson : Bool) :
    runTree s none asJson = orGiveUp none (do
      let w ← get
      let tree ← Action.ofOutcome (compileTree s w.files)
      showTree s asJson tree) := rfl

theorem runInit_eq (s : Settings) (output : Option Path) (overwrite useModuleName : Bool) :
    runInit s output overwrite useModuleName = (do
      let path ← Action.require .path (output.or s.router)
      Action.print (Console.rule (Markup.styled "yellow" "Initializing router component"))
      let item ← Action.lookup path
      if item.isSome && !overwrite then
        Action.print (Console.line
          (Markup.styled "yellow" ("Skipping " ++ Markup.escape path.text ++ " (exists)")))
      else
        orGiveUp (some ("Failed to write router component to path " ++ path.text)) (do
          let changed ← writeRouter s path overwrite useModuleName
          report changed ("Router component written to " ++ path.text)
            ("Router component " ++ path.text ++ " is up to date"))) := rfl

end Command

end PageRoutes
