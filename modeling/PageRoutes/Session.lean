import PageRoutes.Command

/-!
# Sessions

A session is a project over time: its settings, its files and the debugging switch. It takes one
operation after the other; each leaves log entries, console output and a result or a failure.
-/

namespace PageRoutes

/-- What can be asked of a project. -/
inductive Operation where
  /-- Lists the view files; what is left open is taken from the settings. -/
  | discover (root : Choice Path) (extensions exclude : Choice (List String))
  | compileTree
  | compileModule
  | writeModule (output : Option Path) (parts : Option RoutesModule.Parts)
  | writeDeclaration (output : Option Path)
  | exportTree (output : Path)
  | writeRouter (output : Option Path) (overwrite useModuleName : Bool)
  | generate
  | generateOnStart
  | command (command : Command)

/-- What an operation results in. -/
inductive Result where
  | files (paths : List String)
  | tree (tree : RouteTree)
  | routesModule (m : RoutesModule)
  | changed (changed : Bool)
  | done

namespace Operation

/-- Runs an operation on a project. -/
def run (s : Settings) : Operation → Action Result
  | discover root extensions exclude => do
    let root ← Action.require .path (root.orDefault s.root)
    return .files (← liftExcept (viewFilesOf (← get).files root
      (extensions.orDefault s.extensions) (exclude.orDefault s.exclude)))
  | compileTree => do
    return .tree (← Action.ofOutcome (PageRoutes.compileTree s (← get).files))
  | compileModule => do
    return .routesModule (← Action.ofOutcome (PageRoutes.compileModule s (← get).files))
  | writeModule output none => do
    return .changed (← PageRoutes.writeModule s output)
  | writeModule output (some parts) => do
    return .changed (← writeModuleOfParts s output parts)
  | writeDeclaration output => do
    return .changed (← PageRoutes.writeDeclaration s output)
  | exportTree output => do
    return .changed (← PageRoutes.exportTree s output)
  | writeRouter output overwrite useModuleName => do
    return .changed (← PageRoutes.writeRouter s output overwrite useModuleName)
  | generate => do
    return .changed (← PageRoutes.generate s)
  | generateOnStart => do
    PageRoutes.generateOnStart s
    return .done
  | command c => do
    c.run s
    return .done

end Operation

/-- A project over time. -/
structure Session where
  settings : Settings
  files : FileSystem
  debug : Bool := false

/-- What an operation leaves behind besides changed files. -/
structure Report (α : Type) where
  result : Except Failure α
  log : List LogEntry
  printed : String

namespace Session

/-- Does something with the files of a session. -/
def act {α : Type} (session : Session) (action : Action α) : Report α × Session :=
  let (result, w) := action.run.run { files := session.files }
  ({ result, log := w.log, printed := w.printed }, { session with files := w.files })

/-- Runs an operation. A command that asks for it switches debugging on, whether it succeeds or
not. -/
def step (session : Session) (operation : Operation) : Report Result × Session :=
  let (report, session) := session.act (operation.run session.settings)
  let debugs := match operation with
    | .command c => c.debugs
    | _ => false
  (report, { session with debug := session.debug || debugs })

/-- Takes other settings; unusable options leave the session as it is. -/
def configure (session : Session) (environment : Environment) (options : Options) :
    Except Failure Session := do
  let settings ← Settings.ofOptions environment options
  return { session with settings, debug := false }

end Session

end PageRoutes
