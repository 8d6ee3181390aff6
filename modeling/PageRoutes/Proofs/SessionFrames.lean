import PageRoutes.Main
import PageRoutes.Proofs.Effects

/-!
# What a session leaves alone

An operation brings at most its own targets up to date, whether it succeeds or not. So no file is
ever taken away, and all other files keep their bytes.

* `FileSystem.Evolves targets` — the files before and after, as far as the targets tell.
* `Operation.targets` — the paths that an operation may write to.
* `Operation.evolves_run` — the step: an operation keeps to its targets.
* `Session.evolves_run` — the run: a session keeps to the targets of its events.
* `Session.keeps_files` — both together, and that an existing router component is left alone.
-/

namespace PageRoutes

open Text FileSystem

namespace FileSystem

/-- Away from the target paths the files are the same, and what was a file still is one. -/
structure Evolves (targets : List Path) (before after : FileSystem) : Prop where
  frame : Frame (targets.map (Path.resolve before.cwd)) before after
  file : ∀ a bytes, before.get? a = some (.file bytes) →
    ∃ bytes', after.get? a = some (.file bytes')

variable {targets targets' : List Path} {fs fs' fs'' : FileSystem} {p : Path} {bytes : Bytes}

theorem Evolves.refl (targets : List Path) (fs : FileSystem) : Evolves targets fs fs :=
  ⟨.refl _ fs, fun _ bytes h => ⟨bytes, h⟩⟩

theorem Evolves.trans (h : Evolves targets fs fs') (h' : Evolves targets fs' fs'') :
    Evolves targets fs fs'' := by
  refine ⟨?_, fun a bytes hfile => ?_⟩
  · have hframe := h'.frame
    rw [h.frame.cwd] at hframe
    exact h.frame.trans hframe
  · obtain ⟨bytes', hfile'⟩ := h.file a bytes hfile
    exact h'.file a bytes' hfile'

instance : Std.Refl (Evolves targets) := ⟨.refl targets⟩

instance : IsTrans FileSystem (Evolves targets) := ⟨fun _ _ _ => .trans⟩

/-- With more targets less is said. -/
theorem Evolves.mono (h : Evolves targets fs fs') (hsub : targets ⊆ targets') :
    Evolves targets' fs fs' :=
  ⟨h.frame.mono fun _ ha => List.map_subset _ hsub ha, h.file⟩

/-- If no file changed at all, nothing is to be said of targets. -/
theorem Frame.evolves (h : Frame [] fs fs') : Evolves targets fs fs' :=
  ⟨h.mono nofun, fun a bytes hfile => ⟨bytes, (h.file a List.not_mem_nil bytes).mpr hfile⟩⟩

/-- A file that is written is there, and the other files are as before. -/
theorem evolves_writeFile (h : fs.writeFile p bytes = .ok fs') (hp : p ∈ targets) :
    Evolves targets fs fs' := by
  have hframe := frame_writeFile h
  refine ⟨hframe.mono fun a ha => ?_, fun a bytes' hfile => ?_⟩
  · exact List.mem_singleton.mp ha ▸ List.mem_map_of_mem hp
  · by_cases ha : a = p.resolve fs.cwd
    · have hwritten := (lookup_eq_some_iff.mp (lookup_writeFile h)).2
      rw [hframe.resolve_eq] at hwritten
      exact ⟨bytes, ha ▸ hwritten⟩
    · exact ⟨bytes', (hframe.file a (mt List.mem_singleton.mp ha) bytes').mpr hfile⟩

end FileSystem

/-! ## Actions -/

namespace Action

variable {α β : Type} {R : FileSystem → FileSystem → Prop} {targets : List Path} {p : Path}

theorem follows_changeFiles {change : FileSystem → Except FileError Unit × FileSystem}
    (h : ∀ fs, R fs (change fs).2) : (changeFiles change).Follows R := by
  intro w
  rw [eval_changeFiles]
  exact h w.files

/-- What is done with something that is needed is done only if it is there. -/
theorem follows_require_bind [Std.Refl R] {what : Needed} {a? : Option α} {f : α → Action β}
    (h : ∀ a ∈ a?, (f a).Follows R) : (require what a? >>= f).Follows R := by
  cases a? with
  | none => exact fun w => Std.Refl.refl w.files
  | some a => exact h a rfl

/-- Making directories keeps to any targets. -/
theorem evolves_makeDirectories (p : Path) : (makeDirectories p).Follows (Evolves targets) := by
  have hmake : (changeFiles fun fs => fs.makeDirectories p).Follows (Evolves targets) :=
    follows_changeFiles fun fs => (FileSystem.frame_makeDirectories fs p).evolves
  unfold makeDirectories
  dsimp only
  split
  · exact (readsOnly_throw _).follows.bind fun _ => hmake
  · exact hmake

theorem evolves_writeFile (hp : p ∈ targets) (bytes : Bytes) :
    (writeFile p bytes).Follows (Evolves targets) := by
  unfold writeFile
  dsimp only
  split
  on_goal 1 => refine (readsOnly_throw _).follows.bind fun _ => ?_
  all_goals
    refine follows_changeFiles fun fs => ?_
    split
    · next h => exact FileSystem.evolves_writeFile h hp
    · exact .refl _ fs

end Action

open PageRoutes.Action

section

variable {targets : List Path} {p : Path}

/-- **Bringing a file up to date keeps to this file**, also when it fails halfway. -/
theorem evolves_writeIfChanged (hp : p ∈ targets) (bytes : Bytes) :
    (writeIfChanged p bytes).Follows (Evolves targets) := by
  unfold writeIfChanged
  refine (readsOnly_lookup p).follows.bind fun item => ?_
  split
  · exact (readsOnly_pure _).follows
  · exact (evolves_makeDirectories _).bind fun _ => (evolves_writeFile hp _).bind fun _ =>
      (readsOnly_pure _).follows

theorem evolves_writeTextIfChanged (hp : p ∈ targets) (text : String) :
    (writeTextIfChanged p text).Follows (Evolves targets) := by
  rw [writeTextIfChanged_eq]
  exact evolves_writeIfChanged hp _

variable {s : Settings} {output : Option Path}

theorem evolves_writeModule_given (h : ∀ path ∈ output.or s.output, path ∈ targets)
    (m : RoutesModule) : (writeModule s output m).Follows (Evolves targets) := by
  rw [writeModule_given_eq]
  refine follows_require_bind fun path hpath => (readsOnly_pure m).follows.bind fun m =>
    (evolves_writeTextIfChanged (h path hpath) m.source).bind fun changed => ?_
  split
  · exact (readsOnly_pure _).follows
  · exact (readsOnly_note _).follows.bind fun _ => (readsOnly_pure _).follows

theorem evolves_writeModule (h : ∀ path ∈ output.or s.output, path ∈ targets) :
    (writeModule s output).Follows (Evolves targets) := by
  rw [writeModule_compiled_eq]
  refine follows_require_bind fun path hpath => readsOnly_get.follows.bind fun w =>
    (readsOnly_ofOutcome _).follows.bind fun m => evolves_writeModule_given ?_ m
  rintro _ ⟨⟩
  exact h path hpath

theorem evolves_writeModuleOfParts (h : ∀ path ∈ output.or s.output, path ∈ targets)
    (parts : RoutesModule.Parts) :
    (writeModuleOfParts s output parts).Follows (Evolves targets) := by
  unfold writeModuleOfParts
  refine follows_require_bind fun path hpath => (readsOnly_liftExcept _).follows.bind fun m =>
    evolves_writeModule_given ?_ m
  rintro _ ⟨⟩
  exact h path hpath

theorem evolves_writeDeclaration (h : ∀ path ∈ output.or s.declarations, path ∈ targets) :
    (writeDeclaration s output).Follows (Evolves targets) := by
  unfold writeDeclaration
  split
  · next path hpath =>
    exact (readsOnly_require _ _).follows.bind fun moduleName =>
      evolves_writeTextIfChanged (h path hpath) _
  · exact (readsOnly_throw _).follows

theorem evolves_exportTree (s : Settings) (hp : p ∈ targets) :
    (exportTree s p).Follows (Evolves targets) := by
  unfold exportTree
  exact readsOnly_get.follows.bind fun w => (readsOnly_ofOutcome _).follows.bind fun tree =>
    evolves_writeTextIfChanged hp _

theorem readsOnly_routesSpecifier (s : Settings) (router : Path) (useModuleName : Bool) :
    (routesSpecifier s router useModuleName).ReadsOnly := by
  unfold routesSpecifier
  split
  · exact readsOnly_require _ _
  · exact (readsOnly_require _ _).bind fun output => readsOnly_get.bind fun w =>
      readsOnly_liftExcept _

theorem evolves_writeRouter (h : ∀ path ∈ output.or s.router, path ∈ targets)
    (overwrite useModuleName : Bool) :
    (writeRouter s output overwrite useModuleName).Follows (Evolves targets) := by
  rw [writeRouter_eq]
  refine follows_require_bind fun path hpath => (readsOnly_lookup path).follows.bind fun item => ?_
  split
  · exact ((readsOnly_note _).bind fun _ => readsOnly_pure _).follows
  · exact (readsOnly_routesSpecifier s path useModuleName).follows.bind fun specifier =>
      evolves_writeTextIfChanged (h path hpath) _

/-- A generation keeps to the routes module and the declaration, also when the second one fails. -/
theorem evolves_generate (hmodule : ∀ path ∈ s.output, path ∈ targets)
    (hdeclaration : ∀ path ∈ s.declarations, path ∈ targets) :
    (generate s).Follows (Evolves targets) := by
  unfold generate
  refine Follows.bind (evolves_writeModule hmodule) fun changed => ?_
  split
  · exact Follows.bind (evolves_writeDeclaration hdeclaration) fun declared =>
      (readsOnly_pure _).follows
  · exact (readsOnly_pure _).follows

theorem evolves_generateOnStart (hmodule : ∀ path ∈ s.output, path ∈ targets)
    (hdeclaration : ∀ path ∈ s.declarations, path ∈ targets) :
    (generateOnStart s).Follows (Evolves targets) := by
  unfold generateOnStart
  refine Follows.bind (Follows.tryCatch (evolves_generate hmodule hdeclaration) fun e => ?_)
    fun changed => ?_
  · cases e with
    | route e => exact ((readsOnly_say _ _).bind fun _ => readsOnly_throw _).follows
    | _ => exact (readsOnly_throw _).follows
  · split
    · exact ((readsOnly_require _ _).bind fun output => readsOnly_say _ _).follows
    · exact (readsOnly_note _).follows

end

/-! ## Commands -/

namespace Command

variable {targets : List Path} {s : Settings} {output declarations : Option Path}

/-- A command has the effects of its action. -/
theorem follows_orGiveUp {R : FileSystem → FileSystem → Prop} {x : Action Unit}
    (h : x.Follows R) (refusal : Option String) : (orGiveUp refusal x).Follows R := by
  intro w
  rw [eval_orGiveUp]
  exact h w

theorem evolves_putDeclaration {path : Path} (hpath : path ∈ targets) :
    (putDeclaration s path).Follows (Evolves targets) := by
  refine Follows.bind (evolves_writeDeclaration ?_) fun changed =>
    (readsOnly_report changed _ _).follows
  rintro _ ⟨⟩
  exact hpath

theorem evolves_runGenerate (hmodule : ∀ path ∈ output.or s.output, path ∈ targets)
    (hdeclaration : ∀ path ∈ declarations.or s.declarations, path ∈ targets) (verbose : Bool) :
    (runGenerate s output declarations verbose).Follows (Evolves targets) := by
  rw [runGenerate_eq]
  refine follows_require_bind fun path hpath => (readsOnly_print _).follows.bind fun _ =>
    follows_orGiveUp (readsOnly_get.follows.bind fun w => (readsOnly_ofOutcome _).follows.bind
      fun m => (readsOnly_announce verbose m).follows.bind fun _ => Follows.bind ?_ fun _ => ?_) _
  · refine Follows.bind (evolves_writeModule_given ?_ m) fun changed =>
      (readsOnly_report changed _ _).follows
    rintro _ ⟨⟩
    exact hmodule path hpath
  · cases hdeclarations : declarations.or s.declarations with
    | none => exact (readsOnly_pure _).follows
    | some path => exact evolves_putDeclaration (hdeclaration path hdeclarations)

theorem evolves_runTree (h : ∀ path ∈ output, path ∈ targets) (asJson : Bool) :
    (runTree s output asJson).Follows (Evolves targets) := by
  cases output with
  | none =>
    rw [runTree_show_eq]
    exact follows_orGiveUp (readsOnly_get.follows.bind fun w =>
      (readsOnly_ofOutcome _).follows.bind fun tree => (readsOnly_showTree s asJson tree).follows) _
  | some path =>
    rw [runTree_output_eq]
    exact follows_orGiveUp ((evolves_exportTree s (h path rfl)).bind fun changed =>
      (readsOnly_report changed _ _).follows) _

theorem evolves_runTypes (h : ∀ path ∈ output.or s.declarations, path ∈ targets) :
    (runTypes s output).Follows (Evolves targets) := by
  rw [runTypes_eq]
  cases hpath : output.or s.declarations with
  | none => exact (readsOnly_throw _).follows
  | some path => exact follows_orGiveUp (evolves_putDeclaration (h path hpath)) _

theorem evolves_runInit (h : ∀ path ∈ output.or s.router, path ∈ targets)
    (overwrite useModuleName : Bool) :
    (runInit s output overwrite useModuleName).Follows (Evolves targets) := by
  rw [runInit_eq]
  refine follows_require_bind fun path hpath => (readsOnly_print _).follows.bind fun _ =>
    (readsOnly_lookup path).follows.bind fun item => ?_
  split
  · exact (readsOnly_print _).follows
  · refine follows_orGiveUp (Follows.bind (evolves_writeRouter ?_ overwrite useModuleName)
      fun changed => (readsOnly_report changed _ _).follows) _
    rintro _ ⟨⟩
    exact h path hpath

end Command

/-! ## The step -/

namespace Operation

/-- The paths that an operation may write to. -/
def targets (s : Settings) : Operation → List Path
  | discover _ _ _ => []
  | compileTree => []
  | compileModule => []
  | writeModule output _ => (output.or s.output).toList
  | writeDeclaration output => (output.or s.declarations).toList
  | exportTree output => [output]
  | writeRouter output _ _ => (output.or s.router).toList
  | generate => s.output.toList ++ s.declarations.toList
  | generateOnStart => s.output.toList ++ s.declarations.toList
  | command c => Main.targets s c

/-- **An operation keeps to its targets**, whether it succeeds or not. -/
theorem evolves_run (s : Settings) (operation : Operation) :
    (operation.run s).Follows (Evolves (operation.targets s)) := by
  have hleft : ∀ {a? b? : Option Path}, ∀ path ∈ a?, path ∈ a?.toList ++ b?.toList :=
    fun path hpath => List.mem_append_left _ (Option.mem_toList.mpr hpath)
  have hright : ∀ {a? b? : Option Path}, ∀ path ∈ b?, path ∈ a?.toList ++ b?.toList :=
    fun path hpath => List.mem_append_right _ (Option.mem_toList.mpr hpath)
  have hmem : ∀ {a? : Option Path}, ∀ path ∈ a?, path ∈ a?.toList :=
    fun path hpath => Option.mem_toList.mpr hpath
  cases operation with
  | discover root extensions exclude =>
    exact ((readsOnly_require _ _).bind fun root => readsOnly_get.bind fun w =>
      (readsOnly_liftExcept _).bind fun files => readsOnly_pure _).follows
  | compileTree =>
    exact (readsOnly_get.bind fun w => (readsOnly_ofOutcome _).bind fun tree =>
      readsOnly_pure _).follows
  | compileModule =>
    exact (readsOnly_get.bind fun w => (readsOnly_ofOutcome _).bind fun m =>
      readsOnly_pure _).follows
  | writeModule output parts =>
    cases parts with
    | none => exact (evolves_writeModule hmem).bind fun changed => (readsOnly_pure _).follows
    | some parts =>
      exact (evolves_writeModuleOfParts hmem parts).bind fun changed => (readsOnly_pure _).follows
  | writeDeclaration output =>
    exact (evolves_writeDeclaration hmem).bind fun changed => (readsOnly_pure _).follows
  | exportTree output =>
    exact (evolves_exportTree s (List.mem_singleton_self output)).bind fun changed =>
      (readsOnly_pure _).follows
  | writeRouter output overwrite useModuleName =>
    exact (evolves_writeRouter hmem overwrite useModuleName).bind fun changed =>
      (readsOnly_pure _).follows
  | generate =>
    exact (evolves_generate hleft hright).bind fun changed => (readsOnly_pure _).follows
  | generateOnStart =>
    exact (evolves_generateOnStart hleft hright).bind fun _ => (readsOnly_pure _).follows
  | command c =>
    refine Follows.bind ?_ fun _ => (readsOnly_pure _).follows
    cases c with
    | generate output declarations verbose =>
      exact Command.evolves_runGenerate hleft hright verbose
    | tree output asJson => exact Command.evolves_runTree hmem asJson
    | types output => exact Command.evolves_runTypes hmem
    | init output overwrite useModuleName =>
      exact Command.evolves_runInit hmem overwrite useModuleName

end Operation

/-! ## The run -/

/-- What happens to a session: an operation, or that it takes other settings. -/
inductive Event where
  | operation (operation : Operation)
  | configure (environment : Environment) (options : Options)

namespace Session

/-- The session after an event; options that cannot be used leave it as it is. -/
def after (session : Session) : Event → Session
  | .operation operation => (session.step operation).2
  | .configure environment options =>
    (session.configure environment options).toOption.getD session

/-- The session after one event and then the other. -/
def run (session : Session) : List Event → Session
  | [] => session
  | event :: events => run (session.after event) events

/-- The paths that an event may write to. -/
def targets (session : Session) : Event → List Path
  | .operation operation => operation.targets session.settings
  | .configure _ _ => []

/-- The paths that events may write to, each under the settings of its time. -/
def allTargets (session : Session) : List Event → List Path
  | [] => []
  | event :: events => session.targets event ++ allTargets (session.after event) events

/-- Other settings change no file. -/
theorem files_after_configure (session : Session) (environment : Environment)
    (options : Options) :
    (session.after (.configure environment options)).files = session.files := by
  show ((session.configure environment options).toOption.getD session).files = _
  unfold configure
  cases Settings.ofOptions environment options <;> rfl

/-- **The step**: an event keeps to its targets. -/
theorem evolves_after (session : Session) (event : Event) :
    Evolves (session.targets event) session.files (session.after event).files := by
  cases event with
  | operation operation => exact operation.evolves_run session.settings { files := session.files }
  | configure environment options =>
    rw [files_after_configure]
    exact .refl _ _

/-- **The run**: a session keeps to the targets of its events. -/
theorem evolves_run (session : Session) (events : List Event) :
    Evolves (session.allTargets events) session.files (session.run events).files := by
  induction events generalizing session with
  | nil => exact .refl _ _
  | cons event events ih =>
    have hfirst := (session.evolves_after event).mono
      (List.subset_append_left _ ((session.after event).allTargets events))
    have hrest :=
      (ih (session.after event)).mono (List.subset_append_right (session.targets event) _)
    exact hfirst.trans hrest

end Session

/-! ## An existing router component -/

/-- A path leads to something, a file or a directory. -/
def FileSystem.Exists (fs : FileSystem) (p : Path) : Prop :=
  p.hasNul = false ∧ ∃ item, fs.lookup p = .ok (some item)

section

variable {s : Settings} {output : Option Path} {path : Path} {w : Workspace}

theorem eval_lookup_of_exists (h : w.files.Exists path) :
    ∃ item, (Action.lookup path).eval w = (.ok (some item), w) := by
  obtain ⟨hnul, item, hlookup⟩ := h
  exact ⟨item, by rw [eval_lookup, hnul, hlookup]; rfl⟩

/-- What is there is not written over, unless that is asked for. -/
theorem eval_writeRouter_of_exists (hpath : output.or s.router = some path)
    (h : w.files.Exists path) (useModuleName : Bool) :
    (writeRouter s output false useModuleName).eval w
      = (.ok false, { w with log := w.log ++ [.routerExists path] }) := by
  obtain ⟨item, hlookup⟩ := eval_lookup_of_exists h
  rw [writeRouter_eq, eval_bind_of_ok (eval_require_of_some hpath w), eval_bind_of_ok hlookup,
    if_pos (by rfl), eval_bind_of_ok (eval_note _ _)]
  rfl

/-- The command says so and leaves it at that. -/
theorem Command.eval_runInit_of_exists (hpath : output.or s.router = some path)
    (h : w.files.Exists path) (useModuleName : Bool) :
    ∃ printed, (runInit s output false useModuleName).eval w = (.ok (), { w with printed }) := by
  rw [runInit_eq, eval_bind_of_ok (eval_require_of_some hpath w),
    eval_bind_of_ok (eval_print _ w)]
  obtain ⟨item, hlookup⟩ := eval_lookup_of_exists
    (w := { w with printed := w.printed
      ++ Console.rule (Markup.styled "yellow" "Initializing router component") }) h
  rw [eval_bind_of_ok hlookup, if_pos (by rfl), eval_print]
  exact ⟨_, rfl⟩

end

namespace Session

theorem files_writeRouter_of_exists {session : Session} {output : Option Path} {path : Path}
    (hpath : output.or session.settings.router = some path) (h : session.files.Exists path)
    (useModuleName : Bool) :
    (session.step (.writeRouter output false useModuleName)).1.result = .ok (.changed false) ∧
      (session.step (.writeRouter output false useModuleName)).2.files = session.files := by
  obtain ⟨hresult, -, hfiles⟩ :=
    session.step_of_run (.writeRouter output false useModuleName) rfl
  rw [hresult, hfiles, eval_writeRouter_of_exists (w := { files := session.files }) hpath h]
  exact ⟨rfl, rfl⟩

theorem files_init_of_exists {session : Session} {output : Option Path} {path : Path}
    (hpath : output.or session.settings.router = some path) (h : session.files.Exists path)
    (useModuleName : Bool) :
    (session.step (.command (.init output false useModuleName))).1.result = .ok .done ∧
      (session.step (.command (.init output false useModuleName))).2.files = session.files := by
  obtain ⟨printed, heval⟩ := Command.eval_runInit_of_exists
    (w := { files := session.files }) hpath h useModuleName
  obtain ⟨hresult, -, hfiles⟩ :=
    session.step_of_run (.command (.init output false useModuleName)) rfl
  rw [hresult, hfiles, Command.run, heval]
  exact ⟨rfl, rfl⟩

/--
**A session leaves other files alone.**

Whatever the state of a session is, an operation takes no file away and, away from its own targets,
every file keeps its bytes, whether the operation succeeds or not; the same holds for any events one
after the other. Where something is at the place of the router component, nothing changes at all,
unless it may be overwritten.
-/
theorem keeps_files (session : Session) :
    (∀ operation,
      Evolves (Operation.targets session.settings operation) session.files
        (session.step operation).2.files) ∧
    (∀ events, Evolves (session.allTargets events) session.files (session.run events).files) ∧
    ∀ output path useModuleName, output.or session.settings.router = some path →
      session.files.Exists path →
      ((session.step (.writeRouter output false useModuleName)).1.result = .ok (.changed false) ∧
        (session.step (.writeRouter output false useModuleName)).2.files = session.files) ∧
      (session.step (.command (.init output false useModuleName))).1.result = .ok .done ∧
        (session.step (.command (.init output false useModuleName))).2.files = session.files := by
  refine ⟨fun operation => session.evolves_after (.operation operation), session.evolves_run, ?_⟩
  intro output path useModuleName hpath hexists
  exact ⟨files_writeRouter_of_exists hpath hexists useModuleName,
    files_init_of_exists hpath hexists useModuleName⟩

/-- A project with a router component of its own. -/
def ownRouter : Session where
  settings := {
      root := .ofString "src/pages", extensions := ["tsx"], exclude := []
      notFound := none, fallback := none, output := some (.ofString "src/routes.tsx")
      declarations := none, router := some (.ofString "src/Router.tsx")
      moduleName := some "routes", stem := none, onDuplicate := .refuse, generateOnStart := none }
  files := {
      cwd := ["w"]
      items := [(["w"], .directory), (["w", "src"], .directory),
        (["w", "src", "Router.tsx"], .file [0x2F, 0x2F])]
      distinct := by decide }

/-- The component is kept, and so is a directory where it should go. -/
theorem keeps_files_ownRouter :
    ownRouter.files.Exists (.ofString "src/Router.tsx") ∧
    ownRouter.files.Exists (.ofString "src") ∧
    ((ownRouter.step (.writeRouter none false false)).1.result = .ok (.changed false) ∧
      (ownRouter.step (.writeRouter none false false)).2.files = ownRouter.files) ∧
    (ownRouter.step (.command (.init (some (.ofString "src")) false true))).1.result = .ok .done ∧
      (ownRouter.step (.command (.init (some (.ofString "src")) false true))).2.files
        = ownRouter.files := by
  have hrouter : ownRouter.files.Exists (.ofString "src/Router.tsx") :=
    ⟨by decide +kernel, .file [0x2F, 0x2F], by decide +kernel⟩
  have hdirectory : ownRouter.files.Exists (.ofString "src") :=
    ⟨by decide +kernel, .directory, by decide +kernel⟩
  obtain ⟨-, -, hkeeps⟩ := keeps_files ownRouter
  obtain ⟨hwritten, -⟩ := hkeeps none _ false rfl hrouter
  obtain ⟨-, hinit⟩ := hkeeps (some _) _ true rfl hdirectory
  exact ⟨hrouter, hdirectory, hwritten, hinit⟩

end Session

end PageRoutes
