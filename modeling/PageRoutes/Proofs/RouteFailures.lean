import PageRoutes.Proofs.Effects

/-!
# Routes that cannot be compiled

An operation compiles before it writes, and what it does after that fails for other reasons only. So
no file and no directory is touched by an operation that fails because of the routes.

* `RouteError.take_message` — the reasons that commands have of their own are no such messages.
* `Action.SparesFiles` — the property of an action that is shown step by step.
* `routeFailure_leaves_files` — every operation of a session has it.
-/

namespace PageRoutes

open Text FileSystem

/-! ## Failures because of the routes -/

/-- The failure is that routes cannot be compiled, or a command gave up because of that. -/
def Failure.IsOfRoutes (failure : Failure) : Prop :=
  ∃ e : RouteError, failure = .route e ∨ failure = .command e.message

/-- How a message about routes begins. -/
theorem RouteError.take_message (e : RouteError) :
    e.message.toList.take 2
      ∈ [['A', ' '], ['A', 't'], ['U', 'n'], ['P', 'a'], ['F', 'i'], ['R', 'o']] := by
  unfold message OptionFault.message
  split
  · split <;> simp
  all_goals simp

/-- A reason that begins in another way is not one because of the routes. -/
theorem Failure.not_isOfRoutes_command {reason : String}
    (h : reason.toList.take 2
      ∉ [['A', ' '], ['A', 't'], ['U', 'n'], ['P', 'a'], ['F', 'i'], ['R', 'o']]) :
    ¬(Failure.command reason).IsOfRoutes := by
  rintro ⟨e, he | he⟩
  · cases he
  · obtain rfl := Failure.command.inj he
    exact h e.take_message

/-- The file system does not fail because of the routes. -/
theorem Failure.IsOfFiles.not_isOfRoutes {failure : Failure} (h : failure.IsOfFiles) :
    ¬failure.IsOfRoutes := by
  rintro ⟨e, rfl | rfl⟩ <;> cases h

/-- The failures that are not because of the routes. -/
abbrev Failure.IsElse (failure : Failure) : Prop := ¬failure.IsOfRoutes

/-! ## Sparing the files -/

namespace Action

variable {α β : Type} {x : Action α} {f : α → Action β}

/-- If the action fails because of the routes, the files are as they were. -/
def SparesFiles (x : Action α) : Prop :=
  ∀ w e, (x.eval w).1 = .error e → e.IsOfRoutes → (x.eval w).2.files = w.files

theorem ReadsOnly.sparesFiles (h : x.ReadsOnly) : x.SparesFiles :=
  fun w _ _ _ => (h w).symm

theorem FailsOnly.sparesFiles (h : x.FailsOnly Failure.IsElse) : x.SparesFiles :=
  fun w e he hroutes => absurd hroutes (h w e he)

/-- What follows an action that only reads has to spare the files. -/
theorem SparesFiles.of_reads (hx : x.ReadsOnly) (hf : ∀ a, (f a).SparesFiles) :
    (x >>= f).SparesFiles := by
  intro w e he hroutes
  rcases hrun : x.eval w with ⟨e' | a, w₁⟩
  · have hfiles := hx w
    rw [hrun] at hfiles
    rw [eval_bind_of_error hrun]
    exact hfiles.symm
  · have hfiles := hx w
    rw [hrun] at hfiles
    rw [eval_bind_of_ok hrun] at he ⊢
    rw [hf a w₁ e he hroutes]
    exact hfiles.symm

/-- What follows an action that spares the files must not fail because of the routes. -/
theorem SparesFiles.bind (hx : x.SparesFiles) (hf : ∀ a, (f a).FailsOnly Failure.IsElse) :
    (x >>= f).SparesFiles := by
  intro w e he hroutes
  rcases hrun : x.eval w with ⟨e' | a, w₁⟩
  · have hfiles := hx w e'
    rw [hrun] at hfiles
    rw [eval_bind_of_error hrun] at he ⊢
    exact hfiles rfl (Except.error.inj he ▸ hroutes)
  · rw [eval_bind_of_ok hrun] at he
    exact absurd hroutes (hf a w₁ e he)

/-- A failure may be seen in another way, if only one because of the routes is seen as such. -/
theorem SparesFiles.tryCatch {handle : Failure → Action α} (hx : x.SparesFiles)
    (hreads : ∀ e, (handle e).ReadsOnly)
    (helse : ∀ e : Failure, e.IsElse → (handle e).FailsOnly Failure.IsElse) :
    (tryCatch x handle).SparesFiles := by
  intro w e he hroutes
  have hspares := hx w
  rw [eval_tryCatch] at he ⊢
  rcases hrun : x.eval w with ⟨e' | a, w₁⟩ <;> rw [hrun] at he hspares
  · by_cases hroutes' : e'.IsOfRoutes
    · have hfiles := hreads e' w₁
      exact hfiles.symm.trans (hspares e' rfl hroutes')
    · exact absurd hroutes (helse e' hroutes' w₁ e he)
  · cases he

/-- A command spares the files if its action does, unless its own reason could be taken for a
message about the routes. -/
theorem SparesFiles.orGiveUp {x : Action Unit} {refusal : Option String} (hx : x.SparesFiles)
    (hrefusal : ∀ reason ∈ refusal, (Failure.command reason).IsElse) :
    (Command.orGiveUp refusal x).SparesFiles := by
  unfold Command.orGiveUp
  refine hx.tryCatch (fun e => ?_) (fun e he => ?_)
  · cases e <;> cases refusal <;> exact readsOnly_throw _
  · cases e with
    | route e => exact absurd ⟨e, .inl rfl⟩ he
    | file e =>
      cases refusal with
      | none => exact failsOnly_throw he
      | some reason => exact failsOnly_throw (hrefusal reason rfl)
    | _ => exact failsOnly_throw he

/-- The file system fails for reasons of its own. -/
theorem FailsOnly.isElse (h : x.FailsOnly Failure.IsOfFiles) : x.FailsOnly Failure.IsElse :=
  h.mono fun _ he => he.not_isOfRoutes

/-- What is refused on the console is the markup of a message. -/
theorem failsOnly_say_isElse (mark message : String) :
    (say mark message).FailsOnly Failure.IsElse :=
  failsOnly_say mark message fun fault => by rintro ⟨e, he | he⟩ <;> cases he

end Action

open PageRoutes.Action

/-! ## The operations -/

/-- No way to the routes module is found because of U+0000, or because it would be the root. -/
theorem importSpecifier_eq_error {cwd : Address} {router module : Path} {e : Failure}
    (h : RouterComponent.importSpecifier cwd router module = .error e) :
    e = .nulInText ∨ e = .emptyName (.ofAddress []) := by
  unfold RouterComponent.importSpecifier addressOf at h
  cases hmodule : module.address? cwd with
  | none =>
    rw [hmodule] at h
    exact .inl (Except.error.inj h).symm
  | some a =>
    rw [hmodule] at h
    simp only [bind, Except.bind] at h
    split at h
    · exact .inr (Except.error.inj h).symm
    · cases hrouter : router.address? cwd with
      | none =>
        rw [hrouter] at h
        exact .inl (Except.error.inj h).symm
      | some b =>
        rw [hrouter] at h
        cases h

section

variable (s : Settings)

theorem sparesFiles_writeModule (output : Option Path) : (writeModule s output).SparesFiles := by
  rw [writeModule_compiled_eq]
  refine .of_reads (readsOnly_require _ _) fun path => .of_reads readsOnly_get fun w =>
    .of_reads (readsOnly_ofOutcome _) fun m => ?_
  exact (failsOnly_writeModule s path m).isElse.sparesFiles

theorem failsOnly_writeModuleOfParts (output : Option Path) (parts : RoutesModule.Parts) :
    (writeModuleOfParts s output parts).FailsOnly Failure.IsOfFiles := by
  unfold writeModuleOfParts
  refine (failsOnly_require _ _).bind fun path => (failsOnly_liftExcept fun e he => ?_).bind
    fun m => failsOnly_writeModule s path m
  unfold RoutesModule.ofParts at he
  cases himports : parts.imports with
  | none =>
    rw [himports] at he
    exact Except.error.inj he ▸ .missing .importLines
  | some imports =>
    rw [himports] at he
    cases he

/-- That no path is known for the declaration is not because of the routes either. -/
theorem failsOnly_writeDeclaration_isElse (output : Option Path) :
    (writeDeclaration s output).FailsOnly Failure.IsElse := by
  cases hpath : output.or s.declarations with
  | none =>
    rw [writeDeclaration, hpath]
    exact failsOnly_throw (by rintro ⟨e, he | he⟩ <;> cases he)
  | some path => exact (failsOnly_writeDeclaration hpath).isElse

theorem sparesFiles_exportTree (output : Path) : (exportTree s output).SparesFiles := by
  unfold exportTree
  refine .of_reads readsOnly_get fun w => .of_reads (readsOnly_ofOutcome _) fun tree => ?_
  exact (failsOnly_writeTextIfChanged _ _).isElse.sparesFiles

theorem failsOnly_routesSpecifier (router : Path) (useModuleName : Bool) :
    (routesSpecifier s router useModuleName).FailsOnly Failure.IsElse := by
  unfold routesSpecifier
  split
  · exact (failsOnly_require _ _).isElse
  · refine (failsOnly_require _ _).isElse.bind fun output => failsOnly_get.bind fun w =>
      failsOnly_liftExcept fun e he => ?_
    rcases importSpecifier_eq_error he with rfl | rfl <;> rintro ⟨e', he' | he'⟩ <;> cases he'

theorem failsOnly_writeRouter (output : Option Path) (overwrite useModuleName : Bool) :
    (writeRouter s output overwrite useModuleName).FailsOnly Failure.IsElse := by
  rw [writeRouter_eq]
  refine (failsOnly_require _ _).isElse.bind fun path =>
    (failsOnly_lookup path).isElse.bind fun item => ?_
  split
  · exact (failsOnly_note _).bind fun _ => failsOnly_pure _
  · exact (failsOnly_routesSpecifier s path useModuleName).bind fun specifier =>
      (failsOnly_writeTextIfChanged _ _).isElse

/-- All that is compiled for a generation is compiled before its first file is written. -/
theorem sparesFiles_generate : (generate s).SparesFiles := by
  unfold generate
  refine (sparesFiles_writeModule s none).bind fun changed => ?_
  split
  · exact (failsOnly_writeDeclaration_isElse s none).bind fun declared => failsOnly_pure _
  · exact failsOnly_pure _

/-- A failure at start is shown, and is still the failure. -/
theorem sparesFiles_generateOnStart : (generateOnStart s).SparesFiles := by
  unfold generateOnStart
  refine SparesFiles.bind ((sparesFiles_generate s).tryCatch (fun e => ?_) fun e he => ?_)
    fun changed => ?_
  · cases e with
    | route e => exact (readsOnly_say _ _).bind fun _ => readsOnly_throw _
    | _ => exact readsOnly_throw _
  · cases e with
    | route e => exact absurd ⟨e, .inl rfl⟩ he
    | _ => exact failsOnly_throw he
  · split
    · exact (failsOnly_require _ _).isElse.bind fun output => failsOnly_say_isElse _ _
    · exact failsOnly_note _

end

/-! ## The commands -/

namespace Command

variable (s : Settings)

theorem failsOnly_report (changed : Bool) (written upToDate : String) :
    (report changed written upToDate).FailsOnly Failure.IsElse := by
  unfold report
  split
  · exact failsOnly_say_isElse _ _
  · exact failsOnly_say_isElse _ _

theorem failsOnly_putModule (output : Path) (m : RoutesModule) :
    (putModule s output m).FailsOnly Failure.IsElse :=
  (failsOnly_writeModule s output m).isElse.bind fun changed => failsOnly_report changed _ _

theorem failsOnly_putDeclaration (path : Path) :
    (putDeclaration s path).FailsOnly Failure.IsElse :=
  (failsOnly_writeDeclaration_isElse s path).bind fun changed => failsOnly_report changed _ _

theorem sparesFiles_runGenerate (output declarations : Option Path) (verbose : Bool) :
    (runGenerate s output declarations verbose).SparesFiles := by
  rw [runGenerate_eq]
  refine .of_reads (readsOnly_require _ _) fun output => .of_reads (readsOnly_print _) fun _ =>
    .orGiveUp (.of_reads readsOnly_get fun w => .of_reads (readsOnly_ofOutcome _) fun m =>
      .of_reads (readsOnly_announce verbose m) fun _ => FailsOnly.sparesFiles ?_) ?_
  · refine (failsOnly_putModule s output m).bind fun _ => ?_
    cases declarations.or s.declarations with
    | none => exact failsOnly_pure _
    | some path => exact failsOnly_putDeclaration s path
  · rintro reason ⟨⟩
    exact Failure.not_isOfRoutes_command (by simp)

theorem sparesFiles_runTree (output : Option Path) (asJson : Bool) :
    (runTree s output asJson).SparesFiles := by
  cases output with
  | none =>
    rw [runTree_show_eq]
    exact .orGiveUp (.of_reads readsOnly_get fun w => .of_reads (readsOnly_ofOutcome _)
      fun tree => (readsOnly_showTree s asJson tree).sparesFiles) nofun
  | some path =>
    rw [runTree_output_eq]
    exact .orGiveUp ((sparesFiles_exportTree s path).bind fun changed =>
      failsOnly_report changed _ _) nofun

theorem sparesFiles_runTypes (output : Option Path) : (runTypes s output).SparesFiles := by
  rw [runTypes_eq]
  cases output.or s.declarations with
  | none => exact (readsOnly_throw _).sparesFiles
  | some path =>
    refine .orGiveUp (failsOnly_putDeclaration s path).sparesFiles ?_
    rintro reason ⟨⟩
    exact Failure.not_isOfRoutes_command (by simp)

theorem sparesFiles_runInit (output : Option Path) (overwrite useModuleName : Bool) :
    (runInit s output overwrite useModuleName).SparesFiles := by
  rw [runInit_eq]
  refine .of_reads (readsOnly_require _ _) fun path => .of_reads (readsOnly_print _) fun _ =>
    .of_reads (readsOnly_lookup path) fun item => ?_
  split
  · exact (readsOnly_print _).sparesFiles
  · refine .orGiveUp (((failsOnly_writeRouter s path overwrite useModuleName).bind fun changed =>
      failsOnly_report changed _ _).sparesFiles) ?_
    rintro reason ⟨⟩
    exact Failure.not_isOfRoutes_command (by simp)

end Command

/-- Every operation spares the files. -/
theorem Operation.sparesFiles_run (s : Settings) (operation : Operation) :
    (operation.run s).SparesFiles := by
  cases operation with
  | discover root extensions exclude =>
    exact .of_reads (readsOnly_require _ _) fun root => .of_reads readsOnly_get fun w =>
      .of_reads (readsOnly_liftExcept _) fun files => (readsOnly_pure _).sparesFiles
  | compileTree =>
    exact .of_reads readsOnly_get fun w => .of_reads (readsOnly_ofOutcome _) fun tree =>
      (readsOnly_pure _).sparesFiles
  | compileModule =>
    exact .of_reads readsOnly_get fun w => .of_reads (readsOnly_ofOutcome _) fun m =>
      (readsOnly_pure _).sparesFiles
  | writeModule output parts =>
    cases parts with
    | none => exact (sparesFiles_writeModule s output).bind fun changed => failsOnly_pure _
    | some parts =>
      exact (failsOnly_writeModuleOfParts s output parts).isElse.sparesFiles.bind fun changed =>
        failsOnly_pure _
  | writeDeclaration output =>
    exact (failsOnly_writeDeclaration_isElse s output).sparesFiles.bind fun changed =>
      failsOnly_pure _
  | exportTree output =>
    exact (sparesFiles_exportTree s output).bind fun changed => failsOnly_pure _
  | writeRouter output overwrite useModuleName =>
    exact (failsOnly_writeRouter s output overwrite useModuleName).sparesFiles.bind fun changed =>
      failsOnly_pure _
  | generate => exact (sparesFiles_generate s).bind fun changed => failsOnly_pure _
  | generateOnStart => exact (sparesFiles_generateOnStart s).bind fun _ => failsOnly_pure _
  | command c =>
    refine SparesFiles.bind ?_ fun _ => failsOnly_pure _
    cases c with
    | generate output declarations verbose =>
      exact Command.sparesFiles_runGenerate s output declarations verbose
    | tree output asJson => exact Command.sparesFiles_runTree s output asJson
    | types output => exact Command.sparesFiles_runTypes s output
    | init output overwrite useModuleName =>
      exact Command.sparesFiles_runInit s output overwrite useModuleName

namespace Session

/--
**Routes that cannot be compiled leave a project untouched.**

Whatever the settings and the files of a session are, an operation that fails because of the routes,
or a command that gives up with the message of such a failure, creates, changes and removes nothing.
-/
theorem routeFailure_leaves_files (session : Session) (operation : Operation) (e : RouteError)
    (h : (session.step operation).1.result = .error (.route e) ∨
      (session.step operation).1.result = .error (.command e.message)) :
    (session.step operation).2.files = session.files := by
  rw [files_step]
  rcases h with h | h
  · exact Operation.sparesFiles_run session.settings operation _ _ h ⟨e, .inl rfl⟩
  · exact Operation.sparesFiles_run session.settings operation _ _ h ⟨e, .inr rfl⟩

/-- A project whose pages are gone, with what was generated and exported before. -/
def pagesGone : Session where
  settings := {
      root := .ofString "pages", extensions := ["tsx"], exclude := []
      notFound := none, fallback := none, output := some (.ofString "routes.tsx")
      declarations := some (.ofString "routes.d.ts"), router := none
      moduleName := some "routes", stem := some "Route", onDuplicate := .refuse
      generateOnStart := none }
  files := {
      cwd := []
      items := [(["routes.tsx"], .file [0x0A]), (["routes.d.ts"], .file [0x0A]),
        (["routes.json"], .file [0x0A])]
      distinct := by decide }

/-- Whatever compiles the pages fails for the missing directory, and what is there stays. -/
theorem routeFailure_leaves_files_pagesGone :
    let e := RouteError.invalidOptions (.missingDirectory ["pages"])
    (∀ operation ∈ [Operation.generate, .writeModule none none,
        .exportTree (.ofString "routes.json")],
      (pagesGone.step operation).1.result = .error (.route e) ∧
        (pagesGone.step operation).2.files = pagesGone.files) ∧
    ∀ c ∈ [Command.generate none none true, .tree (some (.ofString "routes.json")) false,
        .tree none true],
      (pagesGone.step (.command c)).1.result = .error (.command e.message) ∧
        (pagesGone.step (.command c)).2.files = pagesGone.files := by
  intro e
  refine ⟨fun operation hoperation => ?_, fun c hc => ?_⟩
  · have hresult : (pagesGone.step operation).1.result = .error (.route e) := by
      simp only [List.mem_cons, List.not_mem_nil, or_false] at hoperation
      rcases hoperation with rfl | rfl | rfl <;> rfl
    exact ⟨hresult, routeFailure_leaves_files pagesGone operation e (.inl hresult)⟩
  · have hresult : (pagesGone.step (.command c)).1.result = .error (.command e.message) := by
      simp only [List.mem_cons, List.not_mem_nil, or_false] at hc
      rcases hc with rfl | rfl | rfl <;> rfl
    exact ⟨hresult, routeFailure_leaves_files pagesGone (.command c) e (.inr hresult)⟩

end Session

end PageRoutes
