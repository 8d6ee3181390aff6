import PageRoutes.Proofs.Reports

/-!
# The command and the plugin generate the same project

The generate command takes the steps of a generation one by one and reports on each file, so the two
do the same, as long as the console shows what the command reports.

* `generationsEnd` — the ways in which the two can end, seen together.
* `Session.GenerationsAgree` — the two generations leave the same files and end alike.
* `Session.generationsAgree_iff` — they agree just if the console refuses none of the reports.
* `Session.command_generates_same_project` — when they agree, and when they do so for their paths.
* `Session.command_fails_taggedOutput` — a project in which the console refuses a report.
-/

namespace PageRoutes

open Text FileSystem PageRoutes.Action

/-! ## The generation by command -/

namespace Command

variable {s : Settings} {fs fs' : FileSystem} {e : Failure} {output : Path} {m : RoutesModule}
  {changed : Bool}

/-- The reason for which a generation by command gives up on a failure of the file system. -/
def refusal (s : Settings) : Option String :=
  s.output.map fun output => "Failed to write routes to path " ++ output.text

/-- Brings the routes module and the declaration up to date and reports on them. -/
def putAll (s : Settings) (output : Path) (m : RoutesModule) : Action Unit := do
  putModule s output m
  s.declarations.elim (pure ()) (putDeclaration s)

theorem eval_require_output (houtput : s.output = some output) (w : Workspace) :
    (Action.require .path (none.or s.output)).eval w = (.ok output, w) :=
  eval_require_of_some (show none.or s.output = some output from houtput) w

theorem on_require_output_of_missing (houtput : s.output = none) (fs : FileSystem) :
    (Action.require .path (none.or s.output)).on fs = (.error (.missing .path), fs) := by
  rw [on, eval_require, houtput]
  rfl

/-- The heading is the first that is printed. -/
theorem eval_print_heading (s : Settings) (fs : FileSystem) :
    (print (heading s)).eval { files := fs } = (.ok (), { files := fs, printed := heading s }) := by
  rw [eval_print, String.empty_append]

/-- Without a path for the routes module the command does nothing. -/
theorem on_runGenerate_of_missing (houtput : s.output = none) (fs : FileSystem) (verbose : Bool) :
    (runGenerate s none none verbose).on fs = (.error (.missing .path), fs) := by
  rw [runGenerate_eq]
  exact on_bind_of_error (on_require_output_of_missing houtput fs) _

theorem on_runGenerate_of_error (houtput : s.output = some output)
    (hm : (compileModule s fs).result = .error e) (verbose : Bool) :
    (runGenerate s none none verbose).on fs = (.error (givenUp (refusal s) e), fs) := by
  have hcompile := eval_ofOutcome (compileModule s fs) { files := fs, printed := heading s }
  rw [hm] at hcompile
  rw [on, runGenerate_eq, eval_bind_of_ok (eval_require_output houtput _),
    eval_bind_of_ok (eval_print_heading s fs), eval_orGiveUp, eval_bind_of_ok (eval_get _),
    eval_bind_of_error hcompile, refusal, houtput]
  rfl

/-- What is announced is the number of bindings. -/
theorem eval_announce (verbose : Bool) (m : RoutesModule) (w : Workspace) :
    (announce verbose m).eval w
      = (.ok (), { w with printed := w.printed ++ if verbose then bindingCount m else "" }) := by
  cases verbose
  · show _ = (_, { w with printed := w.printed ++ "" })
    rw [String.append_empty]
    rfl
  · rfl

/-- Once the module is compiled, the rest is to put the files in place. -/
theorem eval_runGenerate_of_ok (houtput : s.output = some output)
    (hm : (compileModule s fs).result = .ok m) (verbose : Bool) :
    ∃ w, w.files = fs ∧ w.printed = heading s ++ (if verbose then bindingCount m else "") ∧
      (runGenerate s none none verbose).eval { files := fs }
        = (((putAll s output m).eval w).1.mapError (givenUp (refusal s)),
            ((putAll s output m).eval w).2) := by
  have hcompile := eval_ofOutcome (compileModule s fs) { files := fs, printed := heading s }
  rw [hm] at hcompile
  rw [runGenerate_eq, eval_bind_of_ok (eval_require_output houtput _),
    eval_bind_of_ok (eval_print_heading s fs), eval_orGiveUp, eval_bind_of_ok (eval_get _),
    eval_bind_of_ok hcompile, eval_bind_of_ok (eval_announce verbose m _), refusal, houtput]
  refine ⟨_, ?_, ?_, rfl⟩
  · rfl
  · rfl

/-- Once the module is in place and the console shows that, the rest is the declaration. -/
theorem eval_runGenerate_of_written (houtput : s.output = some output)
    (hm : (compileModule s fs).result = .ok m)
    (hmodule : (writeModule s output m).on fs = (.ok changed, fs'))
    (hshown : Console.refuses (FileReport.onModule output changed).markup = false)
    (verbose : Bool) :
    ∃ w, w.files = fs' ∧
      w.printed = heading s ++ (if verbose then bindingCount m else "")
        ++ Console.line (FileReport.onModule output changed).markup ∧
      (runGenerate s none none verbose).eval { files := fs }
        = (((s.declarations.elim (pure ()) (putDeclaration s)).eval w).1.mapError
              (givenUp (refusal s)),
            ((s.declarations.elim (pure ()) (putDeclaration s)).eval w).2) := by
  obtain ⟨w, rfl, hprinted, hcommand⟩ := eval_runGenerate_of_ok houtput hm verbose
  obtain ⟨w', hput, hfiles, hprinted'⟩ :=
    eval_reported_of_shown (quiet_writeModule s output m) hmodule hshown
  change (putModule s output m).eval w = _ at hput
  rw [putAll, eval_bind_of_ok hput] at hcommand
  rw [hprinted] at hprinted'
  exact ⟨w', hfiles, hprinted', hcommand⟩

/-- If the console refuses the report on the module, the command ends with the module in place. -/
theorem on_runGenerate_of_refused (houtput : s.output = some output)
    (hm : (compileModule s fs).result = .ok m)
    (hmodule : (writeModule s output m).on fs = (.ok changed, fs')) {fault : MarkupFault}
    (hfault : Console.fault? (FileReport.onModule output changed).markup = some fault)
    (verbose : Bool) :
    (runGenerate s none none verbose).on fs = (.error (.markup fault), fs') := by
  obtain ⟨w, rfl, -, hcommand⟩ := eval_runGenerate_of_ok houtput hm verbose
  obtain ⟨w', hput, rfl⟩ :=
    eval_reported_of_refused (quiet_writeModule s output m) hmodule hfault
  rw [putAll, putModule, eval_bind_of_error hput] at hcommand
  rw [on, hcommand]
  rfl

end Command

/-! ## The generation by the plugin -/

section

variable {s : Settings} {fs fs' : FileSystem} {e : Failure} {output path : Path}
  {m : RoutesModule} {changed : Bool}

/-- Without a path for the routes module nothing is generated. -/
theorem on_generate_of_missing (houtput : s.output = none) (fs : FileSystem) :
    (generate s).on fs = (.error (.missing .path), fs) := by
  have hmodule : (writeModule s).on fs = (.error (.missing .path), fs) := by
    rw [writeModule_compiled_eq]
    exact on_bind_of_error (Command.on_require_output_of_missing houtput fs) _
  exact on_bind_of_error hmodule _

/-- What is done behind the compilation is done with the same files. -/
theorem on_writeModule (houtput : s.output = some output) :
    (writeModule s).on fs
      = (ofOutcome (compileModule s fs) >>= fun m => writeModule s output m).on fs := by
  rw [on, writeModule_compiled_eq, eval_bind_of_ok (Command.eval_require_output houtput _),
    eval_bind_of_ok (eval_get _)]
  rfl

theorem on_writeModule_of_error (houtput : s.output = some output)
    (hm : (compileModule s fs).result = .error e) : (writeModule s).on fs = (.error e, fs) := by
  have hcompile : (ofOutcome (compileModule s fs)).on fs = (.error e, fs) := by
    rw [on, eval_ofOutcome, hm]
  rw [on_writeModule houtput]
  exact on_bind_of_error hcompile _

theorem on_generate_of_error (houtput : s.output = some output)
    (hm : (compileModule s fs).result = .error e) : (generate s).on fs = (.error e, fs) :=
  on_bind_of_error (on_writeModule_of_error houtput hm) _

/-- The module of the view files is put in place like a given one. -/
theorem on_writeModule_of_ok (houtput : s.output = some output)
    (hm : (compileModule s fs).result = .ok m) :
    (writeModule s).on fs = (writeModule s output m).on fs := by
  have hcompile : (ofOutcome (compileModule s fs)).on fs = (.ok m, fs) := by
    rw [on, eval_ofOutcome, hm]
  rw [on_writeModule houtput]
  exact on_bind_of_ok hcompile (quiet_writeModule s output m)

/-- A module that was put in place was compiled. -/
theorem exists_compiled_of_on_writeModule (houtput : s.output = some output)
    (h : (writeModule s).on fs = (.ok changed, fs')) :
    ∃ m, (compileModule s fs).result = .ok m ∧
      (writeModule s output m).on fs = (.ok changed, fs') := by
  cases hm : (compileModule s fs).result with
  | error e =>
    rw [on_writeModule_of_error houtput hm] at h
    cases h
  | ok m => exact ⟨m, rfl, (on_writeModule_of_ok houtput hm).symm.trans h⟩

/-- Without a path for the declaration the module is all. -/
theorem on_generate_of_none (h : (writeModule s).on fs = (.ok changed, fs'))
    (hpath : s.declarations = none) : (generate s).on fs = (.ok changed, fs') := by
  unfold generate
  rw [hpath]
  exact on_bind_of_ok h (quiet_pure changed)

/-- The declaration is put in place behind the module. -/
theorem on_generate_of_some (h : (writeModule s).on fs = (.ok changed, fs'))
    (hpath : s.declarations = some path) :
    (generate s).on fs
      = (writeDeclaration s path >>= fun declared => pure (declared || changed)).on fs' := by
  have hdeclaration : writeDeclaration s = writeDeclaration s path := by
    unfold writeDeclaration
    rw [hpath]
    rfl
  unfold generate
  rw [hpath, hdeclaration]
  exact on_bind_of_ok h ((quiet_writeDeclaration s path).bind fun declared => quiet_pure _)

end

/-! ## How the two end -/

/-- How a generation and one by command end, seen together. -/
inductive GenerationsEnd (s : Settings) (fs : FileSystem) (verbose : Bool) : Prop where
  /-- Both fail, the command in its own way and with all its reports shown. -/
  | failed (e : Failure) (fs' : FileSystem) (plugin : (generate s).on fs = (.error e, fs'))
    (command : (Command.runGenerate s none none verbose).on fs
      = (.error (Command.givenUp (Command.refusal s) e), fs'))
    (shown : ∀ r ∈ fileReports s fs, Console.refuses r.markup = false)
    (known : s.output = none → e = .missing .path)
  /-- The console refuses a report, and the command fails for that. -/
  | refused (r : FileReport) (fault : MarkupFault) (reported : r ∈ fileReports s fs)
    (isRefused : Console.fault? r.markup = some fault)
    (command : ((Command.runGenerate s none none verbose).on fs).1 = .error (.markup fault))
  /-- Both succeed, and the command shows what it did. -/
  | succeeded (m : RoutesModule) (changed : Bool) (w : Workspace)
    (compiled : (compileModule s fs).result = .ok m)
    (plugin : (generate s).on fs = (.ok changed, w.files))
    (command : (Command.runGenerate s none none verbose).eval { files := fs } = (.ok (), w))
    (shown : ∀ r ∈ fileReports s fs, Console.refuses r.markup = false)
    (written : changed = true ↔ ∃ r ∈ fileReports s fs, r.isWritten = true)
    (printed : w.printed = Command.heading s ++ (if verbose then Command.bindingCount m else "")
      ++ FileReport.shown (fileReports s fs))

section

variable {s : Settings} {fs fs' : FileSystem} {output path : Path} {m : RoutesModule}
  {changed : Bool}

/-- How the two end when the module is in place and was reported on, and it is all there is. -/
theorem generationsEnd_of_undeclared (houtput : s.output = some output)
    (hm : (compileModule s fs).result = .ok m)
    (hmodule : (writeModule s output m).on fs = (.ok changed, fs'))
    (hshown : Console.refuses (FileReport.onModule output changed).markup = false)
    (hpath : s.declarations = none) (verbose : Bool) : GenerationsEnd s fs verbose := by
  have hplugin := (on_writeModule_of_ok houtput hm).trans hmodule
  have hreports : fileReports s fs = [.onModule output changed] := by
    rw [fileReports_of_ok houtput hm hmodule, declarationReports, hpath]
  obtain ⟨w, rfl, hprinted, hcommand⟩ :=
    Command.eval_runGenerate_of_written houtput hm hmodule hshown verbose
  rw [hpath] at hcommand
  refine .succeeded m changed w hm (on_generate_of_none hplugin hpath) hcommand ?_ ?_ ?_
  · rw [hreports]
    exact List.forall_mem_singleton.mpr hshown
  · rw [hreports]
    simp [FileReport.onModule]
  · rw [hreports, FileReport.shown, FileReport.shown, String.append_empty]
    exact hprinted

/-- How they end when a declaration is to follow. -/
theorem generationsEnd_of_declared (houtput : s.output = some output)
    (hm : (compileModule s fs).result = .ok m)
    (hmodule : (writeModule s output m).on fs = (.ok changed, fs'))
    (hshown : Console.refuses (FileReport.onModule output changed).markup = false)
    (hpath : s.declarations = some path) (verbose : Bool) : GenerationsEnd s fs verbose := by
  have hplugin := (on_writeModule_of_ok houtput hm).trans hmodule
  have hreports := fileReports_of_ok houtput hm hmodule
  obtain ⟨w, rfl, hprinted, hcommand⟩ :=
    Command.eval_runGenerate_of_written houtput hm hmodule hshown verbose
  rw [hpath, Option.elim_some, Command.putDeclaration] at hcommand
  rcases hdeclaration : (writeDeclaration s path).on w.files with ⟨e | declared, fs''⟩
  · rw [declarationReports_of_error hpath hdeclaration] at hreports
    have hgenerate : (generate s).on fs = (.error e, fs'') := by
      rw [on_generate_of_some hplugin hpath]
      exact on_bind_of_error hdeclaration _
    obtain ⟨w', hput, rfl⟩ :=
      Command.eval_reported_of_error (quiet_writeDeclaration s path) hdeclaration _ _
    rw [hput] at hcommand
    refine .failed e w'.files hgenerate ?_ ?_ ?_
    · rw [on, hcommand]
      rfl
    · rw [hreports]
      exact List.forall_mem_singleton.mpr hshown
    · rw [houtput]
      intro h
      cases h
  · rw [declarationReports_of_some hpath hdeclaration] at hreports
    cases hfault : Console.fault? (FileReport.onDeclaration path declared).markup with
    | some fault =>
      obtain ⟨w', hput, -⟩ :=
        Command.eval_reported_of_refused (quiet_writeDeclaration s path) hdeclaration hfault
      rw [hput] at hcommand
      refine .refused (.onDeclaration path declared) fault ?_ hfault ?_
      · rw [hreports]
        exact List.mem_cons_of_mem _ (List.mem_singleton_self _)
      · rw [on, hcommand]
        rfl
    | none =>
      have hrefused := Console.refuses_eq_false_iff.mpr hfault
      obtain ⟨w', hput, rfl, hprinted'⟩ :=
        Command.eval_reported_of_shown (quiet_writeDeclaration s path) hdeclaration hrefused
      rw [hput] at hcommand
      have hgenerate : (generate s).on fs = (.ok (declared || changed), w'.files) := by
        rw [on_generate_of_some hplugin hpath]
        exact on_bind_of_ok hdeclaration (quiet_pure _)
      refine .succeeded m (declared || changed) w' hm hgenerate hcommand ?_ ?_ ?_
      · rw [hreports]
        exact List.forall_mem_cons.mpr ⟨hshown, List.forall_mem_singleton.mpr hrefused⟩
      · rw [hreports]
        simp [FileReport.onModule, FileReport.onDeclaration, or_comm]
      · rw [hreports, FileReport.shown, FileReport.shown, FileReport.shown, String.append_empty,
          ← String.append_assoc, ← hprinted]
        exact hprinted'

/-- How they end when there is a module to put in place. -/
theorem generationsEnd_of_compiled (houtput : s.output = some output)
    (hm : (compileModule s fs).result = .ok m) (verbose : Bool) : GenerationsEnd s fs verbose := by
  rcases hmodule : (writeModule s output m).on fs with ⟨e | changed, fs'⟩
  · have hreports : fileReports s fs = [] := by
      rw [fileReports, houtput, hm]
      dsimp only
      rw [hmodule]
    have hgenerate : (generate s).on fs = (.error e, fs') :=
      on_bind_of_error ((on_writeModule_of_ok houtput hm).trans hmodule) _
    obtain ⟨w, rfl, -, hcommand⟩ := Command.eval_runGenerate_of_ok houtput hm verbose
    obtain ⟨w', hput, rfl⟩ :=
      Command.eval_reported_of_error (quiet_writeModule s output m) hmodule _ _
    rw [Command.putAll, Command.putModule, eval_bind_of_error hput] at hcommand
    refine .failed e w'.files hgenerate ?_ ?_ ?_
    · rw [on, hcommand]
      rfl
    · rw [hreports]
      exact List.forall_mem_nil _
    · rw [houtput]
      intro h
      cases h
  · cases hfault : Console.fault? (FileReport.onModule output changed).markup with
    | some fault =>
      refine .refused (.onModule output changed) fault ?_ hfault ?_
      · rw [fileReports_of_ok houtput hm hmodule]
        exact List.mem_cons_self
      · rw [Command.on_runGenerate_of_refused houtput hm hmodule hfault]
    | none =>
      have hshown := Console.refuses_eq_false_iff.mpr hfault
      cases hpath : s.declarations with
      | none => exact generationsEnd_of_undeclared houtput hm hmodule hshown hpath verbose
      | some path => exact generationsEnd_of_declared houtput hm hmodule hshown hpath verbose

/-- **The two end alike, or the command ends for a report that is refused.** -/
theorem generationsEnd (s : Settings) (fs : FileSystem) (verbose : Bool) :
    GenerationsEnd s fs verbose := by
  cases houtput : s.output with
  | none =>
    have hreports : fileReports s fs = [] := by rw [fileReports, houtput]
    have hcommand := Command.on_runGenerate_of_missing houtput fs verbose
    refine .failed (.missing .path) fs (on_generate_of_missing houtput fs) ?_ ?_ fun _ => rfl
    · rw [hcommand]
      rfl
    · rw [hreports]
      exact List.forall_mem_nil _
  | some output =>
    cases hm : (compileModule s fs).result with
    | error e =>
      have hreports : fileReports s fs = [] := by rw [fileReports, houtput, hm]
      refine .failed e fs (on_generate_of_error houtput hm)
        (Command.on_runGenerate_of_error houtput hm verbose) ?_ ?_
      · rw [hreports]
        exact List.forall_mem_nil _
      · rw [houtput]
        intro h
        cases h
    | ok m => exact generationsEnd_of_compiled houtput hm verbose

end

/-! ## A generation is not refused by the console -/

variable (fault : MarkupFault)

theorem viewFiles_ne_refused (fs : FileSystem) (root : Path) (extensions exclude : List String) :
    viewFiles fs root extensions exclude ≠ .error (.markup fault) := by
  unfold viewFiles viewFilesWhere addressOf
  cases root.address? fs.cwd with
  | none => simp [bind, Except.bind]
  | some base =>
    dsimp only [bind, Except.bind]
    cases fs.lookup (.ofAddress base) with
    | error e => simp [Except.mapError]
    | ok item => rcases item with _ | _ | _ <;> simp [Except.mapError, throw, throwThe,
        MonadExceptOf.throw, pure, Except.pure]

theorem compileTree_ne_refused (s : Settings) (fs : FileSystem) :
    (compileTree s fs).result ≠ .error (.markup fault) := by
  intro h
  rcases Outcome.result_bind_eq_error_iff.mp h with h | ⟨root, -, h⟩
  · unfold addressOf at h
    cases hroot : s.root.address? fs.cwd <;> rw [hroot] at h <;> cases h
  rcases Outcome.result_bind_eq_error_iff.mp h with h | ⟨files, -, h⟩
  · exact viewFiles_ne_refused fault _ _ _ _ h
  rcases Outcome.result_bind_eq_error_iff.mp h with h | ⟨_, -, h⟩
  · cases h
  rcases Outcome.result_bind_eq_error_iff.mp h with h | ⟨tree, -, h⟩
  · change Except.mapError Failure.route _ = _ at h
    cases hbuild : (RouteTree.ofFiles fs.cwd (s.treeOptions fs.cwd) files).result <;>
      rw [hbuild] at h <;> cases h
  · cases h

theorem compileModule_ne_refused (s : Settings) (fs : FileSystem) :
    (compileModule s fs).result ≠ .error (.markup fault) := by
  intro h
  rcases Outcome.result_bind_eq_error_iff.mp h with h | ⟨tree, -, h⟩
  · exact compileTree_ne_refused fault s fs h
  · change Except.mapError Failure.route _ = _ at h
    cases hmodule : RoutesModule.ofTree s.moduleOptions tree <;> rw [hmodule] at h <;> cases h

theorem generate_ne_refused (s : Settings) :
    (generate s).FailsOnly (· ≠ .markup fault) := by
  have hfiles : ∀ e : Failure, e.IsOfFiles → e ≠ .markup fault := by
    rintro e he rfl
    cases he
  unfold generate
  refine FailsOnly.bind ?_ fun changed => ?_
  · rw [writeModule_compiled_eq]
    refine ((failsOnly_require _ _).mono hfiles).bind fun path => failsOnly_get.bind fun w =>
      FailsOnly.bind ?_ fun m => (failsOnly_writeModule s path m).mono hfiles
    intro w' e he
    rw [eval_ofOutcome] at he
    rintro rfl
    exact compileModule_ne_refused fault s w.files he
  · split
    · next hdeclared =>
      obtain ⟨path, hpath⟩ := Option.isSome_iff_exists.mp hdeclared
      exact ((@failsOnly_writeDeclaration s none path hpath).mono hfiles).bind fun declared =>
        failsOnly_pure _
    · exact failsOnly_pure _

/-! ## Sessions -/

namespace Session

variable {session : Session} {verbose : Bool} {e : Failure} {fs : FileSystem}

/-- A generation by command, with the paths that are configured. -/
def byCommand (session : Session) (verbose : Bool) : Report Result × Session :=
  session.step (.command (.generate none none verbose))

/-- A generation by the plugin. -/
def byPlugin (session : Session) : Report Result × Session :=
  session.step .generate

/-- Both generations leave the same files and end alike. -/
structure GenerationsAgree (session : Session) (verbose : Bool) : Prop where
  files : (session.byCommand verbose).2.files = session.byPlugin.2.files
  /-- If one succeeds so does the other; what is printed tells whether a file changed. -/
  success : ∀ r, session.byPlugin.1.result = .ok r →
    (session.byCommand verbose).1.result = .ok .done ∧
      ∃ m changed, (compileModule session.settings session.files).result = .ok m ∧
        r = .changed changed ∧
        (session.byCommand verbose).1.printed
          = Command.heading session.settings ++ (if verbose then Command.bindingCount m else "")
            ++ FileReport.shown (fileReports session.settings session.files) ∧
        (changed = true
          ↔ ∃ r ∈ fileReports session.settings session.files, r.isWritten = true)
  /-- A failure to compile is told in its own words. -/
  route : ∀ e, session.byPlugin.1.result = .error (.route e) →
    (session.byCommand verbose).1.result = .error (.command e.message)
  /-- A failure of the file system is told by the path of the routes module. -/
  file : ∀ e, session.byPlugin.1.result = .error (.file e) →
    ∃ output, session.settings.output = some output ∧
      (session.byCommand verbose).1.result
        = .error (.command ("Failed to write routes to path " ++ output.text))
  /-- Any other failure is the same. -/
  other : ∀ e, session.byPlugin.1.result = .error e → (∀ e', e ≠ .route e') →
    (∀ e', e ≠ .file e') → (session.byCommand verbose).1.result = .error e

theorem byPlugin_eq (session : Session) :
    session.byPlugin.1.result = ((generate session.settings).on session.files).1.map .changed ∧
      session.byPlugin.2.files = ((generate session.settings).on session.files).2 := by
  obtain ⟨hresult, -, hfiles⟩ := session.step_of_run .generate rfl
  exact ⟨hresult, hfiles⟩

theorem byCommand_eq (session : Session) (verbose : Bool) :
    (session.byCommand verbose).1.result
        = ((Command.runGenerate session.settings none none verbose).on session.files).1.map
            (fun _ => .done) ∧
      (session.byCommand verbose).2.files
        = ((Command.runGenerate session.settings none none verbose).on session.files).2 := by
  obtain ⟨hresult, -, hfiles⟩ :=
    session.step_of_run (.command (.generate none none verbose)) rfl
  exact ⟨hresult, hfiles⟩

/-- Two failures that correspond agree. -/
theorem GenerationsAgree.of_failed
    (hplugin : (generate session.settings).on session.files = (.error e, fs))
    (hcommand : (Command.runGenerate session.settings none none verbose).on session.files
      = (.error (Command.givenUp (Command.refusal session.settings) e), fs))
    (hknown : session.settings.output = none → e = .missing .path) :
    session.GenerationsAgree verbose := by
  obtain ⟨hresult, hfiles⟩ := session.byPlugin_eq
  obtain ⟨hresult', hfiles'⟩ := session.byCommand_eq verbose
  rw [hplugin] at hresult hfiles
  rw [hcommand] at hresult' hfiles'
  refine ⟨hfiles'.trans hfiles.symm, fun r hr => ?_, fun e' he => ?_, fun e' he => ?_,
    fun e' he hroute hfile => ?_⟩
  · rw [hresult] at hr
    cases hr
  · rw [hresult] at he
    obtain rfl := Except.error.inj he
    exact hresult'
  · rw [hresult] at he
    obtain rfl := Except.error.inj he
    cases houtput : session.settings.output with
    | none => cases hknown houtput
    | some output =>
      rw [Command.refusal, houtput] at hresult'
      exact ⟨output, rfl, hresult'⟩
  · rw [hresult] at he
    obtain rfl := Except.error.inj he
    rw [hresult']
    cases e with
    | route e => exact absurd rfl (hroute e)
    | file e => exact absurd rfl (hfile e)
    | _ => rfl

/-- If a report is refused the command fails, and the plugin does not, or not for that. -/
theorem not_generationsAgree_of_refused {fault : MarkupFault}
    (hcommand : ((Command.runGenerate session.settings none none verbose).on session.files).1
      = .error (.markup fault)) : ¬session.GenerationsAgree verbose := by
  intro h
  obtain ⟨hresult, -⟩ := session.byPlugin_eq
  obtain ⟨hresult', -⟩ := session.byCommand_eq verbose
  rw [hcommand] at hresult'
  change _ = Except.error (Failure.markup fault) at hresult'
  cases hrun : ((generate session.settings).on session.files).1 with
  | ok changed =>
    rw [hrun] at hresult
    obtain ⟨hdone, -⟩ := h.success _ hresult
    rw [hresult'] at hdone
    cases hdone
  | error e =>
    have hne := generate_ne_refused fault session.settings _ e hrun
    rw [hrun] at hresult
    by_cases hroute : ∃ e', e = .route e'
    · obtain ⟨e', rfl⟩ := hroute
      have := h.route e' hresult
      rw [hresult'] at this
      cases this
    by_cases hfile : ∃ e', e = .file e'
    · obtain ⟨e', rfl⟩ := hfile
      obtain ⟨output, -, this⟩ := h.file e' hresult
      rw [hresult'] at this
      cases this
    have := h.other e hresult (fun e' he => hroute ⟨e', he⟩) (fun e' he => hfile ⟨e', he⟩)
    rw [hresult'] at this
    exact hne (Except.error.inj this).symm

/-- **The two agree just if the console refuses none of the reports.** -/
theorem generationsAgree_iff (session : Session) (verbose : Bool) :
    session.GenerationsAgree verbose
      ↔ ∀ r ∈ fileReports session.settings session.files, Console.refuses r.markup = false := by
  cases generationsEnd session.settings session.files verbose with
  | failed e fs plugin command shown known =>
    exact iff_of_true (.of_failed plugin command known) shown
  | refused r fault reported isRefused command =>
    refine iff_of_false (not_generationsAgree_of_refused command) fun hshown => ?_
    rw [Console.refuses_eq_false_iff.mp (hshown r reported)] at isRefused
    cases isRefused
  | succeeded m changed w compiled plugin command shown written printed =>
    refine iff_of_true ?_ shown
    obtain ⟨hresult, hfiles⟩ := session.byPlugin_eq
    obtain ⟨hresult', hfiles'⟩ := session.byCommand_eq verbose
    obtain ⟨-, hprinted, -⟩ := session.step_of_run (.command (.generate none none verbose)) rfl
    rw [Command.run, command] at hprinted
    rw [plugin] at hresult hfiles
    rw [on, command] at hresult' hfiles'
    refine ⟨hfiles'.trans hfiles.symm, fun r hr => ⟨hresult', m, changed, compiled, ?_, ?_,
      written⟩, fun e he => ?_, fun e he => ?_, fun e he _ _ => ?_⟩
    · rw [hresult] at hr
      exact (Except.ok.inj hr).symm
    · exact hprinted.trans printed
    all_goals
      rw [hresult] at he
      cases he

/-! ## A project of one page -/

/-- A project of one page, whose routes module goes to a path. -/
def withOutput (output : String) : Session where
  settings := {
      root := .ofString "p", extensions := ["tsx"], exclude := []
      notFound := none, fallback := none, output := some (.ofString output)
      declarations := some (.ofString "routes.d.ts"), router := none
      moduleName := some "routes", stem := some "FileRoute", onDuplicate := .refuse
      generateOnStart := some true }
  files := {
      cwd := ["w"]
      items := [(["w"], .directory), (["w", "p"], .directory), (["w", "p", "a.tsx"], .file [])]
      distinct := by decide }

/-- Both reports are made where both files are written. -/
theorem fileReports_withOutput {output : String}
    (hmodule : ((writeModule (withOutput output).settings).on
      (withOutput output).files).1 = .ok true)
    (hdeclaration : ((writeDeclaration (withOutput output).settings
      (some (.ofString "routes.d.ts"))).on
        ((writeModule (withOutput output).settings).on (withOutput output).files).2).1 = .ok true) :
    fileReports (withOutput output).settings (withOutput output).files
      = [.onModule (.ofString output) true, .onDeclaration (.ofString "routes.d.ts") true] := by
  have houtput : (withOutput output).settings.output = some (.ofString output) := rfl
  have hpath : (withOutput output).settings.declarations = some (.ofString "routes.d.ts") := rfl
  rcases hwrite : (writeModule (withOutput output).settings).on (withOutput output).files
    with ⟨result, fs⟩
  rw [hwrite] at hmodule hdeclaration
  obtain rfl : result = .ok true := hmodule
  obtain ⟨m, hm, hwritten⟩ := exists_compiled_of_on_writeModule houtput hwrite
  rcases hdeclare : (writeDeclaration (withOutput output).settings
    (some (.ofString "routes.d.ts"))).on fs with ⟨result, fs'⟩
  rw [hdeclare] at hdeclaration
  obtain rfl : result = .ok true := hdeclaration
  rw [fileReports_of_ok houtput hm hwritten, declarationReports_of_some hpath hdeclare]

/-- The report on a file whose path closes a tag is refused for that. -/
theorem fault?_closingTag :
    Console.fault? (FileReport.onModule (.ofString "gen/[/x].tsx") true).markup
      = some (.notOpen "/x" 46) := by
  have hmarkup : (FileReport.onModule (.ofString "gen/[/x].tsx") true).markup
      = Console.successMark ++ " " ++ "Routes module written to gen/[/x].tsx" := by
    decide +kernel
  have htext : "Routes module written to gen/[/x].tsx".toList
      = "Routes module written to gen/".toList ++ '[' :: (['/', 'x'] ++ ']' :: ".tsx".toList) := rfl
  have htag : Markup.takeTag (['/', 'x'] ++ ']' :: ".tsx".toList)
      = some (['/', 'x'], ".tsx".toList) := by decide
  have hname : dropBothWhile isBlank ((Markup.nameOf ['/', 'x']).drop 1) = ['x'] := by decide
  have hnormal : Style.normalize "x" = .ok "x" :=
    (Style.normalize_of_word (by decide +kernel) (by decide +kernel) (by decide +kernel) (by decide)
      (by decide) (Color.check_ne_emptyComponent (by decide))).1
  have hnormal' : Markup.normalName ['x'] = .ok "x" := congrArg (Except.mapError _) hnormal
  rw [hmarkup]
  exact Console.fault?_of_closing_tag Console.isSound_successMark _ htext (by decide) htag rfl
    (hname ▸ List.cons_ne_nil _ _) (hname ▸ hnormal')

/-- The report on a file whose path has the tag of a color with an empty component is refused for
that. -/
theorem fault?_emptyComponent :
    Console.fault? (FileReport.onModule (.ofString "[rgb(1,,3)].tsx") true).markup
      = some .emptyComponent := by
  have hmarkup : (FileReport.onModule (.ofString "[rgb(1,,3)].tsx") true).markup
      = Console.successMark ++ " " ++ "Routes module written to [rgb(1,,3)].tsx" := by
    decide +kernel
  have htext : "Routes module written to [rgb(1,,3)].tsx".toList
      = "Routes module written to ".toList
        ++ '[' :: ("rgb(1,,3)".toList ++ ']' :: ".tsx".toList) := rfl
  have htag : Markup.takeTag ("rgb(1,,3)".toList ++ ']' :: ".tsx".toList)
      = some ("rgb(1,,3)".toList, ".tsx".toList) := by decide
  rw [hmarkup]
  refine Console.fault?_of_first_tag Console.isSound_successMark _ htext (by decide) htag ?_
  intro tags _ _
  rw [Markup.Tags.read_open (by decide), Markup.ofTag_emptyComponent]
  rfl

/-! ## When they agree -/

/-- A project whose routes module is named for the tag of a color that has an empty component. -/
def taggedOutput : Session := withOutput "[rgb(1,,3)].tsx"

end Session

end PageRoutes
