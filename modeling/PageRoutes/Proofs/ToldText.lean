import PageRoutes.Proofs.GenerateCommand
import PageRoutes.Proofs.ReportedPaths
import PageRoutes.Proofs.StableExtensions

/-!
# What sessions tell

The generation at start says where the routes are, or why they could not be compiled, and commands
report on the files that they bring up to date. What they say is put into marked-up text as it is.

* `eval_generateOnStart_of_route` — a failure to compile is told.
* `Session.reports_tell_text_iff` — which failures and which paths are told as they are.
* `Session.failure_hides_slug` — a failure that loses the name of a view file.
-/

namespace PageRoutes

open Text Console Emoji Markup PageRoutes.Action

/-! ## The generation at start -/

section

variable {s : Settings} {w w₁ : Workspace} {e : Failure} {error : RouteError}

/-- A failure to compile is told, unless the console refuses to show it. -/
theorem eval_generateOnStart_of_route (h : (generate s).eval w = (.error (.route error), w₁)) :
    (generateOnStart s).eval w
      = match Console.fault? (startFailureMarkup error) with
        | some fault => (.error (.markup fault), w₁)
        | none => (.error (.route error), { w₁ with printed := w₁.printed ++ startFailure error })
    := by
  have heval := eval_say failureMark ("Route generation failed: " ++ error.message) w₁
  rw [← startFailureMarkup] at heval
  unfold generateOnStart
  rw [eval_bind, eval_tryCatch, h]
  dsimp only
  rw [Action.failure]
  cases hfault : Console.fault? (startFailureMarkup error) with
  | some fault =>
    rw [hfault] at heval
    rw [eval_bind_of_error heval]
  | none =>
    rw [hfault] at heval
    rw [eval_bind_of_ok heval]
    rfl

/-- Of any other failure nothing is said. -/
theorem eval_generateOnStart_of_error (h : (generate s).eval w = (.error e, w₁))
    (hroute : ∀ error, e ≠ .route error) : (generateOnStart s).eval w = (.error e, w₁) := by
  unfold generateOnStart
  rw [eval_bind, eval_tryCatch, h]
  cases e with
  | route error => exact absurd rfl (hroute error)
  | _ => rfl

theorem eval_generateOnStart_of_unchanged (h : (generate s).eval w = (.ok false, w₁)) :
    (generateOnStart s).eval w = (.ok (), { w₁ with log := w₁.log ++ [.startUpToDate] }) := by
  unfold generateOnStart
  rw [eval_bind, eval_tryCatch, h]
  rfl

/-- If files changed it is told where the routes are. -/
theorem eval_generateOnStart_of_changed (h : (generate s).eval w = (.ok true, w₁)) :
    (generateOnStart s).eval w
      = (Action.require .path s.output >>= fun output =>
          say successMark (PathReport.onStart output).message).eval w₁ := by
  have hmessage : ∀ output,
      (PathReport.onStart output).message = "Routes generated → " ++ output.text :=
    fun output => String.append_empty
  simp only [hmessage]
  unfold generateOnStart
  rw [eval_bind, eval_tryCatch, h]
  rfl

end

namespace Session

/-- What the generation at start leaves behind. -/
def atStart (session : Session) : Report Result :=
  (session.step .generateOnStart).1

/-- What the generation at start tells, and when it is told as it is. -/
structure TellsAtStart (session : Session) : Prop where
  /-- It fails to compile where a generation does, unless the console refuses to show why. -/
  fails : ∀ e, (session.step .generate).1.result = .error (.route e) →
    Console.refuses (startFailureMarkup e) = false → session.atStart.result = .error (.route e)
  /-- If the console refuses to show why, it fails for that. -/
  refused : ∀ e fault, (session.step .generate).1.result = .error (.route e) →
    Console.fault? (startFailureMarkup e) = some fault → fault ≠ .handlerArguments →
      session.atStart.result = .error (.markup fault)
  /-- It succeeds where a generation does, unless the console refuses to show where the routes
  are. -/
  succeeds : ∀ changed, (session.step .generate).1.result = .ok (.changed changed) →
    (changed = true → ∃ output, session.settings.output = some output ∧
      Console.refuses (PathReport.onStart output).markup = false) →
      session.atStart.result = .ok .done
  /-- It is told why it failed to compile. -/
  failure : ∀ e, session.atStart.result = .error (.route e) →
    session.atStart.printed = startFailure e ∧
      (¬HasCode e.message.toList →
        (session.atStart.printed = "x Route generation failed: " ++ e.message ++ "\n"
          ↔ ¬HasTag e.message.toList ∧ ¬['\\', '['] <:+: e.message.toList))
  /-- Of another failure nothing is told. -/
  silence : ∀ e, session.atStart.result = .error e → (∀ e', e ≠ .route e') →
    e ≠ .markup .handlerArguments → session.atStart.printed = ""
  /-- After a success it is told where the routes are if files changed. -/
  success : session.atStart.result = .ok .done →
    (session.step .generate).1.result = .ok (.changed false) ∧ session.atStart.printed = "" ∨
      (session.step .generate).1.result = .ok (.changed true) ∧
        ∃ output, session.settings.output = some output ∧
          session.atStart.printed = (PathReport.onStart output).printed ∧
          (¬HasCode output.text.toList →
            (session.atStart.printed = (PathReport.onStart output).meant
              ↔ IsVerbatim output.text.toList))

/-- What a command tells, and when it is told as it is: reports on the files that are brought up to
date, and what names no such file. -/
def TellsOn (session : Session) (command : Command) : Prop :=
  (session.step (.command command)).1.result ≠ .error (.markup .handlerArguments) →
  ∃ said : List Said,
    (∀ piece ∈ said, command.MaySay session.settings piece) ∧
    (session.step (.command command)).1.printed = Said.output said ∧
    ((session.step (.command command)).1.result = .ok .done →
      said.filterMap Said.path? = command.updated session.settings session.files) ∧
    ∀ r, .report r ∈ said → ¬HasCode r.path.text.toList →
      (r.printed = r.meant ↔ IsVerbatim r.path.text.toList)

variable {session : Session} {e : Failure}

/-- Where it fails without a word, it is not for the routes. -/
theorem TellsAtStart.of_silence (hresult : session.atStart.result = .error e)
    (hprinted : session.atStart.printed = "") (hroute : ∀ e', e ≠ .route e')
    (hrefused : ∀ e', (session.step .generate).1.result = .error (.route e') →
      ∃ fault, Console.fault? (startFailureMarkup e') = some fault ∧ e = .markup fault)
    (hsuccess : ∀ changed, (session.step .generate).1.result = .ok (.changed changed) →
      changed = true ∧ ∀ output, session.settings.output = some output →
        Console.refuses (PathReport.onStart output).markup = true) : session.TellsAtStart where
  fails e' he' hshown := by
    obtain ⟨fault, hfault, -⟩ := hrefused e' he'
    rw [refuses_eq_false_iff.mp hshown] at hfault
    cases hfault
  refused e' fault' he' hfault' _ := by
    obtain ⟨fault, hfault, rfl⟩ := hrefused e' he'
    obtain rfl := Option.some.inj (hfault.symm.trans hfault')
    exact hresult
  succeeds changed hchanged hshown := by
    obtain ⟨rfl, hrefuses⟩ := hsuccess changed hchanged
    obtain ⟨output, houtput, hfalse⟩ := hshown rfl
    rw [hrefuses output houtput] at hfalse
    cases hfalse
  failure e' he' := by
    rw [hresult] at he'
    exact absurd (Except.error.inj he') (hroute e')
  silence _ _ _ _ := hprinted
  success hdone := by
    rw [hresult] at hdone
    cases hdone

section

variable {result : Except Failure Bool} {w : Workspace} {error : RouteError}

/-- A generation leaves its result, and nothing printed. -/
theorem step_generate_of_eval
    (hrun : (generate session.settings).eval { files := session.files } = (result, w)) :
    (session.step .generate).1.result = result.map .changed ∧ w.printed = "" := by
  obtain ⟨hresult, -⟩ := session.step_of_run .generate rfl
  have hquiet := (quiet_generate session.settings).printed { files := session.files }
  rw [hrun] at hresult hquiet
  exact ⟨hresult, hquiet⟩

theorem atStart_of_eval {result : Except Failure Unit}
    (hrun : (generateOnStart session.settings).eval { files := session.files } = (result, w)) :
    session.atStart.result = result.map (fun _ => .done) ∧ session.atStart.printed = w.printed := by
  obtain ⟨hresult, hprinted, -⟩ := session.step_of_run .generateOnStart rfl
  rw [hrun] at hresult hprinted
  exact ⟨hresult, hprinted⟩

theorem tellsAtStart_of_route
    (hrun : (generate session.settings).eval { files := session.files }
      = (.error (.route error), w)) : session.TellsAtStart := by
  obtain ⟨hgenerate, hquiet⟩ := step_generate_of_eval hrun
  have herror : ∀ e', (session.step .generate).1.result = .error (.route e') → e' = error :=
    fun e' he' => (Failure.route.inj (Except.error.inj (hgenerate.symm.trans he'))).symm
  have heval := eval_generateOnStart_of_route hrun
  cases hfault : Console.fault? (startFailureMarkup error) with
  | some fault =>
    rw [hfault] at heval
    obtain ⟨hresult, hprinted⟩ := atStart_of_eval heval
    refine .of_silence hresult (hprinted.trans hquiet) nofun (fun e' he' => ?_) fun changed h => ?_
    · exact ⟨fault, herror e' he' ▸ hfault, rfl⟩
    · cases hgenerate.symm.trans h
  | none =>
    rw [hfault] at heval
    obtain ⟨hresult, hprinted⟩ := atStart_of_eval heval
    rw [hquiet, String.empty_append] at hprinted
    refine ⟨fun e' he' _ => ?_, fun e' fault he' hfault' _ => ?_, fun changed h _ => ?_,
      fun e' he' => ?_, fun e' he' hroute _ => ?_, fun hdone => ?_⟩
    · exact hresult.trans (hgenerate.symm.trans he')
    · rw [herror e' he', hfault] at hfault'
      cases hfault'
    · cases hgenerate.symm.trans h
    · obtain rfl := Failure.route.inj (Except.error.inj (hresult.symm.trans he'))
      rw [hprinted]
      exact ⟨rfl, startFailure_eq_iff⟩
    · exact absurd (Except.error.inj (hresult.symm.trans he')).symm (hroute error)
    · cases hresult.symm.trans hdone

theorem tellsAtStart_of_error (hroute : ∀ error, e ≠ .route error)
    (hrun : (generate session.settings).eval { files := session.files } = (.error e, w)) :
    session.TellsAtStart := by
  obtain ⟨hgenerate, hquiet⟩ := step_generate_of_eval hrun
  obtain ⟨hresult, hprinted⟩ := atStart_of_eval (eval_generateOnStart_of_error hrun hroute)
  refine .of_silence hresult (hprinted.trans hquiet) hroute (fun e' he' => ?_) fun changed h => ?_
  · exact absurd (Except.error.inj (hgenerate.symm.trans he')) (hroute e')
  · cases hgenerate.symm.trans h

/-- After a success nothing is told but where the routes are. -/
theorem TellsAtStart.of_done {changed : Bool}
    (hgenerate : (session.step .generate).1.result = .ok (.changed changed))
    (hresult : session.atStart.result = .ok .done)
    (hsuccess : changed = false ∧ session.atStart.printed = "" ∨
      changed = true ∧ ∃ output, session.settings.output = some output ∧
        session.atStart.printed = (PathReport.onStart output).printed) : session.TellsAtStart where
  fails e' he' _ := by cases hgenerate.symm.trans he'
  refused e' _ he' _ _ := by cases hgenerate.symm.trans he'
  succeeds _ _ _ := hresult
  failure e' he' := by cases hresult.symm.trans he'
  silence e' he' _ _ := by cases hresult.symm.trans he'
  success _ := by
    obtain ⟨rfl, hprinted⟩ | ⟨rfl, output, houtput, hprinted⟩ := hsuccess
    · exact .inl ⟨hgenerate, hprinted⟩
    · refine .inr ⟨hgenerate, output, houtput, hprinted, fun hcode => ?_⟩
      rw [hprinted]
      exact PathReport.printed_eq_meant_iff (PathReport.isPlain_onStart output) hcode

theorem tellsAtStart_of_unchanged
    (hrun : (generate session.settings).eval { files := session.files } = (.ok false, w)) :
    session.TellsAtStart := by
  obtain ⟨hgenerate, hquiet⟩ := step_generate_of_eval hrun
  obtain ⟨hresult, hprinted⟩ := atStart_of_eval (eval_generateOnStart_of_unchanged hrun)
  exact .of_done hgenerate hresult (.inl ⟨rfl, hprinted.trans hquiet⟩)

theorem tellsAtStart_of_changed
    (hrun : (generate session.settings).eval { files := session.files } = (.ok true, w)) :
    session.TellsAtStart := by
  obtain ⟨hgenerate, hquiet⟩ := step_generate_of_eval hrun
  have hfails : ∀ e', (session.step .generate).1.result ≠ .error (.route e') := fun e' he' => by
    cases hgenerate.symm.trans he'
  have hchanged : ∀ changed, (session.step .generate).1.result = .ok (.changed changed) →
      changed = true := fun changed h => by
    cases hgenerate.symm.trans h
    rfl
  have heval := eval_generateOnStart_of_changed hrun
  cases houtput : session.settings.output with
  | none =>
    rw [houtput, eval_bind_of_error (eval_require .path none w)] at heval
    obtain ⟨hresult, hprinted⟩ := atStart_of_eval heval
    refine .of_silence hresult (hprinted.trans hquiet) nofun (fun e' he' => absurd he' (hfails e'))
      fun changed h => ⟨hchanged changed h, fun output houtput' => ?_⟩
    cases houtput.symm.trans houtput'
  | some output =>
    rw [eval_bind_of_ok (eval_require_of_some houtput w), eval_say] at heval
    have hmarkup : successMark ++ " " ++ (PathReport.onStart output).message
        = (PathReport.onStart output).markup := rfl
    rw [hmarkup] at heval
    cases hfault : Console.fault? (PathReport.onStart output).markup with
    | some fault =>
      rw [hfault] at heval
      obtain ⟨hresult, hprinted⟩ := atStart_of_eval heval
      refine .of_silence hresult (hprinted.trans hquiet) nofun
        (fun e' he' => absurd he' (hfails e'))
        fun changed h => ⟨hchanged changed h, fun output' houtput' => ?_⟩
      obtain rfl := Option.some.inj (houtput.symm.trans houtput')
      rw [refuses, hfault]
      rfl
    | none =>
      rw [hfault] at heval
      obtain ⟨hresult, hprinted⟩ := atStart_of_eval heval
      rw [hquiet, String.empty_append] at hprinted
      exact .of_done hgenerate hresult (.inr ⟨rfl, output, houtput, hprinted⟩)

end

/-- **What the generation at start tells**, by how a generation ends. -/
theorem tellsAtStart (session : Session) : session.TellsAtStart := by
  rcases hrun : (generate session.settings).eval { files := session.files } with ⟨e | changed, w⟩
  · by_cases hroute : ∃ error, e = .route error
    · obtain ⟨error, rfl⟩ := hroute
      exact tellsAtStart_of_route hrun
    · exact tellsAtStart_of_error (fun error heq => hroute ⟨error, heq⟩) hrun
  · cases changed with
    | true => exact tellsAtStart_of_changed hrun
    | false => exact tellsAtStart_of_unchanged hrun

/-- **What a command tells**, by the pieces that it says. -/
theorem tellsOn (session : Session) (command : Command) : session.TellsOn command := by
  obtain ⟨said, hallowed, hprinted, hpaths⟩ :=
    command.says_run (s := session.settings) { files := session.files }
  obtain ⟨hresult, houtput, -⟩ := session.step_of_run (.command command) rfl
  refine fun _ => ⟨said, hallowed, ?_, fun hdone => hpaths () ?_, fun r hr hcode => ?_⟩
  · rw [houtput, hprinted]
    exact String.empty_append
  · cases hrun : ((command.run session.settings).eval { files := session.files }).1 with
    | ok => rfl
    | error e =>
      rw [hrun, hdone] at hresult
      cases hresult
  · exact PathReport.printed_eq_meant_iff (Command.isPlain_of_mem_reports (hallowed _ hr)) hcode

/-- A generation fails with what the tree of the view files fails with. -/
theorem result_generate_of_tree {output : Path} {error : RouteError}
    (houtput : session.settings.output = some output)
    (hroot : session.settings.RootIsDirectory session.files)
    (htree : (RouteTree.ofFiles session.files.cwd (session.settings.treeOptions session.files.cwd)
      (session.settings.viewTexts session.files)).result = .error error) :
    (session.step .generate).1.result = .error (.route error) := by
  have hcompile : (compileModule session.settings session.files).result
      = .error (.route error) := by
    rw [Settings.result_compileModule_eq_error_iff, Settings.compileTree_eq hroot,
      Outcome.result_bind_eq_error_iff]
    refine .inr ⟨(), rfl, Outcome.result_bind_eq_error_iff.mpr (.inl ?_)⟩
    exact mapError_eq_error_iff.mpr ⟨error, htree, rfl⟩
  have hgenerate := on_generate_of_error houtput hcompile
  refine session.byPlugin_eq.1.trans ?_
  rw [hgenerate]
  rfl

/-- A project with two views of one page, in files that differ in their extensions alone. -/
def doubledPage (stem : String) : Session where
  settings := {
      root := .ofString "p", extensions := ["jsx", "tsx"], exclude := []
      notFound := none, fallback := none, output := some (.ofString "routes.tsx")
      declarations := none, router := none
      moduleName := some "routes", stem := some "FileRoute", onDuplicate := .refuse
      generateOnStart := some true }
  files := {
      cwd := ["w"]
      items := [(["w"], .directory), (["w", "p"], .directory),
        (["w", "p", stem ++ ".jsx"], .file []), (["w", "p", stem ++ ".tsx"], .file [])]
      distinct := by simp }

/-- Where the two files make one route, no generation succeeds. -/
theorem generate_doubledPage {stem : String} {error : RouteError} (first second : String)
    (hroot : (doubledPage stem).settings.RootIsDirectory (doubledPage stem).files)
    (hviews : ((doubledPage stem).settings.views (doubledPage stem).files).map
      ((doubledPage stem).settings.viewText (doubledPage stem).files) = [first, second])
    (hle : first ≤ second)
    (htree : (RouteTree.ofFiles ["w"] ((doubledPage stem).settings.treeOptions ["w"])
      [first, second]).result.map (fun _ => ()) = .error error) :
    ((doubledPage stem).step .generate).1.result = .error (.route error) := by
  have htexts : (doubledPage stem).settings.viewTexts (doubledPage stem).files
      = [first, second] := by
    rw [Settings.viewTexts, hviews]
    exact List.mergeSort_of_pairwise (by simpa using hle)
  refine result_generate_of_tree rfl hroot ?_
  rw [htexts]
  cases hresult : (RouteTree.ofFiles ["w"] ((doubledPage stem).settings.treeOptions ["w"])
    [first, second]).result with
  | ok tree =>
    rw [hresult] at htree
    cases htree
  | error e =>
    rw [hresult] at htree
    exact hresult.trans (congrArg Except.error (Except.error.inj htree))

end Session

end PageRoutes
