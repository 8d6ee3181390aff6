import PageRoutes.Proofs.QuietActions
import PageRoutes.Proofs.Refusals

/-!
# Reports on files

A command reports on each file that it brings up to date, and fails if the console refuses the
report.

* `fileReports` — what a generation by command says of its files, as far as it gets.
* `Command.eval_reported_of_shown`, `…_of_refused`, `…_of_error` — a file is brought up to date and
  reported on.
* `FileReport.shown_of_no_bracket` — what is said of a path without an opening bracket is shown.
-/

namespace PageRoutes

open Text FileSystem PageRoutes.Action

/-- What is said of a file that was brought up to date: that it was written, or that it was not. -/
inductive FileReport where
  | written (message : String)
  | upToDate (message : String)

namespace FileReport

/-- The report that is due. -/
def due (changed : Bool) (written upToDate : String) : FileReport :=
  if changed then .written written else .upToDate upToDate

/-- The report on a routes module. -/
def onModule (path : Path) (changed : Bool) : FileReport :=
  due changed ("Routes module written to " ++ path.text)
    ("Routes module " ++ path.text ++ " is up to date")

/-- The report on a declaration. -/
def onDeclaration (path : Path) (changed : Bool) : FileReport :=
  due changed ("Module declaration written to " ++ path.text)
    ("Module declaration " ++ path.text ++ " is up to date")

/-- Whether the file was written. -/
def isWritten : FileReport → Bool
  | written _ => true
  | upToDate _ => false

/-- The marked-up text of a report. -/
def markup : FileReport → String
  | written message => Console.successMark ++ " " ++ message
  | upToDate message => Console.infoMark ++ " " ++ message

/-- What reports show, one after the other. -/
def shown : List FileReport → String
  | [] => ""
  | r :: rest => Console.line r.markup ++ shown rest

@[simp] theorem isWritten_due (changed : Bool) (message message' : String) :
    (due changed message message').isWritten = changed := by
  cases changed <;> rfl

end FileReport

/-- What is said of the declaration, if it has a path. -/
def declarationReports (s : Settings) (fs : FileSystem) : List FileReport :=
  match s.declarations with
  | none => []
  | some path =>
    match ((writeDeclaration s path).on fs).1 with
    | .ok declared => [.onDeclaration path declared]
    | .error _ => []

/-- What a generation by command says of its files, as far as it gets. -/
def fileReports (s : Settings) (fs : FileSystem) : List FileReport :=
  match s.output, (compileModule s fs).result with
  | some output, .ok m =>
    match (writeModule s output m).on fs with
    | (.ok changed, fs) => .onModule output changed :: declarationReports s fs
    | (.error _, _) => []
  | _, _ => []

section

variable {s : Settings} {fs fs' : FileSystem} {output path : Path} {m : RoutesModule}
  {changed declared : Bool} {e : Failure}

/-- What is reported once the module is compiled. -/
theorem fileReports_of_ok (houtput : s.output = some output)
    (hm : (compileModule s fs).result = .ok m)
    (hmodule : (writeModule s output m).on fs = (.ok changed, fs')) :
    fileReports s fs = .onModule output changed :: declarationReports s fs' := by
  unfold fileReports
  rw [houtput, hm]
  dsimp only
  rw [hmodule]

theorem declarationReports_of_some (hpath : s.declarations = some path)
    (hdeclaration : (writeDeclaration s path).on fs = (.ok declared, fs')) :
    declarationReports s fs = [.onDeclaration path declared] := by
  unfold declarationReports
  rw [hpath]
  dsimp only
  rw [hdeclaration]

/-- There is no report on a declaration that could not be written. -/
theorem declarationReports_of_error (hpath : s.declarations = some path)
    (hdeclaration : (writeDeclaration s path).on fs = (.error e, fs')) :
    declarationReports s fs = [] := by
  unfold declarationReports
  rw [hpath]
  dsimp only
  rw [hdeclaration]

end

/-- A report names a path that is configured. -/
theorem exists_of_mem_fileReports {s : Settings} {fs : FileSystem} {r : FileReport}
    (hr : r ∈ fileReports s fs) :
    ∃ path ∈ s.output.toList ++ s.declarations.toList, ∃ changed,
      r = .onModule path changed ∨ r = .onDeclaration path changed := by
  unfold fileReports at hr
  split at hr
  · next output m houtput _ =>
    split at hr
    · next changed fs' _ =>
      rcases List.mem_cons.mp hr with rfl | hr
      · exact ⟨output, by simp [houtput], changed, .inl rfl⟩
      · unfold declarationReports at hr
        split at hr
        · cases hr
        · next path hpath =>
          split at hr
          · next declared _ =>
            exact ⟨path, by simp [hpath], declared, .inr (List.mem_singleton.mp hr)⟩
          · cases hr
    · cases hr
  · cases hr

/-- What is said of a path without an opening bracket is shown. -/
theorem FileReport.shown_of_no_bracket {path : Path} (hpath : '[' ∉ path.text.toList)
    (changed : Bool) :
    Console.refuses (onModule path changed).markup = false ∧
      Console.refuses (onDeclaration path changed).markup = false := by
  have hwords : ∀ before ∈ ["Routes module written to ", "Routes module ",
      "Module declaration written to ", "Module declaration "],
      ∀ after ∈ ["", " is up to date"], '[' ∉ (before ++ path.text ++ after).toList := by
    intro before hbefore after hafter
    have hbefore : '[' ∉ before.toList := by revert before; decide
    have hafter : '[' ∉ after.toList := by revert after; decide
    simp [hbefore, hafter, hpath]
  cases changed
  · exact ⟨Console.refuses_of_no_bracket Console.isSound_infoMark
        (hwords "Routes module " (by simp) " is up to date" (by simp)),
      Console.refuses_of_no_bracket Console.isSound_infoMark
        (hwords "Module declaration " (by simp) " is up to date" (by simp))⟩
  · have hmodule := hwords "Routes module written to " (by simp) "" (by simp)
    have hdeclaration := hwords "Module declaration written to " (by simp) "" (by simp)
    rw [String.append_empty] at hmodule hdeclaration
    exact ⟨Console.refuses_of_no_bracket Console.isSound_successMark hmodule,
      Console.refuses_of_no_bracket Console.isSound_successMark hdeclaration⟩

/-! ## Reporting -/

namespace Command

variable {s : Settings} {x : Action Bool} {w : Workspace} {fs : FileSystem} {e : Failure}
  {output : Path} {m : RoutesModule} {changed : Bool} {message message' : String}
  {fault : MarkupFault}

/-- A report is printed unless the console refuses it. -/
theorem eval_report (changed : Bool) (written upToDate : String) (w : Workspace) :
    (report changed written upToDate).eval w
      = match Console.fault? (FileReport.due changed written upToDate).markup with
        | some fault => (.error (.markup fault), w)
        | none => (.ok (), { w with
            printed := w.printed ++ Console.line (FileReport.due changed written upToDate).markup })
    := by
  cases changed
  · exact eval_say _ _ w
  · exact eval_say _ _ w

/-- There is no report on a failure. -/
theorem eval_reported_of_error (h : x.Quiet) (hx : x.on w.files = (.error e, fs))
    (written upToDate : String) :
    ∃ w', (x >>= fun changed => report changed written upToDate).eval w = (.error e, w') ∧
      w'.files = fs := by
  obtain ⟨log, heval⟩ := h.eval_eq w
  rw [hx] at heval
  exact ⟨_, eval_bind_of_error heval _, rfl⟩

/-- A report that is refused is a failure, but the file is up to date. -/
theorem eval_reported_of_refused (h : x.Quiet) (hx : x.on w.files = (.ok changed, fs))
    (hfault : Console.fault? (FileReport.due changed message message').markup = some fault) :
    ∃ w', (x >>= fun changed => report changed message message').eval w
        = (.error (.markup fault), w') ∧ w'.files = fs := by
  obtain ⟨log, heval⟩ := h.eval_eq w
  rw [hx] at heval
  rw [eval_bind_of_ok heval, eval_report, hfault]
  exact ⟨_, rfl, rfl⟩

theorem eval_reported_of_shown (h : x.Quiet) (hx : x.on w.files = (.ok changed, fs))
    (hshown : Console.refuses (FileReport.due changed message message').markup = false) :
    ∃ w', (x >>= fun changed => report changed message message').eval w = (.ok (), w') ∧
      w'.files = fs ∧ w'.printed
        = w.printed ++ Console.line (FileReport.due changed message message').markup := by
  obtain ⟨log, heval⟩ := h.eval_eq w
  rw [hx] at heval
  rw [eval_bind_of_ok heval, eval_report, Console.refuses_eq_false_iff.mp hshown]
  exact ⟨_, rfl, rfl, rfl⟩

end Command

end PageRoutes
