import PageRoutes.Proofs.FlatMessages
import PageRoutes.Proofs.QuietActions

/-!
# Reported paths

A report on a file that was brought up to date is marked-up text. The path is put into it as it is,
so it may be read as markup.

* `PathReport` — a report on a file, as it is printed and as it is meant (`printed_eq_meant_iff`).
* `Action.Says` — what an action says, piece by piece, however it ends.
* `Command.says_run` — what the commands say of which files.
-/

namespace PageRoutes

open Text Console Emoji Markup PageRoutes.Action

/-! ## Reports -/

/-- A report on a file: its path between two texts. -/
structure PathReport where
  /-- Whether a success is reported; otherwise the report only informs. -/
  isSuccess : Bool
  before : String
  path : Path
  after : String

namespace PathReport

/-- The message of a report. -/
def message (r : PathReport) : String :=
  r.before ++ r.path.text ++ r.after

/-- The mark before a report. -/
def mark (r : PathReport) : String :=
  if r.isSuccess then successMark else infoMark

/-- The marked-up text of a report. -/
def markup (r : PathReport) : String :=
  r.mark ++ " " ++ r.message

/-- A report as it is printed. -/
def printed (r : PathReport) : String :=
  Console.line r.markup

/-- A report as it is meant. -/
def meant (r : PathReport) : String :=
  (if r.isSuccess then "✓ " else "• ") ++ r.message ++ "\n"

/-- What can be reported on a file that was brought up to date: that it was written, or that it was
as it should be. -/
def onFile (written kept : String) (path : Path) : List PathReport :=
  [{ isSuccess := true, before := written, path, after := "" },
    { isSuccess := false, before := kept, path, after := " is up to date" }]

/-- The reports on a routes module. -/
def onModule : Path → List PathReport := onFile "Routes module written to " "Routes module "

/-- The reports on a declaration. -/
def onDeclaration : Path → List PathReport :=
  onFile "Module declaration written to " "Module declaration "

/-- The reports on an export of the route tree. -/
def onTree : Path → List PathReport := onFile "Route tree exported to " "Route tree "

/-- The reports on a router component. -/
def onRouter : Path → List PathReport := onFile "Router component written to " "Router component "

/-- The report of a generation at start that changed files. -/
def onStart (output : Path) : PathReport :=
  { isSuccess := true, before := "Routes generated → ", path := output, after := "" }

/-- The text holds neither brackets nor colons nor backslashes, and only characters that are printed
as they are. -/
def IsPlainText (text : String) : Prop :=
  ∀ c ∈ text.toList, c ≠ '[' ∧ c ≠ ']' ∧ c ≠ '\\' ∧ c ≠ ':' ∧ IsFlat c

instance (text : String) : Decidable (IsPlainText text) :=
  inferInstanceAs (Decidable (∀ c ∈ text.toList, _))

/-- The texts around the path are plain. -/
structure IsPlain (r : PathReport) : Prop where
  before : IsPlainText r.before
  after : IsPlainText r.after

/-- **A report is printed as it is meant just if its path is printed as it is.** -/
theorem printed_eq_meant_iff {r : PathReport} (hr : r.IsPlain)
    (h : ¬HasCode r.path.text.toList) : r.printed = r.meant ↔ IsVerbatim r.path.text.toList := by
  obtain ⟨hbefore, hafter⟩ := hr
  have hmessage : r.message.toList = r.before.toList ++ r.path.text.toList ++ r.after.toList := by
    rw [message, String.toList_append, String.toList_append]
  have hcode : ¬HasCode r.message.toList := by
    rw [hmessage, hasCode_between_iff (fun hc => (hbefore _ hc).2.2.2.1 rfl)
      fun hc => (hafter _ hc).2.2.2.1 rfl]
    exact h
  have hverbatim : IsVerbatim r.message.toList ↔ IsVerbatim r.path.text.toList := by
    rw [hmessage]
    exact isVerbatim_between_iff
      (fun c hc => ⟨(hbefore c hc).1, (hbefore c hc).2.2.1, (hbefore c hc).2.2.2.2⟩)
      fun c hc => ⟨(hafter c hc).1, (hafter c hc).2.1, (hafter c hc).2.2.2.2⟩
  rw [← hverbatim, printed, meant, markup, mark]
  cases r.isSuccess
  · exact line_eq_iff marksAs_infoMark hcode
  · exact line_eq_iff marksAs_successMark hcode

/-- Reports between plain words are plain, whatever files they are on. -/
theorem isPlain_of_mem_flatMap {written kept : String} (hwritten : IsPlainText written)
    (hkept : IsPlainText kept) {paths : List Path} {r : PathReport}
    (hr : r ∈ paths.flatMap (onFile written kept)) : r.IsPlain := by
  obtain ⟨path, -, hr⟩ := List.mem_flatMap.mp hr
  simp only [onFile, List.mem_cons, List.not_mem_nil, or_false] at hr
  rcases hr with rfl | rfl
  · exact ⟨hwritten, (by decide : IsPlainText "")⟩
  · exact ⟨hkept, (by decide : IsPlainText " is up to date")⟩

theorem isPlain_onStart (output : Path) : (onStart output).IsPlain :=
  ⟨(by decide : IsPlainText "Routes generated → "), (by decide : IsPlainText "")⟩

end PathReport

/-! ## What is said -/

/-- Something that is printed: a report on a file, or any other text. -/
inductive Said where
  | text (text : String)
  | report (r : PathReport)

namespace Said

/-- What is printed for it. -/
def printed : Said → String
  | .text t => t
  | .report r => r.printed

/-- The path that is reported on. -/
def path? : Said → Option Path
  | .text _ => none
  | .report r => some r.path

/-- What is printed for several pieces, one after the other. -/
def output : List Said → String
  | [] => ""
  | piece :: rest => piece.printed ++ output rest

theorem output_append (said more : List Said) :
    output (said ++ more) = output said ++ output more := by
  induction said with
  | nil => exact String.empty_append.symm
  | cons piece rest ih => rw [List.cons_append, output, output, ih, String.append_assoc]

end Said

namespace Action

variable {α β : Type} {allowed : Said → Prop} {x : Action α} {f : α → Action β} {w : Workspace}
  {paths : List Path}

/-- However the action ends, everything that it prints may be said; and if it succeeds, it has
reported on exactly these paths, in this order. -/
def Says (allowed : Said → Prop) (x : Action α) (w : Workspace) (paths : List Path) : Prop :=
  ∃ said : List Said, (∀ piece ∈ said, allowed piece) ∧
    (x.eval w).2.printed = w.printed ++ Said.output said ∧
    ∀ a, (x.eval w).1 = .ok a → said.filterMap Said.path? = paths

theorem says_nothing (h : (x.eval w).2.printed = w.printed) : x.Says allowed w [] :=
  ⟨[], nofun, by rw [h]; exact String.append_empty.symm, fun _ _ => rfl⟩

/-- Where an action fails without a word there is nothing to report. -/
theorem says_of_error {e : Failure} (h : x.eval w = (.error e, w)) : x.Says allowed w paths := by
  refine ⟨[], nofun, ?_, fun a ha => ?_⟩
  · rw [h]
    exact String.append_empty.symm
  · rw [h] at ha
    cases ha

/-- What an action says is said before what follows it. -/
theorem Says.bind {more : List Path} (hx : x.Says allowed w paths)
    (hf : ∀ a w', x.eval w = (.ok a, w') → (f a).Says allowed w' more) :
    (x >>= f).Says allowed w (paths ++ more) := by
  obtain ⟨said, hallowed, hprinted, hpaths⟩ := hx
  rcases hrun : x.eval w with ⟨e | a, w₁⟩ <;> rw [hrun] at hprinted hpaths
  · refine ⟨said, hallowed, ?_, fun b hb => ?_⟩
    · rw [eval_bind_of_error hrun]
      exact hprinted
    · rw [eval_bind_of_error hrun] at hb
      cases hb
  · obtain ⟨rest, hrest, hprinted', hmore⟩ := hf a w₁ hrun
    refine ⟨said ++ rest, fun piece hpiece => ?_, ?_, fun b hb => ?_⟩
    · exact (List.mem_append.mp hpiece).elim (hallowed piece) (hrest piece)
    · rw [eval_bind_of_ok hrun, hprinted', hprinted, Said.output_append, String.append_assoc]
    · rw [eval_bind_of_ok hrun] at hb
      rw [List.filterMap_append, hpaths a rfl, hmore b hb]

/-- What reports on no path comes before what does. -/
theorem Says.before (hx : x.Says allowed w [])
    (hf : ∀ a w', x.eval w = (.ok a, w') → (f a).Says allowed w' paths) :
    (x >>= f).Says allowed w paths :=
  hx.bind hf

/-- What is needed and there is handed on. -/
theorem says_require {what : Needed} {a? : Option α} {a : α} (ha : a? = some a)
    (hf : (f a).Says allowed w paths) : (require what a? >>= f).Says allowed w paths := by
  rwa [Says, eval_bind_of_ok (eval_require_of_some ha w)]

/-- One text is printed, whatever comes of the action. -/
theorem says_one {piece : Said} (h : allowed piece)
    (hprinted : (x.eval w).2.printed = w.printed ++ piece.printed) :
    x.Says allowed w piece.path?.toList := by
  refine ⟨[piece], List.forall_mem_singleton.mpr h, ?_, fun _ _ => ?_⟩
  · rw [hprinted]
    exact congrArg (w.printed ++ ·) String.append_empty.symm
  · cases piece <;> rfl

theorem says_print {t : String} (h : allowed (.text t)) : (print t).Says allowed w [] :=
  says_one h rfl

/-- A report is printed unless the console refuses it. -/
theorem says_report {r : PathReport} (h : allowed (.report r)) :
    (say r.mark r.message).Says allowed w [r.path] := by
  have heval := eval_say r.mark r.message w
  split at heval
  · exact says_of_error heval
  · exact says_one h (by rw [heval]; rfl)

end Action

namespace Command

variable {allowed : Said → Prop} {x : Action Unit} {w : Workspace} {paths : List Path}

/-- A command says what its action says. -/
theorem says_orGiveUp (refusal : Option String) (h : x.Says allowed w paths) :
    (orGiveUp refusal x).Says allowed w paths := by
  obtain ⟨said, hallowed, hprinted, hpaths⟩ := h
  rw [Says, eval_orGiveUp]
  exact ⟨said, hallowed, hprinted, fun a ha => hpaths a (mapError_eq_ok_iff.mp ha)⟩

/-- Of a file that was brought up to date it is reported what was done. -/
theorem says_reportOn {written kept : String} {path : Path} (changed : Bool)
    (h : ∀ r ∈ PathReport.onFile written kept path, allowed (.report r)) :
    (report changed (written ++ path.text) (kept ++ path.text ++ " is up to date")).Says allowed w
      [path] := by
  obtain ⟨hwritten, hkept⟩ := List.forall_mem_cons.mp h
  cases changed
  · have hsays : (say (PathReport.mark _) (PathReport.message _)).Says allowed w [path] :=
      says_report (hkept _ List.mem_cons_self)
    rwa [PathReport.mark, if_neg Bool.false_ne_true] at hsays
  · have hsays : (say (PathReport.mark _) (PathReport.message _)).Says allowed w [path] :=
      says_report hwritten
    rwa [PathReport.mark, if_pos rfl, PathReport.message, String.append_empty] at hsays

/-! ## What commands say -/

/-- What a command prints besides its reports on files. -/
inductive PrintsBeside (s : Settings) : Command → String → Prop where
  /-- What a generation prints first. -/
  | heading {output declarations : Option Path} {verbose : Bool} :
    PrintsBeside s (.generate output declarations verbose) (heading s)
  /-- What a verbose generation says about the compiled module. -/
  | bindingCount {output declarations : Option Path} (m : RoutesModule) :
    PrintsBeside s (.generate output declarations true) (bindingCount m)
  /-- The document of the route tree. -/
  | document (tree : RouteTree) : PrintsBeside s (.tree none true) (treeText tree)
  /-- The drawing of the route tree. -/
  | drawing (tree : RouteTree) :
    PrintsBeside s (.tree none false)
      (Console.drawTree (styled "yellow" (escape s.root.text)) tree)
  /-- The number of its routes. -/
  | routeCount (tree : RouteTree) :
    PrintsBeside s (.tree none false)
      (Console.line (styled "dim" ("  " ++ toString (RouteTree.size tree) ++ " routes")))
  /-- What the command for the router component prints first. -/
  | routerHeading {output : Option Path} {overwrite useModuleName : Bool} :
    PrintsBeside s (.init output overwrite useModuleName)
      (Console.rule (styled "yellow" "Initializing router component"))
  /-- That there is something in its place, with the path protected from being read as markup. -/
  | skipped {output : Option Path} {useModuleName : Bool} (path : Path) :
    PrintsBeside s (.init output false useModuleName)
      (Console.line (styled "yellow" ("Skipping " ++ escape path.text ++ " (exists)")))

/-- The reports on files that a command can make. -/
def reports (s : Settings) : Command → List PathReport
  | .generate output declarations _ =>
    (output.or s.output).toList.flatMap PathReport.onModule
      ++ (declarations.or s.declarations).toList.flatMap PathReport.onDeclaration
  | .tree output _ => output.toList.flatMap PathReport.onTree
  | .types output => (output.or s.declarations).toList.flatMap PathReport.onDeclaration
  | .init output _ _ => (output.or s.router).toList.flatMap PathReport.onRouter

/-- What a command may say. -/
def MaySay (s : Settings) (command : Command) : Said → Prop
  | .text t => PrintsBeside s command t
  | .report r => r ∈ command.reports s

/-- Whether there is something where a path leads. -/
def isThere (fs : FileSystem) (path : Path) : Bool :=
  match path.hasNul, fs.lookup path with
  | false, .ok (some _) => true
  | _, _ => false

/-- The files that a command brings up to date, in order. A router component that is there already
is left alone unless it is to be overwritten. -/
def updated (s : Settings) (fs : FileSystem) : Command → List Path
  | .generate output declarations _ =>
    (output.or s.output).toList ++ (declarations.or s.declarations).toList
  | .tree output _ => output.toList
  | .types output => (output.or s.declarations).toList
  | .init output overwrite _ =>
    (output.or s.router).toList.filter fun path => overwrite || !isThere fs path

section

variable {s : Settings}

/-- A quiet action that brings a file up to date is reported on. -/
theorem says_reported {x : Action Bool} (hx : x.Quiet) {written kept : String} {path : Path}
    (h : ∀ r ∈ PathReport.onFile written kept path, allowed (.report r)) (w : Workspace) :
    (x >>= fun changed => report changed (written ++ path.text)
      (kept ++ path.text ++ " is up to date")).Says allowed w [path] :=
  Says.before (says_nothing (hx.printed w)) fun changed _ _ => says_reportOn changed h

theorem says_announce {m : RoutesModule} {verbose : Bool}
    (h : verbose = true → allowed (.text (bindingCount m))) (w : Workspace) :
    (announce verbose m).Says allowed w [] := by
  unfold announce
  split
  · next hverbose => exact says_print (h hverbose)
  · exact says_nothing rfl

theorem says_runGenerate (output declarations : Option Path) (verbose : Bool) (w : Workspace) :
    (runGenerate s output declarations verbose).Says
      (MaySay s (.generate output declarations verbose)) w
      (updated s w.files (.generate output declarations verbose)) := by
  rw [runGenerate_eq, updated]
  cases houtput : output.or s.output with
  | none => exact says_of_error (eval_bind_of_error rfl _)
  | some path =>
    refine says_require rfl (Says.before (says_print .heading) fun _ w _ => says_orGiveUp _ ?_)
    refine Says.before (says_nothing rfl) fun _ w _ => Says.before (says_nothing ?_) fun m w _ =>
      Says.before (says_announce ?_ w) fun _ w _ => Says.bind (says_reported
        (quiet_writeModule s path m) (fun r hr => ?_) w) fun _ w _ => ?_
    · rw [eval_ofOutcome]
    · rintro rfl
      exact .bindingCount m
    · rw [MaySay, reports, houtput]
      exact List.mem_append_left _ (by simpa [PathReport.onModule] using hr)
    · cases hpath : declarations.or s.declarations with
      | none => exact says_nothing rfl
      | some path =>
        refine says_reported (quiet_writeDeclaration s path) (fun r hr => ?_) w
        rw [MaySay, reports, hpath]
        exact List.mem_append_right _ (by simpa [PathReport.onDeclaration] using hr)

theorem says_runTypes (output : Option Path) (w : Workspace) :
    (runTypes s output).Says (MaySay s (.types output)) w (updated s w.files (.types output)) := by
  rw [runTypes_eq, updated]
  cases hpath : output.or s.declarations with
  | none => exact says_of_error (eval_throw _ w)
  | some path =>
    refine says_orGiveUp _ (says_reported (quiet_writeDeclaration s path) (fun r hr => ?_) w)
    rw [MaySay, reports, hpath]
    simpa [PathReport.onDeclaration] using hr

theorem says_runTree (output : Option Path) (asJson : Bool) (w : Workspace) :
    (runTree s output asJson).Says (MaySay s (.tree output asJson)) w
      (updated s w.files (.tree output asJson)) := by
  rw [updated]
  cases output with
  | none =>
    rw [runTree_show_eq]
    refine says_orGiveUp _ (Says.before (says_nothing rfl) fun _ _ _ =>
      Says.before (says_nothing ?_) fun tree _ _ => ?_)
    · rw [eval_ofOutcome]
    · cases asJson
      · exact Says.before (says_print (.drawing tree)) fun _ _ _ => says_print (.routeCount tree)
      · exact says_print (.document tree)
  | some path =>
    rw [runTree_output_eq]
    refine says_orGiveUp _ (says_reported (quiet_exportTree s path) (fun r hr => ?_) w)
    rw [MaySay, reports]
    simpa [PathReport.onTree] using hr

/-- Looking where a path leads shows whether something is there. -/
theorem isSome_of_eval_lookup {path : Path} {item : Option Item} {w w' : Workspace}
    (h : (Action.lookup path).eval w = (.ok item, w')) :
    item.isSome = isThere w.files path ∧ w'.files = w.files := by
  rw [eval_lookup] at h
  obtain ⟨hitem, rfl⟩ := Prod.mk.inj h
  refine ⟨?_, rfl⟩
  unfold isThere
  cases hnul : path.hasNul with
  | true =>
    rw [hnul, if_pos rfl] at hitem
    obtain rfl := Except.ok.inj hitem
    rfl
  | false =>
    rw [hnul, if_neg Bool.false_ne_true] at hitem
    rw [mapError_eq_ok_iff.mp hitem]
    cases item <;> rfl

theorem says_runInit (output : Option Path) (overwrite useModuleName : Bool) (w : Workspace) :
    (runInit s output overwrite useModuleName).Says
      (MaySay s (.init output overwrite useModuleName)) w
      (updated s w.files (.init output overwrite useModuleName)) := by
  rw [runInit_eq, updated]
  cases hpath : output.or s.router with
  | none => exact says_of_error (eval_bind_of_error rfl _)
  | some path =>
    refine says_require rfl (Says.before (says_print .routerHeading) fun _ w₁ hprint =>
      Says.before (says_nothing ((quiet_lookup path).printed w₁)) fun item w₂ hlookup => ?_)
    obtain ⟨-, rfl⟩ := Prod.mk.inj ((eval_print _ w).symm.trans hprint)
    have hitem : item.isSome = isThere w.files path := (isSome_of_eval_lookup hlookup).1
    split
    · next hskip =>
      rw [hitem, Bool.and_eq_true, Bool.not_eq_true'] at hskip
      obtain ⟨hthere, rfl⟩ := hskip
      rw [Option.toList_some, List.filter_cons_of_neg (by simp [hthere]), List.filter_nil]
      exact says_print (.skipped path)
    · next hwrite =>
      have hpaths : (some path).toList.filter (fun path => overwrite || !isThere w.files path)
          = [path] := by
        rw [hitem] at hwrite
        cases overwrite <;> simp_all
      rw [hpaths]
      refine says_orGiveUp _ (says_reported (quiet_writeRouter s path overwrite useModuleName)
        (fun r hr => ?_) w₂)
      rw [MaySay, reports, hpath]
      simpa [PathReport.onRouter] using hr

/-- **What commands say**: reports on the files that they bring up to date, and nothing about paths
besides. -/
theorem says_run (command : Command) (w : Workspace) :
    (command.run s).Says (MaySay s command) w (updated s w.files command) := by
  cases command with
  | generate output declarations verbose => exact says_runGenerate output declarations verbose w
  | tree output asJson => exact says_runTree output asJson w
  | types output => exact says_runTypes output w
  | init output overwrite useModuleName => exact says_runInit output overwrite useModuleName w

/-- Around the paths of reports nothing can be read as markup. -/
theorem isPlain_of_mem_reports {command : Command} {r : PathReport}
    (hr : r ∈ command.reports s) : r.IsPlain := by
  cases command with
  | generate output declarations verbose =>
    rcases List.mem_append.mp hr with hr | hr
    · exact PathReport.isPlain_of_mem_flatMap (by decide) (by decide) hr
    · exact PathReport.isPlain_of_mem_flatMap (by decide) (by decide) hr
  | tree output asJson => exact PathReport.isPlain_of_mem_flatMap (by decide) (by decide) hr
  | types output => exact PathReport.isPlain_of_mem_flatMap (by decide) (by decide) hr
  | init output overwrite useModuleName =>
    exact PathReport.isPlain_of_mem_flatMap (by decide) (by decide) hr

end

end Command

end PageRoutes
