import Mathlib.Order.Defs.Unbundled
import PageRoutes.Proofs.Actions
import PageRoutes.Proofs.Steps

/-!
# Effects of actions

What can be said of an action whether it succeeds or not, and what can be said of its failures.

* `Action.Follows R` — the files before and after the action are related by `R`. It is enough to
  look at the steps of an action, one by one, if `R` is reflexive and transitive.
* `Action.ReadsOnly` — the case in which the files stay as they are.
* `Action.FailsOnly P` — every failure of the action has the property `P`.

The sections below apply these to what a project is worked on with: compiling reads, and bringing a
file up to date fails only as `Failure.IsOfFiles` says.
-/

namespace PageRoutes

open Text FileSystem

namespace Action

variable {α β : Type} {R : FileSystem → FileSystem → Prop} {P Q : Failure → Prop}

/-- Whatever the action results in, the files before and after it are related. -/
def Follows (R : FileSystem → FileSystem → Prop) (x : Action α) : Prop :=
  ∀ w, R w.files (x.eval w).2.files

/-- Whatever the action results in, the files stay as they are. -/
abbrev ReadsOnly (x : Action α) : Prop := x.Follows Eq

/-- Every failure of the action has a property. -/
def FailsOnly (P : Failure → Prop) (x : Action α) : Prop :=
  ∀ w e, (x.eval w).1 = .error e → P e

theorem FailsOnly.mono {x : Action α} (h : x.FailsOnly P) (hPQ : ∀ e, P e → Q e) :
    x.FailsOnly Q :=
  fun w e he => hPQ e (h w e he)

/-- Files that stay as they are stand in every reflexive relation. -/
theorem ReadsOnly.follows [Std.Refl R] {x : Action α} (h : x.ReadsOnly) : x.Follows R :=
  fun w => h w ▸ Std.Refl.refl w.files

/-! ## One action after the other -/

theorem Follows.bind [IsTrans FileSystem R] {x : Action α} {f : α → Action β} (hx : x.Follows R)
    (hf : ∀ a, (f a).Follows R) : (x >>= f).Follows R := by
  intro w
  have hfirst := hx w
  rcases hrun : x.eval w with ⟨_ | a, w₁⟩
  · rw [eval_bind_of_error hrun]
    rwa [hrun] at hfirst
  · rw [eval_bind_of_ok hrun]
    rw [hrun] at hfirst
    exact trans_of R hfirst (hf a w₁)

theorem ReadsOnly.bind {x : Action α} {f : α → Action β} (hx : x.ReadsOnly)
    (hf : ∀ a, (f a).ReadsOnly) : (x >>= f).ReadsOnly :=
  Follows.bind hx hf

theorem FailsOnly.bind {x : Action α} {f : α → Action β} (hx : x.FailsOnly P)
    (hf : ∀ a, (f a).FailsOnly P) : (x >>= f).FailsOnly P := by
  intro w e he
  rcases hrun : x.eval w with ⟨e' | a, w₁⟩
  · rw [eval_bind_of_error hrun] at he
    exact hx w e (by rw [hrun, Except.error.inj he])
  · rw [eval_bind_of_ok hrun] at he
    exact hf a w₁ e he

theorem Follows.tryCatch [IsTrans FileSystem R] {x : Action α} {handle : Failure → Action α}
    (hx : x.Follows R) (hhandle : ∀ e, (handle e).Follows R) :
    (tryCatch x handle).Follows R := by
  intro w
  have hfirst := hx w
  rw [eval_tryCatch]
  rcases hrun : x.eval w with ⟨e | a, w₁⟩ <;> rw [hrun] at hfirst
  · exact trans_of R hfirst (hhandle e w₁)
  · exact hfirst

/-- A value at the end does not change what was done. -/
theorem eval_bind_pure (x : Action α) (f : α → β) (w : Workspace) :
    (x >>= fun a => pure (f a)).eval w = ((x.eval w).1.map f, (x.eval w).2) := by
  rw [eval_bind]
  rcases x.eval w with ⟨_ | a, w₁⟩ <;> rfl

/-! ## Actions that only read -/

theorem readsOnly_pure (a : α) : (pure a : Action α).ReadsOnly := fun _ => rfl

theorem readsOnly_throw (e : Failure) : (throw e : Action α).ReadsOnly := fun _ => rfl

theorem readsOnly_get : (get : Action Workspace).ReadsOnly := fun _ => rfl

theorem readsOnly_note (entry : LogEntry) : (note entry).ReadsOnly := fun _ => rfl

theorem readsOnly_print (text : String) : (print text).ReadsOnly := fun _ => rfl

theorem readsOnly_say (mark message : String) : (say mark message).ReadsOnly := by
  intro w
  rw [eval_say]
  split <;> rfl

theorem readsOnly_liftExcept (x : Except Failure α) : (liftExcept x : Action α).ReadsOnly :=
  fun w => by rw [eval_liftExcept]

theorem readsOnly_ofOutcome (o : Outcome Failure α) : (ofOutcome o).ReadsOnly :=
  fun w => by rw [eval_ofOutcome]

theorem readsOnly_require (what : Needed) (a? : Option α) : (require what a?).ReadsOnly :=
  readsOnly_liftExcept _

theorem readsOnly_lookup (p : Path) : (lookup p).ReadsOnly :=
  fun w => by rw [eval_lookup]

/-! ## How actions fail -/

theorem failsOnly_pure (a : α) : (pure a : Action α).FailsOnly P := nofun

theorem failsOnly_throw {e : Failure} (h : P e) : (throw e : Action α).FailsOnly P := by
  rintro w e' ⟨⟩
  exact h

theorem failsOnly_note (entry : LogEntry) : (note entry).FailsOnly P := nofun

theorem failsOnly_get : (get : Action Workspace).FailsOnly P := nofun

theorem failsOnly_liftExcept {x : Except Failure α} (h : ∀ e, x = .error e → P e) :
    (liftExcept x : Action α).FailsOnly P := by
  intro w e he
  rw [eval_liftExcept] at he
  exact h e he

theorem failsOnly_say (mark message : String) (h : ∀ fault, P (.markup fault)) :
    (say mark message).FailsOnly P := by
  intro w e he
  rw [eval_say] at he
  split at he
  · exact Except.error.inj he ▸ h _
  · exact absurd he (by simp)

end Action

/-! ## Bringing files up to date -/

/-- A failure that comes from bringing a file up to date: the file system refuses, a path holds
U+0000, or something is missing that is needed. -/
inductive Failure.IsOfFiles : Failure → Prop where
  | file (e : FileError) : IsOfFiles (.file e)
  | missing (what : Needed) : IsOfFiles (.missing what)
  | nulInText : IsOfFiles .nulInText

namespace Action

theorem failsOnly_require {α : Type} (what : Needed) (a? : Option α) :
    (require what a?).FailsOnly Failure.IsOfFiles := by
  refine failsOnly_liftExcept fun e he => ?_
  cases a? with
  | none => exact Except.error.inj he ▸ .missing what
  | some a => exact absurd he (by simp [PageRoutes.require])

theorem eq_file_of_mapError {α : Type} {x : Except FileError α} {e : Failure}
    (h : x.mapError Failure.file = .error e) : ∃ e', e = .file e' := by
  obtain ⟨e', -, rfl⟩ := mapError_eq_error_iff.mp h
  exact ⟨e', rfl⟩

theorem failsOnly_lookup (p : Path) : (lookup p).FailsOnly Failure.IsOfFiles := by
  intro w e he
  rw [eval_lookup] at he
  split at he
  · exact absurd he (by simp)
  · obtain ⟨e', rfl⟩ := eq_file_of_mapError he
    exact .file e'

theorem failsOnly_changeFiles (change : FileSystem → Except FileError Unit × FileSystem) :
    (changeFiles change).FailsOnly Failure.IsOfFiles := by
  intro w e he
  rw [eval_changeFiles] at he
  obtain ⟨e', rfl⟩ := eq_file_of_mapError he
  exact .file e'

theorem failsOnly_makeDirectories (p : Path) :
    (makeDirectories p).FailsOnly Failure.IsOfFiles := by
  unfold makeDirectories
  dsimp only
  split
  · exact (failsOnly_throw .nulInText).bind fun _ => failsOnly_changeFiles _
  · exact failsOnly_changeFiles _

theorem failsOnly_writeFile (p : Path) (bytes : Bytes) :
    (writeFile p bytes).FailsOnly Failure.IsOfFiles := by
  unfold writeFile
  dsimp only
  split
  · exact (failsOnly_throw .nulInText).bind fun _ => failsOnly_changeFiles _
  · exact failsOnly_changeFiles _

end Action

section

variable {s : Settings}

theorem failsOnly_writeIfChanged (p : Path) (bytes : Bytes) :
    (writeIfChanged p bytes).FailsOnly Failure.IsOfFiles := by
  unfold writeIfChanged
  refine (Action.failsOnly_lookup p).bind fun item => ?_
  split
  · exact Action.failsOnly_pure _
  · exact (Action.failsOnly_makeDirectories _).bind fun _ =>
      (Action.failsOnly_writeFile _ _).bind fun _ => Action.failsOnly_pure _

theorem failsOnly_writeTextIfChanged (p : Path) (text : String) :
    (writeTextIfChanged p text).FailsOnly Failure.IsOfFiles := by
  rw [writeTextIfChanged_eq]
  exact failsOnly_writeIfChanged _ _

theorem failsOnly_writeModule (s : Settings) (output : Option Path) (m : RoutesModule) :
    (writeModule s output m).FailsOnly Failure.IsOfFiles := by
  rw [writeModule_given_eq]
  refine (Action.failsOnly_require _ _).bind fun path => (Action.failsOnly_pure m).bind fun m =>
    (failsOnly_writeTextIfChanged path m.source).bind fun changed => ?_
  split
  · exact Action.failsOnly_pure _
  · exact (Action.failsOnly_note _).bind fun _ => Action.failsOnly_pure _

/-- The declaration is brought up to date where its path is known. -/
theorem failsOnly_writeDeclaration {output : Option Path} {path : Path}
    (hpath : output.or s.declarations = some path) :
    (writeDeclaration s output).FailsOnly Failure.IsOfFiles := by
  rw [writeDeclaration, hpath]
  exact (Action.failsOnly_require _ _).bind fun _ => failsOnly_writeTextIfChanged _ _

end

/-! ## Commands -/

namespace Command

/-- The failure of a command that meets a failure: for one to compile it says what is wrong, and for
one of the file system it has its own reason, if there is one. -/
def givenUp (refusal : Option String) : Failure → Failure
  | .route e => .command e.message
  | .file e => (refusal.map Failure.command).getD (.file e)
  | failure => failure

/-- **A command does what its action does**, and sees the failures of it in its own way. -/
theorem eval_orGiveUp (refusal : Option String) (x : Action Unit) (w : Workspace) :
    (orGiveUp refusal x).eval w
      = ((x.eval w).1.mapError (givenUp refusal), (x.eval w).2) := by
  rw [orGiveUp, Action.eval_tryCatch]
  rcases x.eval w with ⟨e | a, w₁⟩
  · cases e <;> cases refusal <;> rfl
  · rfl

open PageRoutes.Action

theorem readsOnly_report (changed : Bool) (written upToDate : String) :
    (report changed written upToDate).ReadsOnly := by
  unfold report
  split
  · exact readsOnly_say _ _
  · exact readsOnly_say _ _

theorem readsOnly_announce (verbose : Bool) (m : RoutesModule) :
    (announce verbose m).ReadsOnly := by
  unfold announce
  split
  · exact readsOnly_print _
  · exact readsOnly_pure _

theorem readsOnly_showTree (s : Settings) (asJson : Bool) (tree : RouteTree) :
    (showTree s asJson tree).ReadsOnly := by
  unfold showTree
  split
  · exact readsOnly_print _
  · exact (readsOnly_print _).bind fun _ => readsOnly_print _

end Command

/-! ## Operations -/

namespace Session

variable (session : Session) (operation : Operation)

theorem files_step :
    (session.step operation).2.files
      = ((operation.run session.settings).eval { files := session.files }).2.files := rfl

/-- An operation does what its action does, and results in what the value of that is made into. -/
theorem step_of_run {α : Type} {x : Action α} {f : α → Result}
    (h : operation.run session.settings = x >>= fun a => pure (f a)) :
    (session.step operation).1.result = (x.eval { files := session.files }).1.map f ∧
      (session.step operation).1.printed = (x.eval { files := session.files }).2.printed ∧
      (session.step operation).2.files = (x.eval { files := session.files }).2.files := by
  have heval := Action.eval_bind_pure x f { files := session.files }
  rw [← h] at heval
  exact ⟨congrArg Prod.fst heval, congrArg (·.2.printed) heval, congrArg (·.2.files) heval⟩

end Session

end PageRoutes
