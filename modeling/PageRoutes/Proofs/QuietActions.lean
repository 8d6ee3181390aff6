import PageRoutes.Proofs.Effects

/-!
# Quiet actions

Bringing files up to date depends on the files alone: it takes no notice of what was logged or
printed before, and prints nothing. So such a step does the same wherever it stands.

* `Action.Quiet` — the property, and that it is enough to look at the steps of an action.
* `Action.on` — what a quiet action does to files.
* `quiet_writeModule`, `quiet_writeDeclaration` — the two steps of a generation are quiet.
* `quiet_generate`, `quiet_exportTree`, `quiet_writeRouter` — so is all that compiles or looks for
  files before it writes.
-/

namespace PageRoutes

open Text FileSystem

namespace Action

variable {α β : Type} {x : Action α}

/-- What the action does depends on the files alone, and it prints nothing. -/
structure Quiet (x : Action α) : Prop where
  congr : ∀ w w' : Workspace, w.files = w'.files →
    (x.eval w).1 = (x.eval w').1 ∧ (x.eval w).2.files = (x.eval w').2.files
  printed : ∀ w, (x.eval w).2.printed = w.printed

/-- What an action does to files when nothing was logged and printed before. -/
def on (x : Action α) (fs : FileSystem) : Except Failure α × FileSystem :=
  ((x.eval { files := fs }).1, (x.eval { files := fs }).2.files)

/-- A quiet action adds at most to the log. -/
theorem Quiet.eval_eq (h : x.Quiet) (w : Workspace) :
    ∃ log, x.eval w
      = ((x.on w.files).1, { files := (x.on w.files).2, log, printed := w.printed }) := by
  obtain ⟨hresult, hfiles⟩ := h.congr w { files := w.files } rfl
  refine ⟨(x.eval w).2.log, ?_⟩
  show _ = ((x.eval { files := w.files }).1, _)
  rw [← hresult, on, ← hfiles, ← h.printed w]

theorem Quiet.bind {f : α → Action β} (hx : x.Quiet) (hf : ∀ a, (f a).Quiet) :
    (x >>= f).Quiet := by
  constructor
  · intro w w' hfiles
    obtain ⟨hresult, hfiles⟩ := hx.congr w w' hfiles
    rcases hrun : x.eval w with ⟨e | a, w₁⟩ <;> rcases hrun' : x.eval w' with ⟨e' | a', w₁'⟩ <;>
      rw [hrun, hrun'] at hresult hfiles
    · rw [eval_bind_of_error hrun, eval_bind_of_error hrun']
      exact ⟨congrArg Except.error (Except.error.inj hresult), hfiles⟩
    · cases hresult
    · cases hresult
    · rw [eval_bind_of_ok hrun, eval_bind_of_ok hrun', Except.ok.inj hresult]
      exact (hf a').congr w₁ w₁' hfiles
  · intro w
    have hprinted := hx.printed w
    rcases hrun : x.eval w with ⟨e | a, w₁⟩ <;> rw [hrun] at hprinted
    · rw [eval_bind_of_error hrun]
      exact hprinted
    · rw [eval_bind_of_ok hrun, (hf a).printed w₁]
      exact hprinted

/-- After a failure nothing more is done. -/
theorem on_bind_of_error {fs fs' : FileSystem} {e : Failure} (h : x.on fs = (.error e, fs'))
    (f : α → Action β) : (x >>= f).on fs = (.error e, fs') := by
  obtain ⟨hresult, hfiles⟩ := Prod.mk.inj h
  rcases hrun : x.eval { files := fs } with ⟨e' | a, w⟩ <;> rw [hrun] at hresult hfiles
  · rw [on, eval_bind_of_error hrun, hfiles]
    exact congrArg (·, fs') (congrArg Except.error (Except.error.inj hresult))
  · cases hresult

/-- After a success the rest is done with the files that are left. -/
theorem on_bind_of_ok {fs fs' : FileSystem} {a : α} {f : α → Action β}
    (h : x.on fs = (.ok a, fs')) (hf : (f a).Quiet) : (x >>= f).on fs = (f a).on fs' := by
  obtain ⟨hresult, hfiles⟩ := Prod.mk.inj h
  rcases hrun : x.eval { files := fs } with ⟨e | a', w⟩ <;> rw [hrun] at hresult hfiles
  · cases hresult
  · obtain ⟨hresult', hfiles'⟩ := hf.congr w { files := fs' } hfiles
    rw [on, eval_bind_of_ok hrun, Except.ok.inj hresult, hresult', hfiles', on]

/-! ## Steps -/

theorem quiet_pure (a : α) : (pure a : Action α).Quiet := ⟨fun _ _ h => ⟨rfl, h⟩, fun _ => rfl⟩

theorem quiet_throw (e : Failure) : (throw e : Action α).Quiet :=
  ⟨fun _ _ h => ⟨rfl, h⟩, fun _ => rfl⟩

theorem quiet_note (entry : LogEntry) : (note entry).Quiet :=
  ⟨fun _ _ h => ⟨rfl, h⟩, fun _ => rfl⟩

theorem quiet_liftExcept (e : Except Failure α) : (liftExcept e : Action α).Quiet := by
  constructor
  · intro w w' h
    rw [eval_liftExcept, eval_liftExcept]
    exact ⟨rfl, h⟩
  · intro w
    rw [eval_liftExcept]

theorem quiet_require (what : Needed) (a? : Option α) : (require what a?).Quiet :=
  quiet_liftExcept _

theorem quiet_lookup (p : Path) : (lookup p).Quiet := by
  constructor
  · intro w w' h
    rw [eval_lookup, eval_lookup]
    exact ⟨by dsimp only; rw [h], h⟩
  · intro w
    rw [eval_lookup]

theorem quiet_changeFiles (change : FileSystem → Except FileError Unit × FileSystem) :
    (changeFiles change).Quiet := by
  constructor
  · intro w w' h
    rw [eval_changeFiles, eval_changeFiles, h]
    exact ⟨rfl, rfl⟩
  · intro w
    rw [eval_changeFiles]

theorem quiet_makeDirectories (p : Path) : (makeDirectories p).Quiet := by
  unfold makeDirectories
  dsimp only
  split
  · exact (quiet_throw .nulInText).bind fun _ => quiet_changeFiles _
  · exact quiet_changeFiles _

theorem quiet_writeFile (p : Path) (bytes : Bytes) : (writeFile p bytes).Quiet := by
  unfold writeFile
  dsimp only
  split
  · exact (quiet_throw .nulInText).bind fun _ => quiet_changeFiles _
  · exact quiet_changeFiles _

theorem quiet_ofOutcome (o : Outcome Failure α) : (ofOutcome o).Quiet := by
  constructor
  · intro w w' h
    rw [eval_ofOutcome, eval_ofOutcome]
    exact ⟨rfl, h⟩
  · intro w
    rw [eval_ofOutcome]

/-- An action that is chosen by the files is quiet if each choice is. -/
theorem quiet_byFiles {f : FileSystem → Action α} (hf : ∀ fs, (f fs).Quiet) :
    ((get : Action Workspace) >>= fun w => f w.files).Quiet := by
  constructor
  · intro w w' h
    rw [eval_bind_of_ok (eval_get w), eval_bind_of_ok (eval_get w'), h]
    exact (hf w'.files).congr w w' h
  · intro w
    rw [eval_bind_of_ok (eval_get w)]
    exact (hf w.files).printed w

end Action

open PageRoutes.Action

/-! ## Bringing files up to date -/

section

variable (s : Settings)

theorem quiet_writeIfChanged (p : Path) (bytes : Bytes) : (writeIfChanged p bytes).Quiet := by
  unfold writeIfChanged
  refine (quiet_lookup p).bind fun item => ?_
  split
  · exact quiet_pure _
  · exact (quiet_makeDirectories _).bind fun _ => (quiet_writeFile _ _).bind fun _ => quiet_pure _

theorem quiet_writeTextIfChanged (p : Path) (text : String) :
    (writeTextIfChanged p text).Quiet := by
  rw [writeTextIfChanged_eq]
  exact quiet_writeIfChanged p _

theorem quiet_writeModule (output : Option Path) (m : RoutesModule) :
    (writeModule s output m).Quiet := by
  rw [writeModule_given_eq]
  refine (quiet_require _ _).bind fun path => (quiet_pure m).bind fun m =>
    (quiet_writeTextIfChanged path m.source).bind fun changed => ?_
  split
  · exact quiet_pure _
  · exact (quiet_note _).bind fun _ => quiet_pure _

theorem quiet_writeDeclaration (output : Option Path) : (writeDeclaration s output).Quiet := by
  unfold writeDeclaration
  split
  · exact (quiet_require _ _).bind fun moduleName => quiet_writeTextIfChanged _ _
  · exact quiet_throw _

theorem quiet_exportTree (output : Path) : (exportTree s output).Quiet := by
  let f fs := Action.ofOutcome (compileTree s fs) >>= fun tree =>
    writeTextIfChanged output (treeText tree)
  have hf : ∀ fs, (f fs).Quiet := fun fs =>
    (quiet_ofOutcome _).bind fun _ => quiet_writeTextIfChanged output _
  exact quiet_byFiles hf

theorem quiet_generate : (generate s).Quiet := by
  have hmodule : (writeModule s).Quiet := by
    rw [writeModule_compiled_eq]
    refine (quiet_require _ _).bind fun path => ?_
    let f fs := Action.ofOutcome (compileModule s fs) >>= fun m => writeModule s path m
    have hf : ∀ fs, (f fs).Quiet := fun fs =>
      (quiet_ofOutcome _).bind fun m => quiet_writeModule s path m
    exact quiet_byFiles hf
  unfold generate
  refine hmodule.bind fun changed => ?_
  split
  · exact (quiet_writeDeclaration s none).bind fun declared => quiet_pure _
  · exact quiet_pure _

theorem quiet_writeRouter (output : Option Path) (overwrite useModuleName : Bool) :
    (writeRouter s output overwrite useModuleName).Quiet := by
  have hspecifier : ∀ path, (routesSpecifier s path useModuleName).Quiet := by
    intro path
    unfold routesSpecifier
    split
    · exact quiet_require _ _
    · refine (quiet_require _ _).bind fun module => ?_
      let f fs : Action String :=
        liftExcept (RouterComponent.importSpecifier (FileSystem.cwd fs) path module)
      have hf : ∀ fs, (f fs).Quiet := fun fs => quiet_liftExcept _
      exact quiet_byFiles hf
  rw [writeRouter_eq]
  refine (quiet_require _ _).bind fun path => (quiet_lookup path).bind fun item => ?_
  split
  · exact (quiet_note _).bind fun _ => quiet_pure _
  · exact (hspecifier path).bind fun _ => quiet_writeTextIfChanged path _

end

end PageRoutes
