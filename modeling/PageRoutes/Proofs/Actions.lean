import PageRoutes.Project
import PageRoutes.Proofs.Frames

/-!
# What actions do

An action that is made of several ones succeeds just if each of them does, one after the other
(`eval_bind_eq_ok_iff`). From that follows what bringing a file up to date does.

* `eval_writeIfChanged_of_holds` — if the file is as it should be, nothing happens.
* `writeIfChanged_eq_ok` — if it succeeds, the file is as it should be, and no other file changed.
-/

namespace PageRoutes

open Text FileSystem

namespace Action

variable {α β : Type}

/-- What an action does: its result, and the workspace that it leaves behind. -/
def eval (x : Action α) (w : Workspace) : Except Failure α × Workspace :=
  x.run.run w

@[simp] theorem eval_pure (a : α) (w : Workspace) : (pure a : Action α).eval w = (.ok a, w) := rfl

@[simp] theorem eval_throw (e : Failure) (w : Workspace) :
    (throw e : Action α).eval w = (.error e, w) := rfl

@[simp] theorem eval_get (w : Workspace) : (get : Action Workspace).eval w = (.ok w, w) := rfl

@[simp] theorem eval_set (w w' : Workspace) : (set w' : Action Unit).eval w = (.ok (), w') := rfl

@[simp] theorem eval_modify (f : Workspace → Workspace) (w : Workspace) :
    (modify f : Action Unit).eval w = (.ok (), f w) := rfl

@[simp] theorem eval_liftExcept (x : Except Failure α) (w : Workspace) :
    (liftExcept x : Action α).eval w = (x, w) := by
  cases x <;> rfl

theorem eval_bind (x : Action α) (f : α → Action β) (w : Workspace) :
    (x >>= f).eval w
      = match x.eval w with
        | (.ok a, w) => (f a).eval w
        | (.error e, w) => (.error e, w) := by
  simp only [eval, ExceptT.run_bind, StateT.run_bind]
  rcases (x.run.run w : Except Failure α × Workspace) with ⟨_ | a, w₁⟩ <;> rfl

/-- **An action made of two succeeds just if both do**, one after the other. -/
theorem eval_bind_eq_ok_iff {x : Action α} {f : α → Action β} {w w' : Workspace} {b : β} :
    (x >>= f).eval w = (.ok b, w')
      ↔ ∃ a w₁, x.eval w = (.ok a, w₁) ∧ (f a).eval w₁ = (.ok b, w') := by
  rw [eval_bind]
  rcases x.eval w with ⟨_ | a, w₁⟩
  · simp
  · simp

/-- It fails if the first one does, or the second one after a success of the first. -/
theorem eval_bind_eq_error_iff {x : Action α} {f : α → Action β} {w w' : Workspace} {e : Failure} :
    (x >>= f).eval w = (.error e, w')
      ↔ x.eval w = (.error e, w') ∨
        ∃ a w₁, x.eval w = (.ok a, w₁) ∧ (f a).eval w₁ = (.error e, w') := by
  rw [eval_bind]
  rcases x.eval w with ⟨_ | a, w₁⟩
  · simp
  · simp

/-- After a success the rest is done. -/
theorem eval_bind_of_ok {x : Action α} {a : α} {w w₁ : Workspace} (h : x.eval w = (.ok a, w₁))
    (f : α → Action β) : (x >>= f).eval w = (f a).eval w₁ := by
  rw [eval_bind, h]

/-- After a failure nothing more is done. -/
theorem eval_bind_of_error {x : Action α} {e : Failure} {w w₁ : Workspace}
    (h : x.eval w = (.error e, w₁)) (f : α → Action β) : (x >>= f).eval w = (.error e, w₁) := by
  rw [eval_bind, h]

/-- A failure is handled where it left the workspace. -/
theorem eval_tryCatch (x : Action α) (handle : Failure → Action α) (w : Workspace) :
    (tryCatch x handle).eval w
      = match x.eval w with
        | (.ok a, w) => (.ok a, w)
        | (.error e, w) => (handle e).eval w := by
  show (ExceptT.tryCatch x handle).run.run w = _
  rw [ExceptT.tryCatch, ExceptT.run_mk, StateT.run_bind]
  rcases hx : x.eval w with ⟨_ | a, w₁⟩
  · rw [show StateT.run x w = (.error _, w₁) from hx]
    rfl
  · rw [show StateT.run x w = (.ok a, w₁) from hx]
    rfl

theorem eval_note (entry : LogEntry) (w : Workspace) :
    (note entry).eval w = (.ok (), { w with log := w.log ++ [entry] }) := rfl

theorem eval_print (text : String) (w : Workspace) :
    (print text).eval w = (.ok (), { w with printed := w.printed ++ text }) := rfl

/-- A message is printed unless the console refuses it. -/
theorem eval_say (mark message : String) (w : Workspace) :
    (say mark message).eval w
      = match Console.fault? (mark ++ " " ++ message) with
        | some fault => (.error (.markup fault), w)
        | none => (.ok (), { w with
            printed := w.printed ++ Console.line (mark ++ " " ++ message) }) := by
  unfold say
  dsimp only
  cases Console.fault? (mark ++ " " ++ message) <;> rfl

theorem eval_ofOutcome (o : Outcome Failure α) (w : Workspace) :
    (ofOutcome o).eval w = (o.result, { w with log := w.log ++ o.log }) := by
  rw [ofOutcome, eval_bind_of_ok (eval_modify _ w), eval_liftExcept]

theorem eval_require (what : Needed) (a? : Option α) (w : Workspace) :
    (require what a?).eval w = (PageRoutes.require what a?, w) := eval_liftExcept _ _

theorem eval_require_of_some {what : Needed} {a? : Option α} {a : α} (h : a? = some a)
    (w : Workspace) : (require what a?).eval w = (.ok a, w) := by
  rw [eval_require, h]
  rfl

/-- An action that needs something succeeds only if it is there. -/
theorem of_eval_require_bind {what : Needed} {a? : Option α} {f : α → Action β} {w w' : Workspace}
    {b : β} (h : (require what a? >>= f).eval w = (.ok b, w')) :
    ∃ a, a? = some a ∧ (f a).eval w = (.ok b, w') := by
  cases a? with
  | none =>
    rw [eval_bind, eval_require] at h
    cases h
  | some a => exact ⟨a, rfl, (eval_bind_of_ok (eval_require_of_some rfl w) f).symm.trans h⟩

theorem eval_lookup (p : Path) (w : Workspace) :
    (lookup p).eval w
      = (if p.hasNul then .ok none else (w.files.lookup p).mapError Failure.file, w) := by
  unfold lookup
  split
  · rfl
  · show ((get : Action Workspace) >>= _).eval w = _
    rw [eval_bind_of_ok (eval_get w), eval_liftExcept]

theorem eval_changeFiles (change : FileSystem → Except FileError Unit × FileSystem)
    (w : Workspace) :
    (changeFiles change).eval w
      = ((change w.files).1.mapError Failure.file, { w with files := (change w.files).2 }) := by
  rw [changeFiles, eval_bind_of_ok (eval_get w)]
  dsimp only
  rw [eval_bind_of_ok (eval_set w _), eval_liftExcept]

variable {p : Path} {bytes : Bytes} {w w' : Workspace}

/-- A failure at the start is the failure of the whole. -/
theorem eval_throw_bind_ne_ok {e : Failure} {f : α → Action β} {b : β} :
    ((throw e : Action α) >>= f).eval w ≠ (.ok b, w') := by
  rw [eval_bind, eval_throw]
  simp

/-- Making directories changes no file. -/
theorem frame_makeDirectories (h : (makeDirectories p).eval w = (.ok (), w'))
    (targets : List Address) : Frame targets w.files w'.files := by
  unfold makeDirectories at h
  dsimp only at h
  split at h
  · exact absurd h eval_throw_bind_ne_ok
  · rw [eval_changeFiles] at h
    obtain rfl := (Prod.mk.inj h).2
    exact FileSystem.frame_makeDirectories w.files p

theorem writeFile_eq_ok (h : (writeFile p bytes).eval w = (.ok (), w')) :
    p.hasNul = false ∧ w.files.writeFile p bytes = .ok w'.files := by
  unfold writeFile at h
  dsimp only at h
  split at h
  · exact absurd h eval_throw_bind_ne_ok
  · next hnul =>
    rw [eval_changeFiles] at h
    obtain ⟨hresult, rfl⟩ := Prod.mk.inj h
    refine ⟨Bool.not_eq_true _ ▸ hnul, ?_⟩
    cases hwrite : w.files.writeFile p bytes with
    | ok fs => rfl
    | error e =>
      rw [hwrite] at hresult
      exact nomatch mapError_eq_ok_iff.mp hresult

end Action

/-! ## Bringing a file up to date -/

section

variable {p : Path} {bytes : Bytes} {w w' : Workspace} {changed : Bool}

/-- **If the file is as it should be, nothing happens.** -/
theorem eval_writeIfChanged_of_holds (h : w.files.Holds p (withLineFeed bytes)) :
    (writeIfChanged p bytes).eval w = (.ok false, w) := by
  have hlookup : (Action.lookup p).eval w = (.ok (some (.file (withLineFeed bytes))), w) := by
    rw [Action.eval_lookup, h.1, h.2]
    rfl
  unfold writeIfChanged
  rw [Action.eval_bind_of_ok hlookup, if_pos rfl, Action.eval_pure]

/-- **If it succeeds, the file is as it should be**, and no other file changed. -/
theorem writeIfChanged_eq_ok (h : (writeIfChanged p bytes).eval w = (.ok changed, w')) :
    w'.files.Holds p (withLineFeed bytes) ∧
      Frame [p.resolve w.files.cwd] w.files w'.files := by
  unfold writeIfChanged at h
  obtain ⟨item, w₁, hlookup, h⟩ := Action.eval_bind_eq_ok_iff.mp h
  rw [Action.eval_lookup] at hlookup
  obtain ⟨hitem, rfl⟩ := Prod.mk.inj hlookup
  split at h
  · next hsame =>
    -- The file is there as it should be.
    obtain rfl := (Prod.mk.inj h).2
    rw [hsame] at hitem
    split at hitem
    · exact absurd hitem (by simp)
    · next hnul =>
      exact ⟨⟨Bool.not_eq_true _ ▸ hnul, mapError_eq_ok_iff.mp hitem⟩, .refl _ _⟩
  · obtain ⟨_, w₂, hmake, h⟩ := Action.eval_bind_eq_ok_iff.mp h
    obtain ⟨_, w₃, hwrite, h⟩ := Action.eval_bind_eq_ok_iff.mp h
    obtain rfl := (Prod.mk.inj h).2
    have hdirectories := Action.frame_makeDirectories hmake [p.resolve w.files.cwd]
    obtain ⟨hnul, hwrite⟩ := Action.writeFile_eq_ok hwrite
    have hfile := frame_writeFile hwrite
    rw [hdirectories.resolve_eq] at hfile
    exact ⟨⟨hnul, lookup_writeFile hwrite⟩, hdirectories.trans hfile⟩

/-- To a text that ends in a line feed none is added. -/
theorem withLineFeed_utf8Bytes {text : String} (h : text.toList.getLast? = some '\n') :
    withLineFeed (Encoding.utf8Bytes text) = Encoding.utf8Bytes text := by
  obtain ⟨cs, hcs⟩ := List.getLast?_eq_some_iff.mp h
  have hlast : (Encoding.utf8Bytes text).getLast? = some 0x0A := by
    rw [Encoding.utf8Bytes, hcs, List.flatMap_append]
    exact List.getLast?_concat
  rw [withLineFeed, if_pos hlast]

/-- Every text can be written in UTF-8. -/
theorem writeTextIfChanged_eq (p : Path) (text : String) :
    writeTextIfChanged p text = writeIfChanged p (Encoding.utf8Bytes text) := by
  rw [writeTextIfChanged, Encoding.encode?_utf8]

end

end PageRoutes
