import PageRoutes.Error

/-!
# Log entries and outcomes

Compiling a tree or a project leaves log entries, whether it succeeds or not. An `Outcome` is the
result of a compilation together with the entries made on the way.
-/

namespace PageRoutes

open Text

/-- What is worth an entry in the log. -/
inductive LogEntry where
  /-- A view file took over the route of an earlier one. -/
  | routeReplaced (route earlier later : String)
  /-- The view files under the pages root were found. -/
  | discovered (count : Nat) (root : Address)
  /-- The routes module did not change. -/
  | moduleUpToDate (path : Path)
  /-- A generation at start changed nothing. -/
  | startUpToDate
  /-- No generation happens at start. -/
  | startDisabled
  /-- The router component is there and stays as it is. -/
  | routerExists (path : Path)
deriving DecidableEq, Repr

/-- An entry as the log shows it, its level first. -/
def LogEntry.text : LogEntry → String
  | routeReplaced route earlier later =>
    "WARNING Route " ++ quote route ++ " from " ++ earlier ++ " replaced by " ++ later
  | discovered count root =>
    "DEBUG Discovered " ++ toString count ++ " view files under " ++ root.text
  | moduleUpToDate path => "DEBUG Routes module " ++ path.text ++ " is up to date"
  | startUpToDate => "DEBUG Routes module already up to date"
  | startDisabled => "DEBUG Route generation on startup is disabled"
  | routerExists path => "DEBUG Router component " ++ path.text ++ " exists, skipping"

/-- The result of a compilation, or its error of type `ε`, and the log entries made on the way. -/
structure Outcome (ε α : Type) where
  log : List LogEntry
  result : Except ε α
deriving Repr

/-- Seeing an error in another way changes no value. -/
theorem mapError_eq_ok_iff {ε ε' α : Type} {f : ε → ε'} {x : Except ε α} {a : α} :
    x.mapError f = .ok a ↔ x = .ok a := by
  cases x with
  | error e => exact ⟨nofun, nofun⟩
  | ok b =>
    exact ⟨fun h => Except.ok.inj h ▸ rfl, fun h => Except.ok.inj h ▸ rfl⟩

/-- Seen in another way, an error is the other view of an error. -/
theorem mapError_eq_error_iff {ε ε' α : Type} {f : ε → ε'} {x : Except ε α} {e' : ε'} :
    x.mapError f = .error e' ↔ ∃ e, x = .error e ∧ f e = e' := by
  cases x with
  | error e =>
    exact ⟨fun h => ⟨e, rfl, Except.error.inj h⟩, fun ⟨_, h, he⟩ => Except.error.inj h ▸ he ▸ rfl⟩
  | ok a => exact ⟨nofun, nofun⟩

namespace Outcome

variable {ε α β : Type}

/-- A value reached without an entry. -/
def pure (a : α) : Outcome ε α := ⟨[], .ok a⟩

/-- A failure met without an entry. -/
def fail (error : ε) : Outcome ε α := ⟨[], .error error⟩

/-- A result that comes without an entry. -/
def ofExcept (result : Except ε α) : Outcome ε α := ⟨[], result⟩

/-- Makes one entry. -/
def note (entry : LogEntry) : Outcome ε Unit := ⟨[entry], .ok ()⟩

/-- Goes on with the value reached, if there is one; the entries are kept in order. -/
def bind (x : Outcome ε α) (f : α → Outcome ε β) : Outcome ε β :=
  match x.result with
  | .ok a => ⟨x.log ++ (f a).log, (f a).result⟩
  | .error e => ⟨x.log, .error e⟩

/-- The same outcome with its error, if there is one, seen as another kind of error. -/
def mapError {ε' : Type} (f : ε → ε') (x : Outcome ε α) : Outcome ε' α :=
  ⟨x.log, x.result.mapError f⟩

instance : Monad (Outcome ε) where
  pure := Outcome.pure
  bind := Outcome.bind

@[simp] theorem result_ofExcept (result : Except ε α) : (ofExcept result).result = result := rfl

theorem ofExcept_ok (a : α) : (ofExcept (.ok a) : Outcome ε α) = pure a := rfl

/-- A value reached without an entry only hands itself on. -/
theorem pure_bind (a : α) (f : α → Outcome ε β) : bind (pure a) f = f a := by
  simp [pure, bind]

/-- Steps may be grouped in any way. -/
theorem bind_assoc {γ : Type} (x : Outcome ε α) (f : α → Outcome ε β) (g : β → Outcome ε γ) :
    bind (bind x f) g = bind x fun a => bind (f a) g := by
  obtain ⟨log, _ | a⟩ := x
  · rfl
  · simp only [bind]
    cases (f a).result <;> simp

/-- A value at the end goes on as it is. -/
theorem bind_pure (x : Outcome ε α) : bind x pure = x := by
  obtain ⟨log, _ | a⟩ := x <;> simp [bind, pure]

/-- Two steps in a row reach a value through the value that the first one reaches. -/
theorem result_bind_eq_ok_iff {x : Outcome ε α} {f : α → Outcome ε β} {b : β} :
    (bind x f).result = .ok b ↔ ∃ a, x.result = .ok a ∧ (f a).result = .ok b := by
  obtain ⟨log, _ | a⟩ := x <;> simp [bind]

/-- They fail if the first one does, or the second one with the value that the first one reaches. -/
theorem result_bind_eq_error_iff {x : Outcome ε α} {f : α → Outcome ε β} {e : ε} :
    (bind x f).result = .error e
      ↔ x.result = .error e ∨ ∃ a, x.result = .ok a ∧ (f a).result = .error e := by
  obtain ⟨log, _ | a⟩ := x <;> simp [bind]

/-- Seeing errors in another way changes no value. -/
theorem result_mapError_eq_ok_iff {ε' : Type} {f : ε → ε'} {x : Outcome ε α} {a : α} :
    (x.mapError f).result = .ok a ↔ x.result = .ok a :=
  mapError_eq_ok_iff

/-- After a value was reached the entries of the next step are added. -/
theorem bind_of_ok {x : Outcome ε α} {f : α → Outcome ε β} {log log' : List LogEntry} {a : α}
    {b : β} (hx : x = ⟨log, .ok a⟩) (hf : f a = ⟨log', .ok b⟩) :
    bind x f = ⟨log ++ log', .ok b⟩ := by
  simp [bind, hx, hf]

end Outcome

end PageRoutes
