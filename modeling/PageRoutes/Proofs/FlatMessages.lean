import PageRoutes.Error
import PageRoutes.Proofs.PrintedLines

/-!
# Messages about routes on the console

What messages about routes quote is written so that only printable characters stand in them. So the
console changes such a message only where it reads it as markup.

* `RouteError.isFlatText_message` — no character of a message is left out or turned into blanks.
* `startFailure_eq_iff` — which failures of the generation at start are told as they are.
-/

namespace PageRoutes

open Text Console

/-! ## Characters that are printed as they are -/

/-- The text holds only characters that are printed as they are. -/
def IsFlatText (s : String) : Prop :=
  ∀ c ∈ s.toList, IsFlat c

instance (s : String) : Decidable (IsFlatText s) :=
  inferInstanceAs (Decidable (∀ c ∈ s.toList, IsFlat c))

theorem IsFlatText.append {s t : String} (hs : IsFlatText s) (ht : IsFlatText t) :
    IsFlatText (s ++ t) := by
  intro c hc
  rw [String.toList_append] at hc
  exact (List.mem_append.mp hc).elim (hs c) (ht c)

/-- A number is written in digits of its base. -/
theorem exists_digitChar_of_mem_toDigits {b n : Nat} (hb : 1 < b) {c : Char}
    (h : c ∈ Nat.toDigits b n) : ∃ d < b, c = Nat.digitChar d := by
  induction n using Nat.strongRecOn with
  | _ n ih =>
    by_cases hlt : n < b
    · rw [Nat.toDigits_of_lt_base hlt, List.mem_singleton] at h
      exact ⟨n, hlt, h⟩
    · rw [Nat.toDigits_of_base_le hb (Nat.not_lt.mp hlt)] at h
      rcases List.mem_append.mp h with h | h
      · exact ih (n / b) (Nat.div_lt_self (by omega) hb) h
      · exact ⟨n % b, Nat.mod_lt n (by omega), List.mem_singleton.mp h⟩

theorem isFlat_digitChar {d : Nat} (h : d < 16) : IsFlat (Nat.digitChar d) := by
  have hall : ∀ d ∈ List.range 16, IsFlat (Nat.digitChar d) := by decide
  exact hall d (List.mem_range.mpr h)

theorem isFlat_of_mem_hexDigits {width n : Nat} {c : Char} (h : c ∈ hexDigits width n) :
    IsFlat c := by
  rcases List.mem_append.mp h with h | h
  · rw [(List.mem_replicate.mp h).2]
    decide
  · obtain ⟨d, hd, rfl⟩ := exists_digitChar_of_mem_toDigits (by decide) h
    exact isFlat_digitChar hd

theorem exists_digitChar_of_mem_toString {n : Nat} {c : Char} (h : c ∈ (toString n).toList) :
    ∃ d < 10, c = Nat.digitChar d := by
  rw [Nat.toString_eq_repr, Nat.repr_eq_ofList_toDigits, String.toList_ofList] at h
  exact exists_digitChar_of_mem_toDigits (by decide) h

theorem isFlatText_nat (n : Nat) : IsFlatText (toString n) := by
  intro c hc
  obtain ⟨d, hd, rfl⟩ := exists_digitChar_of_mem_toString hc
  exact isFlat_digitChar (by omega)

theorem isFlatText_int (n : Int) : IsFlatText (toString n) := by
  cases n with
  | ofNat n => exact isFlatText_nat n
  | negSucc n => exact IsFlatText.append (by decide : IsFlatText "-") (isFlatText_nat (n + 1))

theorem isFlat_of_isPrintable {c : Char} (h : isPrintable c = true) : IsFlat c := by
  have hall : ∀ d ∈ ['\t', '\x07', '\x08', '\x0b', '\x0c', '\r'], isPrintable d = false := by
    decide
  have hne : c ∉ ['\t', '\x07', '\x08', '\x0b', '\x0c', '\r'] := fun hmem => by
    rw [hall c hmem] at h
    cases h
  simpa [IsFlat, isDropped, and_assoc] using hne

theorem isFlat_of_mem_quoteChar {q c d : Char} (hq : IsFlat q) (h : d ∈ quoteChar q c) :
    IsFlat d := by
  have hback : IsFlat '\\' := by decide
  unfold quoteChar at h
  split at h
  · next hc =>
    simp only [List.mem_cons, List.not_mem_nil, or_false] at h
    rcases h with rfl | rfl
    · exact hback
    · rcases hc with rfl | rfl
      · exact hq
      · exact hback
  split at h
  · revert d
    decide
  split at h
  · revert d
    decide
  split at h
  · revert d
    decide
  split at h
  · next hprintable =>
    rw [List.mem_singleton.mp h]
    exact isFlat_of_isPrintable hprintable
  -- What is left is a backslash, a letter and hexadecimal digits.
  have hcode : ∀ letter ∈ ['x', 'u', 'U'], ∀ width n, d ∈ '\\' :: letter :: hexDigits width n →
      IsFlat d := by
    intro letter hletter width n hmem
    rcases List.mem_cons.mp hmem with rfl | hmem
    · exact hback
    have hletters : ∀ letter ∈ ['x', 'u', 'U'], IsFlat letter := by decide
    rcases List.mem_cons.mp hmem with rfl | hmem
    · exact hletters _ hletter
    · exact isFlat_of_mem_hexDigits hmem
  dsimp only at h
  split at h
  · exact hcode 'x' (by simp) _ _ h
  split at h
  · exact hcode 'u' (by simp) _ _ h
  · exact hcode 'U' (by simp) _ _ h

/-- **Between quotes there are only characters that are printed as they are.** -/
theorem isFlatText_quote (s : String) : IsFlatText (quote s) := by
  have hq : IsFlat (quoteFor s.toList) := by
    unfold quoteFor
    split <;> decide
  intro c hc
  rw [quote, String.toList_ofList] at hc
  rcases List.mem_append.mp hc with hc | hc
  · rcases List.mem_cons.mp hc with rfl | hc
    · exact hq
    · obtain ⟨d, -, hmem⟩ := List.mem_flatMap.mp hc
      exact isFlat_of_mem_quoteChar hq hmem
  · rw [List.mem_singleton.mp hc]
    exact hq

/-- **A message about routes holds only characters that are printed as they are.** -/
theorem RouteError.isFlatText_message (e : RouteError) : IsFlatText e.message := by
  cases e with
  | invalidOptions fault =>
    cases fault with
    | missingRoot => decide
    | missingExtensions => decide
    | unknownPolicy given =>
      have hgiven : IsFlatText ((given.map quote).getD absentText) := by
        cases given with
        | none => decide
        | some name => exact isFlatText_quote name
      refine .append (.append (.append (.append ?_ hgiven) ?_) ?_) ?_ <;> decide +kernel
    | missingDirectory root =>
      refine .append (.append ?_ (isFlatText_quote _)) ?_ <;> decide
  | outsideRoot file root =>
    refine .append (.append (.append (.append ?_ (isFlatText_quote _)) ?_)
      (isFlatText_quote _)) ?_ <;> decide
  | ambiguousRoute route first second =>
    refine .append (.append (.append (.append (.append (.append ?_ (isFlatText_quote _)) ?_)
      (isFlatText_quote _)) ?_) (isFlatText_quote _)) ?_ <;> decide
  | bindingMismatch expected emitted =>
    have hexpected : IsFlatText ((expected.map toString).getD absentText) := by
      cases expected with
      | none => decide
      | some n => exact isFlatText_int n
    refine .append (.append (.append (.append ?_ hexpected) ?_) (isFlatText_nat _)) ?_ <;> decide

/-! ## Failures at start -/

open Emoji Markup

/-- What is to be shown where the generation at start fails. -/
def startFailureMarkup (e : RouteError) : String :=
  failureMark ++ " " ++ ("Route generation failed: " ++ e.message)

/-- What is printed there. -/
def startFailure (e : RouteError) : String :=
  Console.line (startFailureMarkup e)

/-- No code is in a message behind these words if none is in the message. -/
theorem not_hasCode_behind_failed {message : String} (h : ¬HasCode message.toList) :
    ¬HasCode ("Route generation failed: " ++ message).toList := by
  have hwords : ("Route generation failed: " ++ message).toList
      = "Route generation failed".toList ++ (':' :: ' ' :: message.toList) := by
    rw [String.toList_append]
    rfl
  rw [hwords, hasCode_append_iff (by decide), hasCode_cons_iff, hasCode_cons_iff]
  rintro (⟨-, hcode⟩ | ⟨heq, -⟩ | hcode)
  · exact not_closesCode_blank hcode
  · exact absurd heq (by decide)
  · exact h hcode

/-- **A failure at start is told as it is** unless there is a tag in the message, or a bracket that
is protected by a backslash. -/
theorem startFailure_eq_iff {e : RouteError} (h : ¬HasCode e.message.toList) :
    startFailure e = "x Route generation failed: " ++ e.message ++ "\n"
      ↔ ¬HasTag e.message.toList ∧ ¬['\\', '['] <:+: e.message.toList := by
  have hwords : String.singleton 'x' ++ " " ++ ("Route generation failed: " ++ e.message) ++ "\n"
      = "x Route generation failed: " ++ e.message ++ "\n" := by
    rw [← String.append_assoc]
    rfl
  have hbetween : IsVerbatim ("Route generation failed: ".toList ++ e.message.toList ++ [])
      ↔ IsVerbatim e.message.toList := isVerbatim_between_iff (by decide) (by decide)
  rw [startFailure, startFailureMarkup, ← hwords,
    line_eq_iff marksAs_failureMark (not_hasCode_behind_failed h), String.toList_append,
    ← List.append_nil (_ ++ _), hbetween]
  exact ⟨fun h => ⟨h.noTag, h.unprotected⟩, fun ⟨hno, hback⟩ => ⟨hno, hback, e.isFlatText_message⟩⟩

end PageRoutes
