import PageRoutes.Text.Blank

/-!
# Splitting at a separator

`split sep s` cuts `s` at every occurrence of the character `sep`; there is always one piece more
than there are separators, so the empty text has one empty piece. `join` puts the pieces together
again.

Main statements:

* `splitChars_append` — a text with a separator in it splits into the pieces of its two sides.
* `not_mem_of_mem_splitChars` — no piece holds the separator.
-/

namespace PageRoutes.Text

/-- The maximal runs between the occurrences of `sep`, empty ones included. -/
def splitChars (sep : Char) : List Char → List (List Char)
  | [] => [[]]
  | c :: cs =>
    if c = sep then [] :: splitChars sep cs
    else
      match splitChars sep cs with
      | [] => [[c]]
      | w :: ws => (c :: w) :: ws

theorem splitChars_ne_nil (sep : Char) (cs : List Char) : splitChars sep cs ≠ [] := by
  cases cs with
  | nil => simp [splitChars]
  | cons c cs =>
    unfold splitChars
    split
    · simp
    · split <;> simp

@[simp] theorem splitChars_cons_sep (sep : Char) (cs : List Char) :
    splitChars sep (sep :: cs) = [] :: splitChars sep cs := by
  simp [splitChars]

/-- A separator ends the pieces of what stands before it. -/
theorem splitChars_append (sep : Char) (as bs : List Char) :
    splitChars sep (as ++ sep :: bs) = splitChars sep as ++ splitChars sep bs := by
  induction as with
  | nil => simp [splitChars]
  | cons a as ih =>
    by_cases h : a = sep
    · subst h
      simp [splitChars, ih]
    · obtain ⟨w, ws, hw⟩ := List.exists_cons_of_ne_nil (splitChars_ne_nil sep as)
      simp [splitChars, h, ih, hw]

/-- A text without the separator is one piece. -/
theorem splitChars_of_not_mem {sep : Char} {cs : List Char} (h : sep ∉ cs) :
    splitChars sep cs = [cs] := by
  induction cs with
  | nil => rfl
  | cons c cs ih =>
    simp only [List.mem_cons, not_or] at h
    simp [splitChars, Ne.symm h.1, ih h.2]

/-- No piece holds the separator. -/
theorem not_mem_of_mem_splitChars {sep : Char} {cs w : List Char} (h : w ∈ splitChars sep cs) :
    sep ∉ w := by
  induction cs generalizing w with
  | nil => simp_all [splitChars]
  | cons c cs ih =>
    unfold splitChars at h
    split at h
    · rcases List.mem_cons.1 h with rfl | h
      · simp
      · exact ih h
    · next hc =>
      obtain ⟨v, vs, hv⟩ := List.exists_cons_of_ne_nil (splitChars_ne_nil sep cs)
      rw [hv] at h
      rcases List.mem_cons.1 h with rfl | h
      · simp [Ne.symm hc, ih (w := v) (by simp [hv])]
      · exact ih (by simp [hv, h])

/-- Pieces hold nothing but the characters of the text. -/
theorem mem_of_mem_splitChars {sep : Char} {cs w : List Char} (h : w ∈ splitChars sep cs)
    {c : Char} (hc : c ∈ w) : c ∈ cs := by
  induction cs generalizing w with
  | nil => simp_all [splitChars]
  | cons d cs ih =>
    unfold splitChars at h
    split at h
    · rcases List.mem_cons.1 h with rfl | h
      · simp at hc
      · exact List.mem_cons_of_mem _ (ih h hc)
    · obtain ⟨v, vs, hv⟩ := List.exists_cons_of_ne_nil (splitChars_ne_nil sep cs)
      rw [hv] at h
      rcases List.mem_cons.1 h with rfl | h
      · rcases List.mem_cons.1 hc with rfl | hc
        · simp
        · exact List.mem_cons_of_mem _ (ih (w := v) (by simp [hv]) hc)
      · exact List.mem_cons_of_mem _ (ih (by simp [hv, h]) hc)

/-- The pieces of a text between the occurrences of a separator. -/
def split (sep : Char) (s : String) : List String :=
  (splitChars sep s.toList).map String.ofList

/-- The words of a text: what stands between blank characters. -/
def words (s : String) : List String :=
  ((splitChars ' ' (s.toList.map fun c => if isBlank c then ' ' else c)).filter (· ≠ [])).map
    String.ofList

/-- The pieces put together with a separator between any two. -/
def join (sep : Char) (pieces : List String) : String :=
  (String.singleton sep).intercalate pieces

end PageRoutes.Text
