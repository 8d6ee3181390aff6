import PageRoutes.Proofs.ShownText

/-!
# Lines that are printed as they are

A message behind a mark is printed as it is if it is shown as it is and holds no character that the
console leaves out or turns into blanks.

* `Console.IsVerbatim` — those messages, by what they hold (`isVerbatim_between_iff`).
* `Console.isFlat_of_mem_line` — what the console never prints.
* `Console.line_eq_iff` — just those messages are printed as they are behind a mark.
-/

namespace PageRoutes

open Text

/-! ## Lines of the console -/

namespace Console

open Emoji Markup

/-- The character is printed as it is: it is no tab and is not left out. -/
def IsFlat (c : Char) : Prop :=
  c ≠ '\t' ∧ isDropped c = false

instance (c : Char) : Decidable (IsFlat c) :=
  inferInstanceAs (Decidable (_ ∧ _))

/-- The message holds no tag, no bracket that is protected by a backslash, and only characters that
are printed as they are. -/
structure IsVerbatim (message : List Char) : Prop where
  noTag : ¬HasTag message
  unprotected : ¬['\\', '['] <:+: message
  flat : ∀ c ∈ message, IsFlat c

/-- Whether a text is printed as it is does not depend on plain texts around it. -/
theorem isVerbatim_between_iff {before cs after : List Char}
    (hbefore : ∀ c ∈ before, c ≠ '[' ∧ c ≠ '\\' ∧ IsFlat c)
    (hafter : ∀ c ∈ after, c ≠ '[' ∧ c ≠ ']' ∧ IsFlat c) :
    IsVerbatim (before ++ cs ++ after) ↔ IsVerbatim cs := by
  have htag : HasTag (before ++ cs ++ after) ↔ HasTag cs := by
    rw [append_hasTag_iff fun h => (hafter _ h).2.1 rfl,
      hasTag_append_iff fun h => (hbefore _ h).1 rfl]
  have hback : ['\\', '['] <:+: before ++ cs ++ after ↔ ['\\', '['] <:+: cs := by
    constructor
    · rintro ⟨front, back, heq⟩
      rw [List.append_cons, List.append_assoc, List.singleton_append] at heq
      obtain ⟨back, heq, -⟩ := exists_of_append_eq (fun h => (hafter _ h).1 rfl) heq.symm
      rw [List.append_assoc, List.singleton_append] at heq
      obtain ⟨gap, -, rfl⟩ | ⟨gap, rfl, hgap⟩ := List.append_eq_append_iff.mp heq
      · exact ⟨gap, back, by simp⟩
      · cases gap with
        | nil => exact ⟨[], back, hgap⟩
        | cons d rest =>
          exact absurd (List.cons.inj hgap).1.symm (hbefore d (by simp)).2.1
    · exact fun h => h.trans ⟨before, after, rfl⟩
  constructor
  · rintro ⟨hno, hunprotected, hflat⟩
    exact ⟨mt htag.mpr hno, mt hback.mpr hunprotected, fun c hc => hflat c (by simp [hc])⟩
  · rintro ⟨hno, hunprotected, hflat⟩
    refine ⟨mt htag.mp hno, mt hback.mp hunprotected, fun c hc => ?_⟩
    rcases List.mem_append.mp hc with hc | hc
    · rcases List.mem_append.mp hc with hc | hc
      · exact (hbefore c hc).2.2
      · exact hflat c hc
    · exact (hafter c hc).2.2

variable {cs : List Char} {markup : String}

theorem mem_fillParts {parts : List (List Char)} {column : Nat} {c : Char}
    (h : c ∈ fillParts column parts) : c = ' ' ∨ ∃ part ∈ parts, c ∈ part := by
  fun_induction fillParts column parts with
  | case1 => cases h
  | case2 column part => exact .inr ⟨part, List.mem_cons_self, h⟩
  | case3 column part parts _ reached missing ih =>
    simp only [List.mem_append, List.mem_cons, List.mem_replicate] at h
    rcases h with (h | h | ⟨-, h⟩) | h
    · exact .inr ⟨part, List.mem_cons_self, h⟩
    · exact .inl h
    · exact .inl h
    · exact (ih h).imp_right fun ⟨other, hother, hc⟩ => ⟨other, List.mem_cons_of_mem _ hother, hc⟩

/-- In an expanded text there is no tab, and only blanks were added. -/
theorem of_mem_expandTabs {c : Char} (h : c ∈ expandTabs cs) : c ≠ '\t' ∧ (c = ' ' ∨ c ∈ cs) := by
  obtain rfl | ⟨part, hpart, hc⟩ := mem_fillParts h
  · exact ⟨by decide, .inl rfl⟩
  · refine ⟨?_, .inr (mem_of_mem_splitChars hpart hc)⟩
    rintro rfl
    exact not_mem_of_mem_splitChars hpart hc

theorem expandTabs_of_not_mem (h : '\t' ∉ cs) : expandTabs cs = cs := by
  rw [expandTabs, splitChars_of_not_mem h]
  rfl

/-- The lines of a text, each with a line feed behind it, are the text with one behind it. -/
theorem flatMap_splitChars (cs : List Char) :
    (splitChars '\n' cs).flatMap (· ++ ['\n']) = cs ++ ['\n'] := by
  induction cs with
  | nil => rfl
  | cons c cs ih =>
    by_cases hc : c = '\n'
    · subst hc
      rw [splitChars_cons_sep, List.flatMap_cons, ih]
      rfl
    · obtain ⟨w, ws, hw⟩ := List.exists_cons_of_ne_nil (splitChars_ne_nil '\n' cs)
      rw [hw, List.flatMap_cons] at ih
      rw [splitChars, if_neg hc, hw]
      exact congrArg (c :: ·) ih

theorem toList_line (markup : String) :
    (line markup).toList
      = (splitChars '\n' (shownChars markup)).flatMap fun cs => expandTabs cs ++ ['\n'] := by
  rw [line, unlines, linesOf, List.map_map, String.toList_join, List.flatMap_map]
  refine List.flatMap_congr fun part _ => ?_
  rw [Function.comp_apply, String.toList_append, String.toList_ofList]
  rfl

/-- **Everything that is printed is flat.** -/
theorem isFlat_of_mem_line {c : Char} (h : c ∈ (line markup).toList) : IsFlat c := by
  rw [toList_line, List.mem_flatMap] at h
  obtain ⟨part, hpart, hc⟩ := h
  rcases List.mem_append.mp hc with hc | hc
  · obtain ⟨htab, rfl | hc⟩ := of_mem_expandTabs hc
    · decide
    · have hkept := (List.mem_filter.mp (mem_of_mem_splitChars hpart hc)).2
      exact ⟨htab, by simpa using hkept⟩
  · rw [List.mem_singleton.mp hc]
    decide

/-- What is flat is printed as it is shown. -/
theorem toList_line_of_flat (h : ∀ c ∈ (shown markup).toList, IsFlat c) :
    (line markup).toList = (shown markup).toList ++ ['\n'] := by
  have hkept : shownChars markup = (shown markup).toList :=
    List.filter_eq_self.mpr fun c hc => by rw [(h c hc).2]; rfl
  rw [toList_line, hkept, ← flatMap_splitChars]
  refine List.flatMap_congr fun part hpart => ?_
  exact congrArg (· ++ _) (expandTabs_of_not_mem fun hmem =>
    (h '\t' (mem_of_mem_splitChars hpart hmem)).1 rfl)

/-! ## Messages behind a mark -/

/-- The mark is shown as a symbol, whatever stands behind it. -/
def MarksAs (symbol : Char) (mark : String) : Prop :=
  IsFlat symbol ∧
    ∀ message : String,
      (Markup.shown (mark ++ message)).toList = symbol :: (Markup.shown message).toList

theorem marksAs_styled {c symbol : Char} {name : List Char} (hc : startsTag c = true)
    (hname : ∀ d ∈ name, d ≠ ']' ∧ d ≠ '[')
    (hsymbol : IsFlat symbol ∧ symbol ≠ '[' ∧ symbol ≠ '\\' ∧ symbol ≠ ':') :
    MarksAs symbol (styled (String.ofList (c :: name)) (String.ofList [symbol])) := by
  obtain ⟨hflat, hbracket, hback, hcolon⟩ := hsymbol
  refine ⟨hflat, fun message => ?_⟩
  have htext : ∀ d ∈ [symbol], d ≠ '[' ∧ d ≠ '\\' :=
    List.forall_mem_singleton.mpr ⟨hbracket, hback⟩
  have hmarkup : (styled (String.ofList (c :: name)) (String.ofList [symbol]) ++ message).toList
      = '[' :: c :: (name ++ ']' :: ([symbol] ++ '[' :: '/' :: ']' :: message.toList)) := by
    simp [styled]
  have hnil : ¬HasCode [] := fun h => absurd (two_le_count_of_hasCode h) (by decide)
  have hcode : ¬HasCode [symbol] := by
    rw [hasCode_cons_iff]
    exact not_or.mpr ⟨fun hcloses => hcolon hcloses.1, hnil⟩
  have hplain : (Piece.plain [symbol]).shown = [symbol] := by
    rw [Piece.shown_plain hcode]
    exact unprotect_eq_self_iff.mpr fun hinside =>
      absurd hinside.length_le (Nat.not_succ_le_self 1)
  have hempty : (Piece.plain []).shown = [] := Piece.shown_plain hnil
  rw [Markup.shown, Markup.shown, String.toList_ofList, String.toList_ofList, hmarkup,
    pieces_styled hc hname htext]
  simp only [List.flatMap_cons, hplain, hempty]
  rfl

theorem marksAs_successMark : MarksAs '✓' successMark :=
  @marksAs_styled 'b' '✓' "old green".toList (by decide) (by simp) (by decide)

theorem marksAs_infoMark : MarksAs '•' infoMark :=
  @marksAs_styled 'c' '•' "yan".toList (by decide) (by simp) (by decide)

theorem marksAs_failureMark : MarksAs 'x' failureMark :=
  @marksAs_styled 'r' 'x' "ed".toList (by decide) (by simp) (by decide)

variable {symbol : Char} {mark message : String}

theorem not_hasCode_behind_blank (h : ¬HasCode message.toList) :
    ¬HasCode (" " ++ message).toList := by
  rw [String.toList_append]
  exact fun hcode => h ((hasCode_cons_iff.mp hcode).resolve_left fun ⟨heq, _⟩ =>
    absurd heq (by decide))

/-- Behind a blank a message is shown as it is just if it is shown as it is alone. -/
theorem shown_behind_blank_iff (h : ¬HasCode message.toList) :
    Markup.shown (" " ++ message) = " " ++ message
      ↔ ¬HasTag message.toList ∧ ¬['\\', '['] <:+: message.toList := by
  have hstart : ¬['\\', '['] <+: ' ' :: message.toList := fun ⟨_, heq⟩ =>
    absurd (List.cons.inj heq).1 (by decide)
  have hblank : (" " ++ message).toList = ' ' :: message.toList := String.toList_append
  rw [shown_eq_self_iff (not_hasCode_behind_blank h), hblank, hasTag_cons_iff, List.infix_cons_iff,
    or_iff_right hstart, or_iff_right fun ⟨heq, _⟩ => absurd heq (by decide)]

/-- Behind a mark a flat message is printed as it is shown. -/
theorem toList_line_behind_mark (hmark : MarksAs symbol mark) (h : ¬HasCode message.toList)
    (hflat : ∀ c ∈ message.toList, IsFlat c) :
    (line (mark ++ " " ++ message)).toList
      = symbol :: (Markup.shown (" " ++ message)).toList ++ ['\n'] := by
  have hmarked : (Markup.shown (mark ++ " " ++ message)).toList
      = symbol :: (Markup.shown (" " ++ message)).toList := by
    rw [String.append_assoc]
    exact hmark.2 _
  rw [toList_line_of_flat, hmarked]
  rw [hmarked]
  refine List.forall_mem_cons.mpr ⟨hmark.1, fun c hc => ?_⟩
  have hmem := (shown_sublist (not_hasCode_behind_blank h)).mem hc
  rw [String.toList_append] at hmem
  rcases List.mem_cons.mp hmem with rfl | hmem
  · decide
  · exact hflat c hmem

/-- **The messages that are printed as they are behind a mark.** -/
theorem line_eq_iff (hmark : MarksAs symbol mark) (h : ¬HasCode message.toList) :
    line (mark ++ " " ++ message) = String.singleton symbol ++ " " ++ message ++ "\n"
      ↔ IsVerbatim message.toList := by
  have hline : (∀ c ∈ message.toList, IsFlat c) →
      (line (mark ++ " " ++ message) = String.singleton symbol ++ " " ++ message ++ "\n"
        ↔ Markup.shown (" " ++ message) = " " ++ message) := by
    intro hflat
    have hreal : (String.singleton symbol ++ " " ++ message ++ "\n").toList
        = symbol :: (" " ++ message).toList ++ ['\n'] := by simp
    rw [← String.toList_inj, toList_line_behind_mark hmark h hflat, hreal, List.append_left_inj,
      List.cons_inj_right, String.toList_inj]
  constructor
  · intro heq
    have hflat : ∀ c ∈ message.toList, IsFlat c := fun c hc =>
      isFlat_of_mem_line (by rw [heq]; simp [hc])
    obtain ⟨hno, hback⟩ := (shown_behind_blank_iff h).mp ((hline hflat).mp heq)
    exact ⟨hno, hback, hflat⟩
  · rintro ⟨hno, hback, hflat⟩
    exact (hline hflat).mpr ((shown_behind_blank_iff h).mpr ⟨hno, hback⟩)

end Console

end PageRoutes
