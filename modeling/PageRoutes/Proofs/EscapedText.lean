import PageRoutes.Proofs.PrintedLines

/-!
# Escaped text between tags

A text that is escaped stands between two tags, and is to be shown as it is. The backslashes before
a tag of the text are doubled and one more is put before them, so that the tag is shown; all else
stays, but for a backslash at the end of the text, which is doubled because a tag follows.

* `Markup.text_induction` — a text is cut where its next bracket or other character stands behind
  backslashes, as the reader of markup does.
* `Markup.pieces_escapedChars_append` — the pieces of an escaped text are the pieces of the text,
  with their tags protected.
* `Markup.flatMap_shown_styled_escape` — what is shown of an escaped text between tags.
* `Console.linesOf_label` — the label of a route is one line.
-/

namespace PageRoutes

open Text

namespace Markup

open Emoji

variable {plain cs after tag rest : List Char} {c : Char}

/-! ## Texts cut at their brackets -/

/-- Backslashes stand before every other character, none of them perhaps. -/
theorem eq_replicate_append (h : afterLeading cs = c :: after) :
    cs = List.replicate (leading cs).length '\\' ++ c :: after ∧ c ≠ '\\' := by
  refine ⟨?_, ?_⟩
  · rw [← leading_eq_replicate, leading_append_cons h]
  · rintro rfl
    have hhead := List.head?_dropWhile_not (· == '\\') cs
    rw [afterLeading] at h
    simp [h] at hhead

/-- A text is made up from its end: it is nothing but backslashes, or behind some of them stands a
tag, or another character that begins none. -/
theorem text_induction {P : List Char → Prop} (hend : ∀ n, P (List.replicate n '\\'))
    (htag : ∀ n after tag rest, takeTag after = some (tag, rest) → P rest →
      P (List.replicate n '\\' ++ '[' :: after))
    (hplain : ∀ n c after, c ≠ '\\' → (c = '[' → takeTag after = none) → P after →
      P (List.replicate n '\\' ++ c :: after)) (cs : List Char) : P cs := by
  suffices h : ∀ _ : List Char, P cs from h []
  intro plain
  induction plain, cs using pieces.induct with
  | case1 plain cs hafter =>
    have hcs := leading_append_afterLeading cs
    rw [hafter, List.append_nil, leading_eq_replicate] at hcs
    exact hcs ▸ hend _
  | case2 plain cs after tag rest htake hafter ih =>
    rw [(eq_replicate_append hafter).1]
    exact htag _ _ _ _ htake ih
  | case3 plain cs after htake hafter ih =>
    obtain ⟨hcs, hc⟩ := eq_replicate_append hafter
    rw [hcs]
    exact hplain _ _ _ hc (fun _ => htake) ih
  | case4 plain cs c after hafter hc ih =>
    obtain ⟨hcs, hback⟩ := eq_replicate_append hafter
    rw [hcs]
    exact hplain _ _ _ hback (fun heq => absurd heq hc) ih

theorem pieces_replicate (plain : List Char) (n : Nat) :
    pieces plain (List.replicate n '\\') = [.plain (plain ++ List.replicate n '\\')] :=
  pieces_of_no_bracket _ _ (by simp [List.mem_replicate])

/-! ## Escaped characters -/

/-- The characters of a text with its tags protected. -/
def escapedChars (cs : List Char) : List Char :=
  (pieces [] cs).flatMap Piece.escaped

/-- The piece that a protected one is read as. -/
def Piece.guarded : Piece → Piece
  | .plain cs => .plain cs
  | .tag backslashes text => .tag (2 * backslashes + 1) text

/-- What is read already is not looked at again. -/
theorem flatMap_escaped_pieces (plain cs : List Char) :
    (pieces plain cs).flatMap Piece.escaped = plain ++ escapedChars cs := by
  unfold escapedChars
  induction cs using text_induction generalizing plain with
  | hend n => simp [pieces_replicate, Piece.escaped]
  | htag n after tag rest htake ih =>
    rw [pieces_replicate_tag plain n htake, pieces_replicate_tag [] n htake]
    rfl
  | hplain n c after hc hno ih =>
    rw [pieces_replicate_plain plain n hc hno, pieces_replicate_plain [] n hc hno, ih, ih ([] ++ _),
      List.nil_append, List.append_assoc]

theorem escapedChars_replicate (n : Nat) :
    escapedChars (List.replicate n '\\') = List.replicate n '\\' := by
  simp [escapedChars, pieces_replicate, Piece.escaped]

theorem escapedChars_tag (n : Nat) (h : takeTag after = some (tag, rest)) :
    escapedChars (List.replicate n '\\' ++ '[' :: after)
      = List.replicate (2 * n + 1) '\\' ++ '[' :: (tag ++ ']' :: escapedChars rest) := by
  simp [escapedChars, pieces_replicate_tag [] n h, Piece.escaped]

theorem escapedChars_plain (n : Nat) (hc : c ≠ '\\') (h : c = '[' → takeTag after = none) :
    escapedChars (List.replicate n '\\' ++ c :: after)
      = List.replicate n '\\' ++ c :: escapedChars after := by
  rw [escapedChars, pieces_replicate_plain [] n hc h, flatMap_escaped_pieces]
  simp

/-- A text and its escaped characters have the same end. -/
theorem getLast?_escapedChars (cs : List Char) : (escapedChars cs).getLast? = cs.getLast? := by
  induction cs using text_induction with
  | hend n => rw [escapedChars_replicate]
  | htag n after tag rest htake ih =>
    obtain ⟨rfl, -⟩ := takeTag_eq_some_iff.mp htake
    rw [escapedChars_tag n htake]
    simp [List.getLast?_append, List.getLast?_cons, ih]
  | hplain n c after hc hno ih =>
    rw [escapedChars_plain n hc hno]
    simp [List.getLast?_append, List.getLast?_cons, ih]

/-- A text without a tag begins none with backslashes behind it. -/
theorem takeTag_append_replicate (n : Nat) (h : takeTag cs = none) :
    takeTag (cs ++ List.replicate n '\\') = none := by
  rw [Option.eq_none_iff_forall_ne_some]
  rintro ⟨tag, rest⟩ htake
  obtain ⟨heq, htag⟩ := takeTag_eq_some_iff.mp htake
  obtain ⟨rest, rfl, -⟩ := exists_of_append_eq (by simp [List.mem_replicate]) heq
  rw [takeTag_eq_some_iff.mpr ⟨rfl, htag⟩] at h
  cases h

theorem escapedChars_append_replicate (cs : List Char) (n : Nat) :
    escapedChars (cs ++ List.replicate n '\\') = escapedChars cs ++ List.replicate n '\\' := by
  induction cs using text_induction with
  | hend m => rw [List.replicate_append_replicate, escapedChars_replicate, escapedChars_replicate,
      List.replicate_append_replicate]
  | htag m after tag rest htake ih =>
    have hlonger : takeTag (after ++ List.replicate n '\\')
        = some (tag, rest ++ List.replicate n '\\') := by
      obtain ⟨rfl, htag⟩ := takeTag_eq_some_iff.mp htake
      exact takeTag_eq_some_iff.mpr ⟨by simp, htag⟩
    rw [List.append_assoc, List.cons_append, escapedChars_tag m hlonger, escapedChars_tag m htake,
      ih]
    simp
  | hplain m c after hc hno ih =>
    rw [List.append_assoc, List.cons_append,
      escapedChars_plain m hc fun heq => takeTag_append_replicate n (hno heq),
      escapedChars_plain m hc hno, ih]
    simp

/-- Up to the first bracket that is left, escaping changes nothing. -/
theorem exists_escapedChars_append_eq (cs : List Char) (n : Nat) (rest : List Char) :
    ∃ front m back back', cs = front ++ back ∧
      escapedChars cs ++ (List.replicate n '\\' ++ '[' :: rest)
        = front ++ (List.replicate m '\\' ++ '[' :: back') := by
  induction cs using text_induction with
  | hend m => exact ⟨_, n, [], rest, (List.append_nil _).symm, by rw [escapedChars_replicate]⟩
  | htag m after tag rest' htake ih =>
    refine ⟨[], 2 * m + 1, _,
      (tag ++ ']' :: escapedChars rest') ++ (List.replicate n '\\' ++ '[' :: rest),
      (List.nil_append _).symm, ?_⟩
    simp [escapedChars_tag m htake]
  | hplain m c after hc hno ih =>
    obtain ⟨front, k, back, back', rfl, heq⟩ := ih
    refine ⟨List.replicate m '\\' ++ c :: front, k, back, back', by simp, ?_⟩
    rw [escapedChars_plain m hc hno, List.append_assoc, List.cons_append, heq]
    simp

/-- **Escaping makes no new tags**, though a tag may follow. -/
theorem takeTag_escapedChars_append (n : Nat) (h : takeTag cs = none) (rest : List Char) :
    takeTag (escapedChars cs ++ (List.replicate n '\\' ++ '[' :: rest)) = none := by
  rw [Option.eq_none_iff_forall_ne_some]
  rintro ⟨tag, behind⟩ htake
  obtain ⟨heq, htag⟩ := takeTag_eq_some_iff.mp htake
  obtain ⟨front, m, back, back', rfl, hescaped⟩ := exists_escapedChars_append_eq cs n rest
  rw [hescaped] at heq
  -- The closing bracket of the tag stands before the opening one, and before the backslashes.
  have hclosing : ∃ gap, front ++ List.replicate m '\\' = tag ++ ']' :: gap := by
    rw [← List.append_assoc] at heq
    obtain ⟨gap, rfl, hgap⟩ | ⟨gap, hfront, hgap⟩ := List.append_eq_append_iff.mp heq
    · cases gap with
      | nil => simp at hgap
      | cons d gap =>
        obtain ⟨rfl, -⟩ := List.cons.inj hgap
        exact absurd rfl (htag.2 '[' (by simp)).2
    · cases gap with
      | nil => simp at hgap
      | cons d gap =>
        obtain ⟨rfl, -⟩ := List.cons.inj hgap
        exact ⟨gap, hfront⟩
  obtain ⟨gap, hgap⟩ := hclosing
  obtain ⟨gap, rfl, -⟩ := exists_of_append_eq (by simp [List.mem_replicate]) hgap
  rw [List.append_assoc, List.cons_append, takeTag_eq_some_iff.mpr ⟨rfl, htag⟩] at h
  cases h

/-- **The pieces of an escaped text are those of the text, with its tags protected.** -/
theorem pieces_escapedChars_append (plain : List Char) {cs : List Char}
    (hlast : cs.getLast? ≠ some '\\') (n : Nat) (htag : IsTag tag) (rest : List Char) :
    pieces plain (escapedChars cs ++ (List.replicate n '\\' ++ '[' :: (tag ++ ']' :: rest)))
      = (pieces plain cs).map Piece.guarded ++ .tag n tag :: pieces [] rest := by
  have htake : ∀ {tag}, IsTag tag → ∀ rest, takeTag (tag ++ ']' :: rest) = some (tag, rest) :=
    fun htag rest => takeTag_eq_some_iff.mpr ⟨rfl, htag⟩
  induction cs using text_induction generalizing plain with
  | hend m =>
    obtain rfl : m = 0 := by
      cases m with
      | zero => rfl
      | succ m => simp [List.getLast?_replicate] at hlast
    rw [escapedChars_replicate, pieces_replicate]
    simp [pieces_replicate_tag plain n (htake htag rest), Piece.guarded]
  | htag m after tag' rest' hafter ih =>
    have htag' := (takeTag_eq_some_iff.mp hafter).2
    have hrest : rest'.getLast? ≠ some '\\' := by
      obtain ⟨rfl, -⟩ := takeTag_eq_some_iff.mp hafter
      intro heq
      simp [List.getLast?_append, List.getLast?_cons, heq] at hlast
    rw [escapedChars_tag m hafter, List.append_assoc, List.cons_append, List.append_assoc,
      List.cons_append, pieces_replicate_tag plain _ (htake htag' _), ih [] hrest,
      pieces_replicate_tag plain m hafter]
    rfl
  | hplain m c after hc hno ih =>
    have hrest : after.getLast? ≠ some '\\' := by
      intro heq
      simp [List.getLast?_append, List.getLast?_cons, heq] at hlast
    rw [escapedChars_plain m hc hno, List.append_assoc, List.cons_append,
      pieces_replicate_plain plain m hc fun heq => takeTag_escapedChars_append n (hno heq) _,
      ih _ hrest, pieces_replicate_plain plain m hc hno]

/-! ## What is shown of escaped text -/

/-- No bracket is protected by a backslash but the one of a tag. -/
def ProtectsTags (cs : List Char) : Prop :=
  ∀ before after, cs = before ++ '\\' :: '[' :: after → takeTag after ≠ none

theorem ProtectsTags.of_suffix (h : ProtectsTags cs) (hrest : rest <:+ cs) : ProtectsTags rest := by
  obtain ⟨front, rfl⟩ := hrest
  rintro before after rfl
  exact h (front ++ before) after (by simp)

theorem ProtectsTags.of_append_replicate {n : Nat}
    (h : ProtectsTags (cs ++ List.replicate n '\\')) : ProtectsTags cs := by
  rintro before after rfl hnone
  exact h before (after ++ List.replicate n '\\') (by simp) (takeTag_append_replicate n hnone)

/-- Two texts hold a protected bracket, or it begins in one of them and ends in the other. -/
theorem protected_append {xs ys : List Char} (h : ['\\', '['] <:+: xs ++ ys) :
    ['\\', '['] <:+: xs ∨ (xs.getLast? = some '\\' ∧ ys.head? = some '[') ∨
      ['\\', '['] <:+: ys := by
  obtain ⟨front, back, h⟩ := h
  rw [List.append_assoc] at h
  obtain ⟨gap, rfl, hgap⟩ | ⟨gap, -, hgap⟩ := List.append_eq_append_iff.mp h
  · rcases gap with _ | ⟨c, _ | ⟨d, gap⟩⟩
    · exact .inr (.inr ⟨[], back, by simpa using hgap⟩)
    · simp only [List.cons_append, List.nil_append, List.cons.injEq] at hgap
      obtain ⟨rfl, rfl⟩ := hgap
      exact .inr (.inl ⟨List.getLast?_concat, rfl⟩)
    · simp only [List.cons_append, List.nil_append, List.cons.injEq] at hgap
      obtain ⟨rfl, rfl, -⟩ := hgap
      exact .inl ⟨front, gap, by simp⟩
  · exact .inr (.inr ⟨gap, back, by simpa using hgap.symm⟩)

theorem not_protected_replicate (n : Nat) : ¬['\\', '['] <:+: List.replicate n '\\' := by
  intro h
  have hbracket : '[' ∈ List.replicate n '\\' := h.subset (by simp)
  simp [List.mem_replicate] at hbracket

/-- The text between the tags holds no protected bracket. -/
theorem not_protected_of_mem_pieces (hplain : ¬['\\', '['] <:+: plain)
    (hlast : plain.getLast? ≠ some '\\') (h : ProtectsTags cs) {text : List Char}
    (hmem : .plain text ∈ pieces plain cs) : ¬['\\', '['] <:+: text := by
  induction cs using text_induction generalizing plain with
  | hend n =>
    rw [pieces_replicate, List.mem_singleton, Piece.plain.injEq] at hmem
    subst hmem
    intro hinside
    rcases protected_append hinside with hinside | ⟨heq, -⟩ | hinside
    · exact hplain hinside
    · exact hlast heq
    · exact not_protected_replicate n hinside
  | htag n after tag rest htake ih =>
    rw [pieces_replicate_tag plain n htake] at hmem
    simp only [List.mem_cons, Piece.plain.injEq, reduceCtorEq, false_or] at hmem
    rcases hmem with rfl | hmem
    · exact hplain
    · obtain ⟨rfl, -⟩ := takeTag_eq_some_iff.mp htake
      have hrest : rest <:+ List.replicate n '\\' ++ '[' :: (tag ++ ']' :: rest) :=
        ⟨List.replicate n '\\' ++ '[' :: (tag ++ [']']), by simp⟩
      exact ih (by simp) (by simp) (h.of_suffix hrest) hmem
  | hplain n c after hc hno ih =>
    rw [pieces_replicate_plain plain n hc hno] at hmem
    have hbehind : after <:+ List.replicate n '\\' ++ c :: after :=
      ⟨List.replicate n '\\' ++ [c], by simp⟩
    refine ih (fun hinside => ?_) (by simp [List.getLast?_append, hc]) (h.of_suffix hbehind) hmem
    rcases protected_append hinside with hinside | ⟨heq, -⟩ | hinside
    · exact hplain hinside
    · exact hlast heq
    · rcases protected_append hinside with hinside | ⟨hback, hbracket⟩ | hinside
      · exact not_protected_replicate n hinside
      · -- The bracket begins no tag, but a backslash stands before it.
        obtain rfl : c = '[' := by simpa using hbracket
        cases n with
        | zero => simp at hback
        | succ n =>
          refine h (List.replicate n '\\') after ?_ (hno rfl)
          rw [List.replicate_succ', List.append_assoc]
          rfl
      · exact absurd hinside.length_le (by simp)

/-- A protected piece is shown as the piece was written. -/
theorem Piece.shown_guarded {piece : Piece} (htag : ∀ n tag, piece = .tag n tag → IsTag tag)
    (hplain : ∀ text, piece = .plain text → ¬['\\', '['] <:+: text) (h : ¬HasCode piece.text) :
    piece.guarded.shown = piece.text := by
  cases piece with
  | plain text =>
    exact (Piece.shown_plain h).trans (unprotect_eq_self_iff.mpr (hplain text rfl))
  | tag n tag =>
    have hcode : ¬HasCode (Piece.tag (2 * n + 1) tag).text := by
      rw [Piece.text, hasCode_append_iff (by simp [List.mem_replicate])] at h ⊢
      exact h
    rw [Piece.guarded, Piece.shown_tag (htag n tag rfl) hcode, Piece.text, if_pos (by omega)]
    congr 2
    omega

/-- **The pieces of a text, with their tags protected, are shown as the text.** -/
theorem flatMap_shown_guarded (hcode : ¬HasCode cs) (htags : ProtectsTags cs) :
    ((pieces [] cs).map Piece.guarded).flatMap Piece.shown = cs := by
  have hpieces : ∀ piece ∈ pieces [] cs, piece.guarded.shown = piece.text := by
    intro piece hpiece
    refine Piece.shown_guarded ?_ ?_ (not_hasCode_of_mem_pieces hcode piece hpiece)
    · rintro n tag rfl
      exact isTag_of_mem_pieces hpiece
    · rintro text rfl
      exact not_protected_of_mem_pieces (by simp) (by simp) htags hpiece
  rw [List.flatMap_map, List.flatMap_congr hpieces, flatMap_text_pieces, List.nil_append]

/-- Escaped, a text has its tags protected and a single backslash at its end doubled. -/
theorem toList_escape {text : String} {n : Nat} (htext : text.toList = cs ++ List.replicate n '\\')
    (hn : n ≤ 1) (hlast : cs.getLast? ≠ some '\\') :
    (escape text).toList = escapedChars cs ++ List.replicate (2 * n) '\\' := by
  have hescaped : (pieces [] text.toList).flatMap Piece.escaped
      = escapedChars cs ++ List.replicate n '\\' := by
    rw [htext, ← escapedChars_append_replicate, escapedChars]
  have hend : (escapedChars cs).reverse.head? ≠ some '\\' := by
    rw [List.head?_reverse, getLast?_escapedChars]
    exact hlast
  unfold escape
  simp only [hescaped]
  cases n with
  | zero =>
    simp only [List.replicate_zero, List.append_nil, Nat.mul_zero]
    split
    · next hreverse => simp [hreverse] at hend
    · next hreverse => simp [hreverse] at hend
    · rw [String.toList_ofList]
  | succ n =>
    obtain rfl : n = 0 := by omega
    simp only [List.reverse_append]
    cases hreverse : (escapedChars cs).reverse with
    | nil => simp [List.replicate_succ]
    | cons c rest =>
      rw [hreverse] at hend
      have hc : c ≠ '\\' := fun heq => hend (by rw [heq]; rfl)
      simp [hc, List.replicate_succ]

/-- A text without brackets and backslashes needs no escaping. -/
theorem escape_eq_self {text : String} (h : ∀ c ∈ text.toList, c ≠ '[' ∧ c ≠ '\\') :
    escape text = text := by
  have hlast : text.toList.getLast? ≠ some '\\' := fun hback =>
    (h _ (List.mem_of_getLast? hback)).2 rfl
  have hbracket : '[' ∉ text.toList := fun hmem => (h _ hmem).1 rfl
  have hescape := toList_escape (List.append_nil text.toList).symm (Nat.zero_le 1) hlast
  rw [escapedChars, pieces_of_no_bracket [] _ hbracket] at hescape
  exact String.toList_injective (by simpa [Piece.escaped] using hescape)

/-- A text that does not end in two backslashes ends in one or in none. -/
theorem exists_eq_append_replicate (h : ¬['\\', '\\'] <:+ cs) :
    ∃ body n, cs = body ++ List.replicate n '\\' ∧ n ≤ 1 ∧ body.getLast? ≠ some '\\' := by
  by_cases hlast : cs.getLast? = some '\\'
  · obtain ⟨body, rfl⟩ := List.getLast?_eq_some_iff.mp hlast
    refine ⟨body, 1, rfl, Nat.le_refl 1, fun hbody => h ?_⟩
    obtain ⟨front, rfl⟩ := List.getLast?_eq_some_iff.mp hbody
    exact ⟨front, by simp⟩
  · exact ⟨cs, 0, (List.append_nil _).symm, by omega, hlast⟩

instance (tag : List Char) : Decidable (IsTag tag) :=
  decidable_of_iff (tag.head?.any startsTag = true ∧ ∀ c ∈ tag, c ≠ ']' ∧ c ≠ '[') <| by
    rw [IsTag, Option.any_eq_true]
    simp only [Option.mem_def]

theorem toList_shown (markup : String) :
    (shown markup).toList = (pieces [] markup.toList).flatMap Piece.shown := by
  rw [shown, String.toList_ofList]

theorem shown_plain_nil : (Piece.plain []).shown = [] := by
  simp [Piece.shown, unprotect, replace]

theorem flatMap_shown_nil : (pieces [] []).flatMap Piece.shown = [] := by
  simp [pieces_of_no_bracket, shown_plain_nil]

/-- **What is shown of a text that is escaped between two tags**, with plain text in front and
anything behind. -/
theorem flatMap_shown_styled_escape (plain : List Char) {style text : String}
    (hstyle : IsTag style.toList) (hcode : ¬HasCode text.toList) (htags : ProtectsTags text.toList)
    (hend : ¬['\\', '\\'] <:+ text.toList) (rest : List Char) :
    (pieces plain ((styled style (escape text)).toList ++ rest)).flatMap Piece.shown
      = (Piece.plain plain).shown ++ (text.toList ++ (pieces [] rest).flatMap Piece.shown) := by
  obtain ⟨body, n, htext, hn, hlast⟩ := exists_eq_append_replicate hend
  have hclose : IsTag ['/'] := by decide
  have hmarkup : (styled style (escape text)).toList ++ rest
      = '[' :: (style.toList ++ ']' :: (escapedChars body ++
          (List.replicate (2 * n) '\\' ++ '[' :: (['/'] ++ ']' :: rest)))) := by
    simp [styled, toList_escape htext hn hlast]
  have hbody : ((pieces [] body).map Piece.guarded).flatMap Piece.shown = body := by
    rw [htext] at hcode htags
    exact flatMap_shown_guarded
      (mt (fun h => hasCode_of_infix h ( List.prefix_append _ _).isInfix) hcode)
      htags.of_append_replicate
  have hslash : (Piece.tag (2 * n) ['/']).shown = List.replicate n '\\' := by
    simp [Piece.shown]
  have hopen : (Piece.tag 0 style.toList).shown = [] := by
    simp [Piece.shown]
  rw [hmarkup, pieces_tag (takeTag_eq_some_iff.mpr ⟨rfl, hstyle⟩),
    pieces_escapedChars_append [] hlast _ hclose, List.flatMap_cons, List.flatMap_cons,
    List.flatMap_append, List.flatMap_cons, hopen, hbody, hslash, htext]
  simp

end Markup

/-! ## Lines of labels -/

namespace Console

open Markup

/-- A text that can be a label: it has no emoji code and no line break, all its characters are
printed as they are, and a backslash stands neither before a bracket, unless it begins a tag, nor
before another one at the end. -/
structure IsLabelText (text : String) : Prop where
  flat : ∀ c ∈ text.toList, IsFlat c ∧ c ≠ '\n'
  noCode : ¬HasCode text.toList
  protectsTags : ProtectsTags text.toList
  ending : ¬['\\', '\\'] <:+ text.toList

/-- Without backslashes two colons are all that can stand in the way, for they may enclose an emoji
code. -/
theorem isLabelText_of_no_backslash {text : String} (hflat : ∀ c ∈ text.toList, IsFlat c ∧ c ≠ '\n')
    (hcolon : text.toList.count ':' ≤ 1) (hback : '\\' ∉ text.toList) : IsLabelText text where
  flat := hflat
  noCode hcode := by
    have htwo := two_le_count_of_hasCode hcode
    omega
  protectsTags before after heq := absurd (by simp [heq]) hback
  ending hend := hback (hend.subset (by simp))

/-- What holds no line break and is printed as it is shown is one line. -/
theorem linesOf_of_flat {markup text : String} (hshown : (shown markup).toList = text.toList)
    (h : ∀ c ∈ text.toList, IsFlat c ∧ c ≠ '\n') : linesOf markup = [text] := by
  have hkept : shownChars markup = text.toList := by
    rw [shownChars, hshown]
    exact List.filter_eq_self.mpr fun c hc => by simp [(h c hc).1.2]
  have hfeed : '\n' ∉ text.toList := fun hmem => (h _ hmem).2 rfl
  have htab : '\t' ∉ text.toList := fun hmem => (h _ hmem).1.1 rfl
  rw [linesOf, hkept, splitChars_of_not_mem hfeed, List.map_singleton, expandTabs_of_not_mem htab,
    String.ofList_toList]

section

variable {text : String} (h : IsLabelText text)
include h

/-- Such a text is shown as it is when it is escaped between tags. -/
theorem IsLabelText.flatMap_shown (plain : List Char) {style : String} (hstyle : IsTag style.toList)
    (rest : List Char) :
    (pieces plain ((styled style (escape text)).toList ++ rest)).flatMap Piece.shown
      = (Piece.plain plain).shown ++ (text.toList ++ (pieces [] rest).flatMap Piece.shown) :=
  flatMap_shown_styled_escape plain hstyle h.noCode h.protectsTags h.ending rest

/-- **It is then one line.** -/
theorem IsLabelText.linesOf_styled {style : String} (hstyle : IsTag style.toList) :
    linesOf (styled style (escape text)) = [text] := by
  refine linesOf_of_flat ?_ h.flat
  have hshown := h.flatMap_shown [] hstyle []
  rwa [List.append_nil, shown_plain_nil, flatMap_shown_nil, List.append_nil, ← toList_shown]
    at hshown

end

/-- The text of a label: the path of a route, and behind a blank its view if it has one. -/
def labelText (path : String) (view : Option String) : String :=
  path ++ view.elim "" (" " ++ ·)

section

variable {path : String} {view : Option String} (hpath : IsLabelText path)
  (hview : ∀ text, view = some text → IsLabelText text)
include hpath hview

theorem isFlat_of_mem_labelText {c : Char} (hc : c ∈ (labelText path view).toList) :
    IsFlat c ∧ c ≠ '\n' := by
  rw [labelText, String.toList_append, List.mem_append] at hc
  rcases hc with hc | hc
  · exact hpath.flat c hc
  · cases view with
    | none => simp at hc
    | some view =>
      rw [Option.elim_some, String.toList_append, List.mem_append] at hc
      rcases hc with hc | hc
      · obtain rfl : c = ' ' := List.mem_singleton.mp hc
        decide
      · exact (hview view rfl).flat c hc

/-- **The label of a route is one line**, its text. -/
theorem linesOf_label : linesOf (label path view) = [labelText path view] := by
  have hbold : IsTag "bold".toList := by decide
  have hdim : IsTag "dim".toList := by decide
  have hblank : (Piece.plain [' ']).shown = [' '] := by
    simp [Piece.shown, unprotect, Emoji.replace]
  refine linesOf_of_flat ?_ fun c hc => isFlat_of_mem_labelText hpath hview hc
  unfold label
  rw [toList_shown, String.toList_append, hpath.flatMap_shown [] hbold, shown_plain_nil,
    List.nil_append, labelText, String.toList_append]
  congr 1
  cases view with
  | none => exact flatMap_shown_nil
  | some view =>
    have hdimmed := (hview view rfl).flatMap_shown [' '] hdim []
    rw [List.append_nil, hblank, flatMap_shown_nil, List.append_nil] at hdimmed
    have hmarkup : (" " ++ styled "dim" (escape view)).toList
        = ' ' :: (styled "dim" (escape view)).toList := String.toList_append
    rw [hmarkup, pieces_cons_plain (by decide) (by decide), List.nil_append, hdimmed,
      Option.elim_some, String.toList_append]
    rfl

end

end Console

end PageRoutes
