import Mathlib.Data.List.Basic
import PageRoutes.Proofs.Refusals

/-!
# Text that is shown as it is

Console text is marked-up text: a message is shown as it is only if nothing in it is read as markup.
Here this is told by what the message holds.

* `Markup.HasCode`, `Markup.HasTag` — an emoji code, or a tag, is somewhere in a text.
* `Markup.hasTag_iff` — a text has a tag just if one is among its pieces.
* `Markup.shown_eq_self_iff` — the texts without emoji codes that are shown as they are.
-/

namespace PageRoutes

open Text

/-- What is said of the characters of a text is decided by looking at each of them, and not at all
characters that there are. -/
instance Text.decidableForallMem {p : Char → Prop} [DecidablePred p] (cs : List Char) :
    Decidable (∀ c ∈ cs, p c) :=
  List.decidableBAll p cs

/-- A character that is not in the end of a text is before it. -/
theorem Text.exists_of_append_eq {cs after front back : List Char} {c : Char} (hc : c ∉ after)
    (h : cs ++ after = front ++ c :: back) :
    ∃ rest, cs = front ++ c :: rest ∧ back = rest ++ after := by
  obtain ⟨gap, -, rfl⟩ | ⟨gap, rfl, hgap⟩ := List.append_eq_append_iff.mp h
  · exact absurd (List.mem_append_right _ List.mem_cons_self) hc
  · cases gap with
    | nil =>
      rw [List.nil_append] at hgap
      exact absurd (hgap ▸ List.mem_cons_self) hc
    | cons d rest =>
      obtain ⟨rfl, rfl⟩ := List.cons.inj hgap
      exact ⟨rest, rfl, rfl⟩

/-! ## Emoji codes -/

namespace Emoji

/-- What stands between the colons of an emoji code. -/
def IsCode (code : List Char) : Prop :=
  (∀ c ∈ code, c ≠ ':' ∧ isBlank c = false) ∧ shown code ≠ ':' :: code ++ [':']

theorem of_takeCode_eq_some {cs code rest : List Char} (h : takeCode cs = some (code, rest)) :
    cs = code ++ ':' :: rest ∧ ∀ c ∈ code, c ≠ ':' ∧ isBlank c = false := by
  rw [takeCode] at h
  split at h
  · next r hr =>
    obtain ⟨rfl, rfl⟩ := Prod.mk.inj (Option.some.inj h)
    refine ⟨?_, fun c hc => ?_⟩
    · rw [← hr, List.takeWhile_append_dropWhile]
    · simpa using List.mem_takeWhile_imp hc
  · cases h

/-- A text without a code stays as it is. -/
theorem replace_eq_self {cs : List Char}
    (h : ∀ before code after, cs = before ++ ':' :: (code ++ ':' :: after) → ¬IsCode code) :
    replace cs = cs := by
  fun_induction replace cs with
  | case1 => rfl
  | case2 cs code rest htake ih =>
    obtain ⟨rfl, hcode⟩ := of_takeCode_eq_some htake
    have hshown : shown code = ':' :: code ++ [':'] :=
      not_not.mp fun hne => h [] code rest rfl ⟨hcode, hne⟩
    rw [hshown, ih fun before code' after heq => h (':' :: (code ++ ':' :: before)) code' after
      (by rw [heq]; simp)]
    simp
  | case3 cs _ ih =>
    rw [ih fun before code after heq => h (':' :: before) code after (by rw [heq]; rfl)]
  | case4 c cs _ ih =>
    rw [ih fun before code after heq => h (c :: before) code after (by rw [heq]; rfl)]

end Emoji

namespace Markup

open Emoji

variable {cs tag rest plain before after : List Char} {c : Char}

/-- Two colons are in the text with an emoji code between them, when it is read without the
backslashes that protect brackets. -/
def HasCode (cs : List Char) : Prop :=
  ∃ before code after, cs = before ++ ':' :: (code ++ ':' :: after) ∧ IsCode (unprotect code)

/-- The text continues an emoji code behind its first colon. -/
def ClosesCode (cs : List Char) : Prop :=
  ∃ code after, cs = code ++ ':' :: after ∧ IsCode (unprotect code)

/-- No blank is in a code. -/
theorem not_closesCode_blank : ¬ClosesCode (' ' :: cs) := by
  rintro ⟨_ | ⟨d, code⟩, after, h, hcode, -⟩
  · exact absurd (List.cons.inj h).1 (by decide)
  · obtain ⟨rfl, -⟩ := List.cons.inj h
    exact absurd (hcode ' ' (by simp [unprotect])).2 (by decide)

/-- A text has a code if one begins with its first character, or if the rest has one. -/
theorem hasCode_cons_iff : HasCode (c :: cs) ↔ (c = ':' ∧ ClosesCode cs) ∨ HasCode cs := by
  constructor
  · rintro ⟨_ | ⟨d, before⟩, code, after, h, hcode⟩
    · obtain ⟨rfl, rfl⟩ := List.cons.inj h
      exact .inl ⟨rfl, code, after, rfl, hcode⟩
    · obtain ⟨rfl, rfl⟩ := List.cons.inj h
      exact .inr ⟨before, code, after, rfl, hcode⟩
  · rintro (⟨rfl, code, after, rfl, hcode⟩ | ⟨before, code, after, rfl, hcode⟩)
    · exact ⟨[], code, after, rfl, hcode⟩
    · exact ⟨c :: before, code, after, rfl, hcode⟩

/-- A code has two colons. -/
theorem two_le_count_of_hasCode (h : HasCode cs) : 2 ≤ cs.count ':' := by
  obtain ⟨before, code, after, rfl, -⟩ := h
  simp only [List.count_append, List.count_cons_self]
  omega

/-- A code does not begin in a text without a colon. -/
theorem hasCode_append_iff (h : ':' ∉ before) : HasCode (before ++ cs) ↔ HasCode cs := by
  induction before with
  | nil => rfl
  | cons c before ih =>
    obtain ⟨hc, hbefore⟩ := not_or.mp (mt List.mem_cons.mpr h)
    rw [List.cons_append, hasCode_cons_iff, ih hbefore]
    exact or_iff_right fun ⟨heq, _⟩ => hc heq.symm

/-- A code is between two texts without a colon just if it is in what stands between them. -/
theorem hasCode_between_iff (hbefore : ':' ∉ before) (hafter : ':' ∉ after) :
    HasCode (before ++ cs ++ after) ↔ HasCode cs := by
  rw [List.append_assoc, hasCode_append_iff hbefore]
  constructor
  · rintro ⟨front, code, back, h, hcode⟩
    rw [← List.cons_append, ← List.append_assoc] at h
    obtain ⟨back, rfl, -⟩ := exists_of_append_eq hafter h
    exact ⟨front, code, back, by simp, hcode⟩
  · rintro ⟨front, code, back, rfl, hcode⟩
    exact ⟨front, code, back ++ after, by simp, hcode⟩

theorem hasCode_of_infix {part : List Char} (h : HasCode part) (hpart : part <:+: cs) :
    HasCode cs := by
  obtain ⟨before, code, after, rfl, hcode⟩ := h
  obtain ⟨front, back, rfl⟩ := hpart
  exact ⟨front ++ before, code, after ++ back, by simp, hcode⟩

/-! ## Tags -/

/-- What can stand between the brackets of a tag. -/
def IsTag (tag : List Char) : Prop :=
  (∃ c ∈ tag.head?, startsTag c = true) ∧ ∀ c ∈ tag, c ≠ ']' ∧ c ≠ '['

/-- A tag is in the text. -/
def HasTag (cs : List Char) : Prop :=
  ∃ before tag after, cs = before ++ '[' :: (tag ++ ']' :: after) ∧ IsTag tag

theorem takeTag_eq_some_iff :
    takeTag cs = some (tag, rest) ↔ cs = tag ++ ']' :: rest ∧ IsTag tag := by
  constructor
  · intro h
    cases cs with
    | nil => cases h
    | cons c cs =>
      rw [takeTag] at h
      split at h
      · next hc =>
        split at h
        · next r hr =>
          obtain ⟨rfl, rfl⟩ := Prod.mk.inj (Option.some.inj h)
          refine ⟨?_, ⟨c, rfl, hc⟩, List.forall_mem_cons.mpr ⟨⟨?_, ?_⟩, fun d hd => ?_⟩⟩
          · rw [List.cons_append, ← hr, List.takeWhile_append_dropWhile]
          · rintro rfl
            exact absurd hc (by decide)
          · rintro rfl
            exact absurd hc (by decide)
          · simpa using List.mem_takeWhile_imp hd
        · cases h
      · cases h
  · rintro ⟨rfl, ⟨c, hhead, hc⟩, hall⟩
    obtain ⟨tag, rfl⟩ := List.head?_eq_some_iff.mp hhead
    exact takeTag_append hc (List.forall_mem_cons.mp hall).2 rest

theorem not_hasTag_nil : ¬HasTag [] := by
  rintro ⟨before, tag, after, h, -⟩
  cases before <;> cases h

/-- A text has a tag if one begins with its first character, or if the rest has one. -/
theorem hasTag_cons_iff :
    HasTag (c :: cs) ↔ (c = '[' ∧ (takeTag cs).isSome = true) ∨ HasTag cs := by
  constructor
  · rintro ⟨_ | ⟨d, before⟩, tag, after, h, htag⟩
    · obtain ⟨rfl, rfl⟩ := List.cons.inj h
      exact .inl ⟨rfl, Option.isSome_of_eq_some (takeTag_eq_some_iff.mpr ⟨rfl, htag⟩)⟩
    · obtain ⟨rfl, rfl⟩ := List.cons.inj h
      exact .inr ⟨before, tag, after, rfl, htag⟩
  · rintro (⟨rfl, htake⟩ | ⟨before, tag, after, rfl, htag⟩)
    · obtain ⟨⟨tag, after⟩, htake⟩ := Option.isSome_iff_exists.mp htake
      obtain ⟨rfl, htag⟩ := takeTag_eq_some_iff.mp htake
      exact ⟨[], tag, after, rfl, htag⟩
    · exact ⟨c :: before, tag, after, rfl, htag⟩

/-- A tag does not begin in a text without an opening bracket. -/
theorem hasTag_append_iff (h : '[' ∉ before) : HasTag (before ++ cs) ↔ HasTag cs := by
  induction before with
  | nil => rfl
  | cons c before ih =>
    obtain ⟨hc, hbefore⟩ := not_or.mp (mt List.mem_cons.mpr h)
    rw [List.cons_append, hasTag_cons_iff, ih hbefore]
    exact or_iff_right fun ⟨heq, _⟩ => hc heq.symm

/-- A tag does not end in a text without a closing bracket. -/
theorem append_hasTag_iff (h : ']' ∉ after) : HasTag (cs ++ after) ↔ HasTag cs := by
  constructor
  · rintro ⟨front, tag, back, heq, htag⟩
    rw [← List.cons_append, ← List.append_assoc] at heq
    obtain ⟨back, rfl, -⟩ := exists_of_append_eq h heq
    exact ⟨front, tag, back, by simp, htag⟩
  · rintro ⟨front, tag, back, rfl, htag⟩
    exact ⟨front, tag, back ++ after, by simp, htag⟩

/-! ## Pieces -/

theorem bracket_not_mem_leading (cs : List Char) : '[' ∉ leading cs := fun hmem =>
  absurd (List.mem_takeWhile_imp hmem) (by decide)

theorem hasTag_afterLeading_iff : HasTag (afterLeading cs) ↔ HasTag cs := by
  have h : HasTag (leading cs ++ afterLeading cs) ↔ HasTag (afterLeading cs) :=
    hasTag_append_iff (bracket_not_mem_leading cs)
  rw [leading_append_afterLeading] at h
  exact h.symm

/-- **A text has a tag just if one is among its pieces.** -/
theorem hasTag_iff (plain cs : List Char) :
    HasTag cs ↔ ∃ n tag, .tag n tag ∈ pieces plain cs := by
  rw [← hasTag_afterLeading_iff]
  fun_induction pieces plain cs with
  | case1 plain cs hafter =>
    rw [hafter]
    exact iff_of_false not_hasTag_nil (by simp)
  | case2 plain cs after tag rest htake hafter _ =>
    rw [hafter, hasTag_cons_iff, htake]
    exact iff_of_true (.inl ⟨rfl, rfl⟩) ⟨_, tag, List.mem_cons_of_mem _ List.mem_cons_self⟩
  | case3 plain cs after htake hafter ih =>
    rw [hafter, hasTag_cons_iff, htake, ← hasTag_afterLeading_iff, ih]
    simp
  | case4 plain cs c after hafter hc ih =>
    rw [hafter, hasTag_cons_iff, ← hasTag_afterLeading_iff, ih]
    exact or_iff_right fun htag => hc htag.1

/-- What is cut out as a tag is one. -/
theorem isTag_of_mem_pieces {n : Nat} (h : .tag n tag ∈ pieces plain cs) : IsTag tag := by
  fun_induction pieces plain cs with
  | case1 => simp at h
  | case2 plain cs after tag' rest htake hafter ih =>
    simp only [List.mem_cons, reduceCtorEq, false_or, Piece.tag.injEq] at h
    rcases h with ⟨-, rfl⟩ | h
    · exact (takeTag_eq_some_iff.mp htake).2
    · exact ih h
  | case3 _ _ _ _ _ ih => exact ih h
  | case4 _ _ _ _ _ _ ih => exact ih h

theorem leading_append_cons (hafter : afterLeading cs = c :: rest) :
    leading cs ++ c :: rest = cs :=
  hafter ▸ leading_append_afterLeading cs

/-- Without a tag there is only one piece. -/
theorem pieces_of_not_hasTag (plain : List Char) (h : ¬HasTag cs) :
    pieces plain cs = [.plain (plain ++ cs)] := by
  rw [← hasTag_afterLeading_iff] at h
  fun_induction pieces plain cs with
  | case1 plain cs hafter =>
    have hcs := leading_append_afterLeading cs
    rw [hafter, List.append_nil] at hcs
    rw [hcs]
  | case2 plain cs after tag rest htake hafter _ =>
    rw [hafter, hasTag_cons_iff, htake] at h
    exact absurd (.inl ⟨rfl, rfl⟩) h
  | case3 plain cs after htake hafter ih =>
    rw [hafter, hasTag_cons_iff, not_or, ← hasTag_afterLeading_iff] at h
    rw [ih h.2, List.append_assoc, List.append_assoc, List.singleton_append,
      leading_append_cons hafter]
  | case4 plain cs c after hafter hc ih =>
    rw [hafter, hasTag_cons_iff, not_or, ← hasTag_afterLeading_iff] at h
    rw [ih h.2, List.append_assoc, List.append_assoc, List.singleton_append,
      leading_append_cons hafter]

/-- The text that a piece was cut from. -/
def Piece.text : Piece → List Char
  | .plain cs => cs
  | .tag backslashes text => List.replicate backslashes '\\' ++ '[' :: (text ++ [']'])

theorem leading_eq_replicate (cs : List Char) :
    leading cs = List.replicate (leading cs).length '\\' := by
  refine List.eq_replicate_of_mem fun c hc => ?_
  have hback := List.mem_takeWhile_imp hc
  exact beq_iff_eq.mp hback

/-- The pieces of a text make up the text. -/
theorem flatMap_text_pieces (plain cs : List Char) :
    (pieces plain cs).flatMap Piece.text = plain ++ cs := by
  fun_induction pieces plain cs with
  | case1 plain cs hafter =>
    have hcs := leading_append_afterLeading cs
    rw [hafter, List.append_nil] at hcs
    rw [List.flatMap_singleton, hcs]
    rfl
  | case2 plain cs after tag rest htake hafter ih =>
    obtain ⟨rfl, -⟩ := takeTag_eq_some_iff.mp htake
    rw [List.flatMap_cons, List.flatMap_cons, ih, Piece.text, Piece.text, ← leading_eq_replicate,
      List.nil_append]
    refine congrArg (plain ++ ·) (Eq.trans ?_ (leading_append_cons hafter))
    simp
  | case3 plain cs after htake hafter ih =>
    rw [ih, List.append_assoc, List.append_assoc, List.singleton_append,
      leading_append_cons hafter]
  | case4 plain cs c after hafter hc ih =>
    rw [ih, List.append_assoc, List.append_assoc, List.singleton_append,
      leading_append_cons hafter]

/-! ## What is shown of a text -/

theorem unprotect_sublist (cs : List Char) : (unprotect cs).Sublist cs := by
  fun_induction unprotect cs with
  | case1 rest ih => exact (ih.cons_cons '[').cons '\\'
  | case2 c rest _ ih => exact ih.cons_cons c
  | case3 => exact .slnil

/-- Text between tags is shown as it is unless a backslash stands before an opening bracket. -/
theorem unprotect_eq_self_iff : unprotect cs = cs ↔ ¬['\\', '['] <:+: cs := by
  fun_induction unprotect cs with
  | case1 rest ih =>
    refine iff_of_false (fun h => absurd (List.cons.inj h).1 (by decide)) (not_not.mpr ?_)
    exact ⟨[], rest, rfl⟩
  | case2 c rest hne ih =>
    have hstart : ¬['\\', '['] <+: c :: rest := by
      rintro ⟨after, hafter⟩
      obtain ⟨hc, hrest⟩ := List.cons.inj hafter
      exact hne after hc.symm hrest.symm
    rw [List.infix_cons_iff, or_iff_right hstart, ← ih]
    exact List.cons_inj_right c
  | case3 => simp

/-- A colon that is left when backslashes before brackets are taken away was there before. -/
theorem exists_of_unprotect_eq (h : unprotect cs = before ++ ':' :: after) :
    ∃ front back, cs = front ++ ':' :: back ∧ unprotect front = before ∧
      unprotect back = after := by
  fun_induction unprotect cs generalizing before with
  | case1 rest ih =>
    cases before with
    | nil => exact absurd (List.cons.inj h).1 (by decide)
    | cons d before =>
      obtain ⟨rfl, hrest⟩ := List.cons.inj h
      obtain ⟨front, back, rfl, rfl, rfl⟩ := ih hrest
      exact ⟨'\\' :: '[' :: front, back, rfl, by rw [unprotect], rfl⟩
  | case2 c rest hne ih =>
    cases before with
    | nil =>
      obtain ⟨rfl, rfl⟩ := List.cons.inj h
      exact ⟨[], rest, rfl, rfl, rfl⟩
    | cons d before =>
      obtain ⟨rfl, hrest⟩ := List.cons.inj h
      obtain ⟨front, back, rfl, rfl, rfl⟩ := ih hrest
      refine ⟨c :: front, back, rfl, ?_, rfl⟩
      rw [unprotect]
      rintro others hc rfl
      exact hne (others ++ ':' :: back) hc rfl
  | case3 => cases before <;> cases h

/-- What is shown of text between tags. -/
theorem Piece.shown_plain (h : ¬HasCode cs) : (Piece.plain cs).shown = unprotect cs := by
  refine replace_eq_self fun before code after heq hcode => h ?_
  obtain ⟨front, back, rfl, -, hback⟩ := exists_of_unprotect_eq heq
  obtain ⟨code, back, rfl, rfl, -⟩ := exists_of_unprotect_eq hback
  exact ⟨front, code, back, rfl, hcode⟩

variable {piece : Piece} {n : Nat}

/-- Between its brackets a tag holds no bracket, so nothing of it was protected. -/
theorem replace_tag (htag : IsTag tag) (h : ¬HasCode ('[' :: (tag ++ [']']))) :
    replace ('[' :: (tag ++ [']'])) = '[' :: (tag ++ [']']) := by
  refine replace_eq_self fun before code after heq hcode => h ⟨before, code, after, heq, ?_⟩
  cases before with
  | nil => exact absurd (List.cons.inj heq).1 (by decide)
  | cons d before =>
    have hbracket : '[' ∉ code := by
      intro hmem
      have hin : '[' ∈ tag ++ [']'] := by
        rw [(List.cons.inj heq).2]
        simp [hmem]
      rcases List.mem_append.mp hin with hin | hin
      · exact (htag.2 _ hin).2 rfl
      · exact absurd (List.mem_singleton.mp hin) (by decide)
    rwa [unprotect_eq_self_iff.mpr fun hinside => hbracket (hinside.subset (by simp))]

/-- What is shown of a tag: half of the backslashes, and if one is left over the tag behind them. -/
theorem Piece.shown_tag (htag : IsTag tag) (h : ¬HasCode (Piece.tag n tag).text) :
    (Piece.tag n tag).shown
      = List.replicate (n / 2) '\\' ++ if n % 2 = 1 then '[' :: (tag ++ [']']) else [] := by
  have hcode : ¬HasCode ('[' :: (tag ++ [']'])) :=
    mt (fun hcode => hasCode_of_infix hcode (List.suffix_append _ _).isInfix) h
  rw [Piece.shown, List.cons_append, replace_tag htag hcode]

/-- A piece is shown with some of its characters left out. -/
theorem Piece.shown_sublist (htag : ∀ n tag, piece = .tag n tag → IsTag tag)
    (h : ¬HasCode piece.text) : piece.shown.Sublist piece.text := by
  cases piece with
  | plain cs => exact (Piece.shown_plain h).symm ▸ unprotect_sublist cs
  | tag n tag =>
    rw [Piece.shown_tag (htag n tag rfl) h]
    refine (List.replicate_sublist_replicate '\\').mpr (Nat.div_le_self n 2) |>.append ?_
    split
    · exact .refl _
    · exact List.nil_sublist _

/-- Of a tag something is always left out. -/
theorem Piece.shown_tag_ne (htag : IsTag tag) (h : ¬HasCode (Piece.tag n tag).text) :
    (Piece.tag n tag).shown ≠ (Piece.tag n tag).text := by
  intro heq
  have hlength := congrArg List.length heq
  rw [Piece.shown_tag htag h, Piece.text, List.length_append, List.length_append,
    List.length_replicate, List.length_replicate] at hlength
  split at hlength
  · omega
  · rw [List.length_nil, List.length_cons] at hlength
    omega

theorem flatMap_sublist {α β : Type} {f g : α → List β} {xs : List α}
    (h : ∀ x ∈ xs, (f x).Sublist (g x)) : (xs.flatMap f).Sublist (xs.flatMap g) := by
  induction xs with
  | nil => exact .slnil
  | cons x xs ih =>
    obtain ⟨hx, hxs⟩ := List.forall_mem_cons.mp h
    rw [List.flatMap_cons, List.flatMap_cons]
    exact hx.append (ih hxs)

/-- If parts with something left out make up the whole, nothing was left out. -/
theorem eq_of_flatMap_eq {α β : Type} {f g : α → List β} {xs : List α}
    (hsub : ∀ x ∈ xs, (f x).Sublist (g x)) (h : xs.flatMap f = xs.flatMap g) :
    ∀ x ∈ xs, f x = g x := by
  induction xs with
  | nil => exact nofun
  | cons x xs ih =>
    obtain ⟨hx, hxs⟩ := List.forall_mem_cons.mp hsub
    rw [List.flatMap_cons, List.flatMap_cons] at h
    -- Neither part is longer than what it was cut from, and together they are as long.
    have hlength := congrArg List.length h
    rw [List.length_append, List.length_append] at hlength
    have hfirst := hx.length_le
    have hrest := (flatMap_sublist hxs).length_le
    have hsame : f x = g x := hx.eq_of_length (by omega)
    rw [hsame] at h
    exact List.forall_mem_cons.mpr ⟨hsame, ih hxs (List.append_cancel_left h)⟩

theorem not_hasCode_of_mem_pieces (h : ¬HasCode cs) : ∀ piece ∈ pieces [] cs,
    ¬HasCode piece.text := by
  refine fun piece hpiece => mt (fun hcode => hasCode_of_infix hcode ?_) h
  rw [← List.nil_append cs, ← flatMap_text_pieces, List.flatMap_def]
  exact List.infix_of_mem_flatten (List.mem_map_of_mem hpiece)

section

variable {text : String} (h : ¬HasCode text.toList)
include h

theorem shown_sublist_of_mem_pieces :
    ∀ piece ∈ pieces [] text.toList, piece.shown.Sublist piece.text := by
  refine fun piece hpiece => Piece.shown_sublist ?_ (not_hasCode_of_mem_pieces h piece hpiece)
  rintro n tag rfl
  exact isTag_of_mem_pieces hpiece

theorem shown_sublist : (shown text).toList.Sublist text.toList := by
  have hsub := flatMap_sublist (shown_sublist_of_mem_pieces h)
  rw [flatMap_text_pieces, List.nil_append] at hsub
  rwa [shown, String.toList_ofList]

/-- **The texts that are shown as they are**: no tag is in them, and no bracket that is protected by
a backslash. -/
theorem shown_eq_self_iff :
    shown text = text ↔ ¬HasTag text.toList ∧ ¬['\\', '['] <:+: text.toList := by
  constructor
  · intro heq
    have hflat : (pieces [] text.toList).flatMap Piece.shown
        = (pieces [] text.toList).flatMap Piece.text := by
      rw [flatMap_text_pieces, List.nil_append]
      exact String.toList_ofList.symm.trans (congrArg String.toList heq)
    have hsame := eq_of_flatMap_eq (shown_sublist_of_mem_pieces h) hflat
    have hno : ¬HasTag text.toList := by
      rw [hasTag_iff []]
      rintro ⟨n, tag, hmem⟩
      exact Piece.shown_tag_ne (isTag_of_mem_pieces hmem) (not_hasCode_of_mem_pieces h _ hmem)
        (hsame _ hmem)
    refine ⟨hno, unprotect_eq_self_iff.mp ?_⟩
    rw [pieces_of_not_hasTag [] hno, List.nil_append] at hsame
    exact (Piece.shown_plain h).symm.trans (hsame _ List.mem_cons_self)
  · rintro ⟨hno, hback⟩
    rw [shown, pieces_of_not_hasTag [] hno, List.flatMap_singleton, List.nil_append,
      Piece.shown_plain h, unprotect_eq_self_iff.mpr hback, String.ofList_toList]

end

end Markup

end PageRoutes
