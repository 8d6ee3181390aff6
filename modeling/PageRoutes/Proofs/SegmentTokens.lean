import Mathlib.Data.List.TakeWhile
import Mathlib.Logic.ExistsUnique
import PageRoutes.Route.Segment

/-!
# Segments and their tokens

Every text can be taken apart at its tokens in one way only. Between the tokens stand literal texts,
in which each opening bracket is closed at once; behind the last token an opening bracket may also
stay open. The colon form of the text is made of the same parts, with a colon for the brackets.

* `takeToken_eq_some_iff`, `takeToken_eq_none_iff` — where a token begins.
* `isOf_takeApart`, `eq_takeApart_of_isOf` — a text has its parts, which give its colon form, and no
  others.
* `colonChars_eq_self_iff` — which texts are their own colon form.
* `colonSegment_by_tokens` — the segments of a route by the tokens of their texts.
-/

namespace PageRoutes.Route

/-! ## Where a token begins -/

section

variable {c : Char} {cs l name rest : List Char}

/-- The name of a token. -/
def IsName (name : List Char) : Prop :=
  name ≠ [] ∧ ']' ∉ name

/-- A token is a name and a closing bracket. -/
theorem takeToken_eq_some_iff :
    takeToken cs = some (name, rest) ↔ cs = name ++ ']' :: rest ∧ IsName name := by
  constructor
  · intro h
    obtain ⟨hcs, hne⟩ := takeToken_eq_some h
    refine ⟨hcs, hne, ?_⟩
    unfold takeToken at h
    split at h
    · next c n _ r hname _ =>
      obtain ⟨rfl, -⟩ := Prod.mk.inj (Option.some.inj h)
      rw [← hname]
      intro hmem
      simpa using List.mem_takeWhile_imp hmem
    · cases h
  · rintro ⟨rfl, hne, hname⟩
    obtain ⟨c, cs, rfl⟩ := List.exists_cons_of_ne_nil hne
    have hall : ∀ d ∈ c :: cs, (d != ']') = true := by
      intro d hd
      rw [bne_iff_ne]
      rintro rfl
      exact hname hd
    rw [takeToken, List.takeWhile_append_of_pos hall, List.dropWhile_append_of_pos hall]
    simp

/-- What stands behind an opening bracket that begins a token. -/
def BeginsToken (behind : List Char) : Prop :=
  behind.head? ≠ some ']' ∧ ']' ∈ behind

theorem beginsToken_iff : BeginsToken cs ↔ ∃ name rest, cs = name ++ ']' :: rest ∧ IsName name := by
  constructor
  · rintro ⟨hhead, hmem⟩
    obtain ⟨name, rest, rfl, hname⟩ := List.eq_append_cons_of_mem hmem
    refine ⟨name, rest, rfl, ?_, hname⟩
    rintro rfl
    exact hhead rfl
  · rintro ⟨name, rest, rfl, hne, hname⟩
    obtain ⟨c, cs, rfl⟩ := List.exists_cons_of_ne_nil hne
    refine ⟨fun hhead => hname ?_, by simp⟩
    rw [List.cons_append, List.head?_cons, Option.some.injEq] at hhead
    rw [hhead]
    exact List.mem_cons_self

theorem takeToken_eq_none_iff : takeToken cs = none ↔ ¬BeginsToken cs := by
  rw [← Option.not_isSome_iff_eq_none, not_iff_not, Option.isSome_iff_exists, beginsToken_iff]
  constructor
  · rintro ⟨⟨name, rest⟩, htoken⟩
    exact ⟨name, rest, takeToken_eq_some_iff.mp htoken⟩
  · rintro ⟨name, rest, htoken⟩
    exact ⟨(name, rest), takeToken_eq_some_iff.mpr htoken⟩

/-! ## Literal texts -/

/-- A text before a token: each of its opening brackets is closed at once. -/
def IsBetween (l : List Char) : Prop :=
  ∀ u v, l = u ++ '[' :: v → v.head? = some ']'

/-- A text behind the last token: each of its opening brackets is closed at once or not at all. -/
def IsEnd (l : List Char) : Prop :=
  ∀ u v, l = u ++ '[' :: v → v.head? = some ']' ∨ ']' ∉ v

/-- A text with a token in it: an opening bracket, a name and a closing bracket. -/
def HasToken (cs : List Char) : Prop :=
  ∃ u name v, cs = u ++ '[' :: (name ++ ']' :: v) ∧ IsName name

/-- What holds behind all opening brackets, first character first. -/
theorem forall_bracket_cons {P : List Char → Prop} :
    (∀ u v, c :: l = u ++ '[' :: v → P v)
      ↔ (c = '[' → P l) ∧ ∀ u v, l = u ++ '[' :: v → P v := by
  constructor
  · intro h
    exact ⟨fun hc => h [] l (by rw [hc, List.nil_append]),
      fun u v hl => h (c :: u) v (by rw [hl, List.cons_append])⟩
  · rintro ⟨hfirst, hrest⟩ (_ | ⟨d, u⟩) v heq
    · obtain ⟨hc, rfl⟩ := List.cons.inj heq
      exact hfirst hc
    · exact hrest u v (List.cons.inj heq).2

theorem isBetween_nil : IsBetween [] := by
  intro u v heq
  simp at heq

theorem isEnd_nil : IsEnd [] := by
  intro u v heq
  simp at heq

theorem isBetween_cons_iff :
    IsBetween (c :: l) ↔ (c = '[' → l.head? = some ']') ∧ IsBetween l :=
  forall_bracket_cons

theorem isEnd_cons_iff :
    IsEnd (c :: l) ↔ (c = '[' → l.head? = some ']' ∨ ']' ∉ l) ∧ IsEnd l :=
  forall_bracket_cons

/-- A text has a token just if an opening bracket in it begins one. -/
theorem hasToken_iff_beginsToken : HasToken cs ↔ ∃ u v, cs = u ++ '[' :: v ∧ BeginsToken v := by
  constructor
  · rintro ⟨u, name, v, rfl, hname⟩
    exact ⟨u, _, rfl, beginsToken_iff.mpr ⟨name, v, rfl, hname⟩⟩
  · rintro ⟨u, v, rfl, hbegins⟩
    obtain ⟨name, rest, rfl, hname⟩ := beginsToken_iff.mp hbegins
    exact ⟨u, name, rest, rfl, hname⟩

/-- There is a token just where a text may not end. -/
theorem hasToken_iff_not_isEnd : HasToken cs ↔ ¬IsEnd cs := by
  simp only [hasToken_iff_beginsToken, IsEnd, BeginsToken, not_forall, not_or, not_not,
    exists_prop, ne_eq]

end

/-! ## Texts taken apart -/

/-- A token of a text, and the literal text between the token before it and this one. -/
structure Token where
  before : List Char
  name : List Char

/-- A text taken apart: its tokens, and the literal text behind them. -/
structure Tokenized where
  tokens : List Token
  after : List Char

/-- A name in brackets. -/
def bracketForm (name : List Char) : List Char :=
  '[' :: (name ++ [']'])

/-- A name behind a colon. -/
def colonForm (name : List Char) : List Char :=
  ':' :: name

namespace Tokenized

variable {d d' : Tokenized} {c : Char} {cs name rest l : List Char}

/-- The text with the names of its tokens in the given form. -/
def text (form : List Char → List Char) (d : Tokenized) : List Char :=
  (d.tokens.flatMap fun token => token.before ++ form token.name) ++ d.after

/-- The parts are such as tokens and the texts between them have to be. -/
structure IsValid (d : Tokenized) : Prop where
  isBetween : ∀ token ∈ d.tokens, IsBetween token.before
  isName : ∀ token ∈ d.tokens, IsName token.name
  isEnd : IsEnd d.after

/-- The parts of a text. -/
def IsOf (d : Tokenized) (cs : List Char) : Prop :=
  d.IsValid ∧ d.text bracketForm = cs

/-- The parts with a literal text in front. -/
def behind (l : List Char) : Tokenized → Tokenized
  | ⟨[], after⟩ => ⟨[], l ++ after⟩
  | ⟨token :: tokens, after⟩ => ⟨{ token with before := l ++ token.before } :: tokens, after⟩

/-- The parts with a token in front. -/
def behindToken (name : List Char) (d : Tokenized) : Tokenized :=
  ⟨⟨[], name⟩ :: d.tokens, d.after⟩

theorem text_behind (form : List Char → List Char) (l : List Char) (d : Tokenized) :
    (d.behind l).text form = l ++ d.text form := by
  obtain ⟨_ | ⟨token, tokens⟩, after⟩ := d
  · rfl
  · simp [behind, text]

theorem text_behindToken (form : List Char → List Char) (name : List Char) (d : Tokenized) :
    (d.behindToken name).text form = form name ++ d.text form := by
  simp [behindToken, text]

theorem behind_nil (d : Tokenized) : d.behind [] = d := by
  obtain ⟨_ | ⟨token, tokens⟩, after⟩ := d
  · rfl
  · rfl

theorem behind_behind (l l' : List Char) (d : Tokenized) :
    (d.behind l').behind l = d.behind (l ++ l') := by
  obtain ⟨_ | ⟨token, tokens⟩, after⟩ := d
  · simp [behind]
  · simp [behind]

theorem isValid_nil : IsValid ⟨[], []⟩ :=
  ⟨nofun, nofun, isEnd_nil⟩

theorem IsValid.behindToken (h : d.IsValid) (hname : IsName name) :
    (d.behindToken name).IsValid :=
  ⟨List.forall_mem_cons.mpr ⟨isBetween_nil, h.isBetween⟩,
    List.forall_mem_cons.mpr ⟨hname, h.isName⟩, h.isEnd⟩

/-- A character in front of the parts, unless it begins a token there. -/
theorem IsValid.behind (h : d.IsValid)
    (hc : c = '[' → ¬BeginsToken (d.text bracketForm)) : (d.behind [c]).IsValid := by
  obtain ⟨_ | ⟨token, tokens⟩, after⟩ := d
  · have hend : c = '[' → after.head? = some ']' ∨ ']' ∉ after := by
      intro hbracket
      have hno := hc hbracket
      rw [BeginsToken, not_and_or, not_not] at hno
      exact hno
    exact ⟨nofun, nofun, isEnd_cons_iff.mpr ⟨hend, h.isEnd⟩⟩
  · obtain ⟨hbetween, hbetweens⟩ := List.forall_mem_cons.mp h.isBetween
    have hfirst : c = '[' → token.before.head? = some ']' := by
      intro hbracket
      have hno := hc hbracket
      -- The token that is there has a closing bracket, so one stands right behind the new one.
      rw [BeginsToken, not_and_or, not_not, or_iff_left (by simp [text, bracketForm])] at hno
      cases hbefore : token.before with
      | nil => simp [text, bracketForm, hbefore] at hno
      | cons d before => simpa [text, hbefore] using hno
    refine ⟨List.forall_mem_cons.mpr ⟨isBetween_cons_iff.mpr ⟨hfirst, hbetween⟩, hbetweens⟩, ?_,
      h.isEnd⟩
    exact List.forall_mem_cons.mpr (List.forall_mem_cons.mp h.isName)

end Tokenized

/-! ## Taking a text apart -/

/-- Takes a text apart, from left to right. -/
def takeApart : List Char → Tokenized
  | [] => ⟨[], []⟩
  | c :: cs =>
    if c = '[' then
      match _h : takeToken cs with
      | some (name, rest) => (takeApart rest).behindToken name
      | none => (takeApart cs).behind ['[']
    else (takeApart cs).behind [c]
termination_by cs => cs.length
decreasing_by
  · have := length_lt_of_takeToken _h
    simp only [List.length_cons]
    omega
  · simp
  · simp

section

variable {c : Char} {cs name rest l : List Char} {d : Tokenized}

theorem takeApart_nil : takeApart [] = ⟨[], []⟩ := by
  rw [takeApart]

theorem takeApart_of_ne (h : c ≠ '[') (cs : List Char) :
    takeApart (c :: cs) = (takeApart cs).behind [c] := by
  rw [takeApart, if_neg h]

theorem takeApart_of_token (h : takeToken cs = some (name, rest)) :
    takeApart ('[' :: cs) = (takeApart rest).behindToken name := by
  rw [takeApart, if_pos rfl]
  split
  · next n r hn => simp_all
  · simp_all

theorem takeApart_of_no_token (h : takeToken cs = none) :
    takeApart ('[' :: cs) = (takeApart cs).behind ['['] := by
  rw [takeApart, if_pos rfl]
  split
  · simp_all
  · rfl

/-- **A text has its parts**, and the colon form of the text is theirs. -/
theorem isOf_takeApart (cs : List Char) :
    (takeApart cs).IsOf cs ∧ colonChars cs = (takeApart cs).text colonForm := by
  induction cs using colonChars.induct with
  | case1 =>
    rw [takeApart_nil, colonChars_nil]
    exact ⟨⟨Tokenized.isValid_nil, rfl⟩, rfl⟩
  | case2 cs name rest htoken ih =>
    obtain ⟨⟨hvalid, htext⟩, hcolons⟩ := ih
    obtain ⟨rfl, hname⟩ := takeToken_eq_some_iff.mp htoken
    rw [takeApart_of_token htoken, colonChars_of_token htoken]
    refine ⟨⟨hvalid.behindToken hname, ?_⟩, ?_⟩
    · rw [Tokenized.text_behindToken, htext, bracketForm]
      simp
    · rw [Tokenized.text_behindToken, hcolons, colonForm, List.cons_append]
  | case3 cs hno ih =>
    obtain ⟨⟨hvalid, htext⟩, hcolons⟩ := ih
    rw [takeApart_of_no_token hno, colonChars_of_no_token hno]
    refine ⟨⟨hvalid.behind fun _ => ?_, ?_⟩, ?_⟩
    · rw [htext]
      exact takeToken_eq_none_iff.mp hno
    · rw [Tokenized.text_behind, htext, List.singleton_append]
    · rw [Tokenized.text_behind, hcolons, List.singleton_append]
  | case4 c cs hc ih =>
    obtain ⟨⟨hvalid, htext⟩, hcolons⟩ := ih
    rw [takeApart_of_ne hc, colonChars_of_ne hc]
    refine ⟨⟨hvalid.behind fun h => absurd h hc, ?_⟩, ?_⟩
    · rw [Tokenized.text_behind, htext, List.singleton_append]
    · rw [Tokenized.text_behind, hcolons, List.singleton_append]

/-- No token begins in a text before a token, so the text stays in front of it. -/
theorem takeApart_append (h : IsBetween l) (cs : List Char) :
    takeApart (l ++ '[' :: cs) = (takeApart ('[' :: cs)).behind l := by
  induction l with
  | nil => rw [List.nil_append, Tokenized.behind_nil]
  | cons c l ih =>
    obtain ⟨hfirst, hrest⟩ := isBetween_cons_iff.mp h
    have hall : takeApart (c :: (l ++ '[' :: cs)) = (takeApart (l ++ '[' :: cs)).behind [c] := by
      by_cases hc : c = '['
      · obtain ⟨l, rfl⟩ := List.head?_eq_some_iff.mp (hfirst hc)
        rw [hc]
        exact takeApart_of_no_token (takeToken_eq_none_iff.mpr fun hbegins => hbegins.1 rfl)
      · exact takeApart_of_ne hc _
    rw [List.cons_append, hall, ih hrest, Tokenized.behind_behind, List.singleton_append]

/-- No token begins behind the last one. -/
theorem takeApart_of_isEnd (h : IsEnd l) : takeApart l = ⟨[], l⟩ := by
  induction l with
  | nil => exact takeApart_nil
  | cons c l ih =>
    obtain ⟨hfirst, hrest⟩ := isEnd_cons_iff.mp h
    have hall : takeApart (c :: l) = (takeApart l).behind [c] := by
      by_cases hc : c = '['
      · rw [hc]
        refine takeApart_of_no_token (takeToken_eq_none_iff.mpr fun hbegins => ?_)
        exact (hfirst hc).elim hbegins.1 fun hopen => hopen hbegins.2
      · exact takeApart_of_ne hc _
    rw [hall, ih hrest]
    rfl

/-- **A text has no other parts.** -/
theorem eq_takeApart_of_isOf (h : d.IsOf cs) : d = takeApart cs := by
  obtain ⟨⟨hbetween, hname, hend⟩, rfl⟩ := h
  obtain ⟨tokens, after⟩ := d
  induction tokens with
  | nil => exact (takeApart_of_isEnd hend).symm
  | cons token tokens ih =>
    obtain ⟨hbefore, hbetween⟩ := List.forall_mem_cons.mp hbetween
    obtain ⟨hfirst, hname⟩ := List.forall_mem_cons.mp hname
    have htext : Tokenized.text bracketForm ⟨token :: tokens, after⟩ = token.before
        ++ '[' :: (token.name ++ ']' :: Tokenized.text bracketForm ⟨tokens, after⟩) := by
      simp [Tokenized.text, bracketForm]
    rw [htext, takeApart_append hbefore,
      takeApart_of_token (takeToken_eq_some_iff.mpr ⟨rfl, hfirst⟩), ← ih hbetween hname hend]
    simp [Tokenized.behindToken, Tokenized.behind]

/-! ## The colon form -/

/-- Each token gets shorter by one character. -/
theorem length_text_bracketForm (d : Tokenized) :
    (d.text bracketForm).length = (d.text colonForm).length + d.tokens.length := by
  obtain ⟨tokens, after⟩ := d
  induction tokens with
  | nil => rfl
  | cons token tokens ih =>
    simp only [Tokenized.text, bracketForm, colonForm, List.flatMap_cons, List.append_assoc,
      List.length_append, List.length_cons, List.length_nil] at ih ⊢
    omega

/-- A text without tokens is one literal text. -/
theorem hasToken_iff_tokens (h : d.IsOf cs) : HasToken cs ↔ d.tokens ≠ [] := by
  rw [hasToken_iff_not_isEnd, not_iff_not]
  constructor
  · intro hend
    rw [eq_takeApart_of_isOf h, takeApart_of_isEnd hend]
  · intro hnil
    obtain ⟨hvalid, rfl⟩ := h
    rw [Tokenized.text, hnil]
    exact hvalid.isEnd

/-- **The colon form is the text itself just if no token is in it.** -/
theorem colonChars_eq_self_iff (cs : List Char) : colonChars cs = cs ↔ ¬HasToken cs := by
  obtain ⟨hof, hcolons⟩ := isOf_takeApart cs
  rw [hasToken_iff_tokens hof, not_not, hcolons]
  have hlength := length_text_bracketForm (takeApart cs)
  rw [hof.2] at hlength
  constructor
  · intro hsame
    rw [hsame] at hlength
    exact List.eq_nil_of_length_eq_zero (by omega)
  · intro hnil
    have htext := hof.2
    rw [Tokenized.text, hnil] at htext ⊢
    exact htext

/--
**The segments of a route by the tokens of their texts.**

A segment has exactly one decomposition into tokens and literal texts such that names are not empty
and hold no closing bracket, each opening bracket in a text before a token is closed at once, and
each one behind the last token is closed at once or not at all. The segment of the route has the
same parts, with colons for the brackets; it is the same text just if the segment has no token in
it. And no token reaches over a slash.
-/
theorem colonSegment_by_tokens (segment a b : String) :
    (∃! d : Tokenized, d.IsOf segment.toList) ∧
    (∃ d : Tokenized, d.IsOf segment.toList ∧
      colonSegment segment = String.ofList (d.text colonForm)) ∧
    (colonSegment segment = segment ↔ ¬HasToken segment.toList) ∧
    segments (a ++ "/" ++ b) = segments a ++ segments b := by
  obtain ⟨hof, hcolons⟩ := isOf_takeApart segment.toList
  refine ⟨⟨_, hof, fun d hd => eq_takeApart_of_isOf hd⟩, ⟨_, hof, ?_⟩, ?_, segments_append a b⟩
  · rw [colonSegment, hcolons]
  · rw [colonSegment, ← colonChars_eq_self_iff, ← String.toList_inj, String.toList_ofList]

end

end PageRoutes.Route
