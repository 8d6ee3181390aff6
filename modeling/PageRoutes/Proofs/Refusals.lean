import Mathlib.Data.List.TakeWhile
import PageRoutes.Console

/-!
# What the console refuses

A message behind a mark is refused for its own tags only: a mark is sound, it closes the tag that it
opens and leaves none open for the message. So a message without an opening bracket is never
refused, and one is whose first tag has a style that is, or closes something.

* `Markup.pieces_append_plain`, `pieces_tag`, `pieces_of_no_bracket` — how a text is cut into
  pieces.
* `Markup.ofTag_emptyComponent` — a tag whose style is refused.
* `Markup.Tags.IsHarmless` — tags with styles that are not refused; harmless pieces keep them so,
  one by one (`Piece.IsHarmless`) and all together (`exists_foldlM_read`).
* `Console.IsSound` — reading behind a mark starts with no tag open (`isSound_styled`).
* `Console.refuses_of_no_bracket`, `fault?_of_first_tag`, `fault?_of_closing_tag` — messages behind
  a mark.
-/

namespace PageRoutes

open Text

/-! ## Cutting a text into pieces -/

namespace Markup

variable {plain cs after tag rest : List Char} {c : Char}

theorem leading_append_afterLeading (cs : List Char) : leading cs ++ afterLeading cs = cs :=
  List.takeWhile_append_dropWhile

/-- Backslashes before another character are those that lead to it. -/
theorem leading_replicate_append (n : Nat) (hc : c ≠ '\\') (after : List Char) :
    leading (List.replicate n '\\' ++ c :: after) = List.replicate n '\\' ∧
      afterLeading (List.replicate n '\\' ++ c :: after) = c :: after := by
  have hall : ∀ d ∈ List.replicate n '\\', (d == '\\') = true := by simp
  constructor
  · rw [leading, List.takeWhile_append_of_pos hall]
    simp [hc]
  · rw [afterLeading, List.dropWhile_append_of_pos hall]
    simp [hc]

/-- A tag ends the piece of text before it, and keeps the backslashes before itself. -/
theorem pieces_replicate_tag (plain : List Char) (n : Nat) (h : takeTag after = some (tag, rest)) :
    pieces plain (List.replicate n '\\' ++ '[' :: after)
      = .plain plain :: .tag n tag :: pieces [] rest := by
  obtain ⟨hleading, hafter⟩ := leading_replicate_append n (c := '[') (by decide) after
  rw [pieces]
  split
  · next h' => rw [hafter] at h'; cases h'
  · next h' =>
    rw [hafter] at h'
    obtain ⟨rfl, rfl⟩ := List.cons.inj h'
    rw [if_pos rfl, hleading, List.length_replicate]
    split
    · next htake =>
      rw [h] at htake
      obtain ⟨rfl, rfl⟩ := Prod.mk.inj (Option.some.inj htake)
      rfl
    · next htake =>
      rw [h] at htake
      cases htake

/-- A character that begins no tag is kept for the piece it is part of, and so are the backslashes
before it. -/
theorem pieces_replicate_plain (plain : List Char) (n : Nat) (hc : c ≠ '\\')
    (h : c = '[' → takeTag after = none) :
    pieces plain (List.replicate n '\\' ++ c :: after)
      = pieces (plain ++ (List.replicate n '\\' ++ [c])) after := by
  obtain ⟨hleading, hafter⟩ := leading_replicate_append n hc after
  rw [pieces]
  split
  · next h' => rw [hafter] at h'; cases h'
  · next h' =>
    rw [hafter] at h'
    obtain ⟨rfl, rfl⟩ := List.cons.inj h'
    rw [hleading, List.append_assoc]
    split
    · next heq =>
      split
      · next htake =>
        rw [h heq] at htake
        cases htake
      · rfl
    · rfl

theorem pieces_cons_plain (hbracket : c ≠ '[') (hback : c ≠ '\\') :
    pieces plain (c :: cs) = pieces (plain ++ [c]) cs :=
  pieces_replicate_plain plain 0 hback fun heq => absurd heq hbracket

/-- Plain characters are kept for the piece that they are part of. -/
theorem pieces_append_plain (h : ∀ c ∈ cs, c ≠ '[' ∧ c ≠ '\\') :
    pieces plain (cs ++ rest) = pieces (plain ++ cs) rest := by
  induction cs generalizing plain with
  | nil => rw [List.nil_append, List.append_nil]
  | cons c cs ih =>
    obtain ⟨⟨hbracket, hback⟩, hcs⟩ := List.forall_mem_cons.mp h
    rw [List.cons_append, pieces_cons_plain hbracket hback, ih hcs, List.append_assoc]
    rfl

theorem pieces_tag (h : takeTag after = some (tag, rest)) :
    pieces plain ('[' :: after) = .plain plain :: .tag 0 tag :: pieces [] rest :=
  pieces_replicate_tag plain 0 h

/-- Without an opening bracket there is no tag. -/
theorem pieces_of_no_bracket (plain cs : List Char) (h : '[' ∉ cs) :
    pieces plain cs = [.plain (plain ++ cs)] := by
  fun_induction pieces plain cs with
  | case1 plain cs hafter =>
    have hcs := leading_append_afterLeading cs
    rw [hafter, List.append_nil] at hcs
    rw [hcs]
  | case2 plain cs after tag rest _ hafter _ =>
    rw [← leading_append_afterLeading cs, hafter] at h
    exact absurd (List.mem_append_right _ List.mem_cons_self) h
  | case3 plain cs after _ hafter _ =>
    rw [← leading_append_afterLeading cs, hafter] at h
    exact absurd (List.mem_append_right _ List.mem_cons_self) h
  | case4 plain cs c after hafter hc ih =>
    have hcs := leading_append_afterLeading cs
    rw [hafter] at hcs
    have hafter : '[' ∉ after := fun hmem =>
      h (hcs ▸ List.mem_append_right _ (List.mem_cons_of_mem c hmem))
    rw [ih hafter, List.append_assoc, List.append_assoc, List.singleton_append, hcs]

/-- A tag reaches to the first bracket, if that is a closing one. -/
theorem takeTag_append (hc : startsTag c = true) (hcs : ∀ d ∈ cs, d ≠ ']' ∧ d ≠ '[')
    (rest : List Char) : takeTag (c :: (cs ++ ']' :: rest)) = some (c :: cs, rest) := by
  have hall : ∀ d ∈ cs, (d != ']' && d != '[') = true := by
    intro d hd
    simpa using hcs d hd
  rw [takeTag, if_pos hc, List.dropWhile_append_of_pos hall, List.takeWhile_append_of_pos hall]
  simp

/-- A text behind a tag on another one, as a mark is. -/
theorem pieces_styled {style text : List Char} (hc : startsTag c = true)
    (hstyle : ∀ d ∈ style, d ≠ ']' ∧ d ≠ '[') (htext : ∀ d ∈ text, d ≠ '[' ∧ d ≠ '\\') :
    pieces [] ('[' :: c :: (style ++ ']' :: (text ++ '[' :: '/' :: ']' :: rest)))
      = .plain [] :: .tag 0 (c :: style) :: .plain text :: .tag 0 ['/'] :: pieces [] rest := by
  have hend : takeTag ('/' :: ']' :: rest) = some (['/'], rest) := rfl
  rw [pieces_tag (takeTag_append hc hstyle _), pieces_append_plain htext, List.nil_append,
    pieces_tag hend]

end Markup

/-! ## The styles of the marks -/

namespace Text

/-- The characters of a word are in the text, and it is found between blanks. -/
theorem mem_words_iff {cs : List Char} {word : String} :
    word ∈ words (String.ofList cs)
      ↔ ∃ part ∈ splitChars ' ' (cs.map fun c => if isBlank c then ' ' else c),
        part ≠ [] ∧ String.ofList part = word := by
  rw [words, String.toList_ofList, List.mem_map]
  simp only [List.mem_filter, decide_eq_true_eq, and_assoc]

end Text

set_option maxRecDepth 20000 in
/-- No name of a color holds a parenthesis. -/
theorem Color.noParenthesis_of_mem_names : ∀ name ∈ names, '(' ∉ name.toList := by
  -- The characters of the names, as a list that can be searched.
  obtain ⟨cs, hnames, hparen⟩ : ∃ cs, names = words (String.ofList cs) ∧
      ∀ part ∈ splitChars ' ' (cs.map fun c => if isBlank c then ' ' else c), '(' ∉ part := by
    refine ⟨_, rfl, ?_⟩
    decide +kernel
  rw [hnames]
  intro name hname
  obtain ⟨part, hpart, -, rfl⟩ := mem_words_iff.mp hname
  rw [String.toList_ofList]
  exact hparen part hpart

namespace Style

variable {style : Style} {word name : String} {rest : List String}

/-- An attribute is switched on. -/
theorem extend_attribute (hword : lower word ∉ ["on", "not", "link"])
    (hname : attribute? (lower word) = some name) :
    style.extend (word :: rest) = (style.withAttribute name true).extend rest := by
  simp only [List.mem_cons, List.not_mem_nil, or_false, not_or] at hword
  obtain ⟨hon, hnot, hlink⟩ := hword
  rw [extend.eq_def]
  dsimp only
  rw [if_neg hon, if_neg hnot, if_neg hlink, hname]

/-- A word that is no attribute is checked as a color. -/
theorem extend_color (hword : lower word ∉ ["on", "not", "link"])
    (hname : attribute? (lower word) = none) :
    style.extend (word :: rest)
      = Color.check (lower word) >>= fun _ =>
        extend { style with color := some (lower word) } rest := by
  simp only [List.mem_cons, List.not_mem_nil, or_false, not_or] at hword
  obtain ⟨hon, hnot, hlink⟩ := hword
  rw [extend.eq_def]
  dsimp only
  rw [if_neg hon, if_neg hnot, if_neg hlink, hname]

end Style

/-- A word without a parenthesis is no color with an empty component. -/
theorem Color.check_ne_emptyComponent {word : String} (h : '(' ∉ word.toList.map lowerLetter) :
    check word ≠ .error .emptyComponent := by
  have hrgb : argument? "rgb" (word.toList.map lowerLetter) = none := by
    rw [argument?, if_neg]
    intro hstart
    obtain ⟨rest, hrest⟩ := List.isPrefixOf_iff_prefix.mp hstart
    exact h (hrest ▸ by simp)
  rw [check, hrgb]
  intro hcheck
  split_ifs at hcheck
  split at hcheck
  · split_ifs at hcheck
    cases hcheck
  · split_ifs at hcheck
    cases hcheck
  · next hsome _ => cases hsome
  · cases hcheck

/-- A style that ends in a word for a color is normal as it is written, and not refused, be the word
one or not. -/
theorem Style.normalize_of_color {text word : String} {style : Style}
    (hread : read text = (Color.check word).bind fun _ => .ok style)
    (hcheck : Color.check word ≠ .error .emptyComponent) (hstyle : style.text = text)
    (hlower : lower (trim text) = text) :
    normalize text = .ok text ∧ isRefused text = false := by
  rw [normalize, isRefused, hread]
  cases hcolor : Color.check word with
  | ok => exact ⟨congrArg Except.ok hstyle, rfl⟩
  | error fault =>
    cases fault with
    | unknown => exact ⟨congrArg Except.ok hlower, rfl⟩
    | emptyComponent => exact absurd hcolor hcheck

/-- A word that is no color with an empty component is normal, and not refused as a style. -/
theorem Style.normalize_of_word {word : String} (hwords : words word = [word])
    (htrim : trim word = word) (hlower : lower word = word)
    (hword : word ∉ ["none", "on", "not", "link"]) (hname : attribute? word = none)
    (hcheck : Color.check word ≠ .error .emptyComponent) :
    normalize word = .ok word ∧ isRefused word = false := by
  have hread : Style.read word
      = (Color.check word).bind fun _ => .ok { color := some word } := by
    rw [Style.read, htrim, if_neg fun h => hword (by simp [h]), hwords,
      extend_color (by simp_all) (by rw [hlower, hname]), hlower]
    rfl
  exact normalize_of_color hread hcheck rfl (by rw [htrim, hlower])

/-- The style of the mark for a success. -/
theorem Style.normalize_boldGreen :
    normalize "bold green" = .ok "bold green" ∧ isRefused "bold green" = false := by
  have hcheck : Color.check "green" ≠ .error .emptyComponent :=
    Color.check_ne_emptyComponent (by decide)
  have htrim : trim "bold green" ≠ "none" := by decide +kernel
  have hwords : words "bold green" = ["bold", "green"] := by decide +kernel
  have hread : Style.read "bold green" = (Color.check "green").bind fun _ =>
      .ok { attributes := [("bold", true)], color := some "green" } := by
    rw [Style.read, if_neg htrim, hwords,
      extend_attribute (by decide) (by decide : _ = some "bold"),
      extend_color (by decide) (by decide)]
    rfl
  exact normalize_of_color hread hcheck (by decide) (by decide +kernel)

/-! ## Reading tags -/

namespace Markup

/-- A tag without parameters puts the style on that is its name. -/
theorem ofTag_of_no_parameters {tag : List Char} (htag : '=' ∉ tag) :
    OpenTag.ofTag tag = (normalName tag).map fun name => ⟨name, none, []⟩ := by
  have hall : ∀ c ∈ tag, (c != '=') = true := by
    intro c hc
    exact bne_iff_ne.mpr fun h => htag (h ▸ hc)
  rw [OpenTag.ofTag, nameOf, parameters?, List.takeWhile_eq_self_iff.mpr hall,
    List.dropWhile_eq_nil_iff.mpr hall]
  cases normalName tag <;> rfl

/-- A tag whose name is normal keeps that name. -/
theorem ofTag_of_normalize {tag : String} (htag : '=' ∉ tag.toList)
    (hnormal : Style.normalize tag = .ok tag) :
    OpenTag.ofTag tag.toList = .ok ⟨tag, none, []⟩ := by
  rw [ofTag_of_no_parameters htag, normalName, String.ofList_toList, hnormal]
  rfl

/-- The style of a color that has an empty component. -/
theorem ofTag_emptyComponent : OpenTag.ofTag "rgb(1,,3)".toList = .error .emptyComponent := by
  have hname : String.ofList ("rgb(1,,3)".toList.map lowerLetter) ∉ Color.names := fun hmem =>
    Color.noParenthesis_of_mem_names _ hmem (by decide)
  have hcheck : Color.check "rgb(1,,3)" = .error .emptyComponent := by
    rw [Color.check, if_neg (mt List.mem_of_elem_eq_true hname)]
    rfl
  have htrim : trim "rgb(1,,3)" ≠ "none" := by decide +kernel
  have hwords : words "rgb(1,,3)" = ["rgb(1,,3)"] := by decide +kernel
  have hlower : lower "rgb(1,,3)" = "rgb(1,,3)" := by decide +kernel
  have hread : Style.read "rgb(1,,3)" = .error .emptyComponent := by
    rw [Style.read, if_neg htrim, hwords, Style.extend_color (by decide) (by decide), hlower,
      hcheck]
    rfl
  rw [ofTag_of_no_parameters (by decide), normalName, String.ofList_toList, Style.normalize, hread]
  rfl

/-- A tag that reaches further puts on the same style. -/
@[simp] theorem OpenTag.style_cover (shown : List Char) (tag : OpenTag) :
    (tag.cover shown).style = tag.style := rfl

namespace Tags

/-- None of the tags has a style that is refused. -/
def IsHarmless (tags : Tags) : Prop :=
  ∀ tag ∈ tags.all, Style.isRefused tag.style = false

theorem IsHarmless.pass {tags : Tags} (h : tags.IsHarmless) (piece : Piece) :
    (tags.pass piece).IsHarmless := by
  intro tag htag
  rcases List.mem_append.mp htag with hclosed | hopened
  · exact h tag (List.mem_append_left _ hclosed)
  · obtain ⟨before, hbefore, rfl⟩ := List.mem_map.mp hopened
    rw [OpenTag.style_cover]
    exact h before (List.mem_append_right _ hbefore)

variable {tags tags' : Tags} {piece : Piece} {tag : List Char} {fault : MarkupFault}

/-- A tag that opens is open behind its own place. -/
theorem read_open (hopen : tag.head? ≠ some '/') :
    tags.read (.tag 0 tag) = (OpenTag.ofTag tag).map fun opened =>
      { tags.pass (.tag 0 tag) with opened := opened :: (tags.pass (.tag 0 tag)).opened } := by
  rw [read, if_neg (by decide), if_neg hopen]
  cases OpenTag.ofTag tag <;> rfl

/-- A closing tag is met at the place of its bracket. -/
theorem read_close (hclose : tag.head? = some '/') :
    tags.read (.tag 0 tag) = (tags.pass (.tag 0 tag)).close tags.position tag := by
  rw [read, if_neg (by decide), if_pos hclose]
  rfl

/-- The closing tag without a name closes the last tag of all. -/
theorem close_slash (position : Nat) :
    tags.close position ['/'] = tags.closeLast (fun _ => true) (.nothingOpen position) := by
  rw [close]
  exact if_pos (by decide)

/-- A closing tag with a name closes nothing where no tag is open. -/
theorem close_of_none_open {name : String} (hopened : tags.opened = [])
    (hnamed : dropBothWhile isBlank ((nameOf tag).drop 1) ≠ [])
    (hnormal : normalName (dropBothWhile isBlank ((nameOf tag).drop 1)) = .ok name)
    (position : Nat) :
    tags.close position tag = .error (.notOpen (String.ofList tag) position) := by
  rw [close, if_neg hnamed, hnormal]
  show tags.closeLast _ _ = _
  rw [closeLast, hopened]
  rfl

theorem foldlM_read_of_ok (h : tags.read piece = .ok tags') (rest : List Piece) :
    (piece :: rest).foldlM read tags = rest.foldlM read tags' := by
  rw [List.foldlM_cons, h]
  rfl

theorem foldlM_read_of_error (h : tags.read piece = .error fault) (rest : List Piece) :
    (piece :: rest).foldlM read tags = .error fault := by
  rw [List.foldlM_cons, h]
  rfl

/-- A text is read in two parts where it is cut into pieces in two parts. -/
theorem readAll_append {text text' : String} {front : List Piece}
    (hpieces : pieces [] (text ++ text').toList = front ++ pieces [] text'.toList)
    (hfront : front.foldlM read tags = .ok tags') :
    tags.readAll (text ++ text') = tags'.readAll text' := by
  rw [readAll, hpieces, List.foldlM_append, hfront]
  rfl

end Tags

/-- A piece that can be read whatever came before, and puts on no style that is refused. -/
def Piece.IsHarmless (piece : Piece) : Prop :=
  ∀ tags : Tags, tags.IsHarmless → ∃ tags', tags.read piece = .ok tags' ∧ tags'.IsHarmless

theorem Piece.isHarmless_plain (cs : List Char) : (Piece.plain cs).IsHarmless :=
  fun tags htags => ⟨tags.pass (.plain cs), rfl, htags.pass _⟩

/-- A tag that opens is harmless if its style is. -/
theorem Piece.isHarmless_tag {tag : List Char} {opened : OpenTag} (hopen : tag.head? ≠ some '/')
    (htag : OpenTag.ofTag tag = .ok opened) (hstyle : Style.isRefused opened.style = false) :
    (Piece.tag 0 tag).IsHarmless := by
  intro tags htags
  refine ⟨_, by rw [Tags.read_open hopen, htag]; rfl, fun other hother => ?_⟩
  rcases List.mem_append.mp hother with hclosed | hopened
  · exact htags other (List.mem_append_left _ hclosed)
  · rcases List.mem_cons.mp hopened with rfl | hrest
    · exact hstyle
    · exact htags.pass _ other (List.mem_append_right _ hrest)

/-- Harmless pieces can all be read, one after the other. -/
theorem exists_foldlM_read {text : List Piece} {tags : Tags} (htags : tags.IsHarmless)
    (htext : ∀ piece ∈ text, piece.IsHarmless) :
    ∃ tags', text.foldlM Tags.read tags = .ok tags' ∧ tags'.IsHarmless := by
  induction text generalizing tags with
  | nil => exact ⟨tags, rfl, htags⟩
  | cons piece text ih =>
    obtain ⟨hpiece, htext⟩ := List.forall_mem_cons.mp htext
    obtain ⟨tags', hread, htags'⟩ := hpiece tags htags
    obtain ⟨tags'', hrest, htags''⟩ := ih htags' htext
    exact ⟨tags'', (Tags.foldlM_read_of_ok hread text).trans hrest, htags''⟩

end Markup

/-! ## Messages behind a mark -/

namespace Console

open Markup (Tags OpenTag Piece)

variable {mark message markup : String}

theorem refuses_eq_false_iff : refuses markup = false ↔ fault? markup = none := by
  rw [refuses, ← Option.not_isSome_iff_eq_none, Bool.not_eq_true]

/-- A text is shown if its tags can be read and have no style that is refused. -/
theorem refuses_eq_false {tags : Tags} (hread : Markup.readTags markup = .ok tags)
    (htags : tags.IsHarmless) : refuses markup = false := by
  have hall : (tags.all.any fun tag => isLookedUp
      ((shownChars markup).any fun c => c == '\n' || c == '\t') tag
        && Style.isRefused tag.style) = false := by
    refine List.any_eq_false.mpr fun tag htag => ?_
    rw [htags tag htag, Bool.and_false]
    exact Bool.false_ne_true
  rw [refuses_eq_false_iff, fault?, hread]
  dsimp only
  rw [hall]
  rfl

/-- A text is refused for the first fault in its tags. -/
theorem fault?_of_error {fault : MarkupFault} (h : Markup.readTags markup = .error fault) :
    fault? markup = some fault := by
  rw [fault?, h]

/-- A mark is read to its end whatever stands behind it; then no tag is open, and no style was
refused. -/
def IsSound (mark : String) : Prop :=
  ∃ tags : Tags, tags.IsHarmless ∧ tags.opened = [] ∧ tags.position = mark.length ∧
    ∀ message, Markup.readTags (mark ++ message) = tags.readAll message

/-- The tag of a mark is open over the text of the mark, and then the one that `[/]` closes. -/
theorem foldlM_read_styled {tag : List Char} {opened : OpenTag} (text : List Char)
    (hopen : tag.head? ≠ some '/') (htag : OpenTag.ofTag tag = .ok opened)
    (harguments : opened.hasArguments = false) :
    ∃ closed : OpenTag, closed.style = opened.style ∧
      [Piece.plain [], .tag 0 tag, .plain text, .tag 0 ['/']].foldlM Tags.read {}
        = .ok { position := tag.length + text.length + 5, closed := [closed] } := by
  let covered := opened.cover (Piece.plain text).shown
  have harguments' : (covered.cover (Piece.tag 0 ['/']).shown).hasArguments = false := harguments
  have hopened : ({} : Tags).read (.tag 0 tag)
      = .ok { position := tag.length + 2, opened := [opened] } := by
    rw [Tags.read_open hopen, htag]
    simp [Tags.pass, Piece.length, Except.map]
  have hclosed : ({ position := tag.length + 2 + text.length, opened := [covered] } : Tags).read
      (.tag 0 ['/']) = .ok
        { position := tag.length + text.length + 5
          closed := [covered.cover (Piece.tag 0 ['/']).shown] } := by
    rw [Tags.read_close rfl, Tags.close_slash, Tags.closeLast]
    simp [Tags.pass, Piece.length, harguments']
    omega
  refine ⟨covered.cover (Piece.tag 0 ['/']).shown, rfl, ?_⟩
  rw [Tags.foldlM_read_of_ok rfl]
  refine (Tags.foldlM_read_of_ok hopened _).trans ?_
  rw [Tags.foldlM_read_of_ok rfl]
  exact Tags.foldlM_read_of_ok hclosed []

/-- A mark is sound if its style is. -/
theorem isSound_styled {c : Char} {name text : List Char} (hc : Markup.startsTag c = true)
    (hslash : c ≠ '/') (hname : ∀ d ∈ name, d ≠ ']' ∧ d ≠ '[')
    (htext : ∀ d ∈ text, d ≠ '[' ∧ d ≠ '\\') (hparameters : '=' ∉ c :: name)
    (hstyle : Style.normalize (String.ofList (c :: name)) = .ok (String.ofList (c :: name)) ∧
      Style.isRefused (String.ofList (c :: name)) = false) :
    IsSound (Markup.styled (String.ofList (c :: name)) (String.ofList text)) := by
  have htag := Markup.ofTag_of_normalize (by rwa [String.toList_ofList]) hstyle.1
  rw [String.toList_ofList] at htag
  obtain ⟨closed, hclosed, hread⟩ := foldlM_read_styled text (by simpa) htag
    (by simp [OpenTag.hasArguments])
  have hmarkup (message : String) :
      (Markup.styled (String.ofList (c :: name)) (String.ofList text) ++ message).toList
        = '[' :: c :: (name ++ ']' :: (text ++ '[' :: '/' :: ']' :: message.toList)) := by
    simp [Markup.styled]
  refine ⟨_, ?_, rfl, ?_, fun message => Tags.readAll_append ?_ hread⟩
  · intro tag htag
    obtain rfl : tag = closed := by simpa [Tags.all] using htag
    rw [hclosed]
    exact hstyle.2
  · have hlength := congrArg List.length (hmarkup "")
    rw [String.append_empty, String.length_toList] at hlength
    rw [hlength]
    simp
    omega
  · rw [hmarkup, Markup.pieces_styled hc hname htext]
    rfl

theorem isSound_successMark : IsSound successMark :=
  @isSound_styled 'b' "old green".toList ['✓'] (by decide) (by decide) (by simp) (by simp)
    (by simp) Style.normalize_boldGreen

theorem isSound_infoMark : IsSound infoMark :=
  @isSound_styled 'c' "yan".toList ['•'] (by decide) (by decide) (by simp) (by simp) (by simp)
    (Style.normalize_of_word (by decide +kernel) (by decide +kernel) (by decide +kernel) (by decide)
      (by decide) (Color.check_ne_emptyComponent (by decide)))

theorem isSound_failureMark : IsSound failureMark :=
  @isSound_styled 'r' "ed".toList ['x'] (by decide) (by decide) (by simp) (by simp) (by simp)
    (Style.normalize_of_word (by decide +kernel) (by decide +kernel) (by decide +kernel) (by decide)
      (by decide) (Color.check_ne_emptyComponent (by decide)))

/-- A message is shown if all of its pieces are harmless. -/
theorem refuses_of_pieces (h : IsSound mark)
    (hmessage : ∀ piece ∈ Markup.pieces [] (" " ++ message).toList, piece.IsHarmless) :
    refuses (mark ++ " " ++ message) = false := by
  obtain ⟨tags, htags, -, -, hread⟩ := h
  obtain ⟨tags', hread', htags'⟩ := Markup.exists_foldlM_read htags hmessage
  rw [String.append_assoc]
  exact refuses_eq_false ((hread _).trans hread') htags'

/-- **A message without an opening bracket is shown.** -/
theorem refuses_of_no_bracket (h : IsSound mark) (hmessage : '[' ∉ message.toList) :
    refuses (mark ++ " " ++ message) = false := by
  have hplain : '[' ∉ (" " ++ message).toList := by simpa using hmessage
  refine refuses_of_pieces h fun piece hpiece => ?_
  rw [Markup.pieces_of_no_bracket [] _ hplain, List.mem_singleton] at hpiece
  rw [hpiece]
  exact Piece.isHarmless_plain _

/-- **A message is refused for its first tag, if that cannot be read where no tag is open.** -/
theorem fault?_of_first_tag (h : IsSound mark) (before : List Char) {after tag rest : List Char}
    {fault : MarkupFault} (hmessage : message.toList = before ++ '[' :: after)
    (hbefore : ∀ c ∈ before, c ≠ '[' ∧ c ≠ '\\')
    (htag : Markup.takeTag after = some (tag, rest))
    (hfault : ∀ tags : Tags, tags.opened = [] →
      tags.position = mark.length + 1 + before.length → tags.read (.tag 0 tag) = .error fault) :
    fault? (mark ++ " " ++ message) = some fault := by
  obtain ⟨tags, -, hopened, hposition, hread⟩ := h
  have hplain : ∀ c ∈ ' ' :: before, c ≠ '[' ∧ c ≠ '\\' :=
    List.forall_mem_cons.mpr ⟨by decide, hbefore⟩
  have hmessage' : (" " ++ message).toList = (' ' :: before) ++ '[' :: after := by
    rw [String.toList_append, hmessage]
    rfl
  have hbehind : (tags.pass (.plain (' ' :: before))).read (.tag 0 tag) = .error fault := by
    refine hfault _ (by rw [Tags.pass, hopened]; rfl) ?_
    show tags.position + (before.length + 1) = _
    rw [hposition, Nat.add_assoc, Nat.add_comm before.length]
  refine fault?_of_error ?_
  rw [String.append_assoc, hread, Tags.readAll, hmessage', Markup.pieces_append_plain hplain,
    Markup.pieces_tag htag, List.nil_append, Tags.foldlM_read_of_ok rfl]
  exact Tags.foldlM_read_of_error hbehind _

/-- **A message is refused if its first tag is a closing one with a name.** -/
theorem fault?_of_closing_tag (h : IsSound mark) (before : List Char) {after tag rest : List Char}
    {name : String} (hmessage : message.toList = before ++ '[' :: after)
    (hbefore : ∀ c ∈ before, c ≠ '[' ∧ c ≠ '\\')
    (htag : Markup.takeTag after = some (tag, rest)) (hclose : tag.head? = some '/')
    (hnamed : dropBothWhile isBlank ((Markup.nameOf tag).drop 1) ≠ [])
    (hnormal : Markup.normalName (dropBothWhile isBlank ((Markup.nameOf tag).drop 1)) = .ok name) :
    fault? (mark ++ " " ++ message)
      = some (.notOpen (String.ofList tag) (mark.length + 1 + before.length)) := by
  refine fault?_of_first_tag h before hmessage hbefore htag fun tags hopened hposition => ?_
  have hpassed : (tags.pass (.tag 0 tag)).opened = [] := by rw [Tags.pass, hopened]; rfl
  rw [Tags.read_close hclose, Tags.close_of_none_open hpassed hnamed hnormal, hposition]

end Console

end PageRoutes
