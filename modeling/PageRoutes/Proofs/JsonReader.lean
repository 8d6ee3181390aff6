import Mathlib.Data.List.Basic
import Mathlib.Tactic.IntervalCases
import PageRoutes.Json.Alike
import PageRoutes.Json.Printer
import PageRoutes.Json.Reader

/-!
# Reading back what was written

`Json.read?` reads the text of a value as the value, in each of the three layouts.

* `readText_writeText` — a text is read back, whatever follows its closing quote.
* `readNumber_toDigits` — an integer is read back if nothing follows that could belong to it.
* `readsBack` — a value at any depth is read back, on as many steps as its text is long.
* `read?_write` — a document is read back.

The layouts differ only in blanks: what stands behind an opening bracket, a comma or a colon is
blank (`isSpace_of_mem_gap`, `comma_eq`, `colon_eq`), and the reader skips it.
-/

namespace PageRoutes.Json

open Text

/-! ## Blanks -/

/-- A character that may stand anywhere between the parts of a value. -/
def isSpace (c : Char) : Bool :=
  c == ' ' || c == '\t' || c == '\n' || c == '\r'

theorem skipBlanks_append {blanks : List Char} (h : ∀ c ∈ blanks, isSpace c) (cs : List Char) :
    skipBlanks (blanks ++ cs) = skipBlanks cs :=
  List.dropWhile_append_of_pos h

theorem skipBlanks_cons {c : Char} (h : isSpace c = false) (cs : List Char) :
    skipBlanks (c :: cs) = c :: cs :=
  List.dropWhile_cons_of_neg (by simpa [isSpace] using h)

/-- Blanks are skipped up to the next character that is none. -/
theorem skipBlanks_append_cons {blanks : List Char} (h : ∀ c ∈ blanks, isSpace c) {c : Char}
    (hc : isSpace c = false) (cs : List Char) : skipBlanks (blanks ++ c :: cs) = c :: cs := by
  rw [skipBlanks_append h, skipBlanks_cons hc]

theorem isSpace_of_mem_gap {layout : Layout} {depth : Nat} :
    ∀ c ∈ layout.gap depth, isSpace c := by
  intro c hc
  cases layout with
  | indented width =>
    rcases List.mem_cons.mp hc with rfl | hc
    · rfl
    · rw [List.eq_of_mem_replicate hc]
      rfl
  | spaced => exact absurd hc List.not_mem_nil
  | compact => exact absurd hc List.not_mem_nil

/-- Behind the comma between two items there are only blanks. -/
theorem comma_eq (layout : Layout) (depth : Nat) :
    ∃ blanks, layout.comma depth = ',' :: blanks ∧ ∀ c ∈ blanks, isSpace c := by
  cases layout with
  | indented width => exact ⟨_, rfl, isSpace_of_mem_gap⟩
  | spaced => exact ⟨[' '], rfl, List.forall_mem_singleton.mpr rfl⟩
  | compact => exact ⟨[], rfl, List.forall_mem_nil _⟩

/-- Behind the colon between a name and its value there are only blanks. -/
theorem colon_eq (layout : Layout) :
    ∃ blanks, layout.colon = ':' :: blanks ∧ ∀ c ∈ blanks, isSpace c := by
  cases layout with
  | indented width => exact ⟨[' '], rfl, List.forall_mem_singleton.mpr rfl⟩
  | spaced => exact ⟨[' '], rfl, List.forall_mem_singleton.mpr rfl⟩
  | compact => exact ⟨[], rfl, List.forall_mem_nil _⟩

/-! ## Texts -/

/-- A control character is read back from its four digits. -/
theorem fourDigits?_control {n : Nat} (h : n < 0x20) :
    ∃ a b c d, hexDigits 4 n = [a, b, c, d] ∧ fourDigits? a b c d = some n := by
  interval_cases n <;> exact ⟨_, _, _, _, rfl, rfl⟩

theorem ofCode?_control {c : Char} (h : c.toNat < 0x20) :
    TextUnit.ofCode? c.toNat = some (.char c) := by
  have hvalid : c.toNat.isValidChar := .inl (by omega)
  rw [TextUnit.ofCode?, if_neg (by omega), if_neg (by omega), charOf?, if_pos hvalid,
    Char.ofNat_toNat]
  rfl

/-- A backslash and a letter are one character. -/
theorem readUnits_letter {e c : Char} (hu : e ≠ 'u') (he : letterEscape? e = some c)
    (rest : List Char) :
    readUnits ('\\' :: e :: rest)
      = (readUnits rest).map fun (units, rest) => (.char c :: units, rest) := by
  rw [readUnits, he]
  · cases readUnits rest <;> rfl
  · intro _ _ _ _ _ h _
    exact absurd h hu

/-- A backslash and the four digits of a control character are that character. -/
theorem readUnits_digits {c : Char} (h : c.toNat < 0x20) (rest : List Char) :
    readUnits ('\\' :: 'u' :: hexDigits 4 c.toNat ++ rest)
      = (readUnits rest).map fun (units, rest) => (.char c :: units, rest) := by
  obtain ⟨w, x, y, z, hdigits, hvalue⟩ := fourDigits?_control h
  simp only [hdigits, List.cons_append, List.nil_append]
  rw [readUnits, hvalue]
  show (TextUnit.ofCode? c.toNat).bind _ = _
  rw [ofCode?_control h]
  cases readUnits rest <;> rfl

/-- Any other character is itself. -/
theorem readUnits_plain {c : Char} (hquote : c ≠ '"') (hslash : c ≠ '\\')
    (hcontrol : ¬c.toNat < 0x20) (rest : List Char) :
    readUnits (c :: rest)
      = (readUnits rest).map fun (units, rest) => (.char c :: units, rest) := by
  rw [readUnits, if_neg hcontrol]
  · exact hquote
  · intro _ _ _ _ _ h _
    exact absurd h hslash
  · intro _ _ h _
    exact absurd h hslash

/-- **One written character is read back**, and reading goes on behind it. -/
theorem readUnits_writeChar (c : Char) (rest : List Char) :
    readUnits (writeChar c ++ rest)
      = (readUnits rest).map fun (units, rest) => (.char c :: units, rest) := by
  unfold writeChar
  -- The cases are those of `writeChar`: itself, a letter, four digits, no escape.
  split
  · next hself =>
    rcases hself with rfl | rfl
    · exact readUnits_letter (by decide) rfl rest
    · exact readUnits_letter (by decide) rfl rest
  next hself =>
  rw [not_or] at hself
  split
  · next hc => exact hc ▸ readUnits_letter (by decide) rfl rest
  split
  · next hc => exact hc ▸ readUnits_letter (by decide) rfl rest
  split
  · next hc => exact hc ▸ readUnits_letter (by decide) rfl rest
  split
  · next hc => exact hc ▸ readUnits_letter (by decide) rfl rest
  split
  · next hc => exact hc ▸ readUnits_letter (by decide) rfl rest
  split
  · next hcontrol => exact readUnits_digits hcontrol rest
  · next hcontrol => exact readUnits_plain hself.1 hself.2 hcontrol rest

theorem chars?_map_char (cs : List Char) : TextUnit.chars? (cs.map .char) = some cs := by
  induction cs with
  | nil => rfl
  | cons c cs ih => rw [List.map_cons, TextUnit.chars?, ih, Option.map_some]

theorem readUnits_writeChars (cs rest : List Char) :
    readUnits (cs.flatMap writeChar ++ '"' :: rest) = some (cs.map .char, rest) := by
  induction cs with
  | nil => rfl
  | cons c cs ih =>
    rw [List.flatMap_cons, List.append_assoc, readUnits_writeChar, ih]
    rfl

/-- **A text is read back**, whatever follows its closing quote. -/
theorem readText_writeText (s : String) (rest : List Char) :
    readText (s.toList.flatMap writeChar ++ '"' :: rest) = some (s, rest) := by
  rw [readText, readUnits_writeChars]
  show (TextUnit.chars? (s.toList.map .char)).bind _ = _
  rw [chars?_map_char]
  show some (String.ofList s.toList, rest) = _
  rw [String.ofList_toList]

/-! ## Integers -/

/-- No text behind a number that could belong to it. -/
def EndsNumber (rest : List Char) : Prop :=
  ∀ c ∈ rest.head?, c.isDigit = false ∧ c ≠ '.' ∧ c ≠ 'e' ∧ c ≠ 'E'

theorem endsNumber_cons {c : Char} (h : c.isDigit = false ∧ c ≠ '.' ∧ c ≠ 'e' ∧ c ≠ 'E')
    (rest : List Char) : EndsNumber (c :: rest) := by
  intro d hd
  rw [← Option.some.inj hd]
  exact h

theorem digitsValue_toDigits (n : Nat) : digitsValue (Nat.toDigits 10 n) = n :=
  Nat.ofDigitChars_ten_toDigits

theorem head?_toDigits_ne_zero {n : Nat} (h : 0 < n) : (Nat.toDigits 10 n).head? ≠ some '0' := by
  induction n using Nat.strongRecOn with
  | ind n ih =>
    by_cases hsmall : n < 10
    · have hall : ∀ m ∈ List.range 10, 0 < m → Nat.digitChar m ≠ '0' := by decide
      rw [Nat.toDigits_of_lt_base hsmall]
      exact fun hhead => hall n (List.mem_range.mpr hsmall) h (Option.some.inj hhead)
    · have hlarge : 10 ≤ n := Nat.not_lt.mp hsmall
      rw [Nat.toDigits_of_base_le (by decide) hlarge,
        List.head?_append_of_ne_nil _ Nat.toDigits_ne_nil]
      exact ih (n / 10) (Nat.div_lt_self h (by decide)) (Nat.div_pos hlarge (by decide))

/-- Written digits have no zero in front that could be left out. -/
theorem isWhole_toDigits (n : Nat) : isWhole (Nat.toDigits 10 n) = true := by
  rcases Nat.eq_zero_or_pos n with rfl | hpos
  · rfl
  · unfold isWhole
    split
    · next hnil => exact absurd hnil Nat.toDigits_ne_nil
    · next rest hzero => exact absurd (by rw [hzero]; rfl) (head?_toDigits_ne_zero hpos)
    · rfl

theorem takeDigits_toDigits (n : Nat) {rest : List Char} (h : EndsNumber rest) :
    takeDigits (Nat.toDigits 10 n ++ rest) = (Nat.toDigits 10 n, rest) := by
  have hdigit : ∀ c ∈ Nat.toDigits 10 n, c.isDigit = true :=
    fun c hc => Nat.isDigit_of_mem_toDigits (by decide) (by decide) hc
  rw [takeDigits, List.takeWhile_append_of_pos hdigit, List.dropWhile_append_of_pos hdigit]
  cases rest with
  | nil => rw [List.takeWhile_nil, List.dropWhile_nil, List.append_nil]
  | cons c rest =>
    have hc : ¬c.isDigit = true := by simp [(h c rfl).1]
    rw [List.takeWhile_cons_of_neg hc, List.dropWhile_cons_of_neg hc, List.append_nil]

theorem readFraction_eq {rest : List Char} (h : EndsNumber rest) :
    readFraction rest = some ([], rest) := by
  unfold readFraction
  split
  · exact absurd rfl (h '.' rfl).2.1
  · rfl

theorem readExponent_eq {rest : List Char} (h : EndsNumber rest) :
    readExponent rest = some (false, 0, rest) := by
  cases rest with
  | nil => rfl
  | cons c rest =>
    obtain ⟨-, -, he, hE⟩ := h c rfl
    exact if_neg (not_or.mpr ⟨he, hE⟩)

theorem readMagnitude_toDigits (isNegative : Bool) (n : Nat) {rest : List Char}
    (h : EndsNumber rest) :
    readMagnitude isNegative (Nat.toDigits 10 n ++ rest)
      = some (.int (if isNegative then -n else n), rest) := by
  rw [readMagnitude, takeDigits_toDigits n h]
  dsimp only
  rw [isWhole_toDigits, readFraction_eq h]
  show (readExponent rest).bind _ = _
  rw [readExponent_eq h]
  show some (int (if isNegative then -(digitsValue _ : Int) else (digitsValue _ : Int)), rest) = _
  rw [digitsValue_toDigits]

/-- What opens a written integer belongs to no other value. -/
theorem toDigits_eq_cons (n : Nat) : ∃ d ds, Nat.toDigits 10 n = d :: ds ∧ d.isDigit = true := by
  cases hn : Nat.toDigits 10 n with
  | nil => exact absurd hn Nat.toDigits_ne_nil
  | cons d ds =>
    have hd : d ∈ Nat.toDigits 10 n := by rw [hn]; exact List.mem_cons_self
    exact ⟨d, ds, rfl, Nat.isDigit_of_mem_toDigits (by decide) (by decide) hd⟩

theorem readNumber_toDigits (isNegative : Bool) (n : Nat) {rest : List Char}
    (h : EndsNumber rest) :
    readNumber isNegative (Nat.toDigits 10 n ++ rest)
      = some (.int (if isNegative then -n else n), rest) := by
  rw [← readMagnitude_toDigits isNegative n h]
  obtain ⟨d, ds, hn, hd⟩ := toDigits_eq_cons n
  rw [hn, List.cons_append, readNumber]
  intro _ hword
  rw [(List.cons.inj hword).1] at hd
  exact absurd hd (by decide)

/-! ## Values -/

/-- How a value opens: with a character that is neither blank nor the end of a list. -/
def OpensValue (cs : List Char) : Prop :=
  ∃ c rest, cs = c :: rest ∧ isSpace c = false ∧ c ≠ ']'

theorem opensValue_writeInt (n : Int) : OpensValue (writeInt n) := by
  cases n with
  | ofNat n =>
    obtain ⟨d, ds, hn, hd⟩ := toDigits_eq_cons n
    refine ⟨d, ds, hn, ?_, ?_⟩
    · refine Bool.eq_false_iff.mpr fun hspace => ?_
      simp only [isSpace, Bool.or_eq_true, beq_iff_eq] at hspace
      rcases hspace with ((rfl | rfl) | rfl) | rfl <;> exact absurd hd (by decide)
    · rintro rfl
      exact absurd hd (by decide)
  | negSucc n => exact ⟨'-', _, rfl, rfl, by decide⟩

theorem opensValue_write (layout : Layout) (depth : Nat) {value : Json} (h : value.IsExact) :
    OpensValue (write layout depth value) := by
  unfold write
  split
  · exact ⟨'n', _, rfl, rfl, by decide⟩
  · exact ⟨'t', _, rfl, rfl, by decide⟩
  · exact ⟨'f', _, rfl, rfl, by decide⟩
  · exact opensValue_writeInt _
  · exact absurd h id
  · exact ⟨'"', _, rfl, rfl, by decide⟩
  · exact ⟨'[', _, rfl, rfl, by decide⟩
  · exact ⟨'[', _, rfl, rfl, by decide⟩
  · exact ⟨'\x7b', _, rfl, rfl, by decide⟩
  · exact ⟨'\x7b', _, rfl, rfl, by decide⟩

theorem OpensValue.append {cs : List Char} (h : OpensValue cs) (rest : List Char) :
    OpensValue (cs ++ rest) := by
  obtain ⟨c, more, rfl, hc⟩ := h
  exact ⟨c, more ++ rest, rfl, hc⟩

theorem readValue_skip {blanks : List Char} (h : ∀ c ∈ blanks, isSpace c) (steps : Nat)
    (cs : List Char) : readValue steps (blanks ++ cs) = readValue steps cs := by
  cases steps with
  | zero => rfl
  | succ steps => rw [readValue, readValue, skipBlanks_append h]

theorem readItems_skip {blanks : List Char} (h : ∀ c ∈ blanks, isSpace c) (steps : Nat)
    (cs : List Char) : readItems steps (blanks ++ cs) = readItems steps cs := by
  cases steps with
  | zero => rfl
  | succ steps => rw [readItems, readItems, readValue_skip h]

theorem readMembers_skip {blanks : List Char} (h : ∀ c ∈ blanks, isSpace c) (steps : Nat)
    (cs : List Char) : readMembers steps (blanks ++ cs) = readMembers steps cs := by
  cases steps with
  | zero => rfl
  | succ steps => rw [readMembers, readMembers, skipBlanks_append h]

theorem readValue_writeText (steps : Nat) (s : String) (rest : List Char) :
    readValue (steps + 1) (writeText s ++ rest) = some (.text s, rest) := by
  rw [readValue, writeText, List.append_assoc]
  show (readText (s.toList.flatMap writeChar ++ '"' :: rest)).map _ = _
  rw [readText_writeText]
  rfl

/-- A digit opens no value but a number. -/
theorem readValue_digit {d : Char} (h : d.isDigit = true) (steps : Nat) (cs : List Char) :
    readValue (steps + 1) (d :: cs) = readNumber false (d :: cs) := by
  have hne : ∀ c : Char, c.isDigit = false → d ≠ c := by
    rintro c hc rfl
    exact absurd (hc.symm.trans h) Bool.false_ne_true
  have hspace : isSpace d = false := by
    simp [isSpace, hne ' ' rfl, hne '\t' rfl, hne '\n' rfl, hne '\r' rfl]
  rw [readValue, skipBlanks_cons hspace]
  split
  all_goals first | rfl | (next hcs => exact absurd (List.cons.inj hcs).1 (hne _ rfl))

theorem readValue_writeInt (steps : Nat) (n : Int) {rest : List Char} (h : EndsNumber rest) :
    readValue (steps + 1) (writeInt n ++ rest) = some (.int n, rest) := by
  cases n with
  | ofNat n =>
    obtain ⟨d, ds, hn, hd⟩ := toDigits_eq_cons n
    have hread := readNumber_toDigits false n h
    rw [writeInt]
    rw [hn, List.cons_append] at hread ⊢
    rw [readValue_digit hd, hread]
    rfl
  | negSucc n =>
    show readNumber true (Nat.toDigits 10 (n + 1) ++ rest) = _
    rw [readNumber_toDigits true (n + 1) h]
    rfl

/-- Behind its opening bracket a list with items is read item by item. -/
theorem readValue_list {cs blanks : List Char} (hblanks : ∀ c ∈ blanks, isSpace c)
    (hcs : OpensValue cs) (steps : Nat) :
    readValue (steps + 1) ('[' :: blanks ++ cs)
      = (readItems steps cs).map fun (items, rest) => (.list items, rest) := by
  obtain ⟨c, rest, rfl, hspace, hend⟩ := hcs
  have hopen : skipBlanks ('[' :: blanks ++ c :: rest) = '[' :: (blanks ++ c :: rest) :=
    skipBlanks_cons rfl _
  simp only [readValue, hopen, skipBlanks_append_cons hblanks hspace]
  split
  · next hcs => exact absurd (List.cons.inj hcs).1 hend
  · rfl

theorem readValue_object {cs blanks : List Char} (hblanks : ∀ c ∈ blanks, isSpace c)
    (steps : Nat) :
    readValue (steps + 1) ('\x7b' :: blanks ++ '"' :: cs)
      = (readMembers steps ('"' :: cs)).map fun (members, rest) => (.object members, rest) := by
  have hopen : skipBlanks ('\x7b' :: blanks ++ '"' :: cs) = '\x7b' :: (blanks ++ '"' :: cs) :=
    skipBlanks_cons rfl _
  have hskip : skipBlanks (blanks ++ '"' :: cs) = '"' :: cs := skipBlanks_append_cons hblanks rfl cs
  simp only [readValue, hopen, hskip]
  rfl

theorem endsNumber_gap (layout : Layout) (depth : Nat) {rest : List Char}
    (h : EndsNumber rest) : EndsNumber (layout.gap depth ++ rest) := by
  cases layout with
  | indented width => exact endsNumber_cons (by decide) _
  | spaced => exact h
  | compact => exact h

theorem endsNumber_writeItems (layout : Layout) (depth : Nat) (items : List Json)
    {rest : List Char} (h : EndsNumber rest) :
    EndsNumber (writeItems layout depth items ++ rest) := by
  cases items with
  | nil => exact h
  | cons item items =>
    obtain ⟨blanks, hcomma, -⟩ := comma_eq layout depth
    rw [writeItems, hcomma]
    exact endsNumber_cons (by decide) _

theorem endsNumber_writeMembers (layout : Layout) (depth : Nat)
    (members : List (String × Json)) {rest : List Char} (h : EndsNumber rest) :
    EndsNumber (writeMembers layout depth members ++ rest) := by
  cases members with
  | nil => exact h
  | cons member members =>
    obtain ⟨blanks, hcomma, -⟩ := comma_eq layout depth
    rw [writeMembers, hcomma]
    exact endsNumber_cons (by decide) _

/-- The last item of a list. -/
theorem readItems_last {steps : Nat} {cs blanks rest : List Char} {item : Json}
    (hitem : readValue steps cs = some (item, blanks ++ ']' :: rest))
    (hblanks : ∀ c ∈ blanks, isSpace c) :
    readItems (steps + 1) cs = some ([item], rest) := by
  have hskip : skipBlanks (blanks ++ ']' :: rest) = ']' :: rest :=
    skipBlanks_append_cons hblanks rfl rest
  simp only [readItems, hitem, Option.bind_eq_bind, Option.bind_some, hskip, Option.pure_def]

/-- An item of a list and the comma behind it. -/
theorem readItems_comma {steps : Nat} {cs rest rest' : List Char} {item : Json} {items : List Json}
    (hitem : readValue steps cs = some (item, ',' :: rest))
    (hitems : readItems steps rest = some (items, rest')) :
    readItems (steps + 1) cs = some (item :: items, rest') := by
  rw [readItems, hitem]
  show (readItems steps rest).bind _ = _
  rw [hitems]
  rfl

/-- The last member of an object. -/
theorem readMembers_last {steps : Nat} {name : String} {value : Json}
    {cs colon blanks rest : List Char} (hcolon : ∀ c ∈ colon, isSpace c)
    (hvalue : readValue steps cs = some (value, blanks ++ '\x7d' :: rest))
    (hblanks : ∀ c ∈ blanks, isSpace c) :
    readMembers (steps + 1) (writeText name ++ ':' :: colon ++ cs)
      = some ([(name, value)], rest) := by
  rw [readMembers, writeText, List.append_assoc, List.append_assoc]
  show (readText (name.toList.flatMap writeChar ++ '"' :: (':' :: colon ++ cs))).bind _ = _
  rw [readText_writeText]
  show (readValue steps (colon ++ cs)).bind _ = _
  rw [readValue_skip hcolon, hvalue]
  show (some (value, blanks ++ '\x7d' :: rest)).bind _ = _
  have hskip : skipBlanks (blanks ++ '\x7d' :: rest) = '\x7d' :: rest :=
    skipBlanks_append_cons hblanks rfl rest
  simp only [Option.bind_some, hskip]
  rfl

/-- A member of an object and the comma behind it. -/
theorem readMembers_comma {steps : Nat} {name : String} {value : Json}
    {members : List (String × Json)} {cs colon rest rest' : List Char}
    (hcolon : ∀ c ∈ colon, isSpace c)
    (hvalue : readValue steps cs = some (value, ',' :: rest))
    (hmembers : readMembers steps rest = some (members, rest')) :
    readMembers (steps + 1) (writeText name ++ ':' :: colon ++ cs)
      = some (addMember name value members, rest') := by
  rw [readMembers, writeText, List.append_assoc, List.append_assoc]
  show (readText (name.toList.flatMap writeChar ++ '"' :: (':' :: colon ++ cs))).bind _ = _
  rw [readText_writeText]
  show (readValue steps (colon ++ cs)).bind _ = _
  rw [readValue_skip hcolon, hvalue]
  show (readMembers steps rest).bind _ = _
  rw [hmembers]
  rfl

theorem addMember_eq_cons {name : String} {members : List (String × Json)}
    (h : name ∉ members.map Prod.fst) (value : Json) :
    addMember name value members = (name, value) :: members := by
  refine if_neg fun hany => h ?_
  obtain ⟨member, hmem, hname⟩ := List.any_eq_true.mp hany
  exact List.mem_map.mpr ⟨member, hmem, beq_iff_eq.mp hname⟩

/-! ## Values at any depth

The reader takes its steps one by one, so the induction is on the steps. The three parts of
`ReadsBack` need each other: a value of a list needs its items, an item is a value.
-/

/-- On a number of steps every exact value is read back whose text is not longer than that. -/
structure ReadsBack (layout : Layout) (steps : Nat) : Prop where
  value : ∀ (depth : Nat) (value : Json) (rest : List Char), value.IsExact → EndsNumber rest →
    (write layout depth value).length ≤ steps →
    readValue steps (write layout depth value ++ rest) = some (value, rest)
  items : ∀ (depth outer : Nat) (item : Json) (items : List Json) (rest : List Char),
    item.IsExact → AllExact items →
    (write layout depth item).length + (writeItems layout depth items).length < steps →
    readItems steps (write layout depth item ++ (writeItems layout depth items
        ++ (layout.gap outer ++ ']' :: rest)))
      = some (item :: items, rest)
  members : ∀ (depth outer : Nat) (name : String) (value : Json) (members : List (String × Json))
    (rest : List Char), value.IsExact → MembersExact members →
    (name :: members.map Prod.fst).Nodup →
    (write layout depth value).length + (writeMembers layout depth members).length < steps →
    readMembers steps (writeText name ++ (layout.colon ++ (write layout depth value
        ++ (writeMembers layout depth members ++ (layout.gap outer ++ '\x7d' :: rest)))))
      = some ((name, value) :: members, rest)

section Step

variable {layout : Layout} {steps : Nat} (ih : ReadsBack layout steps)
include ih

theorem ReadsBack.value_succ (depth : Nat) (value : Json) (rest : List Char)
    (hexact : value.IsExact) (hrest : EndsNumber rest)
    (hsteps : (write layout depth value).length ≤ steps + 1) :
    readValue (steps + 1) (write layout depth value ++ rest) = some (value, rest) := by
  match value with
  | .null => rw [write]; rfl
  | .bool true => rw [write]; rfl
  | .bool false => rw [write]; rfl
  | .int n => rw [write]; exact readValue_writeInt steps n hrest
  | .text s => rw [write]; exact readValue_writeText steps s rest
  | .number _ => exact absurd hexact id
  | .list [] => rw [write]; rfl
  | .object [] => rw [write]; rfl
  | .list (item :: items) =>
    obtain ⟨hitem, hitems⟩ := hexact
    rw [write] at hsteps ⊢
    simp only [List.length_append, List.length_cons, List.append_assoc] at hsteps ⊢
    -- The brackets make the text longer than its items, so the steps left are enough for them.
    rw [readValue_list isSpace_of_mem_gap ((opensValue_write layout _ hitem).append _),
      List.singleton_append, ih.items _ _ item items rest hitem hitems (by omega)]
    rfl
  | .object ((name, value) :: members) =>
    obtain ⟨hnames, hvalue, hmembers⟩ := hexact
    rw [write] at hsteps ⊢
    simp only [List.length_append, List.length_cons, List.append_assoc] at hsteps ⊢
    -- A member is at least one character longer than its value, because of its name.
    have hread := ih.members (depth + 1) depth name value members rest hvalue hmembers hnames
      (by omega)
    rw [List.singleton_append]
    show readValue _ ('\x7b' :: layout.gap (depth + 1) ++ '"' :: _) = _
    rw [readValue_object isSpace_of_mem_gap]
    exact congrArg (Option.map _) hread

theorem ReadsBack.items_succ (depth outer : Nat) (item : Json) (items : List Json)
    (rest : List Char) (hitem : item.IsExact) (hitems : AllExact items)
    (hsteps : (write layout depth item).length + (writeItems layout depth items).length
      < steps + 1) :
    readItems (steps + 1) (write layout depth item ++ (writeItems layout depth items
        ++ (layout.gap outer ++ ']' :: rest)))
      = some (item :: items, rest) := by
  have hend : EndsNumber (layout.gap outer ++ ']' :: rest) :=
    endsNumber_gap layout outer (endsNumber_cons (by decide) rest)
  have hread := ih.value depth item _ hitem (endsNumber_writeItems layout depth items hend)
    (by omega)
  cases items with
  | nil => exact readItems_last hread isSpace_of_mem_gap
  | cons next items =>
    obtain ⟨blanks, hcomma, hblanks⟩ := comma_eq layout depth
    rw [writeItems, hcomma] at hread hsteps ⊢
    simp only [List.length_append, List.length_cons, List.append_assoc, List.cons_append]
      at hread hsteps ⊢
    refine readItems_comma hread ?_
    rw [readItems_skip hblanks]
    exact ih.items depth outer next items rest hitems.1 hitems.2 (by omega)

theorem ReadsBack.members_succ (depth outer : Nat) (name : String) (value : Json)
    (members : List (String × Json)) (rest : List Char) (hvalue : value.IsExact)
    (hmembers : MembersExact members) (hnames : (name :: members.map Prod.fst).Nodup)
    (hsteps : (write layout depth value).length + (writeMembers layout depth members).length
      < steps + 1) :
    readMembers (steps + 1) (writeText name ++ (layout.colon ++ (write layout depth value
        ++ (writeMembers layout depth members ++ (layout.gap outer ++ '\x7d' :: rest)))))
      = some ((name, value) :: members, rest) := by
  obtain ⟨colon, hcolon, hspace⟩ := colon_eq layout
  have hend : EndsNumber (layout.gap outer ++ '\x7d' :: rest) :=
    endsNumber_gap layout outer (endsNumber_cons (by decide) rest)
  have hread := ih.value depth value _ hvalue (endsNumber_writeMembers layout depth members hend)
    (by omega)
  obtain ⟨hname, hnames⟩ := List.nodup_cons.mp hnames
  rw [hcolon, ← List.append_assoc]
  cases members with
  | nil => exact readMembers_last hspace hread isSpace_of_mem_gap
  | cons next members =>
    obtain ⟨blanks, hcomma, hblanks⟩ := comma_eq layout depth
    rw [writeMembers, hcomma] at hread hsteps ⊢
    simp only [List.length_append, List.length_cons, List.append_assoc, List.cons_append]
      at hread hsteps ⊢
    -- The name is new, so the member read last stands in front.
    rw [← addMember_eq_cons hname, ← List.cons_append, ← List.append_assoc]
    refine readMembers_comma hspace hread ?_
    rw [readMembers_skip hblanks]
    exact ih.members depth outer next.1 next.2 members rest hmembers.1 hmembers.2 hnames (by omega)

end Step

/-- **A value is read back** on as many steps as its text has characters. -/
theorem readsBack (layout : Layout) (steps : Nat) : ReadsBack layout steps := by
  induction steps with
  | zero =>
    -- Every text of a value has a character, so no value is to be read on no steps.
    refine ⟨fun depth value rest hexact _ hsteps => ?_, fun _ _ _ _ _ _ _ h => absurd h (by omega),
      fun _ _ _ _ _ _ _ _ _ h => absurd h (by omega)⟩
    obtain ⟨c, more, hopen, -⟩ := opensValue_write layout depth hexact
    rw [hopen] at hsteps
    exact absurd hsteps (Nat.not_succ_le_zero _)
  | succ steps ih => exact ⟨ih.value_succ, ih.items_succ, ih.members_succ⟩

/-- **A document is read back**: a value in any layout, with a line feed behind it. -/
theorem read?_write (layout : Layout) {value : Json} (hexact : value.IsExact) :
    read? (String.ofList (write layout 0 value ++ ['\n'])) = some value := by
  unfold read?
  -- The reader starts with more steps than the document has characters.
  have hread := (readsBack layout (2 * (write layout 0 value ++ ['\n']).length + 2)).value 0 value
    ['\n'] hexact (endsNumber_cons (by decide) []) (by rw [List.length_append]; omega)
  simp only [String.toList_ofList, hread]
  rfl

end PageRoutes.Json
