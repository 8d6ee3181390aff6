import PageRoutes.Proofs.FileUpdates

/-!
# Reading a stored text back

What an encoding writes, it reads. But a file gets its last line feed as one byte behind the bytes
of the text, and two of the encodings write a line feed as two bytes.

* `Encoding.decode?_of_encode?` — the bytes of a text are read as the text.
* `Encoding.getLast?_of_encode?` — which texts end in the byte of a line feed.
* `Encoding.decode?_withLineFeed` — what is read once a file has its last line feed.
* `stored_text_readable_iff` — which stored texts are read back with a line feed at their end.
-/

namespace PageRoutes

open Text FileSystem

namespace Text

/-- The code point of a character is read as the character. -/
theorem charOf?_toNat (c : Char) : charOf? c.toNat = some c := by
  have hvalid : c.toNat.isValidChar := c.valid
  rw [charOf?, if_pos hvalid, Char.ofNat_toNat]

/-- A character is a unit of its own outside the range of halves, or written by two halves. -/
theorem toNat_ranges (c : Char) :
    c.toNat < 0xD800 ∨ 0xDFFF < c.toNat ∧ c.toNat < 0x10000 ∨
      0x10000 ≤ c.toNat ∧ c.toNat < 0x110000 := by
  have hvalid : c.toNat < 0xD800 ∨ 0xDFFF < c.toNat ∧ c.toNat < 0x110000 := c.valid
  omega

namespace Encoding

variable {e : Encoding} {c : Char} {s t : String} {bytes bytes' piece : Bytes}

/-! ## Texts as the bytes of their characters -/

/-- The bytes of a character, if it can be written at all. -/
def charBytes (e : Encoding) (c : Char) : Bytes :=
  (encodeChar? c e).getD []

/-- A text that can be written consists of such characters, and its bytes are theirs. -/
theorem of_encode? (h : encode? e s = some bytes) :
    (∀ c ∈ s.toList, encodeChar? c e = some (charBytes e c)) ∧
      bytes = s.toList.flatMap (charBytes e) := by
  obtain ⟨pieces, hpieces, rfl⟩ := Option.map_eq_some_iff.mp h
  clear h
  generalize s.toList = cs at hpieces ⊢
  induction cs generalizing pieces with
  | nil =>
    rw [List.mapM_nil] at hpieces
    cases hpieces
    exact ⟨nofun, rfl⟩
  | cons c cs ih =>
    rw [List.mapM_cons] at hpieces
    obtain ⟨piece, hpiece, hpieces⟩ := Option.bind_eq_some_iff.mp hpieces
    obtain ⟨rest, hrest, hpieces⟩ := Option.bind_eq_some_iff.mp hpieces
    cases hpieces
    obtain ⟨hall, hflat⟩ := ih rest hrest
    have hbytes : charBytes e c = piece := by rw [charBytes, hpiece, Option.getD_some]
    refine ⟨List.forall_mem_cons.mpr ⟨hbytes ▸ hpiece, hall⟩, ?_⟩
    rw [List.flatten_cons, List.flatMap_cons, hbytes, hflat]

/-- Texts are written one behind the other. -/
theorem encode?_append (hs : encode? e s = some bytes) (ht : encode? e t = some bytes') :
    encode? e (s ++ t) = some (bytes ++ bytes') := by
  obtain ⟨pieces, hpieces, rfl⟩ := Option.map_eq_some_iff.mp hs
  obtain ⟨pieces', hpieces', rfl⟩ := Option.map_eq_some_iff.mp ht
  rw [encode?, String.toList_append, List.mapM_append, hpieces, hpieces']
  simp

/-! ## Reading what was written -/

/-- A code point below 256 is the byte that it is written as. -/
theorem charOf_toUInt8 (h : c.toNat < 256) : Char.ofNat c.toNat.toUInt8.toNat = c := by
  rw [Nat.toUInt8_eq, UInt8.toNat_ofNat', Nat.mod_eq_of_lt h, Char.ofNat_toNat]

/-- Characters that are written as their code points are read by their code points. -/
theorem map_charOf_flatMap {write : Char → Bytes} {cs : List Char}
    (h : ∀ c ∈ cs, c.toNat < 256 ∧ write c = [c.toNat.toUInt8]) :
    (cs.flatMap write).map (fun b => Char.ofNat b.toNat) = cs := by
  induction cs with
  | nil => rfl
  | cons c cs ih =>
    obtain ⟨⟨hlt, hwrite⟩, hrest⟩ := List.forall_mem_cons.mp h
    rw [List.flatMap_cons, hwrite, List.singleton_append, List.map_cons, charOf_toUInt8 hlt,
      ih hrest]

/-- A unit is written as two bytes, from which it is put together again. -/
def WritesPairs (unit : UInt8 → UInt8 → Nat) (write : Nat → Bytes) : Prop :=
  ∀ n < 0x10000, ∃ a b, write n = [a, b] ∧ unit a b = n

theorem writesPairs_littleEndian :
    WritesPairs (fun a b => a.toNat + 256 * b.toNat) littleEndian := by
  intro n hn
  refine ⟨_, _, rfl, ?_⟩
  dsimp only
  rw [Nat.toUInt8_eq, Nat.toUInt8_eq, UInt8.toNat_ofNat', UInt8.toNat_ofNat']
  omega

theorem writesPairs_bigEndian : WritesPairs (fun a b => 256 * a.toNat + b.toNat) bigEndian := by
  intro n hn
  refine ⟨_, _, rfl, ?_⟩
  dsimp only
  rw [Nat.toUInt8_eq, Nat.toUInt8_eq, UInt8.toNat_ofNat', UInt8.toNat_ofNat']
  omega

section

variable {unit : UInt8 → UInt8 → Nat} {write : Nat → Bytes} {units : List Nat}

/-- Units are read as they were written. -/
theorem pairs?_flatMap (hpairs : WritesPairs unit write) (h : ∀ n ∈ units, n < 0x10000) :
    pairs? unit (units.flatMap write) = some units := by
  induction units with
  | nil => rfl
  | cons n units ih =>
    obtain ⟨hn, hunits⟩ := List.forall_mem_cons.mp h
    obtain ⟨a, b, hwrite, hunit⟩ := hpairs n hn
    rw [List.flatMap_cons, hwrite, List.cons_append, List.singleton_append, pairs?, ih hunits,
      hunit]
    rfl

/-- Behind units one byte is left over. -/
theorem pairs?_flatMap_append (hpairs : WritesPairs unit write) (h : ∀ n ∈ units, n < 0x10000)
    (byte : UInt8) : pairs? unit (units.flatMap write ++ [byte]) = none := by
  induction units with
  | nil => rfl
  | cons n units ih =>
    obtain ⟨hn, hunits⟩ := List.forall_mem_cons.mp h
    obtain ⟨a, b, hwrite, -⟩ := hpairs n hn
    rw [List.flatMap_cons, hwrite, List.append_assoc, List.cons_append, List.singleton_append,
      pairs?, ih hunits]
    rfl

end

theorem lt_of_mem_units16 {n : Nat} (h : n ∈ units16 c) : n < 0x10000 := by
  have hranges := toNat_ranges c
  rw [units16] at h
  split at h
  · next hsmall => rwa [List.mem_singleton.mp h]
  · rw [List.mem_cons, List.mem_singleton] at h
    omega

/-- The units of a character are read as the character, whatever follows. -/
theorem decodeUnits?_units16_append (c : Char) (rest : List Nat) :
    decodeUnits? (units16 c ++ rest) = (decodeUnits? rest).map (c :: ·) := by
  have hranges := toNat_ranges c
  rw [units16]
  split
  · next hsmall =>
    have hwhole : ¬(0xD800 ≤ c.toNat ∧ c.toNat < 0xDC00) := by omega
    cases rest with
    | nil =>
      show (charOf? c.toNat).map (fun c => [c]) = some [c]
      rw [charOf?_toNat, Option.map_some]
    | cons n rest =>
      rw [List.singleton_append, decodeUnits?, if_neg hwhole, charOf?_toNat, Option.bind_eq_bind,
        Option.bind_some]
      cases decodeUnits? (n :: rest) <;> rfl
  · next hlarge =>
    have hfirst : 0xD800 ≤ 0xD800 + (c.toNat - 0x10000) / 0x400 ∧
        0xD800 + (c.toNat - 0x10000) / 0x400 < 0xDC00 := by omega
    have hsecond : 0xDC00 ≤ 0xDC00 + (c.toNat - 0x10000) % 0x400 ∧
        0xDC00 + (c.toNat - 0x10000) % 0x400 < 0xE000 := by omega
    have hpoint : 0x10000 + (0xD800 + (c.toNat - 0x10000) / 0x400 - 0xD800) * 0x400
        + (0xDC00 + (c.toNat - 0x10000) % 0x400 - 0xDC00) = c.toNat := by omega
    rw [List.cons_append, List.singleton_append, decodeUnits?, if_pos hfirst, if_pos hsecond,
      hpoint, charOf?_toNat, Option.bind_eq_bind, Option.bind_some]
    cases decodeUnits? rest <;> rfl

theorem decodeUnits?_flatMap_units16 (cs : List Char) :
    decodeUnits? (cs.flatMap units16) = some cs := by
  induction cs with
  | nil => rfl
  | cons c cs ih => rw [List.flatMap_cons, decodeUnits?_units16_append, ih, Option.map_some]

theorem lt_of_mem_flatMap_units16 {cs : List Char} : ∀ n ∈ cs.flatMap units16, n < 0x10000 := by
  intro n hn
  obtain ⟨c, -, hc⟩ := List.mem_flatMap.mp hn
  exact lt_of_mem_units16 hc

/-- An encoding of one byte for each character writes the characters below a bound. -/
theorem of_encodeChar?_below {bound : Nat}
    (h : (if c.toNat < bound then some [c.toNat.toUInt8] else none) = some piece) :
    c.toNat < bound ∧ piece = [c.toNat.toUInt8] := by
  split at h
  · next hlt => exact ⟨hlt, (Option.some.inj h).symm⟩
  · cases h

/-- Whether the encoding writes units of two bytes. -/
def isWide : Encoding → Bool
  | utf8 | latin1 | ascii => false
  | utf16le | utf16be => true

/-- Encodings of this kind write and read units, each in its order of the two bytes. -/
theorem of_isWide (h : e.isWide = true) :
    ∃ unit write, WritesPairs unit write ∧
      (∀ c, charBytes e c = (units16 c).flatMap write) ∧
      ∀ bytes, decode? e bytes = (pairs? unit bytes).bind fun units =>
        (decodeUnits? units).bind fun cs => some (String.ofList cs) := by
  cases e with
  | utf8 => cases h
  | latin1 => cases h
  | ascii => cases h
  | utf16le => exact ⟨_, _, writesPairs_littleEndian, fun _ => rfl, fun _ => rfl⟩
  | utf16be => exact ⟨_, _, writesPairs_bigEndian, fun _ => rfl, fun _ => rfl⟩

/-- In units of two bytes a text is written as the units of its characters. -/
theorem eq_flatMap_units16 {write : Nat → Bytes}
    (hwrite : ∀ c, charBytes e c = (units16 c).flatMap write) (h : encode? e s = some bytes) :
    bytes = (s.toList.flatMap units16).flatMap write := by
  rw [(of_encode? h).2, List.flatMap_assoc]
  exact List.flatMap_congr fun c _ => hwrite c

theorem decode?_of_isWide (hwide : e.isWide = true) (h : encode? e s = some bytes) :
    decode? e bytes = some s := by
  obtain ⟨unit, write, hpairs, hwrite, hdecode⟩ := of_isWide hwide
  rw [hdecode, eq_flatMap_units16 hwrite h, pairs?_flatMap hpairs lt_of_mem_flatMap_units16,
    Option.bind_some, decodeUnits?_flatMap_units16, Option.bind_some, String.ofList_toList]

/-- A byte behind units of two bytes belongs to no text. -/
theorem decode?_append_of_isWide (hwide : e.isWide = true) (h : encode? e s = some bytes)
    (byte : UInt8) : decode? e (bytes ++ [byte]) = none := by
  obtain ⟨unit, write, hpairs, hwrite, hdecode⟩ := of_isWide hwide
  rw [hdecode, eq_flatMap_units16 hwrite h,
    pairs?_flatMap_append hpairs lt_of_mem_flatMap_units16, Option.bind_none]

/-- **The bytes of a text are read as the text.** -/
theorem decode?_of_encode? (h : encode? e s = some bytes) : decode? e bytes = some s := by
  obtain ⟨hchars, hbytes⟩ := of_encode? h
  cases e with
  | utf8 =>
    rw [encode?_utf8] at h
    rw [← Option.some.inj h, decode?_utf8Bytes]
  | latin1 =>
    have hread := map_charOf_flatMap fun c hc => of_encodeChar?_below (hchars c hc)
    rw [decode?, hbytes, hread, String.ofList_toList]
  | ascii =>
    have hsmall : bytes.all (· < 128) = true := by
      refine List.all_eq_true.mpr fun byte hbyte => ?_
      rw [hbytes] at hbyte
      obtain ⟨c, hc, hmem⟩ := List.mem_flatMap.mp hbyte
      obtain ⟨hlt, hpiece⟩ := of_encodeChar?_below (hchars c hc)
      rw [hpiece, List.mem_singleton] at hmem
      rw [hmem, decide_eq_true_eq, Nat.toUInt8_eq, UInt8.lt_iff_toNat_lt, UInt8.toNat_ofNat']
      exact Nat.lt_of_le_of_lt (Nat.mod_le _ _) hlt
    have hread := map_charOf_flatMap fun c hc =>
      (of_encodeChar?_below (hchars c hc)).imp_left fun hlt => hlt.trans (by decide)
    rw [decode?, if_pos hsmall, hbytes, hread, String.ofList_toList]
  | utf16le => exact decode?_of_isWide rfl h
  | utf16be => exact decode?_of_isWide rfl h

/-! ## The last byte of a text -/

/-- Whether the last byte that writes a character is the one that stands for a line feed. -/
def endsInFeed : Encoding → Char → Bool
  | utf8, c | latin1, c | ascii, c => c = '\n'
  | utf16le, c => c.toNat / 256 = 10
  | utf16be, c => c.toNat % 256 = 10

theorem eq_lineFeed_iff : c = '\n' ↔ c.toNat = 10 := by
  constructor
  · rintro rfl
    rfl
  · intro h
    rw [← Char.ofNat_toNat c, h]

/-- The last byte of a character, which is the one of a line feed just for these characters. -/
theorem getLast?_of_encodeChar? (h : encodeChar? c e = some piece) :
    ∃ n, piece.getLast? = some (UInt8.ofNat n) ∧ (n % 256 = 10 ↔ e.endsInFeed c) := by
  have hranges := toNat_ranges c
  cases e with
  | utf8 =>
    obtain rfl := Option.some.inj h
    have hval : c.val.toNat = c.toNat := rfl
    rw [String.utf8EncodeChar, endsInFeed, decide_eq_true_eq, eq_lineFeed_iff, hval]
    split_ifs
    · exact ⟨c.toNat, rfl, by omega⟩
    · exact ⟨c.toNat % 64 + 128, rfl, by omega⟩
    · exact ⟨c.toNat % 64 + 128, rfl, by omega⟩
    · exact ⟨c.toNat % 64 + 128, rfl, by omega⟩
  | latin1 =>
    obtain ⟨hlt, rfl⟩ := of_encodeChar?_below h
    rw [endsInFeed, decide_eq_true_eq, eq_lineFeed_iff]
    exact ⟨c.toNat, rfl, by omega⟩
  | ascii =>
    obtain ⟨hlt, rfl⟩ := of_encodeChar?_below h
    rw [endsInFeed, decide_eq_true_eq, eq_lineFeed_iff]
    exact ⟨c.toNat, rfl, by omega⟩
  | utf16le =>
    obtain rfl := Option.some.inj h
    rw [units16, endsInFeed, decide_eq_true_eq]
    split
    · exact ⟨c.toNat / 256, rfl, by omega⟩
    · exact ⟨(0xDC00 + (c.toNat - 0x10000) % 0x400) / 256, rfl, by omega⟩
  | utf16be =>
    obtain rfl := Option.some.inj h
    rw [units16, endsInFeed, decide_eq_true_eq]
    split
    · exact ⟨c.toNat % 256, rfl, by omega⟩
    · exact ⟨(0xDC00 + (c.toNat - 0x10000) % 0x400) % 256, rfl, by omega⟩

/-- **A text ends in the byte of a line feed just if its last character does.** -/
theorem getLast?_of_encode? (h : encode? e s = some bytes) :
    bytes.getLast? = some 0x0A ↔ s.toList.getLast?.any e.endsInFeed = true := by
  obtain ⟨hchars, rfl⟩ := of_encode? h
  rcases List.eq_nil_or_concat s.toList with hnil | ⟨cs, c, hlast⟩
  · simp [hnil]
  · obtain ⟨n, hbyte, hfeed⟩ := getLast?_of_encodeChar? (hchars c (by simp [hlast]))
    have hsame : UInt8.ofNat n = 0x0A ↔ n % 256 = 10 := by
      rw [← UInt8.toNat_inj, UInt8.toNat_ofNat']
      rfl
    simp [hlast, List.getLast?_append, hbyte, hsame, hfeed]

/-! ## Reading behind the last line feed -/

theorem encode?_lineFeed (h : e.isWide = false) : encode? e "\n" = some [0x0A] := by
  cases e with
  | utf8 => rfl
  | latin1 => rfl
  | ascii => rfl
  | utf16le => cases h
  | utf16be => cases h

/--
**What is read once a file has its last line feed.**

If the bytes of the text end in the byte of a line feed, the text itself is read. Else that byte is
put behind them; then a line feed is read at the end of the text, but nothing at all if the encoding
writes units of two bytes.
-/
theorem decode?_withLineFeed (h : encode? e s = some bytes) :
    decode? e (withLineFeed bytes)
      = if s.toList.getLast?.any e.endsInFeed then some s
        else if e.isWide then none else some (s ++ "\n") := by
  rw [withLineFeed, if_congr (getLast?_of_encode? h) rfl rfl]
  split
  · exact decode?_of_encode? h
  · split
    · next hwide => exact decode?_append_of_isWide hwide h 0x0A
    · next hnarrow =>
      exact decode?_of_encode? (encode?_append h (encode?_lineFeed (Bool.not_eq_true _ ▸ hnarrow)))

end Encoding

/-- A text with a line feed at its end, if it did not end in one. -/
def withNewline (s : String) : String :=
  if s.toList.getLast? = some '\n' then s else s ++ "\n"

/-- A text that gets a line feed is another one. -/
theorem eq_withNewline_iff {s : String} : s = withNewline s ↔ s.toList.getLast? = some '\n' := by
  rw [withNewline]
  split
  · next hfeed => exact iff_of_true rfl hfeed
  · next hfeed =>
    refine iff_of_false (fun h => ?_) hfeed
    have hlength := congrArg String.length h
    rw [String.length_append] at hlength
    exact absurd hlength (Nat.ne_of_lt (Nat.lt_succ_self _))

namespace Encoding

variable {e : Encoding} {s : String} {bytes : Bytes}

theorem any_endsInFeed_iff (h : e.isWide = false) :
    s.toList.getLast?.any e.endsInFeed = true ↔ s.toList.getLast? = some '\n' := by
  have hfeed : e.endsInFeed = fun c => decide (c = '\n') := by
    cases e with
    | utf8 => rfl
    | latin1 => rfl
    | ascii => rfl
    | utf16le => cases h
    | utf16be => cases h
  cases s.toList.getLast? <;> simp [hfeed]

/-- Of the two encodings with units of two bytes only one has the byte of a line feed last. -/
theorem any_endsInFeed_of_isWide (hwide : e.isWide = true)
    (h : s.toList.getLast? = some '\n') :
    s.toList.getLast?.any e.endsInFeed = true ↔ e = utf16be := by
  rw [h]
  cases e with
  | utf8 => cases hwide
  | latin1 => cases hwide
  | ascii => cases hwide
  | utf16le => decide
  | utf16be => decide

/-- The file of a text is read as the text with a line feed at its end just in these cases. -/
theorem decode?_withLineFeed_eq_iff (h : encode? e s = some bytes) :
    decode? e (withLineFeed bytes) = some (withNewline s)
      ↔ e.isWide = false ∨ e = utf16be ∧ s.toList.getLast? = some '\n' := by
  rw [decode?_withLineFeed h]
  cases hwide : e.isWide with
  | false =>
    refine iff_of_true ?_ (.inl rfl)
    rw [if_congr (any_endsInFeed_iff hwide) rfl rfl, withNewline, if_neg Bool.false_ne_true]
    split <;> rfl
  | true =>
    have hnot : ¬true = false := by decide
    rw [if_pos rfl, or_iff_right hnot]
    constructor
    · intro hread
      split at hread
      · next hfeed =>
        have hlast := eq_withNewline_iff.mp (Option.some.inj hread)
        exact ⟨(any_endsInFeed_of_isWide hwide hlast).mp hfeed, hlast⟩
      · cases hread
    · rintro ⟨hbig, hlast⟩
      rw [if_pos ((any_endsInFeed_of_isWide hwide hlast).mpr hbig), ← eq_withNewline_iff.mpr hlast]

end Encoding

end Text

/-! ## Stored texts -/

section

variable {w w' : Workspace} {p : Path} {text : String} {e : Encoding} {changed : Bool}

/-- A text that was brought up to date can be written, and the file holds its bytes. -/
theorem writeTextIfChanged_eq_ok
    (h : (writeTextIfChanged p text e).eval w = (.ok changed, w')) :
    ∃ bytes, e.encode? text = some bytes ∧ w'.files.Holds p (withLineFeed bytes) := by
  rw [writeTextIfChanged] at h
  split at h
  · next bytes hencode => exact ⟨bytes, hencode, (writeIfChanged_eq_ok h).1⟩
  · cases h

/--
**A stored text is read back with a line feed at its end, unless its encoding writes units of two
bytes.**

Let a text be brought up to date in any encoding that can write it. In an encoding with units of two
bytes the file is read back as the text with a line feed at its end just if the higher byte comes
first and the text already ends in a line feed. Otherwise it is read as the text without a line
feed, if the last byte of the text happens to be that of a line feed, and else it cannot be read.
-/
theorem stored_text_readable_iff (h : (writeTextIfChanged p text e).eval w = (.ok changed, w')) :
    ∃ stored, w'.files.Holds p stored ∧
      (e.decode? stored = some (withNewline text) ↔
        e.isWide = false ∨ e = .utf16be ∧ text.toList.getLast? = some '\n') ∧
      e.decode? stored
        = if text.toList.getLast?.any e.endsInFeed then some text
          else if e.isWide then none else some (text ++ "\n") := by
  obtain ⟨bytes, hencode, hholds⟩ := writeTextIfChanged_eq_ok h
  exact ⟨_, hholds, Encoding.decode?_withLineFeed_eq_iff hencode,
    Encoding.decode?_withLineFeed hencode⟩

/-- A file system with nothing but the current directory. -/
def bareFiles : FileSystem where
  cwd := ["w"]
  items := [(["w"], .directory)]
  distinct := by decide

/-- A letter beyond ASCII is one byte in Latin-1, and a line feed is put behind it. -/
theorem stored_text_readable_latin :
    ((writeTextIfChanged (.ofString "a") "é" .latin1).eval { files := bareFiles }).1 = .ok true ∧
      ∃ stored,
        ((writeTextIfChanged (.ofString "a") "é" .latin1).eval { files := bareFiles }).2.files.Holds
          (.ofString "a") stored ∧
        Encoding.latin1.decode? stored = some "é\n" := by
  have hrun : ((writeTextIfChanged (.ofString "a") "é" .latin1).eval { files := bareFiles }).1
      = .ok true := by decide +kernel
  obtain ⟨stored, hholds, -, hread⟩ := stored_text_readable_iff (Prod.ext hrun rfl)
  exact ⟨hrun, stored, hholds, hread.trans (by decide +kernel)⟩

/-- **In units of two bytes the last line feed makes a text unreadable.** -/
theorem wide_text_is_unreadable :
    let run := (writeTextIfChanged (.ofString "a") "a" .utf16be).eval { files := bareFiles }
    Encoding.utf16be.encode? "a" = some [0x00, 0x61] ∧ run.1 = .ok true ∧
      run.2.files.Holds (.ofString "a") [0x00, 0x61, 0x0A] ∧
      Encoding.utf16be.decode? [0x00, 0x61, 0x0A] = none := by
  intro run
  have hencode : Encoding.utf16be.encode? "a" = some [0x00, 0x61] := by decide +kernel
  have hrun : run.1 = .ok true := by decide +kernel
  obtain ⟨bytes, hbytes, hholds⟩ := writeTextIfChanged_eq_ok
    (show (writeTextIfChanged (.ofString "a") "a" .utf16be).eval _ = (.ok true, run.2) from
      Prod.ext hrun rfl)
  obtain rfl := Option.some.inj (hbytes.symm.trans hencode)
  exact ⟨hencode, hrun, hholds, by decide +kernel⟩

end

end PageRoutes
