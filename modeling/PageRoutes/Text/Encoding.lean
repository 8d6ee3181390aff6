import PageRoutes.Text.Hex

/-!
# Encodings of text

A text is written to a file as bytes under one of five encodings. `encode?` fails on a character
that the encoding cannot write; `decode?` fails on bytes that no text has.
-/

namespace PageRoutes.Text

/-- The bytes of a file. -/
abbrev Bytes := List UInt8

/-- An encoding of text as bytes. -/
inductive Encoding where
  | utf8
  | latin1
  | ascii
  /-- Units of two bytes, the lower byte first. -/
  | utf16le
  /-- Units of two bytes, the higher byte first. -/
  | utf16be
deriving DecidableEq, Repr

namespace Encoding

/-- The units of sixteen bits that write a character. -/
def units16 (c : Char) : List Nat :=
  let n := c.toNat
  if n < 0x10000 then [n]
  else [0xD800 + (n - 0x10000) / 0x400, 0xDC00 + (n - 0x10000) % 0x400]

/-- A unit of sixteen bits, its lower byte first. -/
def littleEndian (n : Nat) : Bytes := [(n % 256).toUInt8, (n / 256).toUInt8]

/-- A unit of sixteen bits, its higher byte first. -/
def bigEndian (n : Nat) : Bytes := [(n / 256).toUInt8, (n % 256).toUInt8]

/-- The bytes of one character. -/
def encodeChar? (c : Char) : Encoding → Option Bytes
  | utf8 => some (String.utf8EncodeChar c)
  | latin1 => if c.toNat < 256 then some [c.toNat.toUInt8] else none
  | ascii => if c.toNat < 128 then some [c.toNat.toUInt8] else none
  | utf16le => some ((units16 c).flatMap littleEndian)
  | utf16be => some ((units16 c).flatMap bigEndian)

/-- The bytes of a text. -/
def encode? (e : Encoding) (s : String) : Option Bytes :=
  (s.toList.mapM (encodeChar? · e)).map List.flatten

/-- The bytes of a text in UTF-8, which can write every text. -/
def utf8Bytes (s : String) : Bytes :=
  s.toList.flatMap String.utf8EncodeChar

/-- UTF-8 writes every text. -/
theorem encode?_utf8 (s : String) : encode? utf8 s = some (utf8Bytes s) := by
  simp only [encode?, utf8Bytes]
  induction s.toList with
  | nil => rfl
  | cons c cs ih =>
    obtain ⟨pieces, hp, hb⟩ := Option.map_eq_some_iff.1 ih
    rw [List.mapM_cons, List.flatMap_cons, hp]
    simp [encodeChar?, hb]

/-- The characters that units of sixteen bits write. -/
def decodeUnits? : List Nat → Option (List Char)
  | [] => some []
  | [n] => (charOf? n).map fun c => [c]
  | n :: m :: rest =>
    if 0xD800 ≤ n ∧ n < 0xDC00 then
      if 0xDC00 ≤ m ∧ m < 0xE000 then do
        let c ← charOf? (0x10000 + (n - 0xD800) * 0x400 + (m - 0xDC00))
        return c :: (← decodeUnits? rest)
      else none
    else do
      let c ← charOf? n
      return c :: (← decodeUnits? (m :: rest))

/-- Pairs of bytes as units, each pair put together by `unit`. -/
def pairs? (unit : UInt8 → UInt8 → Nat) : Bytes → Option (List Nat)
  | [] => some []
  | [_] => none
  | a :: b :: rest => (pairs? unit rest).map (unit a b :: ·)

/-- The text that bytes write. -/
def decode? (e : Encoding) (bytes : Bytes) : Option String :=
  match e with
  | utf8 => String.fromUTF8? bytes.toByteArray
  | latin1 => some (String.ofList (bytes.map fun b => Char.ofNat b.toNat))
  | ascii =>
    if bytes.all (· < 128) then some (String.ofList (bytes.map fun b => Char.ofNat b.toNat))
    else none
  | utf16le => do
    let units ← pairs? (fun a b => a.toNat + 256 * b.toNat) bytes
    return String.ofList (← decodeUnits? units)
  | utf16be => do
    let units ← pairs? (fun a b => 256 * a.toNat + b.toNat) bytes
    return String.ofList (← decodeUnits? units)

/-- The bytes of a text in UTF-8 are read as the text. -/
theorem decode?_utf8Bytes (s : String) : decode? utf8 (utf8Bytes s) = some s := by
  have hbytes : (utf8Bytes s).toByteArray = s.toByteArray := by
    conv => rhs; rw [← String.ofList_toList (s := s), String.toByteArray_ofList]
    rfl
  rw [decode?, hbytes]
  exact dif_pos s.isValidUTF8

end Encoding

end PageRoutes.Text
