import PageRoutes.Json.Document
import PageRoutes.Proofs.JsonOrder
import PageRoutes.Proofs.JsonReader
import PageRoutes.Text.Encoding

/-!
# Documents are canonical

`Json.encode` writes alike values, and only these, in the same way, and nothing is lost.

* `getLast?_write_ne` — the line feed of a document is its only one at the end.
* `read?_encode` — the text of a value is read as the sorted value.
* `encode_canonical` — a document from all sides: what it is read as, in which order the names stand
  in it, how it ends, and when two documents are the same.

The bytes of a document are those of its text in UTF-8, and these are read as the text.
-/

namespace PageRoutes.Json

open Text Encoding

/-! ## The end of a document -/

theorem getLast?_writeInt_ne (n : Int) : (writeInt n).getLast? ≠ some '\n' := by
  intro h
  have hdigit : ∀ m, '\n' ∉ Nat.toDigits 10 m := fun m hmem =>
    absurd (Nat.isDigit_of_mem_toDigits (by decide) (by decide) hmem) (by decide)
  cases n with
  | ofNat n => exact hdigit n (List.mem_of_getLast? h)
  | negSucc n =>
    rcases List.mem_cons.mp (List.mem_of_getLast? h) with h | h
    · exact absurd h (by decide)
    · exact hdigit _ h

/-- No value ends in a line feed. -/
theorem getLast?_write_ne (layout : Layout) (depth : Nat) {value : Json} (h : value.IsExact) :
    (write layout depth value).getLast? ≠ some '\n' := by
  unfold write
  split
  · decide
  · decide
  · decide
  · exact getLast?_writeInt_ne _
  · exact absurd h id
  · rw [writeText, List.getLast?_concat]; decide
  · decide
  · rw [List.getLast?_concat]; decide
  · decide
  · rw [List.getLast?_concat]; decide

/-! ## Reading a document -/

/-- **The text of a value is read as the sorted value**, in every layout. -/
theorem read?_encode (indent : Int) {value : Json} (h : value.IsExact) :
    read? (encode indent value) = some value.sorted :=
  read?_write _ (isExact_sorted h)

/-- Two values have the same bytes just if they are alike. -/
theorem utf8Bytes_encode_eq_iff (indent : Int) {value other : Json} (hvalue : value.IsExact)
    (hother : other.IsExact) :
    utf8Bytes (encode indent value) = utf8Bytes (encode indent other) ↔ value.Alike other := by
  rw [alike_iff_sorted_eq hvalue hother]
  constructor
  · intro hbytes
    -- The bytes give the text back, and the text gives the sorted value back.
    have htext : encode indent value = encode indent other := by
      have hdecode := congrArg (decode? utf8) hbytes
      rwa [decode?_utf8Bytes, decode?_utf8Bytes, Option.some.injEq] at hdecode
    have hread := congrArg read? htext
    rwa [read?_encode indent hvalue, read?_encode indent hother, Option.some.injEq] at hread
  · intro hsorted
    rw [encode, encode, hsorted]

/-- **A document is canonical and loses nothing.** Its bytes are read as a value alike to the one
written, whose names increase in every object in the order in which they stand in the text; it ends
in one line feed; and with one indentation two values have the same bytes just if they are alike.
What is asked for is written if the indentation is a number of 64 bits. -/
theorem encode_canonical (indent : Int) {value : Json} (hexact : value.IsExact) :
    (∃ ordered : Json, value.Alike ordered ∧ ordered.IsOrdered ∧
      (decode? utf8 (utf8Bytes (encode indent value))).bind read? = some ordered ∧
      encode indent value = String.ofList (write (.ofIndent indent) 0 ordered ++ ['\n'])) ∧
    (∃ line : List Char, encode indent value = String.ofList (line ++ ['\n']) ∧
      line.getLast? ≠ some '\n') ∧
    (∀ other : Json, other.IsExact →
      (utf8Bytes (encode indent value) = utf8Bytes (encode indent other) ↔ value.Alike other)) ∧
    (isIndentation indent = true → document (some indent) value = .ok (encode indent value)) := by
  refine ⟨⟨value.sorted, alike_sorted value, isOrdered_sorted hexact, ?_, rfl⟩,
    ⟨_, rfl, getLast?_write_ne _ 0 (isExact_sorted hexact)⟩, ?_, ?_⟩
  · rw [decode?_utf8Bytes]
    exact read?_encode indent hexact
  · exact fun other hother => utf8Bytes_encode_eq_iff indent hexact hother
  · intro hindent
    show (if isIndentation indent = true then _ else _) = _
    rw [if_pos hindent]
    rfl

/-- A list in an object, with members and texts that need care. -/
theorem encode_canonical_nested :
    let value := object [("b", list [object [("z", int (-70)), ("a", text "\x7d\n\"],\\")], null,
      list []]), ("a", bool true)]
    let other := object [("a", bool true), ("b", list [object [("a", text "\x7d\n\"],\\"),
      ("z", int (-70))], null, list []])]
    value.IsExact ∧ other.IsExact ∧
      (∃ ordered, value.Alike ordered ∧ ordered.IsOrdered ∧
        (decode? utf8 (utf8Bytes (encode 2 value))).bind read? = some ordered) ∧
      utf8Bytes (encode 2 value) = utf8Bytes (encode 2 other) := by
  intro value other
  have hvalue : value.IsExact := by simp [value, IsExact, AllExact, MembersExact]
  have hother : other.IsExact := by simp [other, IsExact, AllExact, MembersExact]
  have halike : value.Alike other :=
    ⟨rfl, ⟨_, .tail _ (.head _), ⟨rfl, ⟨_, .tail _ (.head _), rfl⟩, ⟨_, .head _, rfl⟩, trivial⟩,
      trivial, trivial, trivial⟩, ⟨_, .head _, rfl⟩, trivial⟩
  obtain ⟨⟨ordered, hordered⟩, -, hbytes, -⟩ := encode_canonical 2 hvalue
  exact ⟨hvalue, hother, ⟨ordered, hordered.1, hordered.2.1, hordered.2.2.1⟩,
    (hbytes other hother).mpr halike⟩

end PageRoutes.Json
