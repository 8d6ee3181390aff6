import PageRoutes.Console.Emoji
import PageRoutes.Console.Style

/-!
# Markup of console text

Console text may hold tags in brackets, which style what follows and are not shown themselves. A
tag starts with a small letter or one of `#`, `/` and `@`, and reaches to the next closing bracket,
with no opening bracket in between; other brackets are shown. Backslashes before a tag come in
pairs, each pair showing one; a single one left over makes the tag plain text. Between two tags, and
in a tag that is plain text, emoji codes are replaced.

`Markup.escape` protects a text so that its tags are shown, and `Markup.shown` is what a marked-up
text looks like without its styles.
-/

namespace PageRoutes.Markup

/-- Whether a tag can start with a character. -/
def startsTag (c : Char) : Bool :=
  ('a' ≤ c && c ≤ 'z') || c == '#' || c == '/' || c == '@'

/-- The text of a tag after its opening bracket, and what follows its closing one. -/
def takeTag : List Char → Option (List Char × List Char)
  | [] => none
  | c :: cs =>
    if startsTag c then
      match cs.dropWhile fun d => d != ']' && d != '[' with
      | ']' :: rest => some (c :: cs.takeWhile fun d => d != ']' && d != '[', rest)
      | _ => none
    else none

/-- What follows a tag is shorter than the text it was taken from. -/
theorem length_lt_of_takeTag {cs tag rest : List Char} (h : takeTag cs = some (tag, rest)) :
    rest.length < cs.length := by
  cases cs with
  | nil => simp [takeTag] at h
  | cons c cs =>
    have hdrop := (List.dropWhile_sublist (fun d => d != ']' && d != '[') (l := cs)).length_le
    rw [takeTag] at h
    split at h
    · split at h
      · next r hr =>
        simp only [Option.some.injEq, Prod.mk.injEq] at h
        rw [hr, List.length_cons, h.2] at hdrop
        rw [List.length_cons]
        omega
      · simp at h
    · simp at h

/-- A piece of marked-up text: text between tags, or a tag with the backslashes before it. -/
inductive Piece where
  | plain (cs : List Char)
  | tag (backslashes : Nat) (tag : List Char)
deriving DecidableEq, Repr

/-- The backslashes at the start of a text. -/
def leading (cs : List Char) : List Char := cs.takeWhile (· == '\\')

/-- A text without the backslashes at its start. -/
def afterLeading (cs : List Char) : List Char := cs.dropWhile (· == '\\')

theorem length_afterLeading (cs : List Char) : (afterLeading cs).length ≤ cs.length :=
  (List.dropWhile_sublist _).length_le

/-- Cuts a text into pieces; `plain` is the text since the last tag. -/
def pieces (plain cs : List Char) : List Piece :=
  match _h : afterLeading cs with
  | [] => [.plain (plain ++ leading cs)]
  | c :: after =>
    if c = '[' then
      match _ht : takeTag after with
      | some (tag, rest) => .plain plain :: .tag (leading cs).length tag :: pieces [] rest
      | none => pieces (plain ++ leading cs ++ [c]) after
    else pieces (plain ++ leading cs ++ [c]) after
termination_by cs.length
decreasing_by
  · have hrest := length_lt_of_takeTag _ht
    have hafter := length_afterLeading cs
    rw [_h, List.length_cons] at hafter
    omega
  · have hafter := length_afterLeading cs
    rw [_h, List.length_cons] at hafter
    omega
  · have hafter := length_afterLeading cs
    rw [_h, List.length_cons] at hafter
    omega

/-- Text between tags as it is shown: a backslash before an opening bracket only protects it. -/
def unprotect : List Char → List Char
  | '\\' :: '[' :: rest => '[' :: unprotect rest
  | c :: rest => c :: unprotect rest
  | [] => []

/-- What is shown of a piece. -/
def Piece.shown : Piece → List Char
  | plain cs => Emoji.replace (unprotect cs)
  | tag backslashes text =>
    List.replicate (backslashes / 2) '\\'
      ++ if backslashes % 2 = 1 then Emoji.replace ('[' :: text ++ [']']) else []

/-- What is shown of a marked-up text. -/
def shown (markup : String) : String :=
  String.ofList ((pieces [] markup.toList).flatMap Piece.shown)

/-- A piece protected from being read as markup. -/
def Piece.escaped : Piece → List Char
  | plain cs => cs
  | tag backslashes text =>
    List.replicate (2 * backslashes + 1) '\\' ++ '[' :: text ++ [']']

/-- A text protected from being read as markup. A single backslash at its end is doubled, for a tag
may follow. -/
def escape (text : String) : String :=
  let cs := (pieces [] text.toList).flatMap Piece.escaped
  match cs.reverse with
  | ['\\'] => String.ofList (cs ++ ['\\'])
  | '\\' :: c :: _ => String.ofList (if c = '\\' then cs else cs ++ ['\\'])
  | _ => String.ofList cs

/-- Tags that put a style on a text. -/
def styled (style text : String) : String :=
  "[" ++ style ++ "]" ++ text ++ "[/]"

end PageRoutes.Markup
