/-!
# Exclude patterns

A pattern describes whole paths. `*` stands for any run of characters, slashes included, `?` for
one character, and a bracket for one character of a class. An opening bracket without a closing
one stands for itself.

In a class, `!` at the start means every other character, a closing bracket at the start belongs to
the class, and `-` between two characters makes a range. A range whose ends are in the wrong order
is no part of the class.

Main statement: `accepts_eq` — a pattern describes exactly the texts that can be divided among its
pieces.
-/

namespace PageRoutes.Glob

/-- A part of a character class. -/
inductive ClassItem where
  | char (c : Char)
  | range (first last : Char)
deriving DecidableEq, Repr

/-- Whether a part of a class holds a character. -/
def ClassItem.holds (c : Char) : ClassItem → Bool
  | char d => c == d
  | range first last => first ≤ c && c ≤ last

/-- A piece of a pattern: what it stands for. -/
inductive Piece where
  | run
  | one
  | char (c : Char)
  | set (negated : Bool) (items : List ClassItem)
deriving DecidableEq, Repr

/-- Whether a piece that stands for a single character stands for the given one. -/
def Piece.holds (c : Char) : Piece → Bool
  | run => false
  | one => true
  | char d => c == d
  | set negated items => (items.any (ClassItem.holds c)) != negated

/-! ## Reading a class -/

/-- Takes a character off the start of a text, if it is there. -/
def takeLead (c : Char) : List Char → List Char × List Char
  | d :: rest => if d = c then ([c], rest) else ([], d :: rest)
  | [] => ([], [])

/-- The text of a class after its opening bracket, and what follows its closing one. -/
def takeClass (cs : List Char) : Option (List Char × List Char) :=
  let (bang, cs) := takeLead '!' cs
  let (bracket, cs) := takeLead ']' cs
  match cs.dropWhile (· != ']') with
  | _ :: rest => some (bang ++ bracket ++ cs.takeWhile (· != ']'), rest)
  | [] => none

/-- Cuts a text at the first hyphen that stands behind at least `least` characters. -/
def cutHyphen (least : Nat) (cs : List Char) : Option (List Char × List Char) :=
  let head := cs.take least
  let tail := cs.drop least
  match tail.dropWhile (· != '-') with
  | _ :: rest => some (head ++ tail.takeWhile (· != '-'), rest)
  | [] => none

/-- The runs of characters between the hyphens that make ranges. The first run has at least `least`
characters, each further one that a hyphen ends at least two; a hyphen at the very end belongs to
the last run. -/
def chunksOf : (steps least : Nat) → List Char → List (List Char)
  | 0, _, cs => [cs]
  | steps + 1, least, cs =>
    match cutHyphen least cs with
    | none => [cs]
    | some (chunk, []) => [chunk ++ ['-']]
    | some (chunk, rest) => chunk :: chunksOf steps 2 rest

/-- Joins a run to the next one where the range between them has its ends in the wrong order; the
two ends are lost. -/
def joinDisordered (chunk : List Char) : List (List Char) → List (List Char)
  | [] => [chunk]
  | next :: rest =>
    match chunk.getLast?, next.head? with
    | some a, some b =>
      if b < a then (chunk.dropLast ++ next.tail) :: rest else chunk :: next :: rest
    | _, _ => chunk :: next :: rest

/-- A character of a class, or a hyphen that makes a range. -/
inductive ClassToken where
  | char (c : Char)
  | hyphen
deriving DecidableEq, Repr

/-- The tokens of runs with a hyphen between any two. -/
def tokensOf : List (List Char) → List ClassToken
  | [] => []
  | [chunk] => chunk.map .char
  | chunk :: chunks => chunk.map .char ++ .hyphen :: tokensOf chunks

/-- The parts of a class. A hyphen without a character before it stands for itself. -/
def itemsOf : List ClassToken → List ClassItem
  | [] => []
  | .char a :: .hyphen :: .char b :: rest => .range a b :: itemsOf rest
  | .char a :: rest => .char a :: itemsOf rest
  | .hyphen :: rest => .char '-' :: itemsOf rest

/-- The tokens of the text of a class. -/
def classTokens (body : List Char) : List ClassToken :=
  if '-' ∈ body then
    let least := if body.head? = some '!' then 2 else 1
    tokensOf ((chunksOf body.length least body).foldr joinDisordered [])
  else body.map .char

/-- The piece that a class is: one that is empty holds nothing, and the negation of an empty one
holds everything. -/
def pieceOfClass (body : List Char) : Piece :=
  match classTokens body with
  | .char '!' :: [] => .one
  | .char '!' :: tokens => .set true (itemsOf tokens)
  | tokens => .set false (itemsOf tokens)

theorem length_takeLead (c : Char) (cs : List Char) : (takeLead c cs).2.length ≤ cs.length := by
  cases cs with
  | nil => simp [takeLead]
  | cons d rest =>
    by_cases h : d = c <;> simp [takeLead, h]

/-- What follows a class is shorter than the text it was taken from. -/
theorem length_lt_of_takeClass {cs body rest : List Char} (h : takeClass cs = some (body, rest)) :
    rest.length < cs.length := by
  unfold takeClass at h
  have hbang := length_takeLead '!' cs
  have hbracket := length_takeLead ']' (takeLead '!' cs).2
  simp only at h
  split at h
  · next d r hr =>
    have hdrop :=
      (List.dropWhile_sublist (· != ']') (l := (takeLead ']' (takeLead '!' cs).2).2)).length_le
    simp only [Option.some.injEq, Prod.mk.injEq] at h
    rw [hr, List.length_cons] at hdrop
    rw [← h.2]
    omega
  · simp at h

/-- The pieces of a pattern; stars in a row are one piece. -/
def parse : List Char → List Piece
  | [] => []
  | c :: cs =>
    if c = '*' then
      match parse cs with
      | .run :: pieces => .run :: pieces
      | pieces => .run :: pieces
    else if c = '?' then .one :: parse cs
    else if c = '[' then
      match _h : takeClass cs with
      | some (body, rest) => pieceOfClass body :: parse rest
      | none => .char '[' :: parse cs
    else .char c :: parse cs
termination_by cs => cs.length
decreasing_by
  · simp
  · simp
  · have := length_lt_of_takeClass _h
    simp only [List.length_cons]
    omega
  · simp
  · simp

/-! ## Matching -/

/-- Whether a text can be divided among pieces: what the pieces mean. -/
def divides : List Piece → List Char → Bool
  | [], cs => cs.isEmpty
  | .run :: pieces, [] => divides pieces []
  | .run :: pieces, c :: cs => divides pieces (c :: cs) || divides (.run :: pieces) cs
  | _ :: _, [] => false
  | piece :: pieces, c :: cs => piece.holds c && divides pieces cs
termination_by pieces cs => (pieces.length, cs.length)

/-- For each element, whether it or a later one is true. -/
def anyLater : List Bool → List Bool
  | [] => []
  | b :: bs =>
    let later := anyLater bs
    (b || later.headD false) :: later

/-- Whether the pieces describe a text, the text without its first character, and so on down to the
empty text. The work is that of one pass over the text for each piece. -/
def table : List Piece → List Char → List Bool
  | [], cs => cs.map (fun _ => false) ++ [true]
  | .run :: pieces, cs => anyLater (table pieces cs)
  | piece :: pieces, cs =>
    List.zipWith (fun c rest => piece.holds c && rest) cs (table pieces cs).tail ++ [false]

theorem table_nil (pieces : List Piece) : table pieces [] = [divides pieces []] := by
  induction pieces with
  | nil => simp [table, divides]
  | cons piece pieces ih =>
    cases piece <;> simp [table, divides, ih, anyLater]

/-- The first entry of the table is about the whole text, the others are the table of the rest. -/
theorem table_cons (pieces : List Piece) (c : Char) (cs : List Char) :
    table pieces (c :: cs) = divides pieces (c :: cs) :: table pieces cs := by
  induction pieces generalizing c cs with
  | nil => simp [table, divides]
  | cons piece pieces ih =>
    have run (ds : List Char) :
        (table (.run :: pieces) ds).headD false = divides (.run :: pieces) ds := by
      induction ds with
      | nil => rw [table_nil]; rfl
      | cons d ds ihd => rw [table, ih, anyLater, ← table, divides, ← ihd]; rfl
    have single (ds : List Char) :
        (table pieces ds).headD false = divides pieces ds := by
      cases ds with
      | nil => rw [table_nil]; rfl
      | cons d ds => rw [ih]; rfl
    have hne : table pieces cs ≠ [] := by
      cases cs with
      | nil => rw [table_nil]; simp
      | cons d ds => rw [ih]; simp
    obtain ⟨b, bs, hb⟩ := List.exists_cons_of_ne_nil hne
    have hhead : divides pieces cs = b := by rw [← single, hb]; rfl
    cases piece with
    | run => rw [table, ih, anyLater, ← table, run, divides]
    | one => simp [table, divides, ih, hb, hhead]
    | char d => simp [table, divides, ih, hb, hhead]
    | set negated items => simp [table, divides, ih, hb, hhead]

/-- Whether a pattern describes a path. -/
def accepts (pattern path : String) : Bool :=
  (table (parse pattern.toList) path.toList).headD false

/-- A pattern describes the paths that can be divided among its pieces. -/
theorem accepts_eq (pattern path : String) :
    accepts pattern path = divides (parse pattern.toList) path.toList := by
  rw [accepts]
  cases path.toList with
  | nil => rw [table_nil]; rfl
  | cons c cs => rw [table_cons]; rfl

end PageRoutes.Glob
