import PageRoutes.Text.Split

/-!
# Paths and addresses

A `Path` is a path as somebody wrote it: relative to the current directory or starting at the
root, with `..` kept where it was written. An `Address` is where a path leads: the names of the
directories passed on the way down from the root, without `.` and `..`. Going from one to the
other is purely lexical, as no directory is a link.

Main statement: `Address.walk_eq_of_plain` — proper names lead down and nowhere else.
-/

namespace PageRoutes

open Text

/-- Where a path starts: at the current directory, at the root, or at the root written as two
slashes, which is kept apart in the text of a path. -/
inductive Anchor where
  | relative
  | root
  | doubleRoot
deriving DecidableEq, Repr

/-- An anchor as the beginning of a text. -/
def Anchor.text : Anchor → String
  | .relative => ""
  | .root => "/"
  | .doubleRoot => "//"

/-- The anchor of a text: exactly two leading slashes are a start of their own. -/
def Anchor.ofChars : List Char → Anchor
  | '/' :: '/' :: '/' :: _ => .root
  | '/' :: '/' :: _ => .doubleRoot
  | '/' :: _ => .root
  | _ => .relative

/-- A path: its start and the names after it, `..` included. -/
structure Path where
  anchor : Anchor
  names : List String
deriving DecidableEq, Repr

namespace Path

/-- Reads a path. Repeated slashes, trailing slashes and `.` are dropped, `..` stays. -/
def ofString (s : String) : Path where
  anchor := Anchor.ofChars s.toList
  names := (split '/' s).filter fun name => name != "" && name != "."

/-- A path as text; the path that leads nowhere else is `.`. -/
def text (p : Path) : String :=
  if p.anchor = .relative ∧ p.names = [] then "." else p.anchor.text ++ join '/' p.names

/-- Whether a path starts at the root. -/
def isAbsolute (p : Path) : Bool :=
  p.anchor != .relative

/-- The path without its last name. The root and the current directory are their own parents. -/
def parent (p : Path) : Path :=
  { p with names := p.names.dropLast }

/-- Whether a name of the path starts with a dot. -/
def isHidden (p : Path) : Bool :=
  p.names.any fun name => name.toList.head? == some '.'

end Path

/-- A place in a file system: the names on the way down from the root. -/
abbrev Address := List String

namespace Address

/-- Follows one name from an address: `..` leads up, and stays at the root. -/
def step (a : Address) (name : String) : Address :=
  if name = "" ∨ name = "." then a else if name = ".." then a.dropLast else a ++ [name]

/-- Follows names from an address, one after the other. -/
def walk (a : Address) (names : List String) : Address :=
  names.foldl step a

/-- A name that leads down: neither empty nor `.` nor `..`. -/
def IsPlain (name : String) : Prop :=
  name ≠ "" ∧ name ≠ "." ∧ name ≠ ".."

@[simp] theorem walk_nil (a : Address) : walk a [] = a := rfl

@[simp] theorem walk_cons (a : Address) (name : String) (names : List String) :
    walk a (name :: names) = walk (step a name) names := rfl

theorem walk_append (a : Address) (xs ys : List String) :
    walk a (xs ++ ys) = walk (walk a xs) ys :=
  List.foldl_append

theorem step_eq_of_plain {name : String} (h : IsPlain name) (a : Address) :
    step a name = a ++ [name] := by
  simp [step, h.1, h.2.1, h.2.2]

/-- Proper names lead down and nowhere else. -/
theorem walk_eq_of_plain {names : List String} (h : ∀ n ∈ names, IsPlain n) (a : Address) :
    walk a names = a ++ names := by
  induction names generalizing a with
  | nil => simp
  | cons n ns ih =>
    rw [walk_cons, step_eq_of_plain (h n (by simp)), ih fun m hm => h m (by simp [hm])]
    simp

/-- An address as the text of an absolute path. -/
def text (a : Address) : String :=
  "/" ++ join '/' a

/--
The names that lead from the directory `base` to the place `target`: up to the last common
directory, then down.
-/
def relativeTo : (base target : Address) → List String
  | b :: bs, t :: ts =>
    if b = t then relativeTo bs ts
    else List.replicate (bs.length + 1) ".." ++ t :: ts
  | bs, ts => List.replicate bs.length ".." ++ ts

end Address

/-- The address a path leads to from the current directory `cwd`. -/
def Path.resolve (cwd : Address) (p : Path) : Address :=
  Address.walk (if p.isAbsolute then [] else cwd) p.names

/-- Whether a name holds the character U+0000, which ends every name in a file system. -/
def hasNul (name : String) : Bool :=
  name.toList.contains '\x00'

/-- Whether a name of the path holds U+0000. -/
def Path.hasNul (p : Path) : Bool :=
  p.names.any PageRoutes.hasNul

/-- The address a path leads to, as far as a file system can follow it: U+0000 must be neither in a
name of the path, even if `..` leaves it again, nor in the address. -/
def Path.address? (cwd : Address) (p : Path) : Option Address :=
  if p.hasNul || (p.resolve cwd).any PageRoutes.hasNul then none else some (p.resolve cwd)

/-- The path that starts at the root and leads to an address. -/
def Path.ofAddress (a : Address) : Path :=
  { anchor := .root, names := a }

/--
A file name without its suffix, the part from the last dot on. A dot at the start or at the end of
the name begins no suffix.
-/
def dropSuffix (name : String) : String :=
  let backward := name.toList.reverse
  let suffix := backward.takeWhile (· != '.')
  match backward.dropWhile (· != '.') with
  | _ :: stem => if suffix = [] ∨ stem = [] then name else String.ofList stem.reverse
  | [] => name

end PageRoutes
