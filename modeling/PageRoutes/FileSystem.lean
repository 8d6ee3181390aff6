import PageRoutes.Error
import PageRoutes.Text.Encoding

/-!
# File systems

A file system holds directories and files at addresses, and knows the current directory. The root
is always there. Paths are followed name by name: a name is looked up in a directory that must be
there, also where `..` leads out of it again.

Main statements:

* `get?_put_self`, `get?_put_of_ne` — what is at an address after something was put somewhere.
* `get?_remove` — what is at an address after a removal.
-/

namespace PageRoutes

open Text

/-- What can be at an address. -/
inductive Item where
  | directory
  | file (bytes : Bytes)
deriving DecidableEq, Repr

/-- Directories and files by their addresses, each address once, and the current directory. -/
structure FileSystem where
  cwd : Address
  items : List (Address × Item)
  distinct : (items.map Prod.fst).Nodup

namespace FileSystem

/-- A file system with nothing in it, seen from the given directory. -/
def empty (cwd : Address) : FileSystem :=
  { cwd, items := [], distinct := by simp }

/-- What is at an address; the root is a directory. -/
def get? (fs : FileSystem) (a : Address) : Option Item :=
  if a = [] then some .directory
  else (fs.items.find? fun entry => entry.1 == a).map Prod.snd

/-- Puts an item at an address, in place of what was there. -/
def put (fs : FileSystem) (a : Address) (item : Item) : FileSystem where
  cwd := fs.cwd
  items := (a, item) :: fs.items.filter fun entry => entry.1 != a
  distinct := by
    rw [List.map_cons, List.nodup_cons]
    constructor
    · simp
    · exact (List.filter_sublist.map _).nodup fs.distinct

/-- Removes what is at an address and all that is below it. -/
def remove (fs : FileSystem) (a : Address) : FileSystem where
  cwd := fs.cwd
  items := fs.items.filter fun entry => !a.isPrefixOf entry.1
  distinct := (List.filter_sublist.map _).nodup fs.distinct

/-- What was put at an address is there. -/
@[simp] theorem get?_put_self (fs : FileSystem) {a : Address} (h : a ≠ []) (item : Item) :
    (fs.put a item).get? a = some item := by
  simp [get?, put, h]

/-- Other addresses keep what they hold. -/
theorem get?_put_of_ne (fs : FileSystem) {a b : Address} (h : b ≠ a) (item : Item) :
    (fs.put a item).get? b = fs.get? b := by
  unfold get? put
  split
  · rfl
  · rw [List.find?_cons_of_neg (by simpa using Ne.symm h), List.find?_filter]
    congr 2
    funext entry
    by_cases hb : entry.1 = b
    · simp [hb, h]
    · simp [hb]

/-- A removal takes away exactly what is at and below its address. -/
theorem get?_remove (fs : FileSystem) (a b : Address) :
    (fs.remove a).get? b = if b ≠ [] ∧ a <+: b then none else fs.get? b := by
  unfold get? remove
  by_cases hb : b = []
  · simp [hb]
  · by_cases hp : a <+: b
    · simp only [hb, if_false, ne_eq, not_false_eq_true, hp, and_self, if_true]
      simp only [Option.map_eq_none_iff, List.find?_eq_none, List.mem_filter]
      rintro ⟨c, item⟩ ⟨_, hc⟩ he
      simp only [beq_iff_eq] at he
      subst he
      simp [List.isPrefixOf_iff_prefix.2 hp] at hc
    · simp only [hb, if_false, hp, and_false]
      rw [List.find?_filter]
      congr 2
      funext entry
      by_cases he : entry.1 = b
      · have := mt List.isPrefixOf_iff_prefix.1 hp
        simp [he, this]
      · simp [he]

/-! ## Following paths -/

/-- The longest name in a file system, in bytes. -/
def maxNameBytes : Nat := 255

/-- The longest text of a path that a file system follows, in bytes. -/
def maxPathBytes : Nat := 4095

/-- Follows names from an address. Every place that is left for another one has to be a
directory. -/
def follow (fs : FileSystem) (a : Address) : List String → Except FileError Address
  | [] => .ok a
  | name :: names =>
    match fs.get? a with
    | some .directory =>
      if maxNameBytes < name.utf8ByteSize then .error .nameTooLong
      else follow fs (Address.step a name) names
    | some (.file _) => .error .notDirectory
    | none => .error .notFound

/-- The address that a path leads to. Something need not be there, but the directory of its last
name is. -/
def locate (fs : FileSystem) (p : Path) : Except FileError Address :=
  if maxPathBytes < p.text.utf8ByteSize then .error .nameTooLong
  else fs.follow (if p.isAbsolute then [] else fs.cwd) p.names

/-- What a path leads to, if anything. A path too long to be followed is a failure; one that leads
nowhere is not. -/
def lookup (fs : FileSystem) (p : Path) : Except FileError (Option Item) :=
  match fs.locate p with
  | .ok a => .ok (fs.get? a)
  | .error .nameTooLong => .error .nameTooLong
  | .error _ => .ok none

/-! ## Changing the file system -/

/-- Writes a file, over the file that may be there. -/
def writeFile (fs : FileSystem) (p : Path) (bytes : Bytes) : Except FileError FileSystem := do
  let a ← fs.locate p
  match fs.get? a with
  | some .directory => .error .isDirectory
  | _ => .ok (fs.put a (.file bytes))

/-- Makes one directory, where nothing is yet. -/
def makeDirectory (fs : FileSystem) (p : Path) : Except FileError FileSystem := do
  let a ← fs.locate p
  match fs.get? a with
  | some _ => .error .alreadyExists
  | none => .ok (fs.put a .directory)

/-- Makes the directory that a path names, unless it is there, without making its parents. -/
def ensureDirectory (fs : FileSystem) (p : Path) : Except FileError FileSystem :=
  match fs.makeDirectory p with
  | .ok fs => .ok fs
  | .error .notFound => .error .notFound
  | .error e =>
    match fs.lookup p with
    | .ok (some .directory) => .ok fs
    | _ => .error e

/--
Makes the directory with the given names, last name first, and the parents that are missing. What
was made before a failure stays.
-/
def ensureDirectories (anchor : Anchor) :
    (backward : List String) → FileSystem → Except FileError Unit × FileSystem
  | [], fs => (.ok (), fs)
  | name :: above, fs =>
    let p : Path := { anchor, names := (name :: above).reverse }
    match fs.ensureDirectory p with
    | .ok fs => (.ok (), fs)
    | .error .notFound =>
      match ensureDirectories anchor above fs with
      | (.error e, fs) => (.error e, fs)
      | (.ok (), fs) =>
        match fs.ensureDirectory p with
        | .ok fs => (.ok (), fs)
        | .error e => (.error e, fs)
    | .error e => (.error e, fs)

/-- Makes the directory that a path names and the parents that are missing. -/
def makeDirectories (fs : FileSystem) (p : Path) : Except FileError Unit × FileSystem :=
  ensureDirectories p.anchor p.names.reverse fs

/-- The files below an address, with the names that lead to them. -/
def filesBelow (fs : FileSystem) (a : Address) : List (List String) :=
  fs.items.filterMap fun (b, item) =>
    match item, a.isPrefixOf? b with
    | .file _, some (name :: names) => some (name :: names)
    | _, _ => none

end FileSystem

end PageRoutes
