import PageRoutes.FileSystem
import PageRoutes.Glob
import PageRoutes.Route.Extension

/-!
# Finding view files

The view files of a project are the files at any depth below the pages root whose names end in one
of the extensions, unless they are hidden or excluded. They are listed by their paths in the order
of code points, so the list does not depend on the order in which a directory is read.
-/

namespace PageRoutes

open Text

/-- Whether one of the patterns describes a path. -/
def isExcluded (exclude : List String) (path : String) : Bool :=
  exclude.any fun pattern => Glob.accepts pattern path

/-- Whether the file that the given names lead to, below the pages root, is a view; `excluded` says
which paths below the root are not. -/
def isView (extensions : List String) (excluded : String → Bool) (names : List String) : Bool :=
  Route.hasExtension extensions (names.getLastD "")
    && !Path.isHidden { anchor := .relative, names }
    && !excluded (join '/' names)

/-- The view files below a directory, as absolute paths in order, under any rule of exclusion. -/
def viewFilesWhere (fs : FileSystem) (root : Path) (extensions : List String)
    (excluded : String → Bool) : Except Failure (List String) := do
  let base ← addressOf fs.cwd root
  match ← (fs.lookup (.ofAddress base)).mapError .file with
  | some .directory =>
    let usable := Route.normalizeExtensions extensions
    let views := (fs.filesBelow base).filter (isView usable excluded)
    return (views.map fun names => Address.text (base ++ names)).mergeSort fun a b => a ≤ b
  | _ => throw (.route (.invalidOptions (.missingDirectory base)))

/-- The view files below a directory, without those that an exclude pattern describes. -/
def viewFiles (fs : FileSystem) (root : Path) (extensions exclude : List String) :
    Except Failure (List String) :=
  viewFilesWhere fs root extensions (isExcluded exclude)

/-- The view files below a directory where one of the lists may be missing. The extensions are
needed for every directory; the patterns are needed only if a file has to be matched. -/
def viewFilesOf (fs : FileSystem) (root : Path) :
    (extensions exclude : Option (List String)) → Except Failure (List String)
  | some extensions, some exclude => viewFiles fs root extensions exclude
  | some extensions, none => do
    match ← viewFilesWhere fs root extensions fun _ => false with
    | [] => return []
    | _ => throw (.missing .list)
  | none, _ => do
    let _ ← viewFilesWhere fs root [] fun _ => false
    throw (.missing .list)

end PageRoutes
