import PageRoutes.Choice
import PageRoutes.Outcome
import PageRoutes.Route.Draft
import PageRoutes.Route.Extension
import PageRoutes.Route.Key
import PageRoutes.Route.Location
import PageRoutes.Route.Segment

/-!
# From view files to a route tree

`RouteTree.ofFiles` builds the route tree of a list of view files. The files are placed one after
the other, so siblings stand in the order in which the files first need them, and the first file
that cannot be placed decides the error. Unusable options are found before any file is looked at.
-/

namespace PageRoutes

open Text Route

/-- The options of a tree, as given. The duplicate policy is given by its name, if at all. -/
structure TreeOptions where
  root : String
  extensions : List String := ["tsx", "jsx"]
  onDuplicate : Option String := DuplicatePolicy.refuse.name
deriving DecidableEq, Repr

/-- The options of a tree as chosen. Where the extensions are set to nothing there are none, and a
blank root is the first thing that is wrong with them. -/
def TreeOptions.ofChoices (root : String) (extensions : Choice (List String))
    (onDuplicate : Choice String) : Except Failure TreeOptions :=
  match extensions.orDefault ({ root } : TreeOptions).extensions with
  | some extensions =>
    .ok { root, extensions, onDuplicate := onDuplicate.orDefault DuplicatePolicy.refuse.name }
  | none =>
    .error (if isAllBlank root then .route (.invalidOptions .missingRoot) else .missing .list)

/-- The usable extensions of a compilation, if there is a root and if there are any. -/
def usableExtensions (root : String) (extensions : List String) :
    Except RouteError (List String) :=
  if isAllBlank root then .error (.invalidOptions .missingRoot)
  else
    match normalizeExtensions extensions with
    | [] => .error (.invalidOptions .missingExtensions)
    | usable => .ok usable

/-- The duplicate policy of a compilation. -/
def duplicatePolicy (given : Option String) : Except RouteError DuplicatePolicy :=
  match given.bind DuplicatePolicy.ofName? with
  | some policy => .ok policy
  | none => .error (.invalidOptions (.unknownPolicy given))

/-- The key of a view file under the root: where its route stands in the tree. -/
def fileKey (cwd : Address) (root : String) (extensions : List String) (file : String) :
    Except RouteError (List String) :=
  (location cwd file root).map fun path => key (segments (stripExtension path extensions))

/-- The page of a view file: the file as given and its normalised path. -/
def Page.ofFile (file : String) : Page :=
  { file, view := normalizePath file }

namespace Draft

/--
Puts a page at a key under a duplicate policy. If there is a page at the key, it is replaced and
the replacement noted, or the new one is refused.
-/
def add (policy : DuplicatePolicy) (key : List String) (page : Page) (drafts : List Draft) :
    Outcome RouteError (List Draft) :=
  match page? key drafts with
  | none => .pure (put page key drafts)
  | some earlier =>
    let route := key.getLastD rootPath
    match policy with
    | .refuse => .fail (.ambiguousRoute route earlier.file page.file)
    | .lastWins => ⟨[.routeReplaced route earlier.file page.file], .ok (put page key drafts)⟩

/-- Places the view files under the root one after the other. -/
def addFiles (cwd : Address) (root : String) (extensions : List String)
    (policy : DuplicatePolicy) :
    (files : List String) → List Draft → Outcome RouteError (List Draft)
  | [], drafts => .pure drafts
  | file :: files, drafts =>
    (Outcome.ofExcept (fileKey cwd root extensions file)).bind fun key =>
      (add policy key (.ofFile file) drafts).bind (addFiles cwd root extensions policy files)

end Draft

/-- The route tree of view files under the root of the options. -/
def RouteTree.ofFiles (cwd : Address) (options : TreeOptions) (files : List String) :
    Outcome RouteError RouteTree := do
  let extensions ← Outcome.ofExcept (usableExtensions options.root options.extensions)
  let policy ← Outcome.ofExcept (duplicatePolicy options.onDuplicate)
  let drafts ← Draft.addFiles cwd options.root extensions policy files []
  return Draft.toTree drafts

end PageRoutes
