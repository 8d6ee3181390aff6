import PageRoutes.Declaration
import PageRoutes.Route.Build

/-!
# Settings of a project

`Options` is what a project may say about itself; what it leaves out is filled in from the
environment or from the defaults. `Settings.ofOptions` makes the settings that everything else
works with and refuses options without a usable root, extension or duplicate policy, or without a
list of patterns to exclude.

An option may also be set to nothing. Some settings can be nothing too, and what needs them fails.
-/

namespace PageRoutes

open Text

/-- The environment variables that stand in for options. -/
structure Environment where
  /-- The pages root (`FILE_ROUTER_ROOT`). -/
  root : Option String := none
  /-- Whether routes are generated at start (`FILE_ROUTER_GENERATE`). -/
  generate : Option String := none
deriving DecidableEq, Repr

/-- Whether a variable holds the character U+0000, which no environment can. -/
def Environment.hasNul (e : Environment) : Bool :=
  [e.root, e.generate].any fun value => value.any fun s => s.toList.contains '\x00'

/-- The options of a project as given; where the default is to have none, an option is just there
or not. -/
structure Options where
  root : Choice String := .byDefault
  extensions : Choice (List String) := .byDefault
  exclude : Choice (List String) := .byDefault
  notFound : Option String := none
  fallback : Option String := none
  output : Choice String := .byDefault
  declarations : Option String := none
  router : Choice String := .byDefault
  moduleName : Choice String := .byDefault
  stem : Choice String := .byDefault
  onDuplicate : Choice String := .byDefault
  generateOnStart : Choice Bool := .byDefault
deriving DecidableEq, Repr

/-- The settings of a project. -/
structure Settings where
  /-- The directory that is searched for view files. -/
  root : Path
  /-- The extensions of view files, normalised. -/
  extensions : List String
  /-- The patterns of files below the root that are no views. -/
  exclude : List String
  /-- The import reference of the view for unmatched addresses. -/
  notFound : Option String
  /-- The import reference of the component shown while a view loads. -/
  fallback : Option String
  /-- Where the routes module is written. -/
  output : Option Path
  /-- Where the module declaration is written, if at all. -/
  declarations : Option Path
  /-- Where the router component is written. -/
  router : Option Path
  /-- The name under which the declaration declares the routes module. -/
  moduleName : Option String
  /-- The stem of the binding names. -/
  stem : Option String
  /-- What happens when two files define one route. -/
  onDuplicate : DuplicatePolicy
  /-- Whether routes are generated when the application starts; they are not if that is left
  unsaid. -/
  generateOnStart : Option Bool
deriving DecidableEq, Repr

namespace Settings

/-- The pages root of a project that does not name one. -/
def defaultRoot : String := "src/pages"

/-- The values of an environment variable that mean yes. -/
def yesValues : List String := ["True", "true", "1", "yes", "Y", "T"]

/-- The settings that options and environment describe. A root that is set to nothing is as good as
a blank one. -/
def ofOptions (environment : Environment) (options : Options) : Except Failure Settings := do
  if environment.hasNul then throw .nulInText
  let root := (options.root.orDefault (environment.root.getD defaultRoot)).getD ""
  let tree ← TreeOptions.ofChoices root options.extensions options.onDuplicate
  let extensions ← (usableExtensions root tree.extensions).mapError .route
  let exclude ← require .list (options.exclude.orDefault [])
  let onDuplicate ← (duplicatePolicy tree.onDuplicate).mapError .route
  return {
    root := .ofString root
    extensions
    exclude
    notFound := options.notFound
    fallback := options.fallback
    output := (options.output.orDefault "src/generated/routes.tsx").map .ofString
    declarations := options.declarations.map .ofString
    router := (options.router.orDefault "src/Router.tsx").map .ofString
    moduleName := options.moduleName.orDefault defaultModuleName
    stem := options.stem.orDefault ({} : ModuleOptions).stem
    onDuplicate
    generateOnStart := options.generateOnStart.orDefault
      (yesValues.contains (environment.generate.getD "True")) }

/-- The address of the pages root. -/
def rootAddress (s : Settings) (cwd : Address) : Address :=
  s.root.resolve cwd

/-- The options of the tree of the view files below the root. -/
def treeOptions (s : Settings) (cwd : Address) : TreeOptions where
  root := (s.rootAddress cwd).text
  extensions := s.extensions
  onDuplicate := some s.onDuplicate.name

/-- The choices that shape the routes module. -/
def moduleOptions (s : Settings) : ModuleOptions where
  stem := stemOf s.stem
  fallback := s.fallback

end Settings

end PageRoutes
