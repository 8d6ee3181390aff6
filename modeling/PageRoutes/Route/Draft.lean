import PageRoutes.Route.Basic

/-!
# Drafts of a route tree

While view files are placed one after the other, a tree is kept as a draft, which remembers the
file behind each view. `Draft.page?` looks up the page at a key and `Draft.put` puts one there,
making the routes on the way to it where they are missing. New routes go behind their siblings.

Main statement: `page?_put_self` — a page is found where it was put.
-/

namespace PageRoutes

/-- A view file with a route: its path as given, and the import reference made from it. -/
structure Page where
  file : String
  view : String
deriving DecidableEq, Repr

/-- A route under construction. -/
inductive Draft where
  | mk (path : String) (page : Option Page) (children : List Draft)
deriving Repr

namespace Draft

/-- The path of a route under construction. -/
def path : Draft → String
  | mk path _ _ => path

/-- The page of a route under construction. -/
def page : Draft → Option Page
  | mk _ page _ => page

/-- The routes under a route under construction. -/
def children : Draft → List Draft
  | mk _ _ children => children

/-- A route with nothing to show and nothing below it. -/
def fresh (path : String) : Draft := mk path none []

/-- The route with another page. -/
def withPage (page : Page) : Draft → Draft
  | mk path _ children => mk path (some page) children

/-- The route with other routes below it. -/
def withChildren (children : List Draft) : Draft → Draft
  | mk path page _ => mk path page children

/-- The first of several siblings that has the given path. -/
def find? (path : String) (drafts : List Draft) : Option Draft :=
  drafts.find? fun draft => draft.path == path

/-- Changes the first sibling with the given path, or a fresh one put behind all of them. -/
def update (path : String) (change : Draft → Draft) : List Draft → List Draft
  | [] => [change (fresh path)]
  | draft :: drafts =>
    if draft.path = path then change draft :: drafts else draft :: update path change drafts

/-- The page at a key. -/
def page? : (key : List String) → List Draft → Option Page
  | [], _ => none
  | path :: rest, drafts => do
    let draft ← find? path drafts
    if rest = [] then draft.page else page? rest draft.children

/-- Puts a page at a key. -/
def put (page : Page) : (key : List String) → List Draft → List Draft
  | [], drafts => drafts
  | path :: rest, drafts =>
    update path
      (fun draft =>
        if rest = [] then draft.withPage page
        else draft.withChildren (put page rest draft.children))
      drafts

@[simp] theorem path_fresh (path : String) : (fresh path).path = path := rfl

@[simp] theorem path_withPage (page : Page) (draft : Draft) :
    (draft.withPage page).path = draft.path := by
  cases draft; rfl

@[simp] theorem path_withChildren (children : List Draft) (draft : Draft) :
    (draft.withChildren children).path = draft.path := by
  cases draft; rfl

@[simp] theorem page_withPage (page : Page) (draft : Draft) :
    (draft.withPage page).page = some page := by
  cases draft; rfl

@[simp] theorem children_withChildren (children : List Draft) (draft : Draft) :
    (draft.withChildren children).children = children := by
  cases draft; rfl

/-- After a change that keeps the path, the changed sibling is the one found. -/
theorem find?_update {path : String} {change : Draft → Draft}
    (h : ∀ draft, (change draft).path = draft.path) (drafts : List Draft) :
    find? path (update path change drafts)
      = some (change ((find? path drafts).getD (fresh path))) := by
  induction drafts with
  | nil => simp [find?, update, h]
  | cons draft drafts ih =>
    by_cases hd : draft.path = path
    · simp [find?, update, hd, h]
    · simp only [find?] at ih
      simp [find?, update, hd, ih]

/-- A page is found where it was put. -/
theorem page?_put_self (page : Page) {key : List String} (h : key ≠ []) (drafts : List Draft) :
    page? key (put page key drafts) = some page := by
  induction key generalizing drafts with
  | nil => exact absurd rfl h
  | cons path rest ih =>
    rw [put, page?, find?_update]
    · by_cases hr : rest = []
      · simp [hr]
      · simp [hr, ih hr]
    · intro draft
      split <;> simp

end Draft

mutual

/-- A finished route: the page gives its view, and an empty list of nested routes is left out. -/
def Draft.toRoute : Draft → Route
  | .mk path page children =>
    .mk path (page.map Page.view) (RouteTree.ofList? (Draft.toTree children))

/-- The route tree of a draft. -/
def Draft.toTree : List Draft → RouteTree
  | [] => []
  | draft :: drafts => draft.toRoute :: Draft.toTree drafts

end

end PageRoutes
