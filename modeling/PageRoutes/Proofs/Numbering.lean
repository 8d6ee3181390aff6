import PageRoutes.RoutesModule

/-!
# Numbered routes

`RoutesModule.emit` counts routes on its way through a tree: the bindings made so far are its
counter. Here the numbers are given first and the texts are made afterwards, with nothing to count.

* `Route.numbered` gives every route its number; `walk_numbered` says that the numbers are the
  places of the routes in a walk.
* `NumberedRoute.text` writes the object of a numbered route, line by line; `text_eq_object` says
  that it is the object of the module.
* `emitAll_eq` — with any bindings before and at any depth, emitting is numbering and writing.
* `ofTree_eq` — the module of a tree, with its bindings and its objects.
-/

namespace PageRoutes

/-- A route with the number of its binding. -/
inductive NumberedRoute where
  | mk (number : Nat) (path : String) (view : Option String) (children : List NumberedRoute)
deriving Repr

mutual

/-- A route with numbers from the given one on, itself first. -/
def Route.numbered (number : Nat) : Route → NumberedRoute
  | .mk path view none => .mk number path view []
  | .mk path view (some routes) => .mk number path view (RouteTree.numbered (number + 1) routes)

/-- The routes of a tree with numbers from the given one on, each before what is nested in it. -/
def RouteTree.numbered (number : Nat) : List Route → List NumberedRoute
  | [] => []
  | route :: routes => route.numbered number :: RouteTree.numbered (number + route.size) routes

end

namespace NumberedRoute

mutual

/-- Visits a numbered route and then what is nested in it, as `Route.walk` does. -/
def walk (depth : Int) : NumberedRoute → List (Visit × Nat)
  | .mk number path view children => (⟨depth, path, view⟩, number) :: walkAll (depth + 1) children

/-- Visits numbered routes, each before what is nested in it. -/
def walkAll (depth : Int) : List NumberedRoute → List (Visit × Nat)
  | [] => []
  | route :: routes => route.walk depth ++ walkAll depth routes

end

mutual

/-- The text of the object of a numbered route at the given depth, line by line. -/
def text (options : ModuleOptions) (depth : Nat) : NumberedRoute → String
  | .mk number path _ children =>
    let pad := String.ofList (List.replicate (2 + 4 * depth) ' ')
    let fallback := match options.fallback with
      | some _ => "<FileRouteFallback />"
      | none => "<></>"
    let nested := match children with
      | [] => [pad ++ "  )"]
      | _ :: _ =>
        [ pad ++ "  ),",
          pad ++ "  children: [",
          ",\n".intercalate (texts options (depth + 1) children),
          pad ++ "  ]" ]
    "\n".intercalate
      ([ pad ++ "\x7b",
         pad ++ "  path: " ++ Script.literal (RoutesModule.objectPath path) ++ ",",
         pad ++ "  element: (",
         pad ++ "    <React.Suspense fallback=\x7b" ++ fallback ++ "\x7d>",
         pad ++ "      <" ++ (options.stem ++ toString number) ++ " />",
         pad ++ "    </React.Suspense>" ]
        ++ nested ++ [pad ++ "\x7d"])

/-- The texts of the objects of numbered routes. -/
def texts (options : ModuleOptions) (depth : Nat) : List NumberedRoute → List String
  | [] => []
  | route :: routes => route.text options depth :: texts options depth routes

end

end NumberedRoute

/-! ## The numbers -/

mutual

theorem Route.walk_numbered (depth : Int) (number : Nat) :
    (r : Route) → (r.numbered number).walk depth = (r.walk depth).zipIdx number
  | .mk path view none => rfl
  | .mk path view (some routes) => by
    rw [Route.numbered, NumberedRoute.walk, Route.walk, List.zipIdx_cons,
      RouteTree.walk_numbered (depth + 1) (number + 1) routes]

/-- **The numbers of routes are their places in a walk.** -/
theorem RouteTree.walk_numbered (depth : Int) (number : Nat) :
    (t : List Route) →
      NumberedRoute.walkAll depth (RouteTree.numbered number t)
        = (RouteTree.walk depth t).zipIdx number
  | [] => rfl
  | r :: t => by
    rw [RouteTree.numbered, NumberedRoute.walkAll, RouteTree.walk, List.zipIdx_append,
      Route.walk_numbered depth number r, Route.length_walk,
      RouteTree.walk_numbered depth (number + r.size) t]

end

namespace RoutesModule

/-! ## The texts -/

theorem indentation_eq (depth : Nat) :
    indentation depth = String.ofList (List.replicate (2 + 4 * depth) ' ') := by
  have hwidth : 2 * (1 + 2 * depth) = 2 + 4 * depth := by omega
  rw [indentation, hwidth]

theorem fallbackElement_eq (options : ModuleOptions) :
    fallbackElement options = match options.fallback with
      | some _ => "<FileRouteFallback />"
      | none => "<></>" := by
  obtain ⟨stem, _ | view⟩ := options <;> rfl

/-- The text of an object starts with blanks and a brace, so it is not empty. -/
theorem text_ne_empty (options : ModuleOptions) (depth : Nat) (route : NumberedRoute) :
    route.text options depth ≠ "" := by
  obtain ⟨number, path, view, children⟩ := route
  intro h
  unfold NumberedRoute.text at h
  simp only [List.cons_append, String.intercalate_cons_cons, String.append_eq_empty_iff] at h
  exact absurd h.1.1.2 (by decide)

/-- The text of objects is empty only where there are none. -/
theorem intercalate_texts_ne_empty (options : ModuleOptions) (depth : Nat) (route : NumberedRoute)
    (routes : List NumberedRoute) :
    ",\n".intercalate (NumberedRoute.texts options depth (route :: routes)) ≠ "" := by
  rw [NumberedRoute.texts, ← String.append_empty (s := route.text options depth),
    String.intercalate_cons_append]
  intro h
  exact text_ne_empty options depth route (String.append_eq_empty_iff.mp h).1

/-- **The object of a route is its text**, once the routes nested in it are written. -/
theorem text_eq_object (options : ModuleOptions) (depth number : Nat) (path : String)
    (view : Option String) (children : List NumberedRoute) :
    (NumberedRoute.mk number path view children).text options depth
      = object options depth (bindingName options number) path
          (",\n".intercalate (NumberedRoute.texts options (depth + 1) children)) := by
  unfold NumberedRoute.text
  rw [object, ← indentation_eq, ← fallbackElement_eq]
  cases children with
  | nil => rw [NumberedRoute.texts, String.intercalate_nil, if_pos rfl]; rfl
  | cons child children =>
    rw [if_neg (intercalate_texts_ne_empty options (depth + 1) child children)]
    rfl

/-! ## Emitting -/

/-- The bindings of visits that are counted from the given number on. -/
def declarations (options : ModuleOptions) (number : Nat) (visits : List Visit) : List String :=
  (visits.zipIdx number).map fun (visit, number) => binding (bindingName options number) visit.view

theorem declarations_cons (options : ModuleOptions) (number : Nat) (visit : Visit)
    (visits : List Visit) :
    declarations options number (visit :: visits)
      = binding (bindingName options number) visit.view
        :: declarations options (number + 1) visits := rfl

theorem declarations_append (options : ModuleOptions) (number : Nat) (xs ys : List Visit) :
    declarations options number (xs ++ ys)
      = declarations options number xs ++ declarations options (number + xs.length) ys := by
  rw [declarations, List.zipIdx_append, List.map_append]
  rfl

theorem length_declarations (options : ModuleOptions) (number : Nat) (visits : List Visit) :
    (declarations options number visits).length = visits.length := by
  rw [declarations, List.length_map, List.length_zipIdx]

mutual

theorem emitRoute_eq (options : ModuleOptions) (walkDepth : Int) (depth : Nat)
    (bindings : List String) :
    (r : Route) →
      emitRoute options depth bindings r
        = (bindings ++ declarations options bindings.length (r.walk walkDepth),
            (r.numbered bindings.length).text options depth)
  | .mk path view none => by
    rw [emitRoute, Route.walk, Route.numbered, text_eq_object, NumberedRoute.texts]
    rfl
  | .mk path view (some routes) => by
    -- The route's own binding counts for the number of the first route nested in it.
    have ih := emitAll_eq options (walkDepth + 1) (depth + 1)
      (bindings ++ [binding (bindingName options bindings.length) view]) routes
    rw [List.length_append, List.length_singleton] at ih
    rw [emitRoute]
    simp only [ih]
    rw [Route.walk, declarations_cons, Route.numbered, text_eq_object, List.append_assoc]
    rfl

/-- **Emitting is numbering and writing**, whatever was emitted before and at any depth. -/
theorem emitAll_eq (options : ModuleOptions) (walkDepth : Int) (depth : Nat)
    (bindings : List String) :
    (t : List Route) →
      emitAll options depth bindings t
        = (bindings ++ declarations options bindings.length (RouteTree.walk walkDepth t),
            NumberedRoute.texts options depth (RouteTree.numbered bindings.length t))
  | [] => by
    rw [emitAll, RouteTree.walk]
    exact congrArg (·, _) (List.append_nil bindings).symm
  | r :: t => by
    have ih := emitAll_eq options walkDepth depth
      (bindings ++ declarations options bindings.length (r.walk walkDepth)) t
    rw [List.length_append, length_declarations, Route.length_walk] at ih
    rw [emitAll]
    simp only [emitRoute_eq options walkDepth depth bindings r, ih]
    rw [RouteTree.walk, declarations_append, Route.length_walk, RouteTree.numbered,
      NumberedRoute.texts, List.append_assoc]

end

/-- The module of a tree, said without a counter. -/
theorem ofTree_eq (options : ModuleOptions) (tree : RouteTree) :
    ofTree options tree
      = .ok {
          imports := importLines options
          bindings := declarations options 0 (RouteTree.walk 0 tree)
          routes := ",\n".intercalate
            (NumberedRoute.texts options 0 (RouteTree.numbered 0 tree)) } := by
  rw [ofTree_eq_ok, emit, emitAll_eq options 0]
  rfl

/-- What a binding loads, behind the name of the library that loads it. -/
def loader : (view : Option String) → String
  | some view => "lazy(() => import(" ++ Script.literal view ++ "));"
  | none => "Fragment;"

theorem binding_eq (name : String) (view : Option String) :
    binding name view = "const " ++ name ++ " = React." ++ loader view := by
  cases view with
  | none =>
    have htext : " = React.Fragment;" = " = React." ++ "Fragment;" := by decide
    calc "const " ++ name ++ " = React.Fragment;"
        = "const " ++ name ++ (" = React." ++ "Fragment;") := congrArg _ htext
      _ = "const " ++ name ++ " = React." ++ "Fragment;" := (String.append_assoc ..).symm
  | some view =>
    have htext : " = React.lazy(() => import(" = " = React." ++ "lazy(() => import(" := by decide
    calc "const " ++ name ++ " = React.lazy(() => import(" ++ Script.literal view ++ "));"
        = "const " ++ name ++ (" = React." ++ "lazy(() => import(") ++ Script.literal view
            ++ "));" := congrArg (fun text => "const " ++ name ++ text ++ _ ++ _) htext
      _ = "const " ++ name ++ " = React."
            ++ ("lazy(() => import(" ++ Script.literal view ++ "));") := by
          simp only [String.append_assoc]

end RoutesModule

end PageRoutes
