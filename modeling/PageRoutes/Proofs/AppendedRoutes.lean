import PageRoutes.Proofs.ModuleReader

/-!
# Routes behind routes

`RoutesModule.emit` is a function of the bindings made so far, and these are all that one sibling
hands on to the next. So what is emitted for routes behind others begins where the others end, and
nothing that was emitted for the others depends on it.

* `emitAll_append` — siblings are emitted in two parts, the second on top of the bindings of the
  first.
* `emit_text_eq_empty_iff` — only where there are no routes there is no text, so a separator stands
  exactly between routes.
* `emit_append` — the same for whole texts, at any depth and with any bindings before.
* `ofTree_append` — the module of a tree stands at the beginning of the module of a longer tree.
* `appended_routes_stand_behind` — this law, and what it says about the route for unmatched
  addresses.
-/

namespace PageRoutes.RoutesModule

/-- The texts of objects one behind the other: with a separator between them, or one alone if the
other is empty. -/
def joinObjects (first second : String) : String :=
  if first = "" then second
  else if second = "" then first
  else first ++ ",\n" ++ second

theorem joinObjects_empty_left (second : String) : joinObjects "" second = second := if_pos rfl

theorem joinObjects_empty_right (first : String) : joinObjects first "" = first := by
  rw [joinObjects, if_pos rfl]
  split
  · next h => exact h.symm
  · rfl

/-- Objects one behind the other, where there is no text just if there are no objects. -/
theorem intercalate_append {first second : List String}
    (hfirst : ",\n".intercalate first = "" → first = [])
    (hsecond : ",\n".intercalate second = "" → second = []) :
    ",\n".intercalate (first ++ second)
      = joinObjects (",\n".intercalate first) (",\n".intercalate second) := by
  by_cases hnone : first = []
  · rw [hnone, List.nil_append, String.intercalate_nil, joinObjects_empty_left]
  by_cases hnone' : second = []
  · rw [hnone', List.append_nil, String.intercalate_nil, joinObjects_empty_right]
  -- There are objects on both sides, so there are texts on both sides to put a separator between.
  rw [String.intercalate_append_of_ne_nil hnone hnone', joinObjects, if_neg (mt hfirst hnone),
    if_neg (mt hsecond hnone')]

section Emitting

variable (options : ModuleOptions) (depth : Nat)

/-! ## Emitting in parts -/

/-- Siblings are emitted in two parts, the second on top of the bindings of the first. -/
theorem emitAll_append (bindings : List String) (a b : List Route) :
    emitAll options depth bindings (a ++ b)
      = ((emitAll options depth (emitAll options depth bindings a).1 b).1,
          (emitAll options depth bindings a).2
            ++ (emitAll options depth (emitAll options depth bindings a).1 b).2) := by
  induction a generalizing bindings with
  | nil => rfl
  | cons r a ih =>
    -- The first route hands its bindings to the rest of `a`, which hands them to `b`.
    rw [List.cons_append, emitAll, emitAll]
    simp only [ih, List.cons_append]

/-- Emitting only adds bindings, behind those made before. -/
theorem emit_bindings (bindings : List String) (tree : RouteTree) :
    (emit options depth bindings tree).1
      = bindings ++ declarations options bindings.length (RouteTree.walk 0 tree) := by
  rw [emit, emitAll_eq options 0]

/-- **Only where there are no routes there is no text.** -/
theorem emit_text_eq_empty_iff (bindings : List String) (tree : RouteTree) :
    (emit options depth bindings tree).2 = "" ↔ tree = [] := by
  cases tree with
  | nil => exact iff_of_true rfl rfl
  | cons r t =>
    rw [emit, emitAll_eq options 0]
    exact iff_of_false (intercalate_texts_ne_empty _ _ _ _) (List.cons_ne_nil r t)

theorem emitAll_objects_eq_nil {bindings : List String} {tree : RouteTree}
    (h : ",\n".intercalate (emitAll options depth bindings tree).2 = "") :
    (emitAll options depth bindings tree).2 = [] := by
  obtain rfl := (emit_text_eq_empty_iff options depth bindings tree).mp h
  rfl

/-- **Trees are emitted one behind the other**, whatever was emitted before and at any depth. -/
theorem emit_append (bindings : List String) (a b : RouteTree) :
    emit options depth bindings (a ++ b)
      = ((emit options depth (emit options depth bindings a).1 b).1,
          joinObjects (emit options depth bindings a).2
            (emit options depth (emit options depth bindings a).1 b).2) := by
  rw [emit, emitAll_append]
  exact congrArg (Prod.mk _) (intercalate_append (emitAll_objects_eq_nil options depth)
    (emitAll_objects_eq_nil options depth))

/-- A route in which nothing is nested has a binding and an object. -/
theorem emit_leaf (bindings : List String) (path : String) (view : Option String) :
    emit options depth bindings [.mk path view none]
      = (bindings ++ [binding (bindingName options bindings.length) view],
          object options depth (bindingName options bindings.length) path "") :=
  congrArg (Prod.mk _) String.intercalate_singleton

end Emitting

/-! ## Modules of longer trees -/

/-- **The module of a tree stands at the beginning of the module of a longer tree.** -/
theorem ofTree_append (options : ModuleOptions) (tree behind : RouteTree) :
    ∃ m, ofTree options tree = .ok m ∧
      ofTree options (tree ++ behind) = .ok
        { imports := m.imports
          bindings := (emit options 0 m.bindings behind).1
          routes := joinObjects m.routes (emit options 0 m.bindings behind).2 } := by
  refine ⟨_, ofTree_eq_ok options tree, ?_⟩
  rw [ofTree_eq_ok, emit_append]

/-- The object of the route for unmatched addresses. -/
theorem object_catchAllPath (options : ModuleOptions) (name : String) :
    object options 0 name Route.catchAllPath ""
      = "\n".intercalate
          [ "  \x7b",
            "    path: '*',",
            "    element: (",
            "      <React.Suspense fallback=\x7b" ++ fallbackElement options ++ "\x7d>",
            "        <" ++ name ++ " />",
            "      </React.Suspense>",
            "    )",
            "  \x7d" ] := by
  have hpad : indentation 0 = "  " := rfl
  have hpath : Script.literal (objectPath Route.catchAllPath) = "'*'" := by decide
  rw [object, hpad, hpath, if_pos rfl]
  simp only [List.cons_append, List.nil_append, String.reduceAppend]

/--
**Routes at the end disturb nothing before them.**

At any depth and with any bindings made before, emitting one tree behind another adds the bindings
of the first and then those of the second, emitted on top of them, and the text is that of the first
and that of the second with a separator between them. There is a text just if there are routes, so
no separator stands where one of the trees is empty.

So the module of a tree with the route for unmatched addresses at its end has the import lines of
the module of the tree, its bindings and one more that loads the view and is numbered by the size of
the tree, and its route objects with one more behind them, in which nothing is nested.
-/
theorem appended_routes_stand_behind (options : ModuleOptions) :
    (∀ (depth : Nat) (bindings : List String) (a b : RouteTree), ∃ ofA ofB : List String,
      let first := emit options depth bindings a
      let second := emit options depth (bindings ++ ofA) b
      first.1 = bindings ++ ofA ∧
      second.1 = bindings ++ ofA ++ ofB ∧
      emit options depth bindings (a ++ b)
        = (bindings ++ ofA ++ ofB, joinObjects first.2 second.2) ∧
      (first.2 = "" ↔ a = []) ∧
      (second.2 = "" ↔ b = [])) ∧
    ∀ (tree : RouteTree) (view : String), ∃ m,
      ofTree options tree = .ok m ∧
      let name := options.stem ++ toString (RouteTree.size tree)
      ofTree options (tree.withNotFound view) = .ok
        { imports := m.imports
          bindings := m.bindings ++
            ["const " ++ name ++ " = React.lazy(() => import(" ++ Script.literal view ++ "));"]
          routes := joinObjects m.routes <| "\n".intercalate
            [ "  \x7b",
              "    path: '*',",
              "    element: (",
              "      <React.Suspense fallback=\x7b" ++ fallbackElement options ++ "\x7d>",
              "        <" ++ name ++ " />",
              "      </React.Suspense>",
              "    )",
              "  \x7d" ] } := by
  constructor
  · intro depth bindings a b
    have hfirst := emit_bindings options depth bindings a
    refine ⟨_, _, hfirst, emit_bindings options depth _ b, ?_,
      emit_text_eq_empty_iff options depth bindings a, emit_text_eq_empty_iff options depth _ b⟩
    rw [emit_append, hfirst, emit_bindings options depth _ b]
  · intro tree view
    obtain ⟨m, hm, hlonger⟩ := ofTree_append options tree [.mk Route.catchAllPath (some view) none]
    -- A module has one binding for each route, so the next binding is numbered by their number.
    have hlength : m.bindings.length = RouteTree.size tree := by
      rw [ofTree_eq_ok, Except.ok.injEq] at hm
      rw [← hm, length_emit, List.length_nil, Nat.zero_add]
    rw [emit_leaf, hlength, object_catchAllPath] at hlonger
    exact ⟨m, hm, hlonger⟩

end PageRoutes.RoutesModule
