import Mathlib.Data.List.Basic
import PageRoutes.Proofs.Numbering
import PageRoutes.RoutesModule.Reader

/-!
# The text of a module determines its routes

What `RoutesModule.source` writes is read back by `RoutesModule.read`, whatever the paths and the
references of the views are, and whatever the options are.

* **Fixed pieces** are cut off the front of a script (`expect_append`). Where two pieces are
  possible, the first character in which they differ decides (`expect_append_eq_none`).
* **Texts of a user** stand in literals, and what follows the literal is read where it ends.
* `readObjects_texts` puts both together, for objects at any depth and with any script behind them
  that does not go on with another object.

Main statement: `source_eq_iff` — the texts of two modules are the same exactly when the modules
show the same routes.
-/

namespace PageRoutes

/-! ## Shown routes -/

mutual

theorem Route.size_shown : (r : Route) → r.shown.size = r.size
  | .mk path view none => rfl
  | .mk path view (some []) => rfl
  | .mk path view (some (r :: t)) => by
    show RouteTree.size (RouteTree.shown (r :: t)) + 1 = RouteTree.size (r :: t) + 1
    rw [RouteTree.size_shown (r :: t)]

theorem RouteTree.size_shown :
    (t : List Route) → RouteTree.size (RouteTree.shown t) = RouteTree.size t
  | [] => rfl
  | r :: t => by
    rw [RouteTree.shown, RouteTree.size, Route.size_shown r, RouteTree.size_shown t]
    rfl

end

/-- Whether an absent list or the empty one is nested in a route, it is shown the same. -/
theorem Route.shown_eq (r : Route) :
    r.shown = .mk (RoutesModule.objectPath r.path) r.view
      (RouteTree.ofList? (RouteTree.shown r.children)) := by
  obtain ⟨path, view, _ | routes⟩ := r <;> rfl

theorem Route.numbered_eq (number : Nat) (r : Route) :
    r.numbered number
      = .mk number r.path r.view (RouteTree.numbered (number + 1) r.children) := by
  obtain ⟨path, view, _ | routes⟩ := r <;> rfl

theorem RouteTree.shown_eq_nil : {t : RouteTree} → shown t = [] → t = []
  | [], _ => rfl

theorem RouteTree.ofList?_injective {t u : RouteTree} (h : ofList? t = ofList? u) : t = u := by
  cases t <;> cases u <;> simp_all [ofList?]

theorem Route.size_pos (r : Route) : 0 < r.size := by
  obtain ⟨path, view, _ | routes⟩ := r
  · exact Nat.one_pos
  · exact Nat.succ_pos _

namespace RoutesModule

open Script

/-! ## Fixed pieces -/

/-- A text at the front of a script is cut off. -/
theorem expect_append (text : String) (rest : List Char) :
    expect text (text.toList ++ rest) = some rest :=
  List.isPrefixOf?_eq_some_iff_append_eq.mpr rfl

/-- A script that starts with another character does not start with the text. -/
theorem expect_append_eq_none {text other : String} {c d : Char} (rest : List Char)
    (htext : text.toList.head? = some c) (hother : other.toList.head? = some d) (hne : c ≠ d) :
    expect text (other.toList ++ rest) = none := by
  obtain ⟨cs, hcs⟩ := List.head?_eq_some_iff.mp htext
  obtain ⟨ds, hds⟩ := List.head?_eq_some_iff.mp hother
  unfold expect
  rw [hcs, hds, List.cons_append, List.isPrefixOf?, if_neg (by simpa using hne)]

theorem head?_append {text : String} {c : Char} (other : String)
    (htext : text.toList.head? = some c) : (text ++ other).toList.head? = some c := by
  rw [String.toList_append, List.head?_append, htext, Option.some_or]

/-! ## Literals and bindings -/

theorem readQuoted_literal (s : String) (rest : List Char) :
    readQuoted ((literal s).toList ++ rest) = some (s, rest) := by
  have hquote : "'".toList = ['\''] := by decide
  have hclose : (escape s ++ "'").toList ++ rest = (escape s).toList ++ '\'' :: rest := by
    rw [String.toList_append, hquote, List.append_assoc]
    rfl
  have hopen : (literal s).toList ++ rest
      = "'".toList ++ ((escape s).toList ++ '\'' :: rest) := by
    rw [literal, String.append_assoc, String.toList_append, List.append_assoc, hclose]
  rw [hopen, readQuoted, expect_append, Option.bind_eq_bind, Option.bind_some,
    readLiteral_escape (.inl rfl), Option.bind_eq_bind, Option.bind_some]
  show some (String.ofList s.toList, rest) = some (s, rest)
  rw [String.ofList_toList]

theorem readLoader_loader (view : Option String) (rest : List Char) :
    readLoader ((loader view).toList ++ rest) = some (view, rest) := by
  unfold readLoader
  cases view with
  | none =>
    have hfragment : expect "Fragment;" ((loader none).toList ++ rest) = some rest :=
      expect_append "Fragment;" rest
    rw [hfragment]
  | some view =>
    have htext : (loader (some view)).toList ++ rest
        = "lazy(() => import(".toList ++ ((literal view).toList ++ ("));".toList ++ rest)) := by
      show ("lazy(() => import(" ++ literal view ++ "));").toList ++ rest = _
      simp only [String.toList_append, List.append_assoc]
    have hlazy : expect "Fragment;" ((loader (some view)).toList ++ rest) = none := by
      rw [htext]
      exact expect_append_eq_none (c := 'F') (d := 'l') _ (by decide) (by decide) (by decide)
    rw [hlazy, htext]
    simp only [expect_append, readQuoted_literal, Option.bind_eq_bind, Option.bind_some]
    rfl

theorem binding_eq_head (options : ModuleOptions) (number : Nat) (view : Option String) :
    binding (bindingName options number) view = bindingHead options number ++ loader view :=
  binding_eq (bindingName options number) view

theorem declarations_ne_nil (options : ModuleOptions) (number : Nat) (visit : Visit)
    (visits : List Visit) : declarations options number (visit :: visits) ≠ [] := by
  rw [declarations_cons]
  exact List.cons_ne_nil _ _

theorem head?_bindingHead (options : ModuleOptions) (number : Nat) :
    (bindingHead options number).toList.head? = some 'c' := by
  rw [bindingHead, String.append_assoc]
  exact head?_append _ (by decide)

/-- The text of bindings starts with what all declarations have in common. -/
theorem intercalate_declarations (options : ModuleOptions) (number : Nat) (visit : Visit)
    (visits : List Visit) :
    "\n".intercalate (declarations options number (visit :: visits))
      = bindingHead options number
        ++ "\n".intercalate (loader visit.view :: declarations options (number + 1) visits) := by
  rw [declarations_cons, binding_eq_head, String.intercalate_cons_append]

/-- Bindings are read up to the blank line behind them. -/
theorem readBindings_declarations (options : ModuleOptions) (rest : List Char) (visit : Visit)
    (visits : List Visit) (fuel number : Nat) (hfuel : visits.length < fuel) :
    readBindings options fuel number
        (("\n".intercalate (declarations options number (visit :: visits))).toList
          ++ ("\n".toList ++ ("\n".toList ++ rest)))
      = some ((visit :: visits).map Visit.view, rest) := by
  induction visits generalizing visit fuel number with
  | nil =>
    obtain ⟨fuel, rfl⟩ : ∃ n, fuel = n + 1 := Nat.exists_eq_add_one.mpr hfuel
    rw [intercalate_declarations, String.toList_append, List.append_assoc, readBindings]
    show (expect (bindingHead options number) _).bind _ = _
    rw [expect_append, Option.bind_some]
    show ((readLoader (("\n".intercalate [loader visit.view]).toList ++ _)).bind _) = _
    rw [String.intercalate_singleton, readLoader_loader, Option.bind_some]
    simp only [expect_append, Option.bind_eq_bind, Option.bind_some]
    rfl
  | cons next visits ih =>
    obtain ⟨fuel, rfl⟩ : ∃ n, fuel = n + 1 := Nat.exists_eq_add_one.mpr (Nat.zero_lt_of_lt hfuel)
    have htail := ih next fuel (number + 1) (by simpa using hfuel)
    -- The next line is not blank, so the bindings go on.
    have hline : expect "\n"
        (("\n".intercalate (declarations options (number + 1) (next :: visits))).toList
          ++ ("\n".toList ++ ("\n".toList ++ rest))) = none := by
      rw [intercalate_declarations, String.toList_append, List.append_assoc]
      exact expect_append_eq_none _ (by decide) (head?_bindingHead ..) (by decide : '\n' ≠ 'c')
    rw [intercalate_declarations, String.toList_append, List.append_assoc, readBindings]
    rw [String.intercalate_cons_of_ne_nil (declarations_ne_nil options _ next visits)]
    simp only [String.toList_append, List.append_assoc, expect_append, readLoader_loader,
      Option.bind_eq_bind, Option.bind_some]
    simp only [hline, htail, Option.bind_some]
    rfl

/-! ## Objects -/

/-- A route object as the row of its pieces. -/
theorem object_eq (options : ModuleOptions) (depth number : Nat) (path children : String) :
    object options depth (bindingName options number) path children
      = objectHead depth ++ literal (objectPath path) ++ objectElement options depth number
        ++ elementEnd depth
        ++ if children = "" then objectEnd depth
          else childrenHead depth ++ children ++ childrenEnd depth := by
  have hcomma : "  )," = "  )" ++ "," := by decide
  unfold object objectHead objectElement elementEnd objectEnd childrenHead childrenEnd
  split <;>
    simp only [hcomma, List.cons_append, List.nil_append, String.intercalate_cons_cons,
      String.intercalate_singleton, String.append_assoc, String.empty_append, String.append_empty,
      -String.reduceAppend]

theorem head?_objectEnd (depth : Nat) : (objectEnd depth).toList.head? = some '\n' := by
  rw [objectEnd, String.intercalate_cons_cons]
  exact head?_append _ (by decide)

theorem head?_childrenHead (depth : Nat) : (childrenHead depth).toList.head? = some ',' := by
  rw [childrenHead, String.intercalate_cons_cons]
  exact head?_append _ (by decide)

theorem head?_childrenEnd (depth : Nat) : (childrenEnd depth).toList.head? = some '\n' := by
  rw [childrenEnd, String.intercalate_cons_cons]
  exact head?_append _ (by decide)

theorem texts_ne_nil (options : ModuleOptions) (depth number : Nat) (r : Route) (t : List Route) :
    NumberedRoute.texts options depth (RouteTree.numbered number (r :: t)) ≠ [] := by
  rw [RouteTree.numbered, NumberedRoute.texts]
  exact List.cons_ne_nil _ _

/-- An object is read in which nothing is nested. -/
theorem readObject_leaf (options : ModuleOptions) (fuel depth number : Nat) (path : String)
    (view : Option String) (views : List (Option String)) (rest : List Char) :
    readObject options (fuel + 1) depth number (view :: views)
        (((NumberedRoute.mk number path view []).text options depth).toList ++ rest)
      = some (.mk (objectPath path) view none, views, rest) := by
  have hend : expect (childrenHead depth) ((objectEnd depth).toList ++ rest) = none :=
    expect_append_eq_none rest (head?_childrenHead depth) (head?_objectEnd depth)
      (by decide : ',' ≠ '\n')
  rw [text_eq_object, NumberedRoute.texts, String.intercalate_nil, object_eq, if_pos rfl,
    readObject]
  simp only [String.toList_append, List.append_assoc, expect_append, readQuoted_literal, hend,
    Option.bind_eq_bind, Option.bind_some]
  rfl

/-- An object is read if the objects nested in it are read. -/
theorem readObject_nested (options : ModuleOptions) {fuel depth number : Nat} (path : String)
    (view : Option String) {views left : List (Option String)} {children : String}
    {routes : RouteTree} (rest : List Char) (hchildren : children ≠ "")
    (hread : readObjects options fuel (depth + 1) (number + 1) views
        (children.toList ++ ((childrenEnd depth).toList ++ rest))
      = some (routes, left, (childrenEnd depth).toList ++ rest)) :
    readObject options (fuel + 1) depth number (view :: views)
        ((object options depth (bindingName options number) path children).toList ++ rest)
      = some (.mk (objectPath path) view (some routes), left, rest) := by
  rw [object_eq, if_neg hchildren, readObject]
  simp only [String.toList_append, List.append_assoc, expect_append, readQuoted_literal, hread,
    Option.bind_eq_bind, Option.bind_some]
  rfl

mutual

/-- The object of a route is read at any depth and from any number on, and the views of the routes
behind it are left. -/
theorem readObject_text (options : ModuleOptions) (views : List (Option String))
    (rest : List Char) :
    (r : Route) → ∀ (fuel depth number : Nat) (walkDepth : Int), 2 * r.size ≤ fuel + 1 →
      readObject options fuel depth number ((r.walk walkDepth).map Visit.view ++ views)
          (((r.numbered number).text options depth).toList ++ rest)
        = some (r.shown, views, rest)
  | .mk path view none => by
    intro fuel depth number walkDepth hfuel
    rw [Route.size] at hfuel
    obtain ⟨fuel, rfl⟩ : ∃ n, fuel = n + 1 := Nat.exists_eq_add_one.mpr (by omega)
    rw [Route.numbered, Route.walk, Route.shown]
    exact readObject_leaf options fuel depth number path view views rest
  | .mk path view (some []) => by
    intro fuel depth number walkDepth hfuel
    rw [Route.size] at hfuel
    obtain ⟨fuel, rfl⟩ : ∃ n, fuel = n + 1 := Nat.exists_eq_add_one.mpr (by omega)
    rw [Route.numbered, RouteTree.numbered, Route.walk, RouteTree.walk, Route.shown]
    exact readObject_leaf options fuel depth number path view views rest
  | .mk path view (some (r :: t)) => by
    intro fuel depth number walkDepth hfuel
    rw [Route.size] at hfuel
    obtain ⟨fuel, rfl⟩ : ∃ n, fuel = n + 1 := Nat.exists_eq_add_one.mpr (by omega)
    -- Behind the nested objects the list is closed, so none of them is taken to follow.
    have hend : expect ",\n" ((childrenEnd depth).toList ++ rest) = none :=
      expect_append_eq_none rest (by decide) (head?_childrenEnd depth) (by decide : ',' ≠ '\n')
    have ih := readObjects_texts options views ((childrenEnd depth).toList ++ rest) hend (r :: t)
      (List.cons_ne_nil r t) fuel (depth + 1) (number + 1) (walkDepth + 1) (by omega)
    have hne := intercalate_texts_ne_empty options (depth + 1) (r.numbered (number + 1))
      (RouteTree.numbered (number + 1 + r.size) t)
    rw [Route.numbered, text_eq_object, Route.walk, List.map_cons, List.cons_append]
    exact readObject_nested options path view rest hne ih

/-- The objects of routes are read up to a script that does not go on with another object. -/
theorem readObjects_texts (options : ModuleOptions) (views : List (Option String))
    (rest : List Char) (hrest : expect ",\n" rest = none) :
    (t : List Route) → t ≠ [] →
      ∀ (fuel depth number : Nat) (walkDepth : Int), 2 * RouteTree.size t ≤ fuel →
        readObjects options fuel depth number
            ((RouteTree.walk walkDepth t).map Visit.view ++ views)
            ((",\n".intercalate
              (NumberedRoute.texts options depth (RouteTree.numbered number t))).toList ++ rest)
          = some (RouteTree.shown t, views, rest)
  | [], hne => absurd rfl hne
  | [r], _ => by
    intro fuel depth number walkDepth hfuel
    have hpos := r.size_pos
    rw [RouteTree.size, RouteTree.size] at hfuel
    obtain ⟨fuel, rfl⟩ : ∃ n, fuel = n + 1 := Nat.exists_eq_add_one.mpr (by omega)
    have ih := readObject_text options views rest r fuel depth number walkDepth (by omega)
    rw [RouteTree.walk, RouteTree.walk, List.append_nil, RouteTree.numbered, RouteTree.numbered,
      NumberedRoute.texts, NumberedRoute.texts, String.intercalate_singleton, readObjects, ih]
    show (match expect ",\n" rest with | none => _ | some script => _) = _
    rw [hrest]
    rfl
  | r :: s :: t, _ => by
    intro fuel depth number walkDepth hfuel
    have hpos := r.size_pos
    rw [RouteTree.size] at hfuel
    obtain ⟨fuel, rfl⟩ : ∃ n, fuel = n + 1 := Nat.exists_eq_add_one.mpr (by omega)
    have ih := readObjects_texts options views rest hrest (s :: t) (List.cons_ne_nil s t) fuel
      depth (number + r.size) walkDepth (by omega)
    -- To the first object all the others are text that follows it.
    have ih' := readObject_text options
      ((RouteTree.walk walkDepth (s :: t)).map Visit.view ++ views)
      (",\n".toList ++ ((",\n".intercalate (NumberedRoute.texts options depth
        (RouteTree.numbered (number + r.size) (s :: t)))).toList ++ rest))
      r fuel depth number walkDepth (by omega)
    have hne := texts_ne_nil options depth (number + r.size) s t
    rw [RouteTree.walk, List.map_append, List.append_assoc, RouteTree.numbered,
      NumberedRoute.texts, String.intercalate_cons_of_ne_nil hne, String.toList_append,
      String.toList_append, List.append_assoc, List.append_assoc, readObjects, ih']
    simp only [Option.bind_eq_bind, Option.bind_some, expect_append, Route.size_shown, ih]
    rfl

end

/-! ## The whole module -/

theorem source_nil (options : ModuleOptions) :
    source { imports := importLines options, bindings := [], routes := "" }
      = preamble options ++ "export default [];\n" := by
  unfold source preamble
  simp only [if_pos, List.cons_append, List.nil_append, List.append_nil,
    String.intercalate_cons_cons, String.intercalate_singleton, String.append_assoc]

theorem source_of_ne_empty (options : ModuleOptions) {bindings : List String} {routes : String}
    (hbindings : bindings ≠ []) (hroutes : routes ≠ "") :
    source { imports := importLines options, bindings, routes }
      = preamble options ++ "\n".intercalate bindings ++ "\n" ++ "\n"
        ++ "export default [\n" ++ routes ++ "\n];\n" := by
  have hblank : "\n\n" = "\n" ++ "\n" := by decide
  unfold source preamble
  simp only [hblank, if_neg hbindings, if_neg hroutes, List.cons_append, List.nil_append,
    String.intercalate_cons_cons, String.intercalate_singleton, String.append_assoc,
    -String.reduceAppend]

/-- There is a character for every binding, so the text is long enough to be fuel. -/
theorem length_lt_intercalate (options : ModuleOptions) (number : Nat) (visit : Visit)
    (visits : List Visit) :
    visits.length
      < ("\n".intercalate (declarations options number (visit :: visits))).toList.length := by
  have hhead (number : Nat) : 0 < (bindingHead options number).toList.length :=
    List.length_pos_iff.mpr fun h => by simpa [h] using head?_bindingHead options number
  induction visits generalizing number visit with
  | nil =>
    rw [intercalate_declarations, String.toList_append, List.length_append]
    exact Nat.lt_add_right _ (hhead number)
  | cons next visits ih =>
    have htail := ih (number + 1) next
    have hpos := hhead number
    rw [declarations_cons, String.intercalate_cons_of_ne_nil (declarations_ne_nil _ _ _ _),
      binding_eq_head]
    simp only [String.toList_append, List.length_append, List.length_cons]
    omega

/-- What stands behind the preamble of a module that has routes. -/
theorem readBindings_script (options : ModuleOptions) (visit : Visit) (visits : List Visit)
    (rest : List Char) :
    let script := ("\n".intercalate (declarations options 0 (visit :: visits))).toList
      ++ ("\n".toList ++ ("\n".toList ++ rest))
    expect "export default [];\n" script = none
      ∧ readBindings options script.length 0 script
        = some ((visit :: visits).map Visit.view, rest) := by
  intro script
  refine ⟨?_, ?_⟩
  · show expect _ (_ ++ _) = none
    rw [intercalate_declarations, String.toList_append, List.append_assoc]
    exact expect_append_eq_none _ (by decide) (head?_bindingHead options 0) (by decide : 'e' ≠ 'c')
  · refine readBindings_declarations options rest visit visits script.length 0 ?_
    have hlength := length_lt_intercalate options 0 visit visits
    exact Nat.lt_of_lt_of_le hlength (List.length_append ▸ Nat.le_add_right _ _)

/-- **The routes of a tree are read back from the text of its module.** -/
theorem read_source (options : ModuleOptions) (tree : RouteTree) :
    read options
        (source {
          imports := importLines options
          bindings := declarations options 0 (RouteTree.walk 0 tree)
          routes := ",\n".intercalate
            (NumberedRoute.texts options 0 (RouteTree.numbered 0 tree)) })
      = some (RouteTree.shown tree) := by
  cases tree with
  | nil =>
    have hrest : "export default [];\n".toList = "export default [];\n".toList ++ [] :=
      (List.append_nil _).symm
    rw [RouteTree.numbered, NumberedRoute.texts, String.intercalate_nil, RouteTree.walk]
    show read options (source { imports := _, bindings := [], routes := "" }) = some []
    rw [source_nil, read, String.toList_append, expect_append, Option.bind_eq_bind,
      Option.bind_some, hrest, expect_append]
    rfl
  | cons route routes =>
    obtain ⟨visit, visits, hwalk⟩ : ∃ visit visits,
        RouteTree.walk 0 (route :: routes) = visit :: visits := by
      refine List.exists_cons_of_length_pos ?_
      rw [RouteTree.length_walk, RouteTree.size]
      exact Nat.add_pos_left route.size_pos _
    have hbindings := declarations_ne_nil options 0 visit visits
    have hroutes : ",\n".intercalate
        (NumberedRoute.texts options 0 (RouteTree.numbered 0 (route :: routes))) ≠ "" :=
      intercalate_texts_ne_empty options 0 (route.numbered 0) _
    have hend : expect ",\n" ("\n];\n".toList ++ []) = none :=
      expect_append_eq_none (c := ',') (d := '\n') [] (by decide) (by decide) (by decide)
    have hsize : RouteTree.size (route :: routes)
        = ((visit :: visits).map Visit.view).length := by
      rw [List.length_map, ← hwalk, RouteTree.length_walk]
    have hobjects := readObjects_texts options [] ("\n];\n".toList ++ []) hend (route :: routes)
      (List.cons_ne_nil _ _) _ 0 0 0 (Nat.mul_le_mul_left 2 (Nat.le_of_eq hsize))
    rw [hwalk, List.append_nil] at hobjects
    have hrest : "\n];\n".toList = "\n];\n".toList ++ [] := (List.append_nil _).symm
    obtain ⟨hnone, hviews⟩ := readBindings_script options visit visits
      ("export default [\n".toList ++ ((",\n".intercalate
        (NumberedRoute.texts options 0 (RouteTree.numbered 0 (route :: routes)))).toList
          ++ ("\n];\n".toList ++ [])))
    rw [hwalk, source_of_ne_empty options hbindings hroutes, read]
    simp only [String.toList_append, List.append_assoc]
    rw [hrest, expect_append, Option.bind_eq_bind, Option.bind_some, hnone]
    simp only [hviews, Option.bind_eq_bind, Option.bind_some, expect_append]
    rw [hobjects, Option.bind_some, expect_append, Option.bind_some]
    exact if_pos ⟨rfl, rfl⟩

/-! ## Trees that show the same routes -/

/-- What two lists of siblings have in common if the same is emitted for them, from any number on
and at any depth. -/
structure SameText (options : ModuleOptions) (t u : RouteTree) : Prop where
  texts : ∀ depth number, NumberedRoute.texts options depth (RouteTree.numbered number t)
    = NumberedRoute.texts options depth (RouteTree.numbered number u)
  views : ∀ depth, (RouteTree.walk depth t).map Visit.view
    = (RouteTree.walk depth u).map Visit.view

theorem SameText.refl (options : ModuleOptions) (t : RouteTree) : SameText options t t :=
  ⟨fun _ _ => rfl, fun _ => rfl⟩

theorem object_congr (options : ModuleOptions) (depth : Nat) (name : String) {path path' : String}
    (children : String) (hpath : objectPath path = objectPath path') :
    object options depth name path children = object options depth name path' children := by
  rw [object, object, hpath]

/-- The same is emitted for routes that show the same, if it is for what is nested in them. -/
theorem SameText.cons {options : ModuleOptions} {r s : Route} {t u : RouteTree}
    (hshown : r.shown = s.shown) (hchildren : SameText options r.children s.children)
    (htail : SameText options t u) : SameText options (r :: t) (s :: u) := by
  have hsize : r.size = s.size := by rw [← Route.size_shown r, hshown, Route.size_shown]
  rw [Route.shown_eq r, Route.shown_eq s] at hshown
  injection hshown with hpath hview hnested
  refine ⟨fun depth number => ?_, fun depth => ?_⟩
  · rw [RouteTree.numbered, RouteTree.numbered, NumberedRoute.texts, NumberedRoute.texts, hsize,
      htail.texts, Route.numbered_eq, Route.numbered_eq, text_eq_object, text_eq_object,
      hchildren.texts, object_congr options depth _ _ hpath]
  · rw [RouteTree.walk, RouteTree.walk, List.map_append, List.map_append, htail.views,
      Route.walk_eq, Route.walk_eq, List.map_cons, List.map_cons, hchildren.views, hview]

mutual

/-- The same is emitted for what is nested in routes that show the same. -/
theorem sameText_children (options : ModuleOptions) :
    (r s : Route) → r.shown = s.shown → SameText options r.children s.children
  | .mk path view none, s, h => by
    rw [Route.shown_eq s] at h
    injection h with hpath hview hnested
    have hnil : s.children = [] :=
      RouteTree.shown_eq_nil (RouteTree.ofList?_injective (t := []) hnested).symm
    show SameText options [] s.children
    rw [hnil]
    exact .refl options []
  | .mk path view (some routes), s, h => by
    rw [Route.shown_eq s] at h
    injection h with hpath hview hnested
    exact sameText_of_shown options routes s.children (RouteTree.ofList?_injective hnested)

theorem sameText_of_shown (options : ModuleOptions) :
    (t u : List Route) → RouteTree.shown t = RouteTree.shown u → SameText options t u
  | [], [], _ => .refl options []
  | r :: t, s :: u, h => by
    rw [RouteTree.shown, RouteTree.shown] at h
    obtain ⟨hr, ht⟩ := List.cons.inj h
    exact .cons hr (sameText_children options r s hr) (sameText_of_shown options t u ht)

end

theorem declarations_congr {options : ModuleOptions} {number : Nat} {xs ys : List Visit}
    (h : xs.map Visit.view = ys.map Visit.view) :
    declarations options number xs = declarations options number ys := by
  have hviews (visits : List Visit) : declarations options number visits
      = ((visits.map Visit.view).zipIdx number).map fun (view, number) =>
          binding (bindingName options number) view := by
    rw [declarations, List.zipIdx_map, List.map_map]
    rfl
  rw [hviews, hviews, h]

/-- **The text of a module determines its routes**, and nothing more.

Every tree has a module, and what it shows of the tree is read back from its text. So the texts of
the modules of two trees are the same exactly when both show the same: the same nesting, and in
each place the same view and the same path of the route object. -/
theorem source_eq_iff (options : ModuleOptions) :
    (∀ tree, ∃ m, ofTree options tree = .ok m
        ∧ read options m.source = some (RouteTree.shown tree))
      ∧ ∀ t u, ∃ m n, ofTree options t = .ok m ∧ ofTree options u = .ok n
        ∧ (m.source = n.source ↔ RouteTree.shown t = RouteTree.shown u) := by
  refine ⟨fun tree => ⟨_, ofTree_eq options tree, read_source options tree⟩, fun t u => ?_⟩
  refine ⟨_, _, ofTree_eq options t, ofTree_eq options u, ?_, ?_⟩
  · intro h
    have hread := congrArg (read options) h
    rw [read_source, read_source] at hread
    exact Option.some.inj hread
  · intro h
    have hsame := sameText_of_shown options t u h
    rw [hsame.texts, declarations_congr (hsame.views 0)]

end RoutesModule

end PageRoutes
