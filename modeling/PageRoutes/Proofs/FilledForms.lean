import Mathlib.Data.List.Basic
import PageRoutes.Declaration
import PageRoutes.Proofs.ModuleReader
import PageRoutes.RouterComponent
import PageRoutes.Script.Form

/-!
# Generated scripts are filled forms

Whatever a user writes, the routes module, the module declaration and the router component are
forms (`Script.Form`) with the texts of the user in literals.

* `IsFilled.append` — scripts that stand one behind the other fill forms that stand one behind the
  other. So a form is filled part by part.
* `isFilled_text` — the object of a route, with all that is nested in it, fills its form.
* `isFilled_source` — a module fills the form of its tree.
* `form_outline` — the form of a tree depends on nothing but its outline.

Main statement: `texts_stay_in_literals`.
-/

namespace PageRoutes

namespace Script.Form

/-- Reading along two forms, one behind the other. -/
theorem read_append (f g : Form) (script : List Char) :
    read (f ++ g) script
      = (read f script).bind fun (texts, script) =>
          (read g script).map fun (more, script) => (texts ++ more, script) := by
  induction f generalizing script with
  | nil => simp [read]
  | cons part f ih =>
    rw [List.cons_append]
    cases part with
    | fixed text =>
      rw [read, read]
      cases text.toList.isPrefixOf? script with
      | none => rfl
      | some script => simp only [Option.bind_some, ih]
    | blank quote =>
      cases script with
      | nil => rfl
      | cons c script =>
        rw [read, read]
        split
        · cases readLiteral quote.char script with
          | none => rfl
          | some result =>
            obtain ⟨text, script⟩ := result
            simp only [Option.bind_some, ih]
            cases read f script with
            | none => rfl
            | some result =>
              obtain ⟨texts, script⟩ := result
              simp only [Option.bind_some, Option.map_some]
              cases read g script <;> rfl
        · rfl

section

variable {f g : Form} {xs ys : List String} {a b : String}

theorem isFilled_nil : IsFilled [] [] "" := fun _ => rfl

/-- Nothing is read from a fixed text. -/
theorem isFilled_fixed (text : String) : IsFilled [.fixed text] [] text := by
  intro rest
  rw [read, List.isPrefixOf?_eq_some_iff_append_eq.mpr rfl]
  rfl

/-- A quoted text fills a blank with itself, whatever its characters are. -/
theorem isFilled_blank (quote : Quote) (s : String) :
    IsFilled [.blank quote] [s]
      (String.singleton quote.char ++ escape s ++ String.singleton quote.char) := by
  intro rest
  have hscript :
      (String.singleton quote.char ++ escape s ++ String.singleton quote.char).toList ++ rest
        = quote.char :: ((escape s).toList ++ quote.char :: rest) := by
    simp
  rw [hscript, read, if_pos rfl, quote.readLiteral_escape]
  simp [read]

theorem isFilled_literal (s : String) : IsFilled [.blank .single] [s] (literal s) :=
  isFilled_blank .single s

/-- **Scripts in a row fill forms in a row**: where the first script ends the second one starts,
whatever the texts in the blanks are. -/
theorem IsFilled.append (hf : IsFilled f xs a) (hg : IsFilled g ys b) :
    IsFilled (f ++ g) (xs ++ ys) (a ++ b) := by
  intro rest
  rw [read_append, String.toList_append, List.append_assoc, hf]
  show (g.read (b.toList ++ rest)).map _ = _
  rw [hg]
  rfl

/-- A filled form is read to the end of the script. -/
theorem IsFilled.read_eq (h : IsFilled f xs a) : f.read a.toList = some (xs, []) := by
  have hread := h []
  rwa [List.append_nil] at hread

end

/-- Scripts with a text between any two fill the joined forms. -/
theorem isFilled_joined (separator : String) {α : Type} (form : α → Form)
    (texts : α → List String) (script : α → String) {rows : List α}
    (h : ∀ row ∈ rows, IsFilled (form row) (texts row) (script row)) :
    IsFilled (joined separator (rows.map form)) (rows.flatMap texts)
      (separator.intercalate (rows.map script)) := by
  induction rows with
  | nil => exact isFilled_nil
  | cons row rows ih =>
    have hrow := h row List.mem_cons_self
    have ih := ih fun r hr => h r (List.mem_cons_of_mem row hr)
    cases rows with
    | nil => simpa [joined] using hrow
    | cons next rows =>
      have hfilled := hrow.append ((isFilled_fixed separator).append ih)
      rw [← String.append_assoc] at hfilled
      simpa [joined, String.intercalate_cons_cons] using hfilled

end Script.Form

open Script Script.Form

/-! ## The form of a tree -/

mutual

/-- A route without its texts: whether it has a view and what is nested in it, and no more. -/
def Route.outline : Route → Route
  | .mk _ view none => .mk "" (view.map fun _ => "") (some [])
  | .mk _ view (some routes) => .mk "" (view.map fun _ => "") (some (RouteTree.outline routes))

/-- A tree without its texts. -/
def RouteTree.outline : List Route → RouteTree
  | [] => []
  | route :: routes => route.outline :: RouteTree.outline routes

end

namespace NumberedRoute

mutual

/-- The form of the object of a numbered route. -/
def form (options : ModuleOptions) (depth : Nat) : NumberedRoute → Form
  | .mk number _ _ children =>
    [ .fixed (RoutesModule.objectHead depth), .blank .single,
      .fixed (RoutesModule.objectElement options depth number),
      .fixed (RoutesModule.elementEnd depth) ]
      ++ match forms options (depth + 1) children with
        | [] => [.fixed (RoutesModule.objectEnd depth)]
        | nested =>
          [.fixed (RoutesModule.childrenHead depth)] ++ joined ",\n" nested
            ++ [.fixed (RoutesModule.childrenEnd depth)]

/-- The forms of the objects of numbered routes. -/
def forms (options : ModuleOptions) (depth : Nat) : List NumberedRoute → List Form
  | [] => []
  | route :: routes => route.form options depth :: forms options depth routes

end

end NumberedRoute

namespace RoutesModule

/-- The paths that the objects of visited routes show. -/
def shownPaths (visits : List Visit) : List String :=
  visits.map fun visit => objectPath visit.path

/-- The form of the text before the bindings. -/
def preambleForm (options : ModuleOptions) : Form :=
  if options.fallback.isSome then
    [ .fixed (header ++ "\n\n" ++ "import React from 'react';" ++ "\n"
        ++ ("import " ++ fallbackName ++ " from ")),
      .blank .single, .fixed (";" ++ "\n\n") ]
  else [.fixed (header ++ "\n\n" ++ "import React from 'react';" ++ "\n\n")]

/-- The form of a binding: only that of a view has a blank. -/
def bindingForm (options : ModuleOptions) (number : Nat) : (hasView : Bool) → Form
  | true =>
    [ .fixed (bindingHead options number ++ "lazy(() => import("), .blank .single, .fixed "));" ]
  | false => [.fixed (bindingHead options number ++ "Fragment;")]

/-- The form of the bindings of visited routes, numbered from zero. -/
def bindingForms (options : ModuleOptions) (views : List Bool) : Form :=
  joined "\n" (views.zipIdx.map fun (hasView, number) => bindingForm options number hasView)

/-- The form of the module of a tree. -/
def form (options : ModuleOptions) : RouteTree → Form
  | [] => preambleForm options ++ [.fixed "export default [];\n"]
  | route :: routes =>
    preambleForm options
      ++ bindingForms options ((RouteTree.walk 0 (route :: routes)).map fun v => v.view.isSome)
      ++ [.fixed "\n", .fixed "\n", .fixed "export default [\n"]
      ++ joined ",\n" (NumberedRoute.forms options 0 (RouteTree.numbered 0 (route :: routes)))
      ++ [.fixed "\n];\n"]

/-- The texts of the user in the module of a tree, in the order of their literals: the reference of
the fallback component, those of the views, and the paths of the route objects. -/
def userTexts (options : ModuleOptions) (tree : RouteTree) : List String :=
  options.fallback.toList ++ (RouteTree.walk 0 tree).filterMap Visit.view
    ++ shownPaths (RouteTree.walk 0 tree)

/-! ## Filling the form -/

/-- A literal between two fixed texts fills a form with one blank. -/
theorem isFilled_around (before after s : String) :
    IsFilled [.fixed before, .blank .single, .fixed after] [s] (before ++ literal s ++ after) :=
  ((isFilled_fixed before).append (isFilled_literal s)).append (isFilled_fixed after)

theorem isFilled_preamble (options : ModuleOptions) :
    IsFilled (preambleForm options) options.fallback.toList (preamble options) := by
  obtain ⟨stem, _ | fallback⟩ := options
  · have htext : preamble { stem, fallback := none }
        = header ++ "\n\n" ++ "import React from 'react';" ++ "\n\n" := by
      rw [preamble, importLines, String.intercalate_singleton]
    rw [htext]
    exact isFilled_fixed _
  · have htext : preamble { stem, fallback := some fallback }
        = header ++ "\n\n" ++ "import React from 'react';" ++ "\n"
          ++ ("import " ++ fallbackName ++ " from ") ++ literal fallback ++ (";" ++ "\n\n") := by
      simp only [preamble, importLines, String.intercalate_cons_cons,
        String.intercalate_singleton, String.append_assoc, -String.reduceAppend]
    rw [htext]
    exact isFilled_around _ _ fallback

theorem loader_none : loader none = "Fragment;" := rfl

theorem loader_some (view : String) :
    loader (some view) = "lazy(() => import(" ++ literal view ++ "));" := rfl

theorem isFilled_binding (options : ModuleOptions) (number : Nat) (view : Option String) :
    IsFilled (bindingForm options number view.isSome) view.toList
      (binding (bindingName options number) view) := by
  rw [binding_eq_head]
  cases view with
  | none =>
    rw [loader_none]
    exact isFilled_fixed _
  | some view =>
    rw [loader_some, ← String.append_assoc, ← String.append_assoc]
    exact isFilled_around _ _ view

theorem isFilled_bindings (options : ModuleOptions) (visits : List Visit) :
    IsFilled (bindingForms options (visits.map fun v => v.view.isSome))
      (visits.filterMap Visit.view) ("\n".intercalate (declarations options 0 visits)) := by
  have htexts : visits.filterMap Visit.view
      = visits.zipIdx.flatMap fun row => row.1.view.toList := by
    conv_lhs => rw [← List.zipIdx_map_fst 0 visits]
    rw [List.filterMap_map, List.filterMap_eq_flatMap_toList]
    rfl
  have hforms : bindingForms options (visits.map fun v => v.view.isSome)
      = joined "\n" (visits.zipIdx.map fun row => bindingForm options row.2 row.1.view.isSome) := by
    rw [bindingForms, List.zipIdx_map, List.map_map]
    rfl
  rw [htexts, hforms]
  exact isFilled_joined "\n" _ _ _ fun row _ => isFilled_binding options row.2 row.1.view

/-- The object of a route starts with its path and its element. -/
theorem isFilled_objectStart (options : ModuleOptions) (depth number : Nat) (path : String) :
    IsFilled
      [ .fixed (objectHead depth), .blank .single, .fixed (objectElement options depth number),
        .fixed (elementEnd depth) ]
      [objectPath path]
      (objectHead depth ++ literal (objectPath path) ++ objectElement options depth number
        ++ elementEnd depth) :=
  (isFilled_around _ _ (objectPath path)).append (isFilled_fixed (elementEnd depth))

mutual

/-- **The object of a route fills its form**, with all that is nested in it. -/
theorem isFilled_text (options : ModuleOptions) (depth : Nat) (walkDepth : Int) :
    (route : NumberedRoute) →
      IsFilled (route.form options depth) (shownPaths ((route.walk walkDepth).map Prod.fst))
        (route.text options depth)
  | .mk number path view [] => by
    have hhead := isFilled_objectStart options depth number path
    rw [text_eq_object, NumberedRoute.texts, String.intercalate_nil, object_eq, if_pos rfl]
    exact hhead.append (isFilled_fixed (objectEnd depth))
  | .mk number path view (child :: children) => by
    have hhead := isFilled_objectStart options depth number path
    have hne := intercalate_texts_ne_empty options (depth + 1) child children
    have ih := isFilled_texts options (depth + 1) (walkDepth + 1) (child :: children)
    have hnested := ((isFilled_fixed (childrenHead depth)).append ih).append
      (isFilled_fixed (childrenEnd depth))
    rw [List.append_nil, List.nil_append] at hnested
    rw [text_eq_object, object_eq, if_neg hne]
    exact hhead.append hnested

/-- The objects of siblings fill their forms. -/
theorem isFilled_texts (options : ModuleOptions) (depth : Nat) (walkDepth : Int) :
    (routes : List NumberedRoute) →
      IsFilled (joined ",\n" (NumberedRoute.forms options depth routes))
        (shownPaths ((NumberedRoute.walkAll walkDepth routes).map Prod.fst))
        (",\n".intercalate (NumberedRoute.texts options depth routes))
  | [] => isFilled_nil
  | [route] => by
    have ih := isFilled_text options depth walkDepth route
    rw [NumberedRoute.walkAll, NumberedRoute.walkAll, List.append_nil, NumberedRoute.texts,
      NumberedRoute.texts, String.intercalate_singleton]
    exact ih
  | route :: next :: routes => by
    have ih := isFilled_text options depth walkDepth route
    have ih' := isFilled_texts options depth walkDepth (next :: routes)
    have hfilled := ih.append ((isFilled_fixed ",\n").append ih')
    rw [NumberedRoute.walkAll, List.map_append, NumberedRoute.texts, NumberedRoute.texts,
      String.intercalate_cons_cons, shownPaths, List.map_append, String.append_assoc]
    exact hfilled

end

/-- **A module fills the form of its tree.** -/
theorem isFilled_source (options : ModuleOptions) (tree : RouteTree) :
    IsFilled (form options tree) (userTexts options tree)
      (source {
        imports := importLines options
        bindings := declarations options 0 (RouteTree.walk 0 tree)
        routes := ",\n".intercalate
          (NumberedRoute.texts options 0 (RouteTree.numbered 0 tree)) }) := by
  have hpreamble := isFilled_preamble options
  cases tree with
  | nil =>
    have hfilled := hpreamble.append (isFilled_fixed "export default [];\n")
    rw [RouteTree.numbered, NumberedRoute.texts, String.intercalate_nil, RouteTree.walk]
    show IsFilled _ _ (source { imports := _, bindings := [], routes := "" })
    rw [source_nil]
    simpa [form, userTexts, shownPaths, RouteTree.walk] using hfilled
  | cons route routes =>
    have hroutes : ",\n".intercalate
        (NumberedRoute.texts options 0 (RouteTree.numbered 0 (route :: routes))) ≠ "" :=
      intercalate_texts_ne_empty options 0 (route.numbered 0) _
    -- Only a module without bindings and without objects is printed in another way.
    have hbindings : declarations options 0 (RouteTree.walk 0 (route :: routes)) ≠ [] := by
      rw [← List.length_pos_iff, length_declarations, RouteTree.length_walk, RouteTree.size]
      exact Nat.add_pos_left route.size_pos _
    have hwalk : (NumberedRoute.walkAll 0 (RouteTree.numbered 0 (route :: routes))).map Prod.fst
        = RouteTree.walk 0 (route :: routes) := by
      rw [RouteTree.walk_numbered, List.zipIdx_map_fst]
    have hobjects := isFilled_texts options 0 0 (RouteTree.numbered 0 (route :: routes))
    have hfilled := (((((hpreamble.append
      (isFilled_bindings options (RouteTree.walk 0 (route :: routes)))).append
      (isFilled_fixed "\n")).append (isFilled_fixed "\n")).append
      (isFilled_fixed "export default [\n")).append hobjects).append (isFilled_fixed "\n];\n")
    rw [hwalk] at hfilled
    rw [source_of_ne_empty options hbindings hroutes]
    simpa [form, userTexts] using hfilled

end RoutesModule

/-! ## The outline decides the form -/

/-- The options of a module without the reference of the fallback component. -/
def ModuleOptions.outline (options : ModuleOptions) : ModuleOptions :=
  { options with fallback := options.fallback.map fun _ => "" }

mutual

theorem Route.size_outline : (r : Route) → r.outline.size = r.size
  | .mk _ _ none => rfl
  | .mk _ _ (some routes) => by
    rw [Route.outline, Route.size, Route.size, RouteTree.size_outline routes]

theorem RouteTree.size_outline :
    (t : List Route) → RouteTree.size (RouteTree.outline t) = RouteTree.size t
  | [] => rfl
  | r :: t => by
    rw [RouteTree.outline, RouteTree.size, RouteTree.size, Route.size_outline r,
      RouteTree.size_outline t]

end

mutual

theorem Route.map_isSome_outline (depth : Int) :
    (r : Route) → (r.outline.walk depth).map (fun v => v.view.isSome)
      = (r.walk depth).map fun v => v.view.isSome
  | .mk _ view none => by
    simp [Route.outline, Route.walk, RouteTree.walk]
  | .mk _ view (some routes) => by
    simp [Route.outline, Route.walk, RouteTree.map_isSome_outline (depth + 1) routes]

theorem RouteTree.map_isSome_outline (depth : Int) :
    (t : List Route) → (RouteTree.walk depth (RouteTree.outline t)).map (fun v => v.view.isSome)
      = (RouteTree.walk depth t).map fun v => v.view.isSome
  | [] => rfl
  | r :: t => by
    rw [RouteTree.outline, RouteTree.walk, RouteTree.walk, List.map_append, List.map_append,
      Route.map_isSome_outline depth r, RouteTree.map_isSome_outline depth t]

end

theorem RoutesModule.objectElement_outline (options : ModuleOptions) (depth number : Nat) :
    objectElement options.outline depth number = objectElement options depth number := by
  have hfallback : fallbackElement options.outline = fallbackElement options := by
    simp [fallbackElement, ModuleOptions.outline]
  rw [objectElement, objectElement, hfallback]
  rfl

mutual

theorem Route.form_outline (options : ModuleOptions) (depth number : Nat) :
    (r : Route) → (r.outline.numbered number).form options.outline depth
      = (r.numbered number).form options depth
  | .mk _ _ none => by
    rw [Route.outline, Route.numbered, Route.numbered, RouteTree.numbered, NumberedRoute.form,
      NumberedRoute.form, RoutesModule.objectElement_outline]
    rfl
  | .mk _ _ (some routes) => by
    rw [Route.outline, Route.numbered, Route.numbered, NumberedRoute.form, NumberedRoute.form,
      RoutesModule.objectElement_outline, RouteTree.forms_outline options (depth + 1) _ routes]

theorem RouteTree.forms_outline (options : ModuleOptions) (depth number : Nat) :
    (t : List Route) →
      NumberedRoute.forms options.outline depth (RouteTree.numbered number (RouteTree.outline t))
        = NumberedRoute.forms options depth (RouteTree.numbered number t)
  | [] => rfl
  | r :: t => by
    rw [RouteTree.outline, RouteTree.numbered, RouteTree.numbered, NumberedRoute.forms,
      NumberedRoute.forms, Route.form_outline options depth number r, Route.size_outline,
      RouteTree.forms_outline options depth _ t]

end

namespace RoutesModule

/-- **The form of a module depends on nothing but the outlines** of its options and its tree. -/
theorem form_outline (options : ModuleOptions) (tree : RouteTree) :
    form options.outline (RouteTree.outline tree) = form options tree := by
  have hpreamble : preambleForm options.outline = preambleForm options := by
    simp [preambleForm, ModuleOptions.outline]
  cases tree with
  | nil => rw [RouteTree.outline, form, form, hpreamble]
  | cons route routes =>
    have hviews := RouteTree.map_isSome_outline 0 (route :: routes)
    have hobjects := RouteTree.forms_outline options 0 0 (route :: routes)
    rw [RouteTree.outline] at hviews hobjects ⊢
    rw [form, form, hpreamble, hviews, hobjects]
    rfl

/-- The module declaration is the same for every module name, but for the name. -/
theorem isFilled_declaration :
    ∃ after, ∀ name,
      IsFilled [.fixed (header ++ "\n\ndeclare module "), .blank .double, .fixed after] [name]
        (moduleDeclaration name) := by
  -- The name stands in the third line; the others are the same for every name.
  obtain ⟨lines, hlines⟩ : ∃ lines, ∀ name, moduleDeclaration name
      = "\n".intercalate
          (header :: "" :: ("declare module \"" ++ escape name ++ "\" \x7b") :: lines) :=
    ⟨_, fun _ => rfl⟩
  refine ⟨"\n".intercalate (" \x7b" :: lines), fun name => ?_⟩
  have hblank : "\n\ndeclare module " = "\n" ++ ("" ++ "\n" ++ "declare module ") := by decide
  have hopen : "declare module \"" = "declare module " ++ String.singleton '"' := by decide
  have hclose : "\" \x7b" = String.singleton '"' ++ " \x7b" := by decide
  have htext : moduleDeclaration name
      = header ++ "\n\ndeclare module "
        ++ (String.singleton '"' ++ escape name ++ String.singleton '"')
        ++ "\n".intercalate (" \x7b" :: lines) := by
    rw [hlines, hblank, hopen, hclose, String.intercalate_cons_cons, String.intercalate_cons_cons]
    simp only [String.append_assoc, String.intercalate_cons_append, -String.reduceAppend]
  rw [htext]
  exact ((isFilled_fixed _).append (isFilled_blank .double name)).append (isFilled_fixed _)

/-- The router component is the same for every specifier, but for the specifier. -/
theorem isFilled_routerComponent (specifier : String) :
    IsFilled
      [ .fixed (RouterComponent.before ++ "import fileRoutes from "), .blank .single,
        .fixed (";\n" ++ RouterComponent.after) ]
      [specifier] (RouterComponent.source specifier) := by
  have htext : RouterComponent.source specifier
      = RouterComponent.before ++ "import fileRoutes from " ++ literal specifier
        ++ (";\n" ++ RouterComponent.after) := String.append_assoc
  rw [htext]
  exact isFilled_around _ _ specifier

/--
**No text of a user leaves its literal.**

In quotes of either kind an escaped text is read back, up to the closing quote and no further. All
that a user can write into a module is read from the blanks of the form of its tree: the reference
of the fallback component, the references of the views and the paths of the route objects. That
form depends only on the outlines. The module declaration and the router component have one blank
each, for the module name and for the specifier.
-/
theorem texts_stay_in_literals :
    (∀ (quote : Quote) (s : String) (rest : List Char),
        readLiteral quote.char ((escape s).toList ++ quote.char :: rest) = some (s.toList, rest))
      ∧ (∀ (options : ModuleOptions) (tree : RouteTree),
          ∃ m, ofTree options tree = .ok m
            ∧ (form options tree).read m.source.toList
              = some (options.fallback.toList ++ (RouteTree.walk 0 tree).filterMap Visit.view
                  ++ (RouteTree.walk 0 tree).map fun visit => objectPath visit.path, []))
      ∧ (∀ (options options' : ModuleOptions) (tree tree' : RouteTree),
          options.outline = options'.outline → RouteTree.outline tree = RouteTree.outline tree' →
          form options tree = form options' tree')
      ∧ (∃ after, ∀ name,
          Form.read [.fixed (header ++ "\n\ndeclare module "), .blank .double, .fixed after]
              (moduleDeclaration name).toList
            = some ([name], []))
      ∧ ∀ specifier,
          Form.read
              [ .fixed (RouterComponent.before ++ "import fileRoutes from "), .blank .single,
                .fixed (";\n" ++ RouterComponent.after) ]
              (RouterComponent.source specifier).toList
            = some ([specifier], []) := by
  refine ⟨Quote.readLiteral_escape, fun options tree => ?_, ?_, ?_, fun specifier => ?_⟩
  · exact ⟨_, ofTree_eq options tree, (isFilled_source options tree).read_eq⟩
  · intro options options' tree tree' hoptions htree
    rw [← form_outline options tree, hoptions, htree, form_outline]
  · obtain ⟨after, hfilled⟩ := isFilled_declaration
    exact ⟨after, fun name => (hfilled name).read_eq⟩
  · exact (isFilled_routerComponent specifier).read_eq

/-- Texts that look like the end of a literal, like an escape sequence and like another line. -/
theorem texts_stay_in_literals_hostile :
    let options : ModuleOptions := { fallback := some "'; alert('" }
    let tree : RouteTree := [.mk "/a\\" (some "\\u2028\n") (some [.mk "/'\u2029\"" none none])]
    let options' : ModuleOptions := { fallback := some "x" }
    let tree' : RouteTree := [.mk "" (some "y") (some [.mk "" none none])]
    options.outline = options'.outline ∧ RouteTree.outline tree = RouteTree.outline tree'
      ∧ form options tree = form options' tree'
      ∧ ∃ m, ofTree options tree = .ok m
        ∧ (form options tree).read m.source.toList
          = some (["'; alert('", "\\u2028\n", "a\\", "'\u2029\""], []) := by
  intro options tree options' tree'
  have hoptions : options.outline = options'.outline := rfl
  have htree : RouteTree.outline tree = RouteTree.outline tree' := rfl
  obtain ⟨-, hread, hform, -⟩ := texts_stay_in_literals
  exact ⟨hoptions, htree, hform options options' tree tree' hoptions htree, hread options tree⟩

end RoutesModule

end PageRoutes
