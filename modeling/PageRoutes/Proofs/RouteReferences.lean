import Mathlib.Data.List.Nodup
import PageRoutes.Proofs.ModuleReader

/-!
# Bindings and route objects

Each route of a tree has a binding and an object in its module, and the object refers to the
binding by its name. What the objects refer to is read from their text (`RoutesModule.readHeads`).

* **What is skipped.** A head starts with the word `path`, and no `p` stands between the heads
  (`readHeads_skip`).
* **What is read.** A head is read where it stands, with anything behind it (`readHead_append`).
  Its path is a literal, so a text in it that looks like a head is not taken for one.
* `readHeads_text` — from the objects of numbered routes one head is read for each of them, in the
  order of a walk.

Main statement: `ofTree_aligned` — the bindings and the objects of a module belong together one by
one.
-/

namespace PageRoutes.RoutesModule

open Script

/-! ## The pieces of a head -/

/-- The blanks before a line that is indented further than its object. -/
def margin (depth further : Nat) : String :=
  indentation depth ++ String.ofList (List.replicate further ' ')

theorem eq_blank_of_mem_margin {depth further : Nat} {c : Char}
    (h : c ∈ (margin depth further).toList) : c = ' ' := by
  rw [margin, indentation, String.toList_append, String.toList_ofList, String.toList_ofList,
    List.mem_append] at h
  exact h.elim List.eq_of_mem_replicate List.eq_of_mem_replicate

/-- Blanks are skipped before a text that does not start with one. -/
theorem expectIndented_append (text : String) (depth further : Nat)
    (htext : text.toList.headD ' ' ≠ ' ') (rest : List Char) :
    expectIndented text ((margin depth further).toList ++ (text.toList ++ rest)) = some rest := by
  have hmargin : ∀ c ∈ (margin depth further).toList, (c == ' ') = true :=
    fun c hc => beq_iff_eq.mpr (eq_blank_of_mem_margin hc)
  have hstop : (text.toList ++ rest).dropWhile (· == ' ') = text.toList ++ rest := by
    cases hlist : text.toList with
    | nil => rw [hlist] at htext; exact absurd rfl htext
    | cons c cs =>
      rw [hlist] at htext
      exact List.dropWhile_cons_of_neg (by simpa using htext)
  rw [expectIndented, List.dropWhile_append_of_pos hmargin, hstop, expect_append]

/-- The digits of a number are read up to the end of the tag. -/
theorem digits_of_number (number : Nat) (rest : List Char) :
    let script := (toString number).toList ++ (" />\n".toList ++ rest)
    script.takeWhile Char.isDigit = (toString number).toList
      ∧ script.dropWhile Char.isDigit = " />\n".toList ++ rest := by
  intro script
  have hdigit : ∀ c ∈ (toString number).toList, c.isDigit = true := by
    rw [Nat.toString_eq_repr, Nat.toList_repr]
    exact fun c hc => Nat.isDigit_of_mem_toDigits (by decide) (by decide) hc
  refine ⟨?_, ?_⟩
  · show List.takeWhile _ (_ ++ _) = _
    rw [List.takeWhile_append_of_pos hdigit]
    exact List.append_nil _
  · show List.dropWhile _ (_ ++ _) = _
    rw [List.dropWhile_append_of_pos hdigit]
    rfl

/-- An element in the pieces in which it is read. -/
theorem objectElement_eq (options : ModuleOptions) (depth number : Nat) :
    objectElement options depth number ++ elementEnd depth
      = ",\n" ++ margin depth 2 ++ "element: (\n"
        ++ margin depth 4 ++ "<React.Suspense fallback=\x7b" ++ fallbackElement options ++ "\x7d>\n"
        ++ margin depth 6 ++ "<" ++ options.stem ++ toString number ++ " />\n"
        ++ margin depth 4 ++ "</React.Suspense>\n"
        ++ margin depth 2 ++ ")" := by
  refine String.toList_injective ?_
  unfold objectElement elementEnd bindingName margin
  simp only [String.intercalate_cons_cons, String.intercalate_singleton, String.toList_append,
    String.toList_ofList, List.append_assoc]
  rfl

/-- **A head is read where it stands**, whatever is behind it. -/
theorem readHead_append (options : ModuleOptions) (depth number : Nat) (path : String)
    (rest : List Char) :
    readHead options ("path: ".toList ++ ((literal path).toList ++
        ((objectElement options depth number ++ elementEnd depth).toList ++ rest)))
      = some ((path, bindingName options number), rest) := by
  have helement := expectIndented_append "element: (\n" depth 2 (by decide)
  have hopen := expectIndented_append "<React.Suspense fallback=\x7b" depth 4 (by decide)
  have hname := expectIndented_append "<" depth 6 (by decide)
  have hclose := expectIndented_append "</React.Suspense>\n" depth 4 (by decide)
  have hend := expectIndented_append ")" depth 2 (by decide)
  rw [objectElement_eq, readHead]
  simp only [String.toList_append, List.append_assoc, expect_append, readQuoted_literal, helement,
    hopen, hname, hclose, hend, (digits_of_number number _).1, (digits_of_number number _).2,
    String.ofList_toList, Option.bind_eq_bind, Option.bind_some]
  rfl

/-! ## Heads in a script -/

/-- A head starts with a `p`. -/
theorem readHead_cons_of_ne (options : ModuleOptions) {c : Char} (hc : c ≠ 'p')
    (script : List Char) : readHead options (c :: script) = none := by
  have hpath : expect "path: " (c :: script) = none := by
    show List.isPrefixOf? ('p' :: _) (c :: script) = none
    rw [List.isPrefixOf?, if_neg (by simpa using hc.symm)]
  rw [readHead, hpath]
  rfl

/-- No head is read from a text without a `p`. -/
theorem readHeads_skip (options : ModuleOptions) {text : List Char} (htext : 'p' ∉ text)
    (rest : List Char) : readHeads options 0 (text ++ rest) = readHeads options 0 rest := by
  induction text with
  | nil => rfl
  | cons c text ih =>
    have hc : c ≠ 'p' := fun h => htext (h ▸ List.mem_cons_self)
    rw [List.cons_append, readHeads, readHead_cons_of_ne options hc]
    exact ih fun h => htext (List.mem_cons_of_mem c h)

/-- What belongs to a head that was read is passed over. -/
theorem readHeads_length (options : ModuleOptions) (text rest : List Char) :
    readHeads options text.length (text ++ rest) = readHeads options 0 rest := by
  induction text with
  | nil => rfl
  | cons c text ih => rw [List.cons_append, List.length_cons, readHeads, ih]

/-- The search goes on behind a head that was read. -/
theorem readHeads_of_readHead (options : ModuleOptions) {head : String × String}
    {text rest : List Char} (hne : text ≠ [])
    (hread : readHead options (text ++ rest) = some (head, rest)) :
    readHeads options 0 (text ++ rest) = head :: readHeads options 0 rest := by
  obtain ⟨c, text, rfl⟩ := List.exists_cons_of_ne_nil hne
  rw [List.cons_append] at hread ⊢
  rw [readHeads, hread]
  show head :: readHeads options ((text ++ rest).length - rest.length) (text ++ rest) = _
  rw [List.length_append, Nat.add_sub_cancel, readHeads_length]

/-! ## The heads of a tree -/

/-- What numbered routes say in the heads of their objects. -/
def heads (options : ModuleOptions) (routes : List (Visit × Nat)) : List (String × String) :=
  routes.map fun (visit, number) => (objectPath visit.path, options.stem ++ toString number)

theorem objectHead_eq (depth : Nat) :
    objectHead depth = indentation depth ++ "\x7b\n" ++ margin depth 2 ++ "path: " := by
  refine String.toList_injective ?_
  unfold objectHead margin
  simp only [String.intercalate_cons_cons, String.intercalate_singleton, String.toList_append,
    String.toList_ofList, List.append_assoc]
  rfl

theorem not_mem_indentation (depth : Nat) : 'p' ∉ (indentation depth).toList := by
  rw [indentation, String.toList_ofList]
  exact fun h => absurd (List.eq_of_mem_replicate h) (by decide)

theorem not_mem_objectStart (depth : Nat) :
    'p' ∉ (indentation depth ++ "\x7b\n" ++ margin depth 2).toList := by
  simp [margin, not_mem_indentation]

theorem not_mem_objectEnd (depth : Nat) : 'p' ∉ (objectEnd depth).toList := by
  simp [objectEnd, not_mem_indentation]

theorem not_mem_childrenHead (depth : Nat) : 'p' ∉ (childrenHead depth).toList := by
  simp [childrenHead, not_mem_indentation]

theorem not_mem_childrenEnd (depth : Nat) : 'p' ∉ (childrenEnd depth).toList := by
  simp [childrenEnd, not_mem_indentation]

/-- The head of an object is found at its start. -/
theorem readHeads_objectStart (options : ModuleOptions) (depth number : Nat) (path : String)
    (rest : List Char) :
    readHeads options 0 ((objectHead depth ++ literal path ++ objectElement options depth number
        ++ elementEnd depth).toList ++ rest)
      = (path, bindingName options number) :: readHeads options 0 rest := by
  have hread := readHead_append options depth number path rest
  have hne : "path: ".toList ++ ((literal path).toList
      ++ (objectElement options depth number ++ elementEnd depth).toList) ≠ [] :=
    List.append_ne_nil_of_left_ne_nil (by decide) _
  have hstart : (objectHead depth ++ literal path ++ objectElement options depth number
        ++ elementEnd depth).toList ++ rest
      = (indentation depth ++ "\x7b\n" ++ margin depth 2).toList ++ (("path: ".toList ++
          ((literal path).toList ++
            (objectElement options depth number ++ elementEnd depth).toList)) ++ rest) := by
    rw [objectHead_eq]
    simp only [String.toList_append, List.append_assoc]
  rw [hstart, readHeads_skip options (not_mem_objectStart depth)]
  exact readHeads_of_readHead options hne (by simpa only [List.append_assoc] using hread)

mutual

/-- **One head is read from the object of a route**, and then those of the objects nested in
it. -/
theorem readHeads_text (options : ModuleOptions) (depth : Nat) (walkDepth : Int)
    (rest : List Char) :
    (route : NumberedRoute) →
      readHeads options 0 ((route.text options depth).toList ++ rest)
        = heads options (route.walk walkDepth) ++ readHeads options 0 rest
  | .mk number path view [] => by
    rw [text_eq_object, NumberedRoute.texts, String.intercalate_nil, object_eq, if_pos rfl,
      String.toList_append, List.append_assoc, readHeads_objectStart,
      readHeads_skip options (not_mem_objectEnd depth)]
    rfl
  | .mk number path view (child :: children) => by
    have hne := intercalate_texts_ne_empty options (depth + 1) child children
    have ih := readHeads_texts options (depth + 1) (walkDepth + 1)
      ((childrenEnd depth).toList ++ rest) (child :: children)
    rw [text_eq_object, object_eq, if_neg hne, String.toList_append, List.append_assoc,
      readHeads_objectStart]
    simp only [String.toList_append, List.append_assoc]
    rw [readHeads_skip options (not_mem_childrenHead depth), ih,
      readHeads_skip options (not_mem_childrenEnd depth)]
    rfl

/-- The heads of siblings are read one after the other. -/
theorem readHeads_texts (options : ModuleOptions) (depth : Nat) (walkDepth : Int)
    (rest : List Char) :
    (routes : List NumberedRoute) →
      readHeads options 0
          ((",\n".intercalate (NumberedRoute.texts options depth routes)).toList ++ rest)
        = heads options (NumberedRoute.walkAll walkDepth routes) ++ readHeads options 0 rest
  | [] => rfl
  | [route] => by
    have ih := readHeads_text options depth walkDepth rest route
    rw [NumberedRoute.walkAll, NumberedRoute.walkAll, List.append_nil, NumberedRoute.texts,
      NumberedRoute.texts, String.intercalate_singleton]
    exact ih
  | route :: next :: routes => by
    have hcomma : 'p' ∉ ",\n".toList := by decide
    have ih := readHeads_texts options depth walkDepth rest (next :: routes)
    have ih' := readHeads_text options depth walkDepth (",\n".toList ++ ((",\n".intercalate
      (NumberedRoute.texts options depth (next :: routes))).toList ++ rest)) route
    rw [NumberedRoute.texts] at ih ih'
    rw [NumberedRoute.walkAll, NumberedRoute.texts, NumberedRoute.texts,
      String.intercalate_cons_cons, heads, List.map_append]
    simp only [String.toList_append, List.append_assoc]
    rw [ih', readHeads_skip options hcomma, ih]
    rfl

end

/-! ## Names -/

theorem bindingName_injective {options : ModuleOptions} {m n : Nat}
    (h : bindingName options m = bindingName options n) : m = n := by
  have hdigits : Nat.toDigits 10 m = Nat.toDigits 10 n := by
    have hl := congrArg String.toList h
    simpa only [bindingName, String.toList_append, List.append_cancel_left_eq,
      Nat.toString_eq_repr, Nat.toList_repr] using hl
  rw [← Nat.ofDigitChars_ten_toDigits (n := m), hdigits, Nat.ofDigitChars_ten_toDigits]

/-- The names of bindings end in a digit. -/
theorem bindingName_ne {options : ModuleOptions} {n : Nat} {name : String} {c : Char}
    (hlast : name.toList.getLast? = some c) (hc : c.isDigit = false) :
    bindingName options n ≠ name := by
  rintro rfl
  obtain ⟨d, hd⟩ : ∃ d, (Nat.toDigits 10 n).getLast? = some d :=
    ⟨_, List.getLast?_eq_some_getLast Nat.toDigits_ne_nil⟩
  rw [bindingName, String.toList_append, Nat.toString_eq_repr, Nat.toList_repr,
    List.getLast?_append, hd, Option.some_or, Option.some.injEq] at hlast
  subst hlast
  have hdigit := Nat.isDigit_of_mem_toDigits (by decide) (by decide) (List.mem_of_getLast? hd)
  rw [hc] at hdigit
  exact Bool.false_ne_true hdigit

/-- The names of the bindings of a tree, in their order. -/
def names (options : ModuleOptions) (tree : RouteTree) : List String :=
  (List.range (RouteTree.size tree)).map (bindingName options)

theorem nodup_names (options : ModuleOptions) (tree : RouteTree) : (names options tree).Nodup := by
  have hinj : Function.Injective (bindingName options) := fun _ _ => bindingName_injective
  exact List.nodup_range.map hinj

theorem map_snd_heads (options : ModuleOptions) (tree : RouteTree) :
    (heads options (RouteTree.walk 0 tree).zipIdx).map Prod.snd = names options tree := by
  rw [names, heads, ← RouteTree.length_walk 0 tree, List.range_eq_range', ← List.zipIdx_map_snd 0,
    List.map_map, List.map_map]
  rfl

/--
**Bindings and route objects belong together.**

Every tree has a module. It has one binding for each route, and the binding with the number `i`
loads the view of the `i`-th route of a walk, or is a fragment where there is none. The text of the
routes is the text of the numbered routes, whose numbers are their places in the walk.

So one head for each route is read from that text, in the order of the walk: the `i`-th of them has
the path of the `i`-th route and the name of the `i`-th binding. The names of the bindings are
distinct, each is read from one object, and none of them is a name that is imported.
-/
theorem ofTree_aligned (options : ModuleOptions) (tree : RouteTree) :
    let visits := RouteTree.walk 0 tree
    let numbered := RouteTree.numbered 0 tree
    let names := (List.range (RouteTree.size tree)).map fun i => options.stem ++ toString i
    ∃ m, ofTree options tree = .ok m
      ∧ m.bindings.length = RouteTree.size tree
      ∧ (∀ (i : Nat) (visit : Visit), visits[i]? = some visit →
          m.bindings[i]? = some ("const " ++ (options.stem ++ toString i) ++ " = React." ++
            match visit.view with
            | some view => "lazy(() => import(" ++ Script.literal view ++ "));"
            | none => "Fragment;"))
      ∧ m.routes = ",\n".intercalate (NumberedRoute.texts options 0 numbered)
      ∧ NumberedRoute.walkAll 0 numbered = visits.zipIdx
      ∧ readHeads options 0 m.routes.toList
          = visits.zipIdx.map (fun (visit, i) =>
              (objectPath visit.path, options.stem ++ toString i))
      ∧ names.Nodup
      ∧ (∀ name ∈ names, ((readHeads options 0 m.routes.toList).map Prod.snd).count name = 1)
      ∧ ∀ name ∈ names, name ≠ "React" ∧ name ≠ "FileRouteFallback" := by
  intro visits numbered names
  have hwalk : NumberedRoute.walkAll 0 numbered = visits.zipIdx := RouteTree.walk_numbered 0 0 tree
  have hheads : readHeads options 0
        (",\n".intercalate (NumberedRoute.texts options 0 numbered)).toList
      = heads options visits.zipIdx := by
    have hread := readHeads_texts options 0 0 [] numbered
    rwa [List.append_nil, readHeads, List.append_nil, hwalk] at hread
  refine ⟨_, ofTree_eq options tree, ?_, ?_, rfl, hwalk, hheads, ?_, ?_, ?_⟩
  · rw [length_declarations, RouteTree.length_walk]
  · intro i visit hvisit
    rw [declarations, List.getElem?_map, List.getElem?_zipIdx, hvisit]
    show some (binding (bindingName options (0 + i)) visit.view) = _
    rw [Nat.zero_add, binding_eq]
    cases visit.view <;> rfl
  · exact nodup_names options tree
  · intro name hname
    rw [hheads, map_snd_heads]
    exact List.count_eq_one_of_mem (nodup_names options tree) hname
  · intro name hname
    obtain ⟨i, -, rfl⟩ := List.mem_map.mp hname
    exact ⟨bindingName_ne (c := 't') (by decide) (by decide),
      bindingName_ne (c := 'k') (by decide) (by decide)⟩

/-- A path that looks like the start of a head is read as a path. -/
example :
    (ofTree {} [.mk "/path: 'x'" none none]).toOption.map (fun m => readHeads {} 0 m.routes.toList)
      = some [("path: 'x'", "FileRoute0")] := by
  decide +kernel

end PageRoutes.RoutesModule
