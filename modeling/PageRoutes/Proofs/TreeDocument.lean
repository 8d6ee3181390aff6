import PageRoutes.Proofs.JsonDocument
import PageRoutes.Proofs.QuietActions
import PageRoutes.Route.Reader

/-!
# The export of a route tree loses nothing

The document of a route tree is read back as the pruned tree.

* `Route.sorted_toJson` — the members of a route as they stand in a document.
* `Route.ofJson?_sorted` — a route is rebuilt from them as it is after pruning.
* `Route.toJson_prune` — pruning changes no document.
* `Session.exported_of_shown` — an export writes the document that is shown.
* `export_loses_nothing` — what a document is read as, when two of them are the same, and that the
  one shown is the one exported.
-/

namespace PageRoutes

open Text Encoding FileSystem

/-! ## The members of a route -/

namespace Route

/-- The member with the nested routes, which is there if there are any. -/
def nestedMember : List Route → List (String × Json)
  | [] => []
  | route :: routes =>
    [("children", .list (Json.sortedItems (RouteTree.toJsonList (route :: routes))))]

/-- The member with the view, which is there if there is one. -/
def viewMember : Option String → List (String × Json)
  | none => []
  | some view => [("importPath", .text view)]

/-- **The members of a route as they stand in a document**, in the order of their names. -/
theorem sorted_toJson (r : Route) :
    r.toJson.sorted
      = .object (nestedMember r.children ++ (viewMember r.view ++ [("path", .text r.path)])) := by
  have hview : ¬("importPath" : String) ≤ "children" := by decide
  have hpath : ¬("path" : String) ≤ "importPath" := by decide
  have hpath' : ¬("path" : String) ≤ "children" := by decide
  obtain ⟨path, _ | view, _ | _ | ⟨route, routes⟩⟩ := r <;>
    simp [toJson, children, Route.view, Route.path, nestedMember, viewMember, Json.sorted,
      Json.sortedMembers, Json.insertMember, RouteTree.toJsonList, *]

/-! ## Reading a route -/

/-- A route is rebuilt from its members if the nested routes are. -/
theorem ofJson?_members {path : String} {view : Option String} {routes nested : List Route}
    (h : RouteTree.ofItems? (Json.sortedItems (RouteTree.toJsonList routes)) = some nested) :
    ofJson? (.object (nestedMember routes ++ (viewMember view ++ [("path", .text path)])))
      = some (.mk path view (if routes = [] then none else some nested)) := by
  cases routes <;> cases view <;>
    simp [ofJson?, nestedMember, viewMember, Json.text?, Json.optionalText?, Json.field?, nestedOf?,
      h]

end Route

theorem RouteTree.ofList?_prune (t : List Route) :
    RouteTree.ofList? (RouteTree.prune t) = if t = [] then none else some (RouteTree.prune t) := by
  cases t <;> simp [RouteTree.prune, RouteTree.ofList?]

mutual

/-- **A route is rebuilt from its document as it is after pruning.** -/
theorem Route.ofJson?_sorted : (r : Route) → Route.ofJson? r.toJson.sorted = some r.prune
  | .mk path view none => by
    rw [Route.sorted_toJson]
    exact Route.ofJson?_members rfl
  | .mk path view (some routes) => by
    rw [Route.sorted_toJson, Route.prune, RouteTree.ofList?_prune]
    exact Route.ofJson?_members (RouteTree.ofItems?_sorted routes)

/-- The same for sibling routes, whose order stays. -/
theorem RouteTree.ofItems?_sorted : (t : List Route) →
    RouteTree.ofItems? (Json.sortedItems (RouteTree.toJsonList t)) = some (RouteTree.prune t)
  | [] => rfl
  | r :: t => by
    rw [RouteTree.toJsonList, Json.sortedItems, RouteTree.ofItems?, Route.ofJson?_sorted r,
      RouteTree.ofItems?_sorted t]
    rfl

end

mutual

/-- Pruning a route changes no document. -/
theorem Route.toJson_prune : (r : Route) → r.prune.toJson = r.toJson
  | .mk _ _ none => rfl
  | .mk _ _ (some []) => rfl
  | .mk path view (some (r :: t)) => by
    simp [Route.prune, RouteTree.prune, RouteTree.ofList?, Route.toJson, Route.toJson_prune r,
      RouteTree.toJsonList_prune t]

theorem RouteTree.toJsonList_prune : (t : List Route) →
    RouteTree.toJsonList (RouteTree.prune t) = RouteTree.toJsonList t
  | [] => rfl
  | r :: t => by
    rw [RouteTree.prune, RouteTree.toJsonList, RouteTree.toJsonList, Route.toJson_prune r,
      RouteTree.toJsonList_prune t]

end

mutual

/-- No object of an export has two members of one name, and no number is in it. -/
theorem Route.isExact_toJson : (r : Route) → r.toJson.IsExact
  | .mk path view none => by
    cases view <;> simp [Route.toJson, Json.IsExact, Json.MembersExact]
  | .mk path view (some []) => by
    cases view <;> simp [Route.toJson, Json.IsExact, Json.MembersExact]
  | .mk path view (some (r :: t)) => by
    cases view <;>
      simp [Route.toJson, Json.IsExact, Json.MembersExact, Json.AllExact, Route.isExact_toJson r,
        RouteTree.allExact_toJsonList t]

theorem RouteTree.allExact_toJsonList : (t : List Route) →
    Json.AllExact (RouteTree.toJsonList t)
  | [] => trivial
  | r :: t => ⟨Route.isExact_toJson r, RouteTree.allExact_toJsonList t⟩

end

namespace RouteTree

theorem isExact_toJson (tree : RouteTree) : (toJson tree).IsExact :=
  ⟨List.nodup_singleton _, allExact_toJsonList tree, trivial⟩

/-- **A tree is rebuilt from its document as it is after pruning.** -/
theorem ofJson?_sorted (tree : RouteTree) : ofJson? (toJson tree).sorted = some (prune tree) :=
  ofItems?_sorted tree

/-- An empty view is kept, and so is the order of the routes; an empty list is not. -/
example :
    ofJson? (toJson [.mk "/b" (some "") (some []), .mk "/a" none (some [.mk "/" none none])]).sorted
      = some [.mk "/b" (some "") none, .mk "/a" none (some [.mk "/" none none])] := rfl

/-- Pruning a tree changes no document. -/
theorem toJson_prune (tree : RouteTree) : toJson (prune tree) = toJson tree := by
  rw [toJson, toJson, toJsonList_prune]

/-- The bytes of a document are read as the pruned tree, whatever the indentation. -/
theorem ofJson?_read?_encode (indent : Int) (tree : RouteTree) :
    ((decode? utf8 (utf8Bytes (Json.encode indent (toJson tree)))).bind Json.read?).bind ofJson?
      = some (prune tree) := by
  rw [decode?_utf8Bytes, Option.bind_some, Json.read?_encode indent (isExact_toJson tree),
    Option.bind_some, ofJson?_sorted]

/-- **Two trees have the same document just if they are the same after pruning.** -/
theorem encode_eq_iff (indent : Int) (tree other : RouteTree) :
    Json.encode indent (toJson tree) = Json.encode indent (toJson other)
      ↔ prune tree = prune other := by
  constructor
  · intro h
    have hread := ofJson?_read?_encode indent tree
    rw [h, ofJson?_read?_encode, Option.some.injEq] at hread
    exact hread.symm
  · intro h
    rw [← toJson_prune tree, h, toJson_prune]

end RouteTree

/-! ## The document that is shown and the one that is exported -/

/-- A document ends in a line feed already. -/
theorem withLineFeed_encode (indent : Int) (value : Json) :
    withLineFeed (utf8Bytes (Json.encode indent value)) = utf8Bytes (Json.encode indent value) := by
  refine withLineFeed_utf8Bytes ?_
  rw [Json.encode, String.toList_ofList]
  exact List.getLast?_concat

section

variable {s : Settings} {w : Workspace} {tree : RouteTree} {e : Failure}

/-- The document of a tree that is compiled is shown as it is. -/
theorem eval_runTree_of_ok (h : (compileTree s w.files).result = .ok tree) :
    (Command.runTree s none true).eval w
      = (.ok (), { w with log := w.log ++ (compileTree s w.files).log
                          printed := w.printed ++ treeText tree }) := by
  have hcompile := Action.eval_ofOutcome (compileTree s w.files) w
  rw [h] at hcompile
  rw [Command.runTree, Command.eval_orGiveUp, Action.eval_bind_of_ok (Action.eval_get w),
    Action.eval_bind_of_ok hcompile]
  rfl

theorem eval_runTree_of_error (h : (compileTree s w.files).result = .error e) :
    ((Command.runTree s none true).eval w).1 = .error (Command.givenUp none e) := by
  have hcompile := Action.eval_ofOutcome (compileTree s w.files) w
  rw [h] at hcompile
  rw [Command.runTree, Command.eval_orGiveUp, Action.eval_bind_of_ok (Action.eval_get w),
    Action.eval_bind_of_error hcompile]
  rfl

/-- The document of a tree that is compiled is what an export writes. -/
theorem eval_exportTree_of_ok (h : (compileTree s w.files).result = .ok tree) (path : Path) :
    (exportTree s path).eval w
      = (writeIfChanged path (utf8Bytes (treeText tree))).eval
          { w with log := w.log ++ (compileTree s w.files).log } := by
  have hcompile := Action.eval_ofOutcome (compileTree s w.files) w
  rw [h] at hcompile
  rw [exportTree, Action.eval_bind_of_ok (Action.eval_get w), Action.eval_bind_of_ok hcompile,
    writeTextIfChanged_eq]

theorem eval_exportTree_of_error (h : (compileTree s w.files).result = .error e) (path : Path) :
    (exportTree s path).eval w
      = (.error e, { w with log := w.log ++ (compileTree s w.files).log }) := by
  have hcompile := Action.eval_ofOutcome (compileTree s w.files) w
  rw [h] at hcompile
  rw [exportTree, Action.eval_bind_of_ok (Action.eval_get w), Action.eval_bind_of_error hcompile]

end

namespace Session

variable {session : Session} {tree : RouteTree} {e : Failure} {path : Path}

/-- The report on the document of the tree. -/
def shown (session : Session) : Report Result :=
  (session.step (.command (.tree none true))).1

theorem shown_of_ok (h : (compileTree session.settings session.files).result = .ok tree) :
    session.shown.result = .ok .done ∧ session.shown.printed = treeText tree := by
  have heval := eval_runTree_of_ok (w := { files := session.files }) h
  obtain ⟨hresult, hprinted, -⟩ := session.step_of_run (.command (.tree none true)) rfl
  rw [shown, hresult, hprinted, Command.run, heval]
  exact ⟨rfl, String.empty_append⟩

theorem exported_eq (session : Session) (path : Path) :
    (session.step (.exportTree path)).1.result
      = ((exportTree session.settings path).on session.files).1.map .changed :=
  (session.step_of_run (.exportTree path) rfl).1

/-- No document is shown of a tree that does not compile. -/
theorem shown_of_error (h : (compileTree session.settings session.files).result = .error e) :
    session.shown.result = .error (Command.givenUp none e) := by
  have heval := @eval_runTree_of_error _ { files := session.files } _ h
  obtain ⟨hresult, -⟩ := session.step_of_run (.command (.tree none true)) rfl
  rw [shown, hresult, Command.run, heval]
  rfl

/-- **Where a document is shown, an export writes it**: the file is brought up to date with it, and
the answer is whether that changed the file. -/
theorem exported_of_shown (h : session.shown.result = .ok .done) (path : Path) :
    let written := (writeIfChanged path (utf8Bytes session.shown.printed)).on session.files
    (session.step (.exportTree path)).1.result = written.1.map .changed ∧
      (session.step (.exportTree path)).2.files = written.2 := by
  intro written
  cases hcompile : (compileTree session.settings session.files).result with
  | error e => cases (shown_of_error hcompile).symm.trans h
  | ok tree =>
    obtain ⟨-, hprinted⟩ := shown_of_ok hcompile
    obtain ⟨hresult, -, hfiles⟩ := session.step_of_run (.exportTree path) rfl
    rw [eval_exportTree_of_ok (w := { files := session.files }) hcompile, ← hprinted]
      at hresult hfiles
    -- The log of the compilation is there before the file is looked at, but makes no difference.
    obtain ⟨hsame, hfiles'⟩ := (quiet_writeIfChanged path (utf8Bytes session.shown.printed)).congr
      { files := session.files, log := [] ++ (compileTree session.settings session.files).log }
      { files := session.files } rfl
    exact ⟨hresult.trans (congrArg _ hsame), hfiles.trans hfiles'⟩

/-- An export that succeeds leaves the document of the tree in its file. -/
theorem exported_of_ok {r : Result}
    (h : (compileTree session.settings session.files).result = .ok tree)
    (hr : (session.step (.exportTree path)).1.result = .ok r) :
    (session.step (.exportTree path)).2.files.Holds path (utf8Bytes (treeText tree)) := by
  obtain ⟨hresult, -, hfiles⟩ := session.step_of_run (.exportTree path) rfl
  rw [eval_exportTree_of_ok (w := { files := session.files }) h] at hresult hfiles
  rw [hr] at hresult
  rw [hfiles]
  generalize hrun : (writeIfChanged path (utf8Bytes (treeText tree))).eval _ = run at hresult ⊢
  obtain ⟨_ | changed, w'⟩ := run
  · cases hresult
  · rw [treeText, ← withLineFeed_encode]
    exact (writeIfChanged_eq_ok hrun).1

theorem exported_of_error (h : (compileTree session.settings session.files).result = .error e)
    (path : Path) :
    (session.step (.exportTree path)).1.result = .error e ∧
      (session.step (.exportTree path)).2.files = session.files := by
  obtain ⟨hresult, -, hfiles⟩ := session.step_of_run (.exportTree path) rfl
  rw [hresult, hfiles, eval_exportTree_of_error (w := { files := session.files }) h]
  exact ⟨rfl, rfl⟩

/-- **The document that is shown is the one that is exported.** Where none can be shown none is
exported, and no file changes. -/
theorem shown_eq_exported (session : Session) (path : Path) :
    let exported := session.step (.exportTree path)
    (session.shown.result = .ok .done →
      let written := (writeIfChanged path (utf8Bytes session.shown.printed)).on session.files
      exported.1.result = written.1.map .changed ∧ exported.2.files = written.2) ∧
    (∀ r, exported.1.result = .ok r →
      session.shown.result = .ok .done ∧
        exported.2.files.Holds path (utf8Bytes session.shown.printed)) ∧
    ∀ e, session.shown.result = .error e →
      (∃ e', exported.1.result = .error e') ∧ exported.2.files = session.files := by
  intro exported
  refine ⟨fun h => exported_of_shown h path, ?_⟩
  cases hcompile : (compileTree session.settings session.files).result with
  | error e =>
    obtain ⟨hresult, hfiles⟩ := exported_of_error hcompile path
    refine ⟨fun r hr => ?_, fun e' _ => ⟨⟨e, hresult⟩, hfiles⟩⟩
    rw [hresult] at hr
    cases hr
  | ok tree =>
    obtain ⟨hresult, hprinted⟩ := shown_of_ok hcompile
    refine ⟨fun r hr => ⟨hresult, ?_⟩, fun e he => ?_⟩
    · rw [hprinted]
      exact exported_of_ok hcompile hr
    · rw [hresult] at he
      cases he

end Session

/-- An indentation of 64 bits is always answered by a document. -/
theorem Json.document_of_isIndentation {indent : Int} (h : isIndentation indent = true)
    (value : Json) : document (some indent) value = .ok (encode indent value) := by
  show (if isIndentation indent = true then _ else _) = _
  rw [if_pos h]
  rfl

/-- In a document the view and the nested routes are left out just if there are none. -/
theorem Route.field?_sorted (r : Route) :
    r.toJson.sorted.field? "importPath" = r.view.map Json.text ∧
      (r.toJson.sorted.field? "children" = none ↔ r.children = []) := by
  rw [Route.sorted_toJson]
  cases r.children <;> cases r.view <;>
    simp [Json.field?, Route.nestedMember, Route.viewMember]

/--
**The export of a route tree loses nothing.**

Whatever the indentation, the bytes of a document are read as the pruned tree, and two trees have
the same document just if they are the same after pruning. The view and the nested routes of a route
are left out of it just if there are none. The document that a command shows is the one that an
export brings its file up to date with, and leaves there; where none can be shown none is exported.
-/
theorem export_loses_nothing :
    (∀ (indent : Int) (tree : RouteTree),
      ((decode? utf8 (utf8Bytes (Json.encode indent (RouteTree.toJson tree)))).bind
          Json.read?).bind RouteTree.ofJson? = some (RouteTree.prune tree) ∧
        (Json.isIndentation indent = true →
          Json.document (some indent) (RouteTree.toJson tree)
            = .ok (Json.encode indent (RouteTree.toJson tree)))) ∧
    (∀ r : Route,
      r.toJson.sorted.field? "importPath" = r.view.map Json.text ∧
        (r.toJson.sorted.field? "children" = none ↔ r.children = [])) ∧
    (∀ (indent : Int) (tree other : RouteTree),
      Json.encode indent (RouteTree.toJson tree) = Json.encode indent (RouteTree.toJson other)
        ↔ RouteTree.prune tree = RouteTree.prune other) ∧
    ∀ (session : Session) (path : Path),
      let shown := (session.step (.command (.tree none true))).1
      let exported := session.step (.exportTree path)
      (shown.result = .ok .done →
        let written := (writeIfChanged path (utf8Bytes shown.printed)).on session.files
        exported.1.result = written.1.map .changed ∧ exported.2.files = written.2) ∧
      (∀ r, exported.1.result = .ok r →
        shown.result = .ok .done ∧ exported.2.files.Holds path (utf8Bytes shown.printed)) ∧
      ∀ e, shown.result = .error e →
        (∃ e', exported.1.result = .error e') ∧ exported.2.files = session.files := by
  refine ⟨fun indent tree => ⟨?_, fun hindent => ?_⟩, Route.field?_sorted, RouteTree.encode_eq_iff,
    Session.shown_eq_exported⟩
  · exact RouteTree.ofJson?_read?_encode indent tree
  · exact Json.document_of_isIndentation hindent _

namespace Session

/-- A project with one page in a directory of its own. -/
def nestedPage : Session where
  settings := {
      root := .ofString "p", extensions := ["tsx"], exclude := []
      notFound := none, fallback := none, output := none, declarations := none, router := none
      moduleName := none, stem := none, onDuplicate := .refuse, generateOnStart := none }
  files := {
      cwd := ["w"]
      items := [(["w"], .directory), (["w", "p"], .directory), (["w", "p", "docs"], .directory),
        (["w", "p", "docs", "[page].tsx"], .file [])]
      distinct := by decide }

/-- The same project without the directory of its pages. -/
def lostPages : Session :=
  { nestedPage with settings := { nestedPage.settings with root := .ofString "q" } }

/-- The tree is exported into a new file as it is shown. Where the pages are looked for in vain
nothing is shown, and no file is made. -/
theorem export_loses_nothing_nestedPage :
    (Json.isIndentation 2 = true ∧ Json.document (some 2) (RouteTree.toJson [])
      = .ok (Json.encode 2 (RouteTree.toJson []))) ∧
    ((nestedPage.step (.exportTree (.ofString "routes.json"))).1.result = .ok (.changed true) ∧
      nestedPage.shown.result = .ok .done ∧
      (nestedPage.step (.exportTree (.ofString "routes.json"))).1.result
        = ((writeIfChanged (.ofString "routes.json") (utf8Bytes nestedPage.shown.printed)).on
            nestedPage.files).1.map .changed ∧
      (nestedPage.step (.exportTree (.ofString "routes.json"))).2.files.Holds
        (.ofString "routes.json") (utf8Bytes nestedPage.shown.printed)) ∧
    lostPages.shown.result = .error (.command
        (RouteError.invalidOptions (.missingDirectory ["w", "q"])).message) ∧
      (lostPages.step (.exportTree (.ofString "routes.json"))).2.files = lostPages.files := by
  have hwritten : ((exportTree nestedPage.settings (.ofString "routes.json")).on
      nestedPage.files).1 = .ok true := by
    unfold exportTree
    simp only [writeTextIfChanged_eq]
    decide +kernel
  have hexported := nestedPage.exported_eq (.ofString "routes.json")
  rw [hwritten] at hexported
  have hindent : Json.isIndentation 2 = true := by decide
  have hlost : lostPages.shown.result = .error (.command
      (RouteError.invalidOptions (.missingDirectory ["w", "q"])).message) := rfl
  obtain ⟨hdocument, -, -, hsession⟩ := export_loses_nothing
  obtain ⟨hshown, hholds, -⟩ := hsession nestedPage (.ofString "routes.json")
  obtain ⟨hdone, hbytes⟩ := hholds _ hexported
  obtain ⟨-, -, hnone⟩ := hsession lostPages (.ofString "routes.json")
  exact ⟨⟨hindent, (hdocument 2 []).2 hindent⟩,
    ⟨hexported, hdone, (hshown hdone).1, hbytes⟩, hlost, (hnone _ hlost).2⟩

end Session

end PageRoutes
