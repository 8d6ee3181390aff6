import PageRoutes.Proofs.CompiledTree
import PageRoutes.Proofs.Effects
import PageRoutes.Proofs.EscapedText
import PageRoutes.Proofs.FlatMessages

/-!
# The drawing of a tree

The tree is drawn with guides before each route, and the guides of a route depend on where the
routes above it stand among their siblings. `RouteTree.places` lists where each route is, in the
order of a walk; the line of a route is made of its place alone.

* `mem_places_iff` — the places of a tree, said without listing them.
* `map_visit_places` — a walk through the places is a walk through the tree.
* `Console.drawAll_eq` — the drawing has one line for each place.
* `Session.tree_command_draws` — the command shows the compiled tree.
-/

namespace PageRoutes

/-! ## Places -/

/-- A route among its siblings, with those that stand behind it. -/
structure Standing where
  route : Route
  behind : RouteTree

/-- A place in a tree: the routes on the way down from the top, and the one that is there. -/
structure Place where
  above : List Standing
  here : Standing

/-- The place one level further down, below another route. -/
def Place.under (standing : Standing) (place : Place) : Place :=
  { place with above := standing :: place.above }

/-- What a walk that starts at a depth visits at a place. -/
def Place.visit (depth : Int) (place : Place) : Visit :=
  ⟨depth + place.above.length, place.here.route.path, place.here.route.view⟩

mutual

/-- The places in a route that has siblings behind it, its own first. -/
def Route.places (behind : RouteTree) : Route → List Place
  | .mk path view none => [⟨[], ⟨.mk path view none, behind⟩⟩]
  | .mk path view (some routes) =>
    let standing : Standing := ⟨.mk path view (some routes), behind⟩
    ⟨[], standing⟩ :: (RouteTree.places routes).map (Place.under standing)

/-- The places in a tree, each before those below it. -/
def RouteTree.places : List Route → List Place
  | [] => []
  | route :: routes => route.places routes ++ RouteTree.places routes

end

/-- The standings lead down from a list of siblings: the first is one of them with those behind it,
and each of the others is nested in the one before. -/
def LeadsDown (siblings : RouteTree) : List Standing → Prop
  | [] => True
  | standing :: rest =>
    standing.route :: standing.behind <:+ siblings ∧ LeadsDown standing.route.children rest

/-- The place of a route comes before the places below it. -/
theorem Route.places_eq (behind : RouteTree) (r : Route) :
    r.places behind
      = ⟨[], ⟨r, behind⟩⟩ :: (RouteTree.places r.children).map (Place.under ⟨r, behind⟩) := by
  obtain ⟨path, view, _ | routes⟩ := r <;> rfl

namespace RouteTree

/-- The places at the top. -/
theorem top_mem_places_iff {here : Standing} {t : RouteTree} :
    ⟨[], here⟩ ∈ places t ↔ here.route :: here.behind <:+ t := by
  obtain ⟨route, behind⟩ := here
  induction t with
  | nil => simp [places]
  | cons r t ih =>
    rw [places, List.mem_append, ih, Route.places_eq, List.suffix_cons_iff]
    simp [Place.under]

/-- The places below a route are those in what is nested in it. -/
theorem below_mem_places_iff {standing here : Standing} {above : List Standing} {t : RouteTree} :
    ⟨standing :: above, here⟩ ∈ places t
      ↔ standing.route :: standing.behind <:+ t
        ∧ ⟨above, here⟩ ∈ places standing.route.children := by
  obtain ⟨route, behind⟩ := standing
  induction t with
  | nil => simp [places]
  | cons r t ih =>
    rw [places, List.mem_append, ih, Route.places_eq, List.suffix_cons_iff, or_and_right]
    refine or_congr_left ?_
    simp only [List.mem_cons, List.mem_map, Place.under, Place.mk.injEq, List.cons.injEq,
      Standing.mk.injEq, reduceCtorEq, false_and, false_or]
    constructor
    · rintro ⟨⟨above, here⟩, hmem, ⟨⟨rfl, rfl⟩, rfl⟩, rfl⟩
      exact ⟨⟨rfl, rfl⟩, hmem⟩
    · rintro ⟨⟨rfl, rfl⟩, hmem⟩
      exact ⟨⟨above, here⟩, hmem, ⟨⟨rfl, rfl⟩, rfl⟩, rfl⟩

/-- **The places of a tree**: the routes on the way lead down from the top to the one that is
there. -/
theorem mem_places_iff {place : Place} {t : RouteTree} :
    place ∈ places t ↔ LeadsDown t (place.above ++ [place.here]) := by
  obtain ⟨above, here⟩ := place
  induction above generalizing t with
  | nil => simp [top_mem_places_iff, LeadsDown]
  | cons standing above ih => rw [below_mem_places_iff, ih, List.cons_append, LeadsDown]

end RouteTree

mutual

theorem Route.map_visit_places (behind : RouteTree) (depth : Int) :
    (r : Route) → (r.places behind).map (Place.visit depth) = r.walk depth
  | .mk path view none => by simp [Route.places, Route.walk, Place.visit, Route.path, Route.view]
  | .mk path view (some routes) => by
    have hunder : ∀ standing,
        Place.visit depth ∘ Place.under standing = Place.visit (depth + 1) := by
      intro standing
      funext place
      simp [Place.visit, Place.under]
      omega
    simp only [Route.places, Route.walk, List.map_cons, List.map_map, hunder,
      RouteTree.map_visit_places (depth + 1) routes]
    simp [Place.visit, Route.path, Route.view]

/-- **A walk through the places is a walk through the tree.** -/
theorem RouteTree.map_visit_places (depth : Int) :
    (t : List Route) → (RouteTree.places t).map (Place.visit depth) = RouteTree.walk depth t
  | [] => rfl
  | r :: t => by
    rw [RouteTree.places, List.map_append, Route.map_visit_places, RouteTree.map_visit_places,
      RouteTree.walk]

end

/-! ## Lines -/

/-- The guides of a place, one for each route above it and one of its own. A route that is the last
of its siblings has no line going on beside what is below it. -/
def Place.guides (place : Place) : List String :=
  (place.above.map fun standing => if standing.behind.isEmpty then "    " else "│   ")
    ++ [if place.here.behind.isEmpty then "└── " else "├── "]

/-- The line of a place: its guides, and the label of the route that is there. -/
def Place.line (place : Place) : String :=
  String.join place.guides ++ Console.labelText place.here.route.path place.here.route.view

/-- Below a route stands the guide of the route in front. -/
theorem Place.line_under (standing : Standing) (place : Place) :
    (place.under standing).line = Console.trunk standing.behind.isEmpty ++ place.line := by
  have hguides : (place.under standing).guides
      = Console.trunk standing.behind.isEmpty :: place.guides := rfl
  rw [Place.line, hguides, String.join_cons, String.append_assoc]
  rfl

/-- Every guide takes four columns and has no line feed in it. -/
theorem Place.of_mem_guides {place : Place} {guide : String} (h : guide ∈ place.guides) :
    Text.columns guide.toList = 4 ∧ '\n' ∉ guide.toList := by
  have hall : ∀ guide ∈ ["    ", "│   ", "└── ", "├── "],
      Text.columns guide.toList = 4 ∧ '\n' ∉ guide.toList := by decide +kernel
  refine hall guide ?_
  rw [Place.guides, List.mem_append, List.mem_map, List.mem_singleton] at h
  rcases h with ⟨standing, -, rfl⟩ | rfl
  · split <;> simp
  · split <;> simp

namespace Console

/-- The path and the view of a route can be labels. -/
def IsLabelled (visit : Visit) : Prop :=
  IsLabelText visit.path ∧ ∀ view, visit.view = some view → IsLabelText view

theorem labelLines_eq {path : String} {view : Option String} (hpath : IsLabelText path)
    (hview : ∀ text, view = some text → IsLabelText text) (guides : String) (isLast : Bool) :
    labelLines guides isLast path view = [guides ++ branch isLast ++ labelText path view] := by
  rw [labelLines, linesOf_label hpath hview]
  rfl

mutual

theorem drawRoute_eq (guides : String) (behind : RouteTree) (depth : Int) :
    (r : Route) → (∀ visit ∈ r.walk depth, IsLabelled visit) →
      drawRoute guides behind.isEmpty r
        = (r.places behind).map fun place => guides ++ place.line
  | .mk path view none, h => by
    obtain ⟨hpath, hview⟩ := h ⟨depth, path, view⟩ List.mem_cons_self
    rw [drawRoute, labelLines_eq hpath hview, Route.places, List.map_singleton]
    simp [Place.line, Place.guides, Route.path, Route.view, branch, String.append_assoc]
  | .mk path view (some routes), h => by
    rw [Route.walk, List.forall_mem_cons] at h
    obtain ⟨⟨hpath, hview⟩, hbelow⟩ := h
    rw [drawRoute, labelLines_eq hpath hview, drawAll_eq _ (depth + 1) routes hbelow, Route.places]
    simp only [List.map_cons, List.map_map, List.singleton_append]
    congr 1
    · simp [Place.line, Place.guides, Route.path, Route.view, branch, String.append_assoc]
    · refine List.map_congr_left fun place _ => ?_
      rw [Function.comp_apply, Place.line_under, String.append_assoc]

/-- **The drawing has one line for each place**, in the order of a walk. -/
theorem drawAll_eq (guides : String) (depth : Int) :
    (t : List Route) → (∀ visit ∈ RouteTree.walk depth t, IsLabelled visit) →
      drawAll guides t = (RouteTree.places t).map fun place => guides ++ place.line
  | [], _ => rfl
  | r :: t, h => by
    rw [RouteTree.walk, List.forall_mem_append] at h
    rw [drawAll, drawRoute_eq guides t depth r h.1, drawAll_eq guides depth t h.2,
      RouteTree.places, List.map_append]

end

theorem unlines_append (xs ys : List String) : unlines (xs ++ ys) = unlines xs ++ unlines ys := by
  refine String.toList_injective ?_
  simp [unlines, String.toList_join]

/-- A place of a tree with labels has one line. -/
theorem lineFeed_not_mem_line {t : RouteTree} (h : ∀ visit ∈ RouteTree.walk 0 t, IsLabelled visit)
    {place : Place} (hplace : place ∈ RouteTree.places t) : '\n' ∉ place.line.toList := by
  rw [← RouteTree.map_visit_places, List.forall_mem_map] at h
  obtain ⟨hpath, hview⟩ := h place hplace
  rw [Place.line, String.toList_append, String.toList_join, List.mem_append, List.mem_flatMap]
  rintro (⟨guide, hguide, hmem⟩ | hmem)
  · exact (Place.of_mem_guides hguide).2 hmem
  · exact (isFlat_of_mem_labelText hpath hview hmem).2 rfl

/-- The line that says how many routes there are. -/
def countLine (n : Nat) : String :=
  "  " ++ toString n ++ " routes"

/-- Nothing in that line has a meaning of its own. -/
theorem of_mem_countLine {n : Nat} {c : Char} (h : c ∈ (countLine n).toList) :
    IsFlat c ∧ c ∉ ['\n', '[', '\\', ':'] := by
  have hblanks : ∀ c ∈ "  ".toList, IsFlat c ∧ c ∉ ['\n', '[', '\\', ':'] := by decide
  have hword : ∀ c ∈ " routes".toList, IsFlat c ∧ c ∉ ['\n', '[', '\\', ':'] := by decide
  have hdigits : ∀ d ∈ List.range 10,
      IsFlat (Nat.digitChar d) ∧ Nat.digitChar d ∉ ['\n', '[', '\\', ':'] := by decide
  rw [countLine, String.toList_append, String.toList_append, List.mem_append,
    List.mem_append] at h
  rcases h with (h | h) | h
  · exact hblanks c h
  · obtain ⟨d, hd, rfl⟩ := exists_digitChar_of_mem_toString h
    exact hdigits d (List.mem_range.mpr hd)
  · exact hword c h

theorem linesOf_countLine (n : Nat) :
    linesOf (Markup.styled "dim" (countLine n)) = [countLine n] := by
  have hplain : ∀ c ∈ ['\n', '[', '\\', ':'], c ∉ (countLine n).toList :=
    fun c hc hmem => (of_mem_countLine hmem).2 hc
  have hlabel : IsLabelText (countLine n) := by
    refine isLabelText_of_no_backslash (fun c hc => ⟨(of_mem_countLine hc).1, ?_⟩) ?_
      (hplain _ (by decide))
    · rintro rfl
      exact hplain _ (by decide) hc
    · rw [List.count_eq_zero_of_not_mem (hplain ':' (by decide))]
      omega
  have hescape : Markup.escape (countLine n) = countLine n := by
    refine Markup.escape_eq_self fun c hc => ⟨?_, ?_⟩
    · rintro rfl
      exact hplain _ (by decide) hc
    · rintro rfl
      exact hplain _ (by decide) hc
  have hdim : Markup.IsTag "dim".toList := by decide
  have hline := hlabel.linesOf_styled hdim
  rwa [hescape] at hline

end Console

/-! ## The command -/

/-- The tree that is compiled is drawn, and behind it stands how many routes it has. -/
theorem eval_runTree_drawn {s : Settings} {w : Workspace} {tree : RouteTree}
    (h : (compileTree s w.files).result = .ok tree) :
    (Command.runTree s none false).eval w
      = (.ok (), { w with
          log := w.log ++ (compileTree s w.files).log
          printed := w.printed
            ++ Console.drawTree (Markup.styled "yellow" (Markup.escape s.root.text)) tree
            ++ Console.line (Markup.styled "dim" (Console.countLine (RouteTree.size tree))) }) := by
  have hcompile := Action.eval_ofOutcome (compileTree s w.files) w
  rw [h] at hcompile
  rw [Command.runTree, Command.eval_orGiveUp, Action.eval_bind_of_ok (Action.eval_get w),
    Action.eval_bind_of_ok hcompile]
  rfl

namespace Session

open Console

/--
**The command shows the compiled tree.**

Let there be a compiled tree, and let the path and the view of every route be fit for a label. The
command for the tree then succeeds, and prints the label of the pages root, one line for each place
in the tree, and how many routes there are. The places are those of the tree and come in the order
of a walk through it. The line of a route holds a guide of four columns for each route above it, one
of its own, and behind them its path and its view, if it has one. The pages root is shown on one
line as it is if it is fit for a label itself.
-/
theorem tree_command_draws {session : Session} {tree : RouteTree}
    (h : (compileTree session.settings session.files).result = .ok tree)
    (hlabels : ∀ visit ∈ RouteTree.walk 0 tree, IsLabelled visit) :
    let report := (session.step (.command (.tree none false))).1
    let root := session.settings.root.text
    let title := linesOf (Markup.styled "yellow" (Markup.escape root))
    let places := RouteTree.places tree
    report.result = .ok .done ∧
    report.printed
      = unlines (title ++ places.map Place.line ++ [countLine (RouteTree.size tree)]) ∧
    (IsLabelText root → title = [root]) ∧
    places.map (Place.visit 0) = RouteTree.walk 0 tree ∧
    (∀ place, place ∈ places ↔ LeadsDown tree (place.above ++ [place.here])) ∧
    ∀ place ∈ places, place.guides.length = place.above.length + 1 ∧
      (∀ guide ∈ place.guides, Text.columns guide.toList = 4) ∧ '\n' ∉ place.line.toList := by
  intro report root title places
  have hvisits : places.map (Place.visit 0) = RouteTree.walk 0 tree :=
    RouteTree.map_visit_places 0 tree
  have hlines : drawAll "" tree = places.map Place.line := by
    rw [drawAll_eq "" 0 tree hlabels]
    exact List.map_congr_left fun place _ => String.empty_append
  have hyellow : Markup.IsTag "yellow".toList := by decide
  have heval := eval_runTree_drawn (w := { files := session.files }) h
  obtain ⟨hresult, hprinted, -⟩ := session.step_of_run (.command (.tree none false)) rfl
  refine ⟨?_, ?_, fun hroot => hroot.linesOf_styled hyellow, hvisits,
    fun place => RouteTree.mem_places_iff, fun place hplace => ⟨?_, ?_, ?_⟩⟩
  · show (session.step _).1.result = _
    rw [hresult, Command.run, heval]
    rfl
  · show (session.step _).1.printed = _
    rw [hprinted, Command.run, heval, line, linesOf_countLine, unlines_append (title ++ _),
      ← hlines]
    show "" ++ drawTree _ tree ++ _ = _
    rw [String.empty_append]
    rfl
  · simp [Place.guides]
  · exact fun guide hguide => (Place.of_mem_guides hguide).1
  · exact lineFeed_not_mem_line hlabels hplace

/-- A session with one view file, in a directory below the pages root. -/
def blogSession : Session where
  settings := { Settings.aboutSettings .refuse with
    root := .ofString "p", notFound := some "p/404.tsx" }
  files := {
    cwd := ["w"]
    items := [(["w"], .directory), (["w", "p"], .directory), (["w", "p", "blog"], .directory),
      (["w", "p", "blog", "[slug].tsx"], .file [])]
    distinct := by decide }

/-- Its tree goes on beside what is nested in the directory. -/
theorem tree_command_draws_blog :
    (blogSession.step (.command (.tree none false))).1.result = .ok .done ∧
      (blogSession.step (.command (.tree none false))).1.printed
        = "p\n├── /blog\n│   └── /:slug w/p/blog/[slug].tsx\n└── * p/404.tsx\n  3 routes\n" := by
  have hdirectory : blogSession.settings.RootIsDirectory blogSession.files :=
    ⟨by decide +kernel, by decide +kernel⟩
  have htexts : blogSession.settings.viewTexts blogSession.files = ["/w/p/blog/[slug].tsx"] := by
    decide +kernel
  have hviews : RouteTree.fileViews ["w"] "/w/p" ["tsx", "jsx"] ["/w/p/blog/[slug].tsx"]
      = [⟨["/blog", "/:slug"], "w/p/blog/[slug].tsx"⟩] := by decide +kernel
  have hbuilt : (RouteTree.ofFiles ["w"] { root := "/w/p" } ["/w/p/blog/[slug].tsx"]).result
      = .ok [.mk "/blog" none (some [.mk "/:slug" (some "w/p/blog/[slug].tsx") none])] := by
    have husable : usableExtensions "/w/p" ["tsx", "jsx"] = .ok ["tsx", "jsx"] := by decide
    refine (RouteTree.result_ofFiles_refuse_eq_ok_iff husable).mpr
      ⟨by decide +kernel, by simp, ?_⟩
    rw [hviews]
    rfl
  have htree : (compileTree blogSession.settings blogSession.files).result
      = .ok [.mk "/blog" none (some [.mk "/:slug" (some "w/p/blog/[slug].tsx") none]),
          .mk "*" (some "p/404.tsx") none] := by
    refine (Settings.compileTree_eq_ok_iff hdirectory).mpr
      ⟨[.mk "/blog" none (some [.mk "/:slug" (some "w/p/blog/[slug].tsx") none])], ?_, rfl⟩
    rw [htexts]
    exact hbuilt
  have hlabel : ∀ text ∈ ["p", "/blog", "/:slug", "*", "w/p/blog/[slug].tsx", "p/404.tsx"],
      IsLabelText text := by
    intro text htext
    have hall : ∀ text ∈ ["p", "/blog", "/:slug", "*", "w/p/blog/[slug].tsx", "p/404.tsx"],
        (∀ c ∈ text.toList, IsFlat c ∧ c ≠ '\n') ∧ text.toList.count ':' ≤ 1 ∧
          '\\' ∉ text.toList := by decide +kernel
    obtain ⟨hflat, hcolon, hback⟩ := hall text htext
    exact isLabelText_of_no_backslash hflat hcolon hback
  have hwalk : RouteTree.walk 0 [.mk "/blog" none (some [.mk "/:slug"
        (some "w/p/blog/[slug].tsx") none]), .mk "*" (some "p/404.tsx") none]
      = [⟨0, "/blog", none⟩, ⟨1, "/:slug", some "w/p/blog/[slug].tsx"⟩,
        ⟨0, "*", some "p/404.tsx"⟩] := rfl
  obtain ⟨hresult, hprinted, htitle, -⟩ := tree_command_draws htree fun visit hvisit => by
    rw [hwalk] at hvisit
    simp only [List.mem_cons, List.not_mem_nil, or_false] at hvisit
    rcases hvisit with rfl | rfl | rfl
    · exact ⟨hlabel _ (by simp), nofun⟩
    · exact ⟨hlabel _ (by simp), fun view hview => Option.some.inj hview ▸ hlabel _ (by simp)⟩
    · exact ⟨hlabel _ (by simp), fun view hview => Option.some.inj hview ▸ hlabel _ (by simp)⟩
  refine ⟨hresult, ?_⟩
  have hroot : blogSession.settings.root.text = "p" := by decide
  rw [hprinted, htitle (hroot ▸ hlabel "p" (by simp)), hroot]
  decide +kernel

end Session

end PageRoutes
