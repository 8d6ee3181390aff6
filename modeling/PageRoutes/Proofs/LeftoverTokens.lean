import PageRoutes.Proofs.NestedPaths
import PageRoutes.Proofs.SegmentTokens

/-!
# Tokens that are left over

A name may hold opening brackets, and they stay in the colon form of a segment. If a closing bracket
stands behind the token, the two are a token again, and nothing rewrites it.

* `hasToken_text_iff` — when the colon form of a text holds a token, by the parts of the text.
* `colonSegment_leaves_token_iff` — when a segment of a route does, when the colon form of the
  segment is another one, and when a tree of view files has such a path.
-/

namespace PageRoutes

open Text Route

namespace Route

section

variable {c : Char} {cs xs ys name : List Char}

/-- A token of two texts in a row begins in one of them. -/
theorem hasToken_append_iff :
    HasToken (xs ++ ys) ↔ (∃ u v, xs = u ++ '[' :: v ∧ BeginsToken (v ++ ys)) ∨ HasToken ys := by
  rw [hasToken_iff_beginsToken, hasToken_iff_beginsToken]
  constructor
  · rintro ⟨u, v, heq, hbegins⟩
    rcases List.append_eq_append_iff.mp heq with ⟨as, -, hys⟩ | ⟨bs, hxs, hrest⟩
    · exact .inr ⟨as, v, hys, hbegins⟩
    · cases bs with
      | nil => exact .inr ⟨[], v, hrest.symm, hbegins⟩
      | cons b bs =>
        obtain ⟨rfl, rfl⟩ := List.cons.inj hrest
        exact .inl ⟨u, bs, hxs, hbegins⟩
  · rintro (⟨u, v, rfl, hbegins⟩ | ⟨u, v, rfl, hbegins⟩)
    · exact ⟨u, v ++ ys, by simp, hbegins⟩
    · exact ⟨xs ++ u, v, by simp, hbegins⟩

theorem hasToken_cons_of_ne (hc : c ≠ '[') : HasToken (c :: cs) ↔ HasToken cs := by
  rw [hasToken_iff_not_isEnd, hasToken_iff_not_isEnd, isEnd_cons_iff]
  exact not_congr (and_iff_right fun h => absurd h hc)

/-- No token begins in a text before a token. -/
theorem hasToken_between_append_iff (h : IsBetween xs) : HasToken (xs ++ ys) ↔ HasToken ys := by
  rw [hasToken_append_iff, or_iff_right]
  rintro ⟨u, v, rfl, hbegins⟩
  obtain ⟨v, rfl⟩ := List.head?_eq_some_iff.mp (h u v rfl)
  exact hbegins.1 rfl

end

namespace Tokenized

variable {d : Tokenized} {token : Token} {tokens : List Token} {after v : List Char}

/-- The literal texts of the parts. -/
def literals (d : Tokenized) : List (List Char) :=
  d.tokens.map Token.before ++ [d.after]

/-- The literal text that the parts begin with. -/
def firstLiteral : Tokenized → List Char
  | ⟨[], after⟩ => after
  | ⟨token :: _, _⟩ => token.before

/-- A closing bracket stands in a literal text, and what ends in `v` does not just end before it. -/
def Closes (d : Tokenized) (v : List Char) : Prop :=
  (v ≠ [] ∨ d.firstLiteral.head? ≠ some ']') ∧ ∃ l ∈ d.literals, ']' ∈ l

/-- The name of a token holds an opening bracket that is closed by what follows the token. -/
def LeavesToken (d : Tokenized) : Prop :=
  ∃ earlier token later u v, d.tokens = earlier ++ token :: later ∧ token.name = u ++ '[' :: v ∧
    Closes ⟨later, d.after⟩ v

theorem not_leavesToken_nil : ¬LeavesToken ⟨[], after⟩ := by
  rintro ⟨earlier, token, later, u, v, heq, -⟩
  simp at heq

theorem leavesToken_cons_iff :
    LeavesToken ⟨token :: tokens, after⟩
      ↔ (∃ u v, token.name = u ++ '[' :: v ∧ Closes ⟨tokens, after⟩ v) ∨
        LeavesToken ⟨tokens, after⟩ := by
  constructor
  · rintro ⟨_ | ⟨first, earlier⟩, other, later, u, v, heq, hname, hcloses⟩
    · obtain ⟨rfl, rfl⟩ := List.cons.inj heq
      exact .inl ⟨u, v, hname, hcloses⟩
    · exact .inr ⟨earlier, other, later, u, v, (List.cons.inj heq).2, hname, hcloses⟩
  · rintro (⟨u, v, hname, hcloses⟩ | ⟨earlier, other, later, u, v, heq, hname, hcloses⟩)
    · exact ⟨[], token, tokens, u, v, rfl, hname, hcloses⟩
    · exact ⟨token :: earlier, other, later, u, v, congrArg _ heq, hname, hcloses⟩

theorem text_colonForm_cons (token : Token) (tokens : List Token) (after : List Char) :
    text colonForm ⟨token :: tokens, after⟩
      = token.before ++ ':' :: (token.name ++ text colonForm ⟨tokens, after⟩) := by
  simp [text, colonForm]

/-- The colon form begins with a closing bracket just if the first literal text does. -/
theorem head?_text_colonForm_iff (d : Tokenized) :
    (d.text colonForm).head? = some ']' ↔ d.firstLiteral.head? = some ']' := by
  obtain ⟨_ | ⟨token, tokens⟩, after⟩ := d
  · rfl
  · rw [text_colonForm_cons, firstLiteral]
    cases token.before with
    | nil => simp
    | cons c before => rfl

/-- The colon form holds a closing bracket just if a literal text does. -/
theorem closing_mem_text_colonForm_iff (h : ∀ token ∈ tokens, IsName token.name) :
    ']' ∈ text colonForm ⟨tokens, after⟩ ↔ ∃ l ∈ literals ⟨tokens, after⟩, ']' ∈ l := by
  induction tokens with
  | nil => simp [text, literals]
  | cons token tokens ih =>
    obtain ⟨hname, hrest⟩ := List.forall_mem_cons.mp h
    have hliterals : literals ⟨token :: tokens, after⟩
        = token.before :: literals ⟨tokens, after⟩ := rfl
    rw [text_colonForm_cons, hliterals, List.exists_mem_cons_iff, ← ih hrest]
    simp [hname.2]

/-- What follows an opening bracket in a name begins a token just if it is closed there. -/
theorem beginsToken_append_iff (h : ∀ token ∈ tokens, IsName token.name) (hv : ']' ∉ v) :
    BeginsToken (v ++ text colonForm ⟨tokens, after⟩) ↔ Closes ⟨tokens, after⟩ v := by
  rw [BeginsToken, Closes, List.mem_append, or_iff_right hv, closing_mem_text_colonForm_iff h]
  refine and_congr_left' ?_
  cases v with
  | nil => simp [head?_text_colonForm_iff]
  | cons c v =>
    have hc : c ≠ ']' := fun hc => hv (hc ▸ List.mem_cons_self)
    simp [hc]

end Tokenized

/-- **The colon form holds a token just if the name of a token of the text is opened again.** -/
theorem hasToken_text_iff {d : Tokenized} (h : d.IsValid) :
    HasToken (d.text colonForm) ↔ d.LeavesToken := by
  obtain ⟨hbetween, hname, hend⟩ := h
  obtain ⟨tokens, after⟩ := d
  induction tokens with
  | nil =>
    refine iff_of_false ?_ Tokenized.not_leavesToken_nil
    rw [hasToken_iff_not_isEnd, not_not]
    exact hend
  | cons token tokens ih =>
    obtain ⟨hbefore, hbetween⟩ := List.forall_mem_cons.mp hbetween
    obtain ⟨hfirst, hname⟩ := List.forall_mem_cons.mp hname
    rw [Tokenized.text_colonForm_cons, hasToken_between_append_iff hbefore,
      hasToken_cons_of_ne (by decide), hasToken_append_iff, ih hbetween hname hend,
      Tokenized.leavesToken_cons_iff]
    refine or_congr_left (exists_congr fun u => exists_congr fun v => and_congr_right fun heq => ?_)
    refine Tokenized.beginsToken_append_iff hname fun hmem => hfirst.2 ?_
    rw [heq]
    exact List.mem_append_right _ (List.mem_cons_of_mem _ hmem)

/-- The parts of a segment leave a token in its colon form. -/
def LeavesToken (segment : String) : Prop :=
  ∃ d : Tokenized, d.IsOf segment.toList ∧ d.LeavesToken

theorem hasToken_colonSegment_iff (segment : String) :
    HasToken (colonSegment segment).toList ↔ LeavesToken segment := by
  obtain ⟨hof, hcolons⟩ := isOf_takeApart segment.toList
  rw [colonSegment, String.toList_ofList, hcolons, hasToken_text_iff hof.1]
  constructor
  · intro hleaves
    exact ⟨_, hof, hleaves⟩
  · rintro ⟨d, hd, hleaves⟩
    rwa [← eq_takeApart_of_isOf hd]

/-- The colon form of a segment has a colon form of its own just if it holds a token. -/
theorem colonSegment_colonSegment_iff (segment : String) :
    colonSegment (colonSegment segment) = colonSegment segment ↔ ¬LeavesToken segment := by
  rw [← hasToken_colonSegment_iff, ← colonChars_eq_self_iff, ← String.toList_inj, colonSegment,
    String.toList_ofList]

/-! ## Paths of routes -/

theorem not_hasToken_of_not_mem {cs : List Char} (h : '[' ∉ cs) : ¬HasToken cs := by
  rintro ⟨u, name, v, rfl, -⟩
  exact h (by simp)

theorem hasToken_pathOfSegment_iff (segment : String) :
    HasToken (pathOfSegment segment).toList ↔ HasToken segment.toList := by
  unfold pathOfSegment
  split
  · next hindex =>
    rw [hindex]
    exact iff_of_false (not_hasToken_of_not_mem (by decide)) (not_hasToken_of_not_mem (by decide))
  · rw [String.toList_append]
    exact hasToken_cons_of_ne (by decide)

/-- The key of a file holds the tokens of its segments. -/
theorem exists_hasToken_key_iff (segments : List String) :
    (∃ path ∈ key segments, HasToken path.toList) ↔ ∃ s ∈ segments, HasToken s.toList := by
  constructor
  · rintro ⟨path, hpath, htoken⟩
    obtain ⟨s, hs, rfl⟩ := mem_key hpath
    exact ⟨s, hs, (hasToken_pathOfSegment_iff s).mp htoken⟩
  · rintro ⟨s, hs, htoken⟩
    induction segments with
    | nil => cases hs
    | cons first rest ih =>
      rw [key]
      rcases List.mem_cons.mp hs with rfl | hrest
      · exact ⟨_, List.mem_cons_self, (hasToken_pathOfSegment_iff s).mpr htoken⟩
      · split
        · -- Only a final `index` is left out of the key.
          next hindex =>
          rw [hindex, List.mem_singleton] at hrest
          rw [hrest] at htoken
          exact absurd htoken (not_hasToken_of_not_mem (by decide))
        · obtain ⟨path, hpath, hhas⟩ := ih hrest
          exact ⟨path, List.mem_cons_of_mem _ hpath, hhas⟩

theorem exists_hasToken_segments_iff (path : String) :
    (∃ s ∈ segments path, HasToken s.toList) ↔ ∃ piece ∈ split '/' path, LeavesToken piece := by
  simp only [segments, List.mem_map, exists_exists_and_eq_and, hasToken_colonSegment_iff]

end Route

namespace RouteTree

open Keyed

/--
**A token is left over just where a name is opened again and closed behind its token.**

The colon form of a segment holds a token if and only if the name of one of its tokens has an
opening bracket and a literal text behind this token has a closing one, unless the two are next to
each other. The colon form of every other segment is its own colon form. A tree of view files has a
path with a token in it if and only if a file has such a segment.
-/
theorem colonSegment_leaves_token_iff (segment : String) (cwd : Address) (options : TreeOptions)
    (files : List String) :
    (HasToken (colonSegment segment).toList ↔ LeavesToken segment) ∧
    (colonSegment (colonSegment segment) = colonSegment segment ↔ ¬LeavesToken segment) ∧
    ∀ tree, (ofFiles cwd options files).result = .ok tree →
      ((∃ visit ∈ walk 0 tree, HasToken visit.path.toList) ↔
        ∃ file ∈ files, ∃ path, location cwd file options.root = .ok path ∧
          ∃ piece ∈ split '/' (stripExtension path (normalizeExtensions options.extensions)),
            LeavesToken piece) := by
  refine ⟨hasToken_colonSegment_iff segment, colonSegment_colonSegment_iff segment, ?_⟩
  intro tree hbuilt
  obtain ⟨hbelow, rfl⟩ := eq_group_normalized_of_ofFiles hbuilt
  constructor
  · rintro ⟨visit, hvisit, htoken⟩
    obtain ⟨entry, hentry, hkey⟩ := path_mem_walk_group hvisit
    obtain ⟨file, hfile, rfl⟩ := List.mem_map.mp hentry
    obtain ⟨path, hlocated⟩ := location_isOk_iff.mpr (hbelow file hfile)
    rw [keyOf_eq_key hlocated] at hkey
    exact ⟨file, hfile, path, hlocated, (exists_hasToken_segments_iff _).mp
      ((exists_hasToken_key_iff _).mp ⟨_, hkey, htoken⟩)⟩
  · rintro ⟨file, hfile, path, hlocated, hpiece⟩
    obtain ⟨routePath, hpath, htoken⟩ := (exists_hasToken_key_iff _).mpr
      ((exists_hasToken_segments_iff _).mpr hpiece)
    rw [← keyOf_eq_key hlocated] at hpath
    have hentry : ⟨keyOf cwd options.root (normalizeExtensions options.extensions) file,
        normalizePath file⟩ ∈ fileViews cwd options.root
          (normalizeExtensions options.extensions) files := List.mem_map_of_mem hfile
    obtain ⟨visit, hvisit, rfl⟩ := exists_visit_iff.mpr ⟨_, hentry, hpath⟩
    exact ⟨visit, hvisit, htoken⟩

/-- A name that is opened twice and closed once leaves no token. -/
theorem colonSegment_leaves_token_once :
    colonSegment (colonSegment "[[a]") = colonSegment "[[a]" ∧
      ∃ tree, (ofFiles ["w"] { root := "pages" } ["pages/[[a].tsx"]).result = .ok tree ∧
        ¬∃ visit ∈ walk 0 tree, HasToken visit.path.toList := by
  have husable : usableExtensions "pages" ["tsx", "jsx"] = .ok ["tsx", "jsx"] := by decide
  have hviews : fileViews ["w"] "pages" ["tsx", "jsx"] ["pages/[[a].tsx"]
      = [⟨["/:[a"], "pages/[[a].tsx"⟩] := by decide +kernel
  have hbuilt : (ofFiles ["w"] { root := "pages" } ["pages/[[a].tsx"]).result
      = .ok [.mk "/:[a" (some "pages/[[a].tsx") none] := by
    refine (result_ofFiles_refuse_eq_ok_iff husable).mpr ⟨by decide +kernel, by decide, ?_⟩
    rw [hviews]
    rfl
  have hlocated : location ["w"] "pages/[[a].tsx" "pages" = .ok "[[a].tsx" := by decide +kernel
  have hpieces : split '/' (stripExtension "[[a].tsx" (normalizeExtensions ["tsx", "jsx"]))
      = ["[[a]"] := by decide +kernel
  obtain ⟨hsegment, hagain, htree⟩ := colonSegment_leaves_token_iff "[[a]" ["w"]
    { root := "pages" } ["pages/[[a].tsx"]
  have hno : ¬LeavesToken "[[a]" := by
    rw [← hsegment, show colonSegment "[[a]" = ":[a" by decide +kernel]
    rintro ⟨u, name, v, heq, -⟩
    have hclosing : ']' ∈ ":[a".toList := by
      rw [heq]
      simp
    exact absurd hclosing (by decide)
  refine ⟨hagain.mpr hno, _, hbuilt, fun hvisit => ?_⟩
  obtain ⟨file, hfile, path, hpath, piece, hpiece, hleaves⟩ := (htree _ hbuilt).mp hvisit
  obtain rfl := List.mem_singleton.mp hfile
  obtain rfl := Except.ok.inj (hlocated.symm.trans hpath)
  rw [hpieces, List.mem_singleton] at hpiece
  exact hno (hpiece ▸ hleaves)

/-- **Brackets in brackets leave a token**, and with it a path that is rewritten once more. -/
theorem nestedBrackets_leave_token :
    colonSegment "[[a]]" = ":[a]" ∧ HasToken (colonSegment "[[a]]").toList ∧
      colonSegment (colonSegment "[[a]]") = "::a" ∧
      ∃ tree, (ofFiles ["w"] { root := "pages" } ["pages/[[a]].tsx"]).result = .ok tree ∧
        ∃ visit ∈ walk 0 tree, HasToken visit.path.toList := by
  have hfirst : colonSegment "[[a]]" = ":[a]" := by decide +kernel
  have hsecond : colonSegment ":[a]" = "::a" := by decide +kernel
  have husable : usableExtensions "pages" ["tsx", "jsx"] = .ok ["tsx", "jsx"] := by decide
  have hviews : fileViews ["w"] "pages" ["tsx", "jsx"] ["pages/[[a]].tsx"]
      = [⟨["/:[a]"], "pages/[[a]].tsx"⟩] := by decide +kernel
  have hbuilt : (ofFiles ["w"] { root := "pages" } ["pages/[[a]].tsx"]).result
      = .ok [.mk "/:[a]" (some "pages/[[a]].tsx") none] := by
    refine (result_ofFiles_refuse_eq_ok_iff husable).mpr ⟨by decide +kernel, by decide, ?_⟩
    rw [hviews]
    rfl
  refine ⟨hfirst, ?_, hfirst ▸ hsecond, _, hbuilt, ⟨0, "/:[a]", some "pages/[[a]].tsx"⟩, ?_, ?_⟩
  · rw [hfirst]
    exact ⟨[':'], ['a'], [], rfl, by decide, by decide⟩
  · decide
  · exact ⟨['/', ':'], ['a'], [], rfl, by decide, by decide⟩

end RouteTree

end PageRoutes
