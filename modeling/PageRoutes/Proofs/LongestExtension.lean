import PageRoutes.Proofs.DiscoveredFiles

/-!
# The extension that is taken off

`stripExtension` cuts a path at the first dot behind which one of the extensions and the end of the
path are found, and a line feed at the end is passed over. What is left does not depend on where the
extensions stand in their list:

* `endingAfter?_append` — what is found behind a dot, if no extension ends in a line feed.
* `stripChars_append` — the first dot is the one of the longest extension at the end.
* `stripExtension_longest` — the longest extension is taken off, and nothing else; the order of the
  extensions does not matter, and every name that is listed for its extension gets shorter.
-/

namespace PageRoutes.Route

open Text

/-! ## The line feed at the end -/

/-- The line feed at the end of a text, if it ends in one. -/
def finalFeed (cs : List Char) : List Char :=
  if cs.getLast? = some '\n' then ['\n'] else []

/-- A text without the line feed at its end. -/
def beforeFeed (cs : List Char) : List Char :=
  if cs.getLast? = some '\n' then cs.dropLast else cs

/-- What stands behind a text is its final line feed, or nothing if it ends in no line feed. -/
def IsFeed (body feed : List Char) : Prop :=
  feed = ['\n'] ∨ feed = [] ∧ body.getLast? ≠ some '\n'

theorem beforeFeed_append_finalFeed (cs : List Char) : beforeFeed cs ++ finalFeed cs = cs := by
  unfold beforeFeed finalFeed
  split
  · next hlast =>
    obtain ⟨init, rfl⟩ := List.getLast?_eq_some_iff.mp hlast
    rw [List.dropLast_concat]
  · exact List.append_nil cs

theorem isFeed_finalFeed (cs : List Char) : IsFeed (beforeFeed cs) (finalFeed cs) := by
  unfold beforeFeed finalFeed
  split
  · exact .inl rfl
  · next hlast => exact .inr ⟨rfl, hlast⟩

theorem IsFeed.of_cons {c : Char} {body feed : List Char} (h : IsFeed (c :: body) feed) :
    IsFeed body feed := by
  refine h.imp_right fun ⟨hnil, hlast⟩ => ⟨hnil, fun hfeed => hlast ?_⟩
  rw [List.getLast?_cons, hfeed]
  rfl

/-! ## The first dot and the longest extension -/

/-- The longest of the extensions that stand, behind a dot, at the end of a text. -/
structure IsLongestEnding (extensions : List String) (body : List Char) (extension : String) :
    Prop where
  listed : extension ∈ extensions
  ending : '.' :: extension.toList <:+ body
  longest : ∀ other ∈ extensions, '.' :: other.toList <:+ body →
    other.toList.length ≤ extension.toList.length

section

variable {extension : String} {extensions : List String} {body rest feed : List Char}

/-- Behind a dot an extension is found just if it is all that stands there before the line feed. -/
theorem endingAfter?_append (hplain : extension.toList.getLast? ≠ some '\n')
    (hfeed : IsFeed rest feed) :
    endingAfter? extension (rest ++ feed)
      = if rest = extension.toList then some feed else none := by
  have hshort : (feed == [] || feed == ['\n']) = true := by
    rcases hfeed with rfl | ⟨rfl, -⟩ <;> rfl
  split
  · next heq =>
    have hprefix : extension.toList.isPrefixOf? (rest ++ feed) = some feed :=
      List.isPrefixOf?_eq_some_iff_append_eq.mpr (by rw [heq])
    rw [endingAfter?, hprefix, Option.filter_some, if_pos hshort]
  · next hne =>
    rw [Option.eq_none_iff_forall_ne_some]
    intro after hafter
    obtain ⟨hbegin, hend⟩ := Option.filter_eq_some_iff.mp hafter
    have hwhole : extension.toList ++ after = rest ++ feed :=
      List.isPrefixOf?_eq_some_iff_append_eq.mp hbegin
    rw [Bool.or_eq_true, beq_iff_eq, beq_iff_eq] at hend
    -- What is left behind the extension and the line feed of the text are the same.
    rcases hend with rfl | rfl
    · rcases hfeed with rfl | ⟨rfl, -⟩
      · refine hplain ?_
        rw [← List.append_nil extension.toList, hwhole, List.getLast?_concat]
      · exact hne (by simpa using hwhole.symm)
    · rcases hfeed with rfl | ⟨rfl, hlast⟩
      · exact hne (List.append_cancel_right hwhole).symm
      · refine hlast ?_
        rw [← List.append_nil rest, ← hwhole, List.getLast?_concat]

section

variable (hplain : ∀ e ∈ extensions, e.toList.getLast? ≠ some '\n')
include hplain

/-- A text is cut at its first character if this is a dot and all that follows is an extension. -/
theorem stripChars_cons_append {c : Char} (hfeed : IsFeed rest feed) :
    stripChars extensions (c :: rest ++ feed)
      = if c = '.' ∧ String.ofList rest ∈ extensions then feed
        else c :: stripChars extensions (rest ++ feed) := by
  have hfound : extensions.findSome? (endingAfter? · (rest ++ feed))
      = if String.ofList rest ∈ extensions then some feed else none := by
    split
    · next hmem =>
      have hending : endingAfter? (String.ofList rest) (rest ++ feed) = some feed := by
        rw [endingAfter?_append (hplain _ hmem) hfeed, if_pos String.toList_ofList.symm]
      cases hsome : extensions.findSome? (endingAfter? · (rest ++ feed)) with
      | none =>
        rw [List.findSome?_eq_none_iff] at hsome
        rw [hsome _ hmem] at hending
        cases hending
      | some after =>
        obtain ⟨e, he, hafter⟩ := List.exists_of_findSome?_eq_some hsome
        rw [endingAfter?_append (hplain e he) hfeed] at hafter
        split at hafter
        · exact hafter.symm
        · cases hafter
    · next hmem =>
      rw [List.findSome?_eq_none_iff]
      intro e he
      rw [endingAfter?_append (hplain e he) hfeed, if_neg]
      rintro rfl
      exact hmem (String.ofList_toList.symm ▸ he)
  rw [List.cons_append, stripChars, hfound]
  by_cases hdot : c = '.'
  · by_cases hmem : String.ofList rest ∈ extensions
    · rw [if_pos hdot, if_pos hmem, if_pos ⟨hdot, hmem⟩]
    · rw [if_pos hdot, if_neg hmem, if_neg fun h => hmem h.2]
  · rw [if_neg hdot, if_neg fun h => hdot h.1]

/-- **The first dot is the one of the longest extension at the end.** -/
theorem stripChars_append (hfeed : IsFeed body feed) :
    (∃ stem e, IsLongestEnding extensions body e ∧ body = stem ++ '.' :: e.toList ∧
        stripChars extensions (body ++ feed) = stem ++ feed) ∨
      (∀ e ∈ extensions, ¬ '.' :: e.toList <:+ body) ∧
        stripChars extensions (body ++ feed) = body ++ feed := by
  induction body with
  | nil =>
    refine .inr ⟨fun e _ hending => List.cons_ne_nil _ _ (List.suffix_nil.mp hending), ?_⟩
    rcases hfeed with rfl | ⟨rfl, -⟩ <;> rfl
  | cons c rest ih =>
    rw [stripChars_cons_append hplain hfeed.of_cons]
    by_cases hcut : c = '.' ∧ String.ofList rest ∈ extensions
    · obtain ⟨rfl, hmem⟩ := hcut
      have hrest : (String.ofList rest).toList = rest := String.toList_ofList
      rw [if_pos ⟨rfl, hmem⟩]
      refine .inl ⟨[], String.ofList rest, ⟨hmem, ?_, fun other _ hother => ?_⟩, ?_, rfl⟩
      · simp [hrest]
      · rw [hrest]
        exact Nat.le_of_succ_le_succ hother.length_le
      · rw [hrest, List.nil_append]
    · -- No extension reaches to the first character, so all that end the text end the rest.
      have hending : ∀ e ∈ extensions,
          '.' :: e.toList <:+ c :: rest ↔ '.' :: e.toList <:+ rest := by
        intro e he
        rw [List.suffix_cons_iff, or_iff_right]
        intro heq
        obtain ⟨rfl, rfl⟩ := List.cons.inj heq
        exact hcut ⟨rfl, String.ofList_toList.symm ▸ he⟩
      rw [if_neg hcut]
      rcases ih hfeed.of_cons with ⟨stem, e, hlongest, rfl, hstrip⟩ | ⟨hnone, hstrip⟩
      · refine .inl ⟨c :: stem, e, ⟨hlongest.listed, ?_, fun other hother hends => ?_⟩, rfl, ?_⟩
        · exact (hending e hlongest.listed).mpr hlongest.ending
        · exact hlongest.longest other hother ((hending other hother).mp hends)
        · rw [hstrip]
          rfl
      · refine .inr ⟨fun e he => mt (hending e he).mp (hnone e he), ?_⟩
        rw [hstrip]
        rfl

end

end

/-! ## Normalised extensions -/

section

variable {given others : List String} {path name : String}

/-- A path that ends in a listed extension loses the longest one. -/
theorem stripExtension_of_ending
    (h : ∃ e ∈ normalizeExtensions given, '.' :: e.toList <:+ beforeFeed path.toList) :
    ∃ stem e, IsLongestEnding (normalizeExtensions given) (beforeFeed path.toList) e ∧
      beforeFeed path.toList = stem ++ '.' :: e.toList ∧
      (stripExtension path (normalizeExtensions given)).toList
        = stem ++ finalFeed path.toList := by
  have hplain : ∀ e ∈ normalizeExtensions given, e.toList.getLast? ≠ some '\n' :=
    fun e he => getLast?_ne_lineFeed_of_mem he
  rcases stripChars_append hplain (isFeed_finalFeed path.toList) with
    ⟨stem, e, hlongest, hbody, hstrip⟩ | ⟨hnone, -⟩
  · rw [beforeFeed_append_finalFeed] at hstrip
    refine ⟨stem, e, hlongest, hbody, ?_⟩
    rw [stripExtension, String.toList_ofList, hstrip]
  · obtain ⟨e, he, hending⟩ := h
    exact absurd hending (hnone e he)

/-- Another path stays as it is. -/
theorem stripExtension_of_no_ending
    (h : ∀ e ∈ normalizeExtensions given, ¬ '.' :: e.toList <:+ beforeFeed path.toList) :
    stripExtension path (normalizeExtensions given) = path := by
  have hplain : ∀ e ∈ normalizeExtensions given, e.toList.getLast? ≠ some '\n' :=
    fun e he => getLast?_ne_lineFeed_of_mem he
  rcases stripChars_append hplain (isFeed_finalFeed path.toList) with
    ⟨stem, e, hlongest, -, -⟩ | ⟨-, hstrip⟩
  · exact absurd hlongest.ending (h e hlongest.listed)
  · rw [beforeFeed_append_finalFeed] at hstrip
    rw [stripExtension, hstrip, String.ofList_toList]

/-- Only which extensions are listed matters, not where and how often. -/
theorem stripExtension_congr
    (h : ∀ e, e ∈ normalizeExtensions others ↔ e ∈ normalizeExtensions given) (path : String) :
    stripExtension path (normalizeExtensions others)
      = stripExtension path (normalizeExtensions given) := by
  by_cases hending : ∃ e ∈ normalizeExtensions given, '.' :: e.toList <:+ beforeFeed path.toList
  · have hending' : ∃ e ∈ normalizeExtensions others,
        '.' :: e.toList <:+ beforeFeed path.toList := by
      obtain ⟨e, he, hends⟩ := hending
      exact ⟨e, (h e).mpr he, hends⟩
    obtain ⟨stem, e, hlongest, hbody, hstrip⟩ := stripExtension_of_ending hending
    obtain ⟨stem', e', hlongest', hbody', hstrip'⟩ := stripExtension_of_ending hending'
    -- Each of the two longest extensions is listed in the other list as well.
    have hle := hlongest.longest e' ((h e').mp hlongest'.listed) hlongest'.ending
    have hge := hlongest'.longest e ((h e).mpr hlongest.listed) hlongest.ending
    have hlength : ('.' :: e'.toList).length = ('.' :: e.toList).length :=
      congrArg (· + 1) (Nat.le_antisymm hle hge)
    have hstem : stem' = stem :=
      (List.append_inj' (hbody'.symm.trans hbody) hlength).1
    rw [← String.toList_inj, hstrip, hstrip', hstem]
  · have hnone : ∀ e ∈ normalizeExtensions given,
        ¬ '.' :: e.toList <:+ beforeFeed path.toList := fun e he hends => hending ⟨e, he, hends⟩
    rw [stripExtension_of_no_ending hnone,
      stripExtension_of_no_ending fun e he => hnone e ((h e).mp he)]

/-- The last name of a path is its end. -/
theorem suffix_of_getLast?_split (h : (split '/' path).getLast? = some name) :
    name.toList <:+ path.toList := by
  rw [split, List.getLast?_map] at h
  obtain ⟨piece, hpiece, rfl⟩ := Option.map_eq_some_iff.mp h
  rw [String.toList_ofList]
  by_cases hslash : '/' ∈ path.toList
  · obtain ⟨after, before, hreverse, hafter⟩ :=
      List.eq_append_cons_of_mem (List.mem_reverse.mpr hslash)
    have hpath : path.toList = before.reverse ++ '/' :: after.reverse := by
      rw [← List.reverse_reverse path.toList, hreverse]
      simp
    rw [hpath, splitChars_append, splitChars_of_not_mem (mt List.mem_reverse.mp hafter),
      List.getLast?_concat] at hpiece
    obtain rfl := Option.some.inj hpiece
    rw [hpath]
    exact (List.suffix_cons _ _).trans (List.suffix_append _ _)
  · rw [splitChars_of_not_mem hslash] at hpiece
    obtain rfl : path.toList = piece := Option.some.inj hpiece
    exact List.suffix_refl _

/-- A path gets shorter if its last name ends in a listed extension. -/
theorem length_stripExtension_lt (hname : (split '/' path).getLast? = some name)
    (h : hasExtension (normalizeExtensions given) name = true) :
    (stripExtension path (normalizeExtensions given)).toList.length < path.toList.length := by
  obtain ⟨e, he, hends⟩ := List.any_eq_true.mp h
  have hending : '.' :: e.toList <:+ path.toList :=
    (List.isSuffixOf_iff_suffix.mp hends).trans (suffix_of_getLast?_split hname)
  have hlast : path.toList.getLast? ≠ some '\n' := getLast?_ne_lineFeed_of_suffix he hending
  have hbody : beforeFeed path.toList = path.toList := if_neg hlast
  have hfeed : finalFeed path.toList = [] := if_neg hlast
  obtain ⟨stem, longest, -, hpath, hstrip⟩ :=
    stripExtension_of_ending ⟨e, he, hbody.symm ▸ hending⟩
  rw [hstrip, hfeed, ← hbody, hpath, List.append_nil, List.length_append, List.length_cons]
  omega

/--
**At most one extension is taken off a path, and it is the longest one.**

The path is looked at without the line feed that may be its last character. If this ends in a dot
and a listed extension, the longest one that it ends in is taken off with its dot, and the line feed
is put back; any other path stays as it is. So it does not matter in what order and how often the
extensions are listed, and every path whose last name ends in a dot and a listed extension gets
shorter.
-/
theorem stripExtension_longest (given : List String) (path : String) :
    let extensions := normalizeExtensions given
    let body := beforeFeed path.toList
    let feed := finalFeed path.toList
    body ++ feed = path.toList ∧
    ((∃ e ∈ extensions, '.' :: e.toList <:+ body) →
      ∃ stem e, IsLongestEnding extensions body e ∧ body = stem ++ '.' :: e.toList ∧
        stripExtension path extensions = String.ofList (stem ++ feed)) ∧
    ((∀ e ∈ extensions, ¬ '.' :: e.toList <:+ body) → stripExtension path extensions = path) ∧
    (∀ others, (∀ e, e ∈ normalizeExtensions others ↔ e ∈ extensions) →
      stripExtension path (normalizeExtensions others) = stripExtension path extensions) ∧
    ∀ name, (split '/' path).getLast? = some name → hasExtension extensions name = true →
      (stripExtension path extensions).length < path.length := by
  intro extensions body feed
  refine ⟨beforeFeed_append_finalFeed _, fun hending => ?_, stripExtension_of_no_ending,
    fun others hothers => stripExtension_congr hothers path, fun name hname hends => ?_⟩
  · obtain ⟨stem, e, hlongest, hbody, hstrip⟩ := stripExtension_of_ending hending
    exact ⟨stem, e, hlongest, hbody, by rw [← hstrip, String.ofList_toList]⟩
  · exact length_stripExtension_lt hname hends

/-- Of two extensions that end a path the longer one is taken off, wherever it is listed. -/
theorem stripExtension_longest_declaration :
    let extensions := normalizeExtensions [".ts", "d.ts ", "t."]
    (∃ stem e, IsLongestEnding extensions "a.ts/page.d.ts".toList e ∧
        "a.ts/page.d.ts".toList = stem ++ '.' :: e.toList ∧
        stripExtension "a.ts/page.d.ts\n" extensions = String.ofList (stem ++ ['\n'])) ∧
      stripExtension "a.ts/page.d.ts\n" extensions = "a.ts/page\n" ∧
      stripExtension "a.ts/page" extensions = "a.ts/page" ∧
      stripExtension "page.d.ts" (normalizeExtensions ["d.ts", "t.", "ts", "ts"])
        = stripExtension "page.d.ts" extensions ∧
      (stripExtension "page.d.ts" extensions).length < "page.d.ts".length := by
  intro extensions
  obtain ⟨-, hending, -⟩ := stripExtension_longest [".ts", "d.ts ", "t."] "a.ts/page.d.ts\n"
  obtain ⟨-, -, hnone, -⟩ := stripExtension_longest [".ts", "d.ts ", "t."] "a.ts/page"
  obtain ⟨-, -, -, horder, hshort⟩ := stripExtension_longest [".ts", "d.ts ", "t."] "page.d.ts"
  refine ⟨hending ⟨"ts", by decide +kernel, by decide +kernel⟩, by decide +kernel,
    hnone (by decide +kernel), horder _ fun e => ?_, hshort _ rfl (by decide +kernel)⟩
  have hlists : normalizeExtensions ["d.ts", "t.", "ts", "ts"] = ["d.ts", "t.", "ts", "ts"] ∧
      normalizeExtensions [".ts", "d.ts ", "t."] = ["ts", "d.ts", "t."] := by decide +kernel
  rw [hlists.1, hlists.2]
  simp only [List.mem_cons, List.not_mem_nil, or_false]
  tauto

end

end PageRoutes.Route
