import Mathlib.Data.List.TakeWhile
import PageRoutes.Proofs.Components
import PageRoutes.RouterComponent

/-!
# The specifier of the routes module

The router component imports the routes module by the way that leads from the component to it. The
way is a text, and whoever reads it is in the directory of the component.

* `isStem_iff` — what is left of a name without its suffix, said without looking for the last dot.
* `walk_relativeTo` — the way from a directory to a place leads there.
* `ofString_specifier` — the text of a way is read as the way, with and without `./` in front.
* `importSpecifier_leads_to_module` — from the directory of the component the specifier leads to the
  routes module, without its suffix.
-/

namespace PageRoutes

open Text

/-! ## Names and their stems -/

/-- The name ends in a suffix behind the stem: both are there, and its last dot is between them. -/
def IsSuffixed (name stem : String) : Prop :=
  ∃ ending, name = stem ++ "." ++ ending ∧ stem ≠ "" ∧ ending ≠ "" ∧ '.' ∉ ending.toList

/-- What is left of a name without its suffix, which is the name if it has none. -/
def IsStem (stem name : String) : Prop :=
  IsSuffixed name stem ∨ stem = name ∧ ∀ other, ¬IsSuffixed name other

/-- A name with a dot in it is cut at the last one, unless nothing is left on a side of it. -/
theorem dropSuffix_append {stem ending : String} (h : '.' ∉ ending.toList) :
    dropSuffix (stem ++ "." ++ ending)
      = if ending = "" ∨ stem = "" then stem ++ "." ++ ending else stem := by
  have hbackward : (stem ++ "." ++ ending).toList.reverse
      = ending.toList.reverse ++ '.' :: stem.toList.reverse := by
    simp
  have hending : ∀ c ∈ ending.toList.reverse, (c != '.') = true := by
    intro c hc
    rw [bne_iff_ne]
    rintro rfl
    exact h (List.mem_reverse.mp hc)
  have hempty : ∀ s : String, s.toList.reverse = [] ↔ s = "" := fun s => by
    rw [List.reverse_eq_nil_iff, String.toList_eq_nil_iff]
  unfold dropSuffix
  dsimp only
  rw [hbackward, List.takeWhile_append_of_pos hending, List.dropWhile_append_of_pos hending,
    List.takeWhile_cons_of_neg (by decide), List.dropWhile_cons_of_neg (by decide),
    List.append_nil]
  simp only [hempty, List.reverse_reverse, String.ofList_toList]

/-- A name without a dot in it stays as it is. -/
theorem dropSuffix_of_not_mem {name : String} (h : '.' ∉ name.toList) : dropSuffix name = name := by
  have hall : name.toList.reverse.dropWhile (· != '.') = [] := by
    rw [List.dropWhile_eq_nil_iff]
    intro c hc
    rw [bne_iff_ne]
    rintro rfl
    exact h (List.mem_reverse.mp hc)
  unfold dropSuffix
  dsimp only
  rw [hall]

/-- A name has a last dot or none. -/
theorem exists_last_dot {name : String} (h : '.' ∈ name.toList) :
    ∃ stem ending, name = stem ++ "." ++ ending ∧ '.' ∉ ending.toList := by
  obtain ⟨before, after, hname, hafter⟩ :=
    List.eq_append_cons_of_mem (List.mem_reverse.mpr h)
  refine ⟨.ofList after.reverse, .ofList before.reverse, ?_, ?_⟩
  · rw [← String.toList_inj, ← List.reverse_inj, hname]
    simp
  · rw [String.toList_ofList, List.mem_reverse]
    exact hafter

/-- **There is one stem of a name**, and it is found at the last dot. -/
theorem isStem_iff {stem name : String} : IsStem stem name ↔ stem = dropSuffix name := by
  have hsuffixed : ∀ {stem}, IsSuffixed name stem → dropSuffix name = stem := by
    rintro stem ⟨ending, rfl, hstem, hending, hdot⟩
    rw [dropSuffix_append hdot, if_neg (not_or.mpr ⟨hending, hstem⟩)]
  by_cases hno : ∃ other, IsSuffixed name other
  · obtain ⟨other, hother⟩ := hno
    rw [hsuffixed hother]
    constructor
    · rintro (hstem | ⟨-, hnone⟩)
      · rw [← hsuffixed hstem, hsuffixed hother]
      · exact absurd hother (hnone other)
    · rintro rfl
      exact .inl hother
  · have hsame : dropSuffix name = name := by
      by_cases hdot : '.' ∈ name.toList
      · obtain ⟨stem, ending, rfl, hending⟩ := exists_last_dot hdot
        rw [dropSuffix_append hending, if_pos]
        by_contra hne
        rw [not_or] at hne
        exact hno ⟨stem, ending, rfl, hne.2, hne.1, hending⟩
      · exact dropSuffix_of_not_mem hdot
    rw [hsame]
    constructor
    · rintro (hstem | ⟨rfl, -⟩)
      · exact absurd ⟨stem, hstem⟩ hno
      · rfl
    · rintro rfl
      exact .inr ⟨rfl, fun other hother => hno ⟨other, hother⟩⟩

/-- A stem is one name, if it leads down. -/
theorem IsStem.noSlash {stem name : String} (h : IsStem stem name) (hname : '/' ∉ name.toList) :
    '/' ∉ stem.toList := by
  rcases h with ⟨ending, rfl, -⟩ | ⟨rfl, -⟩
  · exact fun hmem => hname (by simp [hmem])
  · exact hname

/-! ## Ways -/

namespace Address

theorem walk_replicate_up (a b : Address) :
    walk (a ++ b) (List.replicate b.length "..") = a := by
  induction b using List.reverseRecOn with
  | nil => rw [List.append_nil]; rfl
  | append_singleton b name ih =>
    rw [List.length_append, List.length_singleton, List.replicate_succ, walk_cons, step_up,
      ← List.append_assoc, List.dropLast_concat]
    exact ih

/-- Up to the last common directory, and down. -/
theorem walk_up_down (a b : Address) {names : List String} (h : ∀ name ∈ names, IsPlain name) :
    walk (a ++ b) (List.replicate b.length ".." ++ names) = a ++ names := by
  rw [walk_append, walk_replicate_up, walk_eq_of_plain h]

/-- **The way from a directory to a place leads there.** -/
theorem walk_relativeTo {target : Address} (h : ∀ name ∈ target, IsPlain name) (base : Address) :
    walk base (relativeTo base target) = target := by
  -- Both may lie below something that they have in common.
  suffices hcommon : ∀ a, walk (a ++ base) (relativeTo base target) = a ++ target from hcommon []
  intro a
  fun_induction relativeTo base target generalizing a with
  | case1 base name target ih =>
    have hbelow := ih (fun n hn => h n (List.mem_cons_of_mem _ hn)) (a ++ [name])
    rwa [List.append_assoc, List.append_assoc] at hbelow
  | case2 b base name target hne => exact walk_up_down a (b :: base) h
  | case3 base target => exact walk_up_down a base h

/-- A way leads up, or to names on the way to its end. -/
theorem mem_relativeTo {base target : Address} {name : String} (h : name ∈ relativeTo base target) :
    name = ".." ∨ name ∈ target := by
  fun_induction relativeTo base target with
  | case1 base first target ih => exact (ih h).imp_right (List.mem_cons_of_mem _)
  | case2 b base first target hne =>
    exact (List.mem_append.mp h).imp_left List.eq_of_mem_replicate
  | case3 base target => exact (List.mem_append.mp h).imp_left List.eq_of_mem_replicate

end Address

/-! ## Texts of ways -/

namespace Path

/-- The path that leads on from where another one leads, unless it starts at the root. -/
def followedBy (p q : Path) : Path :=
  if q.isAbsolute then q else { p with names := p.names ++ q.names }

end Path

variable {names : List String}

/-- **The text of a relative path is read as the path.** -/
theorem ofString_text_relative (h : ∀ name ∈ names, IsStepName name) :
    Path.ofString (Path.text { anchor := .relative, names }) = { anchor := .relative, names } := by
  by_cases hne : names = []
  · subst hne
    decide
  · rw [Path.text, if_neg fun hnil => hne hnil.2, Anchor.text, String.empty_append, Path.ofString,
      ofChars_eq_relative_iff.mpr (head?_join_ne h), filter_split_join h]

/-- A relative path may begin with `./`. -/
theorem ofString_here {s : String} (h : (Path.ofString s).anchor = .relative) :
    Path.ofString ("./" ++ s) = Path.ofString s := by
  have hchars : ("./" ++ s).toList = ['.'] ++ '/' :: s.toList := by
    rw [String.toList_append]
    rfl
  have hsplit : split '/' ("./" ++ s) = "." :: split '/' s := by
    rw [split, hchars, splitChars_append, List.map_append]
    rfl
  have hanchor : Anchor.ofChars ("./" ++ s).toList = .relative := by
    rw [hchars]
    rfl
  rw [Path.ofString, hanchor, hsplit, List.filter_cons_of_neg (by decide), ← h]
  rfl

namespace RouterComponent

/-- The text of a way, which starts with a dot. -/
def specifier (names : List String) : String :=
  let way : Path := { anchor := .relative, names }
  if way.text.toList.head? = some '.' then way.text else "./" ++ way.text

theorem head?_specifier (names : List String) : (specifier names).toList.head? = some '.' := by
  rw [specifier]
  split
  · assumption
  · rw [String.toList_append]
    rfl

/-- **The specifier is read as the way that it was made of.** -/
theorem ofString_specifier (h : ∀ name ∈ names, IsStepName name) :
    Path.ofString (specifier names) = { anchor := .relative, names } := by
  have htext := ofString_text_relative h
  rw [specifier]
  split
  · exact htext
  · rw [ofString_here (by rw [htext]), htext]

end RouterComponent

/-! ## From the component to the module -/

section

variable {cwd : Address} (hcwd : ∀ name ∈ cwd, IsFileName name)
include hcwd

/-- **A path leads to names of files.** -/
theorem isFileName_of_mem_resolve {s name : String} (h : name ∈ (Path.ofString s).resolve cwd) :
    IsFileName name := by
  rcases Address.mem_walk h with hstart | ⟨hmem, hplain⟩
  · split at hstart
    · exact absurd hstart List.not_mem_nil
    · exact hcwd name hstart
  · obtain ⟨cs, hcs, rfl⟩ := List.mem_map.mp (List.mem_filter.mp hmem).1
    refine ⟨hplain, ?_⟩
    rw [String.toList_ofList]
    exact not_mem_of_mem_splitChars hcs

end

section

variable {directory : Address} (hdirectory : ∀ name ∈ directory, IsFileName name)
include hdirectory

/-- One more name in a directory leads one step further. -/
theorem resolve_ofAddress_concat (stem : String) (cwd : Address) :
    (Path.ofAddress (directory ++ [stem])).resolve cwd = Address.step directory stem := by
  show Address.walk [] (directory ++ [stem]) = _
  rw [Address.walk_append, Address.walk_eq_of_plain fun name hname => (hdirectory name hname).plain]
  rfl

/-- The stem of a file in a directory leads to names of files. -/
theorem isFileName_of_mem_step {stem name : String} (hstem : '/' ∉ stem.toList)
    (h : name ∈ Address.step directory stem) : IsFileName name := by
  have hwalk : name ∈ Address.walk directory [stem] := h
  rcases Address.mem_walk hwalk with hmem | ⟨hmem, hplain⟩
  · exact hdirectory name hmem
  · obtain rfl := List.mem_singleton.mp hmem
    exact ⟨hplain, hstem⟩

end

namespace RouterComponent

/-- Where a path to the module or to the component holds U+0000, no specifier is found. -/
theorem importSpecifier_of_nul {cwd directory : Address} {name : String} {router module : Path}
    (hmodule : module.resolve cwd = directory ++ [name])
    (hnul : router.address? cwd = none ∨ module.address? cwd = none) :
    importSpecifier cwd router module = .error .nulInText := by
  by_cases hreadable : module.address? cwd = none
  · rw [importSpecifier, addressOf_of_none hreadable]
    rfl
  · rw [importSpecifier, addressOf_of_ne_none hreadable, hmodule,
      addressOf_of_none (hnul.resolve_right hreadable)]
    simp only [bind, Except.bind, List.reverse_append, List.reverse_singleton,
      List.singleton_append]

theorem importSpecifier_of_addresses {cwd base directory : Address} {name : String}
    {router module : Path} (hmodule : addressOf cwd module = .ok (directory ++ [name]))
    (hrouter : addressOf cwd router = .ok base) :
    importSpecifier cwd router module
      = .ok (specifier (Address.relativeTo base.dropLast
          (Address.step directory (dropSuffix name)))) := by
  rw [importSpecifier, hmodule, hrouter]
  simp only [bind, Except.bind, List.reverse_append, List.reverse_singleton, List.singleton_append,
    List.reverse_reverse]
  rfl

/-- A way to a place whose names are names of files leads there as a text as well. -/
theorem resolve_followedBy_specifier {base target : Address} (cwd : Address)
    (hbase : ∀ name ∈ base, IsFileName name) (htarget : ∀ name ∈ target, IsFileName name) :
    ((Path.ofAddress base).followedBy
      (.ofString (specifier (Address.relativeTo base target)))).resolve cwd = target := by
  have hsteps : ∀ name ∈ Address.relativeTo base target, IsStepName name := by
    intro name hname
    rcases Address.mem_relativeTo hname with rfl | hmem
    · exact isStepName_up
    · exact (htarget name hmem).isStepName
  rw [ofString_specifier hsteps]
  show Address.walk [] (base ++ Address.relativeTo base target) = target
  rw [Address.walk_append, Address.walk_eq_of_plain fun name hname => (hbase name hname).plain]
  exact Address.walk_relativeTo (fun name hname => (htarget name hname).plain) base

/--
**From the directory of the component the specifier leads to the routes module.**

Let the routes module be given by any path that does not lead to the root of the file system, and
the component by any path at all. If there is U+0000 in one of them, or on the way to the current
directory, there is no specifier. Otherwise there is one, and it starts with a dot. Behind the
directory of the component it leads where the path of the module leads without the suffix of its
last name. This is the stem in the directory of the module, unless the stem is `.` or `..`, as that
of `..tsx` and `...tsx` is.
-/
theorem importSpecifier_leads_to_module {cwd : Address} (hcwd : ∀ name ∈ cwd, IsFileName name)
    (router module : String) (hroot : (Path.ofString module).resolve cwd ≠ []) :
    ∃ directory name stem, (Path.ofString module).resolve cwd = directory ++ [name] ∧
      IsStem stem name ∧
      let specified := importSpecifier cwd (.ofString router) (.ofString module)
      ((Path.ofString router).address? cwd = none ∨ (Path.ofString module).address? cwd = none →
        specified = .error .nulInText) ∧
      ((Path.ofString router).address? cwd ≠ none → (Path.ofString module).address? cwd ≠ none →
        ∃ text, specified = .ok text ∧ text.toList.head? = some '.' ∧
          let base := ((Path.ofString router).resolve cwd).dropLast
          let joined := (Path.ofAddress base).followedBy (.ofString text)
          joined.resolve cwd = (Path.ofAddress (directory ++ [stem])).resolve cwd ∧
            (Address.IsPlain stem → joined.resolve cwd = directory ++ [stem])) := by
  obtain ⟨directory, name, hmodule⟩ : ∃ directory name,
      (Path.ofString module).resolve cwd = directory ++ [name] :=
    ⟨_, _, (List.dropLast_append_getLast hroot).symm⟩
  have hnames : ∀ n ∈ directory ++ [name], IsFileName n := by
    rw [← hmodule]
    exact fun n => isFileName_of_mem_resolve hcwd
  obtain ⟨hdirectory, hname⟩ := List.forall_mem_append.mp hnames
  have hstem : IsStem (dropSuffix name) name := isStem_iff.mpr rfl
  refine ⟨directory, name, dropSuffix name, hmodule, hstem, importSpecifier_of_nul hmodule,
    fun hrouter hreadable => ?_⟩
  have hbase : ∀ n ∈ ((Path.ofString router).resolve cwd).dropLast, IsFileName n := fun n hn =>
    isFileName_of_mem_resolve hcwd ((List.dropLast_sublist _).subset hn)
  have hslash : '/' ∉ (dropSuffix name).toList :=
    hstem.noSlash (hname name (List.mem_singleton_self name)).noSlash
  have hmoduleAddress := addressOf_of_ne_none hreadable
  rw [hmodule] at hmoduleAddress
  have hjoined := resolve_followedBy_specifier cwd hbase
    fun n => isFileName_of_mem_step hdirectory hslash
  refine ⟨_, importSpecifier_of_addresses hmoduleAddress (addressOf_of_ne_none hrouter),
    head?_specifier _, ?_, fun hplain => ?_⟩
  · rw [hjoined, resolve_ofAddress_concat hdirectory]
  · rw [hjoined, Address.step_eq_of_plain hplain]

/-- Of two suffixes the last one is left out, and the two paths have one directory in common. -/
theorem importSpecifier_leads_to_module_gen :
    let cwd : Address := ["work", "app"]
    ∃ text, importSpecifier cwd (.ofString "src/../lib/./Router.tsx")
        (.ofString "/work//gen/routes.d.ts") = .ok text ∧
      text.toList.head? = some '.' ∧
      ((Path.ofAddress ["work", "app", "lib"]).followedBy (.ofString text)).resolve cwd
        = ["work", "gen", "routes.d"] := by
  intro cwd
  have hcwd : ∀ name ∈ cwd, IsFileName name := by decide
  have hmodule : (Path.ofString "/work//gen/routes.d.ts").resolve cwd
      = ["work", "gen"] ++ ["routes.d.ts"] := by decide +kernel
  have hrouter : ((Path.ofString "src/../lib/./Router.tsx").resolve cwd).dropLast
      = ["work", "app", "lib"] := by decide +kernel
  obtain ⟨directory, name, stem, hsplit, hstem, -, hok⟩ :=
    importSpecifier_leads_to_module hcwd "src/../lib/./Router.tsx" "/work//gen/routes.d.ts"
      (by rw [hmodule]; exact List.append_ne_nil_of_right_ne_nil _ (List.cons_ne_nil _ _))
  obtain ⟨rfl, hname⟩ := List.append_inj' (hmodule.symm.trans hsplit) rfl
  obtain rfl := (List.cons.inj hname).1
  obtain rfl : stem = "routes.d" := (isStem_iff.mp hstem).trans (by decide +kernel)
  obtain ⟨text, htext, hdot, -, hleads⟩ := hok (by decide +kernel) (by decide +kernel)
  rw [hrouter] at hleads
  exact ⟨text, htext, hdot, hleads ⟨by decide, by decide, by decide⟩⟩

-- A stem that leads up does so.
example : (importSpecifier ["work", "app"] (.ofString "src/Router.tsx")
    (.ofString "src/...tsx")).toOption = some ".." := by
  decide +kernel

end RouterComponent

end PageRoutes
