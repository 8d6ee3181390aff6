import PageRoutes.Proofs.ImportSpecifier

/-!
# Whether the specifier of the routes module is relative

Who reads an import tells paths and packages apart by the beginning of the specifier: a path begins
with `.` or `..`, alone or before a slash. The way to the routes module gets `./` in front unless it
starts with a dot, so a hidden name at its beginning is left bare.

* `isRelative_iff` — a relative specifier, by its first name.
* `isRelative_specifier_iff` — the specifier of a way, by the first name on the way.
* `importSpecifier_isRelative_iff` — the specifier of the routes module is relative unless the
  module lies below the directory of the component and the way down begins with a hidden name.
-/

namespace PageRoutes

open Text

/-- The name starts with a dot. -/
def IsDotted (name : String) : Prop :=
  name.toList.head? = some '.'

instance (name : String) : Decidable (IsDotted name) :=
  inferInstanceAs (Decidable (_ = _))

/-! ## The first name of a text -/

/-- The first piece is the whole text, or a separator ends it. -/
theorem Text.head?_splitChars_iff {sep : Char} {word cs : List Char} (h : sep ∉ word) :
    (splitChars sep cs).head? = some word ↔ cs = word ∨ word ++ [sep] <+: cs := by
  by_cases hsep : sep ∈ cs
  · obtain ⟨before, after, rfl, hbefore⟩ := List.eq_append_cons_of_mem hsep
    rw [splitChars_append, splitChars_of_not_mem hbefore]
    constructor
    · intro hhead
      obtain rfl := Option.some.inj hhead
      exact .inr ⟨after, by simp⟩
    · rintro (rfl | ⟨rest, hrest⟩)
      · exact absurd hsep h
      · -- Both are the beginning before the first separator.
        have hsplit := congrArg (splitChars sep) hrest
        rw [List.append_assoc, List.singleton_append, splitChars_append, splitChars_append,
          splitChars_of_not_mem h, splitChars_of_not_mem hbefore] at hsplit
        exact congrArg List.head? hsplit.symm
  · rw [splitChars_of_not_mem hsep]
    constructor
    · intro hhead
      exact .inl (Option.some.inj hhead)
    · rintro (rfl | ⟨rest, rfl⟩)
      · rfl
      · exact absurd (by simp) hsep

namespace RouterComponent

/-- A specifier that is read as a path: it is `.` or `..`, or starts with `./` or `../`. -/
def IsRelative (specifier : String) : Prop :=
  specifier = "." ∨ specifier = ".." ∨
    "./".toList <+: specifier.toList ∨ "../".toList <+: specifier.toList

instance (specifier : String) : Decidable (IsRelative specifier) :=
  inferInstanceAs (Decidable (_ ∨ _ ∨ _ ∨ _))

/-- **A relative specifier has `.` or `..` for its first name.** -/
theorem isRelative_iff {specifier : String} :
    IsRelative specifier
      ↔ (split '/' specifier).head? = some "." ∨ (split '/' specifier).head? = some ".." := by
  have hfirst : ∀ word : String, '/' ∉ word.toList →
      ((split '/' specifier).head? = some word
        ↔ specifier = word ∨ word.toList ++ ['/'] <+: specifier.toList) := by
    intro word hword
    rw [split, List.head?_map, ← String.toList_inj, ← head?_splitChars_iff hword,
      Option.map_eq_some_iff]
    constructor
    · rintro ⟨cs, hcs, rfl⟩
      rw [hcs, String.toList_ofList]
    · intro hhead
      exact ⟨_, hhead, String.ofList_toList⟩
  have hhere : ".".toList ++ ['/'] = "./".toList := rfl
  have hup : "..".toList ++ ['/'] = "../".toList := rfl
  rw [hfirst "." (by decide), hfirst ".." (by decide), hhere, hup, or_or_or_comm, or_assoc]
  rfl

variable {names : List String} {first : String}

theorem head?_join_cons (h : first ≠ "") (rest : List String) :
    (join '/' (first :: rest)).toList.head? = first.toList.head? := by
  have hne : first.toList ≠ [] := fun hnil => h (String.toList_eq_nil_iff.mp hnil)
  cases rest with
  | nil => rw [toList_join_singleton]
  | cons next rest => rw [toList_join_cons_cons, List.head?_append_of_ne_nil _ hne]

/-- A way that does not begin with a dot gets one in front. -/
theorem specifier_cons (h : first ≠ "") (rest : List String) :
    specifier (first :: rest)
      = if IsDotted first then join '/' (first :: rest) else "./" ++ join '/' (first :: rest) := by
  have htext : Path.text { anchor := .relative, names := first :: rest }
      = join '/' (first :: rest) := by
    rw [Path.text, if_neg fun hnil => List.cons_ne_nil _ _ hnil.2, Anchor.text, String.empty_append]
  rw [specifier, htext, head?_join_cons h]
  rfl

/-- **The specifier of a way is relative unless the way begins with a hidden name.** -/
theorem isRelative_specifier_iff (h : ∀ name ∈ names, IsStepName name) :
    IsRelative (specifier names) ↔ ∀ first rest, names = first :: rest → IsDotted first →
      first = ".." := by
  cases names with
  | nil => exact iff_of_true (.inl rfl) nofun
  | cons first rest =>
    have hfirst := h first List.mem_cons_self
    rw [specifier_cons hfirst.moves.1]
    by_cases hdot : IsDotted first
    · rw [if_pos hdot, isRelative_iff,
        split_join (List.cons_ne_nil _ _) fun name hname => (h name hname).noSlash]
      constructor
      · rintro (hhere | hup) first' rest' hway -
        · exact absurd (Option.some.inj hhere) hfirst.moves.2
        · obtain ⟨rfl, -⟩ := List.cons.inj hway
          exact Option.some.inj hup
      · intro hall
        exact .inr (congrArg some (hall first rest rfl hdot))
    · rw [if_neg hdot]
      refine iff_of_true (.inr (.inr (.inl ⟨(join '/' (first :: rest)).toList, ?_⟩))) ?_
      · rw [String.toList_append]
      · intro first' rest' hway hdot'
        obtain ⟨rfl, -⟩ := List.cons.inj hway
        exact absurd hdot' hdot

/-! ## The way to the module -/

section

variable {base target : Address} (htarget : ∀ name ∈ target, IsFileName name)
include htarget

theorem isStepName_of_mem_relativeTo {name : String} (h : name ∈ Address.relativeTo base target) :
    IsStepName name := by
  rcases Address.mem_relativeTo h with rfl | hmem
  · exact isStepName_up
  · exact (htarget name hmem).isStepName

/-- A way begins with a hidden name just if it leads down through it. -/
theorem isRelative_specifier_relativeTo_iff :
    IsRelative (specifier (Address.relativeTo base target))
      ↔ ∀ first rest, target = base ++ first :: rest → ¬IsDotted first := by
  rw [isRelative_specifier_iff fun name => isStepName_of_mem_relativeTo htarget]
  constructor
  · intro hway first rest hdown hdot
    have hplain : first ≠ ".." := (htarget first (by simp [hdown])).plain.2.2
    exact hplain (hway first rest ((Address.relativeTo_eq_cons_iff hplain).mpr hdown) hdot)
  · intro hdown first rest hway hdot
    by_contra hup
    exact hdown first rest ((Address.relativeTo_eq_cons_iff hup).mp hway) hdot

/-- The way down through a hidden name is the specifier as it stands. -/
theorem specifier_relativeTo_of_isDotted {first : String} {rest : List String}
    (hdown : target = base ++ first :: rest) (hdot : IsDotted first) :
    specifier (Address.relativeTo base target) = join '/' (first :: rest) := by
  have hplain : Address.IsPlain first := (htarget first (by simp [hdown])).plain
  rw [(Address.relativeTo_eq_cons_iff hplain.2.2).mpr hdown, specifier_cons hplain.1, if_pos hdot]

end

/--
**The specifier of the routes module is relative, unless a hidden name begins the way.**

Let the routes module be given by any path that does not lead to the root of the file system, and
the component by any path at all. There is no specifier if there is U+0000 in one of them or on the
way to the current directory. Otherwise there is one. It is relative if and only if the module,
without the suffix of its last name, does not lie below the directory of the component behind a name
that starts with a dot. If it does so, the specifier is the way down and nothing more.
-/
theorem importSpecifier_isRelative_iff {cwd : Address} (hcwd : ∀ name ∈ cwd, IsFileName name)
    (router module : String) (hroot : (Path.ofString module).resolve cwd ≠ []) :
    ∃ directory name stem, (Path.ofString module).resolve cwd = directory ++ [name] ∧
      IsStem stem name ∧
      let specified := importSpecifier cwd (.ofString router) (.ofString module)
      let base := ((Path.ofString router).resolve cwd).dropLast
      let target := (Path.ofAddress (directory ++ [stem])).resolve cwd
      ((Path.ofString router).address? cwd = none ∨ (Path.ofString module).address? cwd = none →
        specified = .error .nulInText) ∧
      ((Path.ofString router).address? cwd ≠ none → (Path.ofString module).address? cwd ≠ none →
        ∃ text, specified = .ok text ∧
          (IsRelative text ↔ ∀ first rest, target = base ++ first :: rest → ¬IsDotted first) ∧
          ∀ first rest, target = base ++ first :: rest → IsDotted first →
            text = join '/' (first :: rest)) := by
  obtain ⟨directory, name, hmodule⟩ : ∃ directory name,
      (Path.ofString module).resolve cwd = directory ++ [name] :=
    ⟨_, _, (List.dropLast_append_getLast hroot).symm⟩
  have hnames : ∀ n ∈ directory ++ [name], IsFileName n := by
    rw [← hmodule]
    exact fun n => isFileName_of_mem_resolve hcwd
  obtain ⟨hdirectory, hname⟩ := List.forall_mem_append.mp hnames
  have hstem : IsStem (dropSuffix name) name := isStem_iff.mpr rfl
  have hslash : '/' ∉ (dropSuffix name).toList :=
    hstem.noSlash (hname name (List.mem_singleton_self name)).noSlash
  refine ⟨directory, name, dropSuffix name, hmodule, hstem, importSpecifier_of_nul hmodule,
    fun hrouter hreadable => ?_⟩
  have hmoduleAddress := addressOf_of_ne_none hreadable
  rw [hmodule] at hmoduleAddress
  rw [resolve_ofAddress_concat hdirectory]
  have htarget : ∀ n ∈ Address.step directory (dropSuffix name), IsFileName n :=
    fun n => isFileName_of_mem_step hdirectory hslash
  exact ⟨_, importSpecifier_of_addresses hmoduleAddress (addressOf_of_ne_none hrouter),
    isRelative_specifier_relativeTo_iff htarget,
    fun first rest => specifier_relativeTo_of_isDotted htarget⟩

/-- A hidden name behind `..` does no harm. -/
theorem importSpecifier_isRelative_above :
    let cwd : Address := ["work", "app"]
    (∀ name ∈ cwd, IsFileName name) ∧ (Path.ofString ".gen/routes.d.ts").resolve cwd ≠ [] ∧
      ∃ text, importSpecifier cwd (.ofString "src/Router.tsx") (.ofString ".gen/routes.d.ts")
        = .ok text ∧ IsRelative text := by
  intro cwd
  have hcwd : ∀ name ∈ cwd, IsFileName name := by decide
  have hmodule : (Path.ofString ".gen/routes.d.ts").resolve cwd
      = ["work", "app", ".gen"] ++ ["routes.d.ts"] := by decide +kernel
  have hrouter : ((Path.ofString "src/Router.tsx").resolve cwd).dropLast
      = ["work", "app"] ++ ["src"] := by decide +kernel
  have hroot : (Path.ofString ".gen/routes.d.ts").resolve cwd ≠ [] :=
    hmodule ▸ List.append_ne_nil_of_right_ne_nil _ (List.cons_ne_nil _ _)
  obtain ⟨directory, name, stem, hsplit, hstem, -, hok⟩ :=
    importSpecifier_isRelative_iff hcwd "src/Router.tsx" ".gen/routes.d.ts" hroot
  obtain ⟨rfl, hname⟩ := List.append_inj' (hmodule.symm.trans hsplit) rfl
  obtain rfl := (List.cons.inj hname).1
  obtain rfl : stem = "routes.d" := (isStem_iff.mp hstem).trans (by decide +kernel)
  obtain ⟨text, htext, hrelative, -⟩ := hok (by decide +kernel) (by decide +kernel)
  refine ⟨hcwd, hroot, text, htext, hrelative.mpr fun first rest hdown => ?_⟩
  -- The module does not lie below the directory of the component.
  have htarget : (Path.ofAddress (["work", "app", ".gen"] ++ ["routes.d"])).resolve cwd
      = ["work", "app"] ++ [".gen", "routes.d"] := by decide +kernel
  rw [htarget, hrouter, List.append_assoc, List.append_cancel_left_eq] at hdown
  exact absurd (List.cons.inj hdown).1 (by decide)

/-- A module in a hidden directory beside the component is imported as if it were a package. -/
theorem hidden_directory_is_no_path :
    let cwd : Address := ["work", "app"]
    (∀ name ∈ cwd, IsFileName name) ∧ (Path.ofString "src/.gen/routes.tsx").resolve cwd ≠ [] ∧
      (importSpecifier cwd (.ofString "src/Router.tsx") (.ofString "src/.gen/routes.tsx")).toOption
        = some ".gen/routes" ∧
      ¬IsRelative ".gen/routes" := by
  decide +kernel

end RouterComponent

end PageRoutes
