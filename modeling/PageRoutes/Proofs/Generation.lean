import PageRoutes.Proofs.FileUpdates
import PageRoutes.Proofs.Regeneration

/-!
# What a generation leaves behind

A generation brings the routes module up to date, and then its declaration if that has a path. Its
answer is about both.

* `getLast?_source`, `getLast?_moduleDeclaration` — generated texts end in a line feed, so none is
  added when they are written.
* `generate_answer`, `not_isSettled_iff` — the answer is no just if the files were as they should
  be, and what it means that they were not.
* `generation_brings_up_to_date` — after a generation that succeeds both files are as they should
  be, and its answer says whether they were before.
-/

namespace PageRoutes

open Text FileSystem

/-! ## The ends of generated texts -/

theorem getLast?_toList_append {text : String} {c : Char} (before : String)
    (h : text.toList.getLast? = some c) : (before ++ text).toList.getLast? = some c := by
  rw [String.toList_append, List.getLast?_append, h, Option.some_or]

/-- Joined pieces end as the last ones of them do. -/
theorem getLast?_intercalate {separator : String} {pieces last : List String} {c : Char}
    (hsuffix : last <:+ pieces) (hne : last ≠ [])
    (h : (separator.intercalate last).toList.getLast? = some c) :
    (separator.intercalate pieces).toList.getLast? = some c := by
  obtain ⟨before, rfl⟩ := hsuffix
  induction before with
  | nil => exact h
  | cons piece before ih =>
    obtain ⟨next, rest, hrest⟩ :=
      List.exists_cons_of_ne_nil (List.append_ne_nil_of_right_ne_nil before hne)
    rw [hrest] at ih
    rw [List.cons_append, hrest, String.intercalate_cons_cons]
    exact getLast?_toList_append _ ih

/-- **A routes module ends in a line feed**, whatever its parts are. -/
theorem getLast?_source (m : RoutesModule) : m.source.toList.getLast? = some '\n' := by
  unfold RoutesModule.source
  refine getLast?_intercalate (List.suffix_append _ _) (List.cons_ne_nil _ _) ?_
  rw [String.intercalate_singleton]
  split
  · decide
  · exact getLast?_toList_append _ (by decide)

/-- **A module declaration ends in a line feed.** -/
theorem getLast?_moduleDeclaration (moduleName : String) :
    (moduleDeclaration moduleName).toList.getLast? = some '\n' := by
  -- The last two pieces do not depend on the name.
  have hend : ("\n".intercalate ["\x7d", ""]).toList.getLast? = some '\n' := by decide
  exact getLast?_intercalate (List.drop_suffix 13 _) (List.cons_ne_nil "\x7d" [""]) hend

/-! ## The answer -/

section

variable {s : Settings} {m : RoutesModule} {path : Path} {w w' : Workspace} {changed : Bool}

/-- The answer says whether the file was as it should be. -/
theorem writeIfChanged_answer {bytes : Bytes}
    (h : (writeIfChanged path bytes).eval w = (.ok changed, w')) :
    (changed = false ↔ w.files.Holds path (withLineFeed bytes)) ∧
      (changed = false → w'.files = w.files) := by
  refine ⟨⟨?_, fun hholds => ?_⟩, ?_⟩
  · rintro rfl
    exact (writeIfChanged_eq_false_iff.mp h).1
  · rw [eval_writeIfChanged_of_holds hholds] at h
    exact (Except.ok.inj (Prod.mk.inj h).1).symm
  · rintro rfl
    rw [(writeIfChanged_eq_false_iff.mp h).2]

/-- **The answer of a generation says whether its files were as they should be.** -/
theorem generate_answer (h : (generate s).eval w = (.ok changed, w'))
    (hm : (compileModule s w.files).result = .ok m) :
    changed = false ↔ s.IsSettled w.files m := by
  constructor
  · rintro rfl
    rw [generate_eq] at h
    obtain ⟨written, w₁, hmodule, h⟩ := Action.eval_bind_eq_ok_iff.mp h
    obtain ⟨m', path, w₀, w₂, hm', hpath, hbefore, hwrite, hafter⟩ :=
      writeModule_compiled_eq_ok hmodule
    obtain rfl := Except.ok.inj (hm.symm.trans hm')
    obtain ⟨hmoduleAnswer, hmoduleSame⟩ := writeIfChanged_answer hwrite
    rw [hbefore] at hmoduleAnswer hmoduleSame
    cases hdeclarations : s.declarations with
    | none =>
      rw [hdeclarations] at h
      have hwritten : written = false := Except.ok.inj (Prod.mk.inj h).1
      exact ⟨⟨path, hpath, hmoduleAnswer.mp hwritten⟩, by simp [hdeclarations]⟩
    | some declarations =>
      rw [hdeclarations, Option.isSome_some, if_pos rfl] at h
      obtain ⟨declared, w₃, hdeclaration, h⟩ := Action.eval_bind_eq_ok_iff.mp h
      have hnone : (declared || written) = false := Except.ok.inj (Prod.mk.inj h).1
      obtain ⟨hdeclared, hwritten⟩ := Bool.or_eq_false_iff.mp hnone
      obtain ⟨moduleName, hname, hupdate⟩ := writeDeclaration_is_update hdeclarations hdeclaration
      have hholds := (writeIfChanged_answer hupdate).1.mp hdeclared
      -- The module was not written, so the declaration is looked for in the same files.
      rw [hafter, hmoduleSame hwritten] at hholds
      refine ⟨⟨path, hpath, hmoduleAnswer.mp hwritten⟩, fun other hother => ?_⟩
      rw [hdeclarations] at hother
      exact Option.some.inj hother ▸ ⟨moduleName, hname, hholds⟩
  · intro hsettled
    obtain ⟨log, hrun⟩ := eval_generate_of_isSettled hm hsettled
    rw [hrun] at h
    exact (Except.ok.inj (Prod.mk.inj h).1).symm

/-- Nothing is added to generated texts, so the files hold just these if they are as they should
be. -/
theorem Settings.isSettled_iff {fs : FileSystem} (hpath : s.output = some path) :
    s.IsSettled fs m ↔
      fs.Holds path (Encoding.utf8Bytes m.source) ∧
        ∀ declarations, s.declarations = some declarations → ∃ moduleName,
          s.moduleName = some moduleName ∧
            fs.Holds declarations (Encoding.utf8Bytes (moduleDeclaration moduleName)) := by
  have hmodule : withLineFeed (Encoding.utf8Bytes m.source) = Encoding.utf8Bytes m.source :=
    withLineFeed_utf8Bytes (getLast?_source m)
  have hdeclaration := fun name => withLineFeed_utf8Bytes (getLast?_moduleDeclaration name)
  constructor
  · rintro ⟨⟨path', hpath', hholds⟩, hdeclared⟩
    obtain rfl := Option.some.inj (hpath.symm.trans hpath')
    simp only [hmodule, hdeclaration] at hholds hdeclared
    exact ⟨hholds, hdeclared⟩
  · rintro ⟨hholds, hdeclared⟩
    refine ⟨⟨path, hpath, ?_⟩, ?_⟩
    · rwa [hmodule]
    · simpa only [hdeclaration] using hdeclared

/-- If there is a module name for the declaration, the files are not as they should be just if one
of them holds something else or is missing. -/
theorem Settings.not_isSettled_iff {fs : FileSystem} (hpath : s.output = some path)
    (hnamed : ∀ declarations, s.declarations = some declarations →
      ∃ moduleName, s.moduleName = some moduleName) :
    ¬s.IsSettled fs m ↔
      ¬fs.Holds path (Encoding.utf8Bytes m.source) ∨
        ∃ declarations moduleName, s.declarations = some declarations ∧
          s.moduleName = some moduleName ∧
          ¬fs.Holds declarations (Encoding.utf8Bytes (moduleDeclaration moduleName)) := by
  rw [isSettled_iff hpath, not_and_or]
  refine or_congr_right ⟨fun hmissing => ?_, ?_⟩
  · obtain ⟨declarations, hmissing⟩ := not_forall.mp hmissing
    obtain ⟨hdeclarations, hmissing⟩ := Classical.not_imp.mp hmissing
    obtain ⟨moduleName, hname⟩ := hnamed declarations hdeclarations
    exact ⟨declarations, moduleName, hdeclarations, hname, fun hholds =>
      hmissing ⟨moduleName, hname, hholds⟩⟩
  · rintro ⟨declarations, moduleName, hdeclarations, hname, hmissing⟩ hall
    obtain ⟨other, hother, hholds⟩ := hall declarations hdeclarations
    obtain rfl := Option.some.inj (hname.symm.trans hother)
    exact hmissing hholds

end

namespace Session

/--
**A generation brings its files up to date.**

Let the module and its declaration be two files. After a generation that succeeds the first one
holds the module compiled from the files before it, and the second one, if it has a path, the
declaration of the module name; the answer is yes just if one of them did not hold this before. No
generated module needs a line feed at its end, so what is written of any module is its text.
-/
theorem generation_brings_up_to_date (session : Session)
    (hdiffer : session.settings.TargetsDiffer session.files.cwd) :
    let s := session.settings
    let before := session.files
    let after := session.generated.files
    (∀ r, session.generation = .ok r → ∃ output m changed,
      s.output = some output ∧ (compileModule s before).result = .ok m ∧ r = .changed changed ∧
      after.Holds output (Encoding.utf8Bytes m.source) ∧
      (∀ declarations, s.declarations = some declarations → ∃ moduleName,
        s.moduleName = some moduleName ∧
          after.Holds declarations (Encoding.utf8Bytes (moduleDeclaration moduleName))) ∧
      (changed = true ↔
        ¬before.Holds output (Encoding.utf8Bytes m.source) ∨
        ∃ declarations moduleName, s.declarations = some declarations ∧
          s.moduleName = some moduleName ∧
          ¬before.Holds declarations (Encoding.utf8Bytes (moduleDeclaration moduleName)))) ∧
    (∀ m : RoutesModule, m.source.toList.getLast? = some '\n') ∧
    ∀ output m w changed w', (writeModule s output (some m)).eval w = (.ok changed, w') →
      ∃ path, output.or s.output = some path ∧
        w'.files.Holds path (Encoding.utf8Bytes m.source) := by
  intro s before after
  refine ⟨fun r h => ?_, getLast?_source, fun output m w changed w' h => ?_⟩
  · obtain ⟨changed, w', hrun, hgenerated⟩ := generation_eq_ok h
    obtain ⟨m, hm, hsettled, -⟩ := generate_eq_ok hdiffer hrun
    obtain ⟨output, houtput, -⟩ := hsettled.output
    have hafter : after = w'.files := congrArg Session.files hgenerated
    rw [generation_eq, eval_run_generate, hrun] at h
    obtain ⟨hmodule, hdeclared⟩ := (Settings.isSettled_iff houtput).mp hsettled
    refine ⟨output, m, changed, houtput, hm, (Except.ok.inj h).symm, hafter ▸ hmodule,
      hafter ▸ hdeclared, ?_⟩
    rw [← Bool.not_eq_false, generate_answer hrun hm]
    refine Settings.not_isSettled_iff houtput fun declarations hdeclarations => ?_
    obtain ⟨moduleName, hname, -⟩ := hdeclared declarations hdeclarations
    exact ⟨moduleName, hname⟩
  · obtain ⟨path, w₁, hpath, hwrite, hfiles⟩ := writeModule_given_eq_ok h
    have hholds := (writeIfChanged_eq_ok hwrite).1
    rw [withLineFeed_utf8Bytes (getLast?_source m)] at hholds
    exact ⟨path, hpath, hfiles ▸ hholds⟩

/-- In the project of one page both files are missing, so the answer is yes. -/
theorem generation_brings_up_to_date_onePage :
    onePage.settings.TargetsDiffer onePage.files.cwd ∧
      onePage.generation = .ok (.changed true) ∧
      (∃ m, (compileModule onePage.settings onePage.files).result = .ok m ∧
        onePage.generated.files.Holds (.ofString "routes.tsx") (Encoding.utf8Bytes m.source)) ∧
      onePage.generated.files.Holds (.ofString "routes.d.ts")
        (Encoding.utf8Bytes (moduleDeclaration "routes")) := by
  obtain ⟨r, hr⟩ := exists_generation_onePage
  obtain ⟨output, m, changed, ⟨⟩, hm, rfl, hmodule, hdeclared, hchanged⟩ :=
    (generation_brings_up_to_date onePage onePage_targetsDiffer).1 r hr
  obtain ⟨_, ⟨⟩, hdeclaration⟩ := hdeclared _ rfl
  have hmissing : ¬onePage.files.Holds (.ofString "routes.tsx") (Encoding.utf8Bytes m.source) := by
    intro hholds
    have hnone : onePage.files.get? ((Path.ofString "routes.tsx").resolve onePage.files.cwd)
        = none := by decide +kernel
    cases hnone.symm.trans hholds.get?
  obtain rfl : changed = true := hchanged.mpr (.inl hmissing)
  exact ⟨onePage_targetsDiffer, hr, ⟨m, hm, hmodule⟩, hdeclaration⟩

end Session

end PageRoutes
