import PageRoutes.Proofs.Actions
import PageRoutes.Proofs.Steps
import PageRoutes.Proofs.ViewFiles

/-!
# Regeneration reaches a fixed point

The generated files may lie below the pages root and be view files themselves, so one generation can
change what the next one finds. But it adds no more files than the generated ones.

* `writeModule_given_eq_ok`, `writeModule_compiled_eq_ok` — a module that is brought up to date is
  one file that is.
* `generate_eq_ok` — a generation that succeeds leaves its files as they should be and changes no
  other file.
* `eval_generate_of_isSettled` — if the files are as they should be, a generation changes nothing.
* `viewTexts_congr` — which view files there are depends on which files there are.
* `generation_reaches_fixedPoint` — after two generations, or one if the generated files are no view
  files, all further ones change nothing.
-/

namespace PageRoutes

open Text FileSystem

namespace Settings

variable {s : Settings} {fs fs' : FileSystem}

/-! ## The view files of two file systems -/

theorem RootIsDirectory.of_frame {targets : List Address} (hroot : s.RootIsDirectory fs)
    (h : Frame targets fs fs') : s.RootIsDirectory fs' := by
  obtain ⟨haddress, hlookup⟩ := hroot
  rw [RootIsDirectory, h.cwd]
  exact ⟨haddress, h.lookup_directory hlookup⟩

/-- Whether a file that is there is selected depends on its path only. -/
theorem IsSelected.of_isFile {names : List String} (h : s.IsSelected fs names)
    (hcwd : fs'.cwd = fs.cwd)
    (hfile : ∃ bytes, fs'.get? (s.rootAddress fs.cwd ++ names) = some (.file bytes)) :
    s.IsSelected fs' names :=
  ⟨h.below, hcwd ▸ hfile, h.extension, h.visible, h.kept⟩

/-- Away from the targets of a frame the same files are selected. -/
theorem isSelected_iff_of_frame {targets : List Address} {names : List String}
    (hframe : Frame targets fs fs') (hnames : s.rootAddress fs.cwd ++ names ∉ targets) :
    s.IsSelected fs' names ↔ s.IsSelected fs names := by
  constructor
  · intro h
    obtain ⟨bytes, hget⟩ := h.isFile
    rw [hframe.cwd] at hget
    refine h.of_isFile hframe.cwd.symm ⟨bytes, ?_⟩
    rw [hframe.cwd]
    exact (hframe.file _ hnames bytes).mp hget
  · intro h
    obtain ⟨bytes, hget⟩ := h.isFile
    exact h.of_isFile hframe.cwd ⟨bytes, (hframe.file _ hnames bytes).mpr hget⟩

/-- **Which view files there are depends on which files there are.** -/
theorem viewTexts_congr (hcwd : fs'.cwd = fs.cwd)
    (h : ∀ names, s.IsSelected fs' names ↔ s.IsSelected fs names) :
    s.viewTexts fs' = s.viewTexts fs := by
  have hviews : (s.views fs').Perm (s.views fs) := by
    refine (List.perm_ext_iff_of_nodup ?_ ?_).mpr fun names => ?_
    · exact (nodup_filesBelow fs' _).filter _
    · exact (nodup_filesBelow fs _).filter _
    · rw [mem_views_iff, mem_views_iff, h]
  have htext : s.viewText fs' = s.viewText fs := by
    funext names
    rw [viewText, viewText, hcwd]
  rw [viewTexts, viewTexts, htext]
  exact sortedTexts_congr (hviews.map _)

/-- Where the same view files are found, the same module is compiled. -/
theorem compileModule_congr (hcwd : fs'.cwd = fs.cwd)
    (h : viewFiles fs' s.root s.extensions s.exclude = viewFiles fs s.root s.extensions s.exclude) :
    compileModule s fs' = compileModule s fs := by
  rw [compileModule, compileModule, compileTree, compileTree, hcwd, h]

/-- A module that was compiled is one of view files that were found. -/
theorem exists_viewFiles_of_compileModule {m : RoutesModule}
    (h : (compileModule s fs).result = .ok m) :
    ∃ files, viewFiles fs s.root s.extensions s.exclude = .ok files := by
  obtain ⟨tree, htree, -⟩ := Outcome.result_bind_eq_ok_iff.mp h
  obtain ⟨root, -, htree⟩ := Outcome.result_bind_eq_ok_iff.mp htree
  obtain ⟨files, hfiles, -⟩ := Outcome.result_bind_eq_ok_iff.mp htree
  exact ⟨files, hfiles⟩

/-- A module is compiled again where, in a frame, the same files are selected. -/
theorem compileModule_of_frame {targets : List Address} {m : RoutesModule}
    (hframe : Frame targets fs fs')
    (h : ∀ names, s.IsSelected fs' names ↔ s.IsSelected fs names)
    (hm : (compileModule s fs).result = .ok m) : (compileModule s fs').result = .ok m := by
  obtain ⟨files, hfiles⟩ := exists_viewFiles_of_compileModule hm
  have hroot := rootIsDirectory_of_viewFiles hfiles
  rw [compileModule_congr hframe.cwd, hm]
  rw [viewFiles_eq hroot, viewFiles_eq (hroot.of_frame hframe), viewTexts_congr hframe.cwd h]

end Settings

/-! ## One generation -/

namespace Settings

/-- Where a generation writes. -/
def targets (s : Settings) (cwd : Address) : List Address :=
  (s.output.toList ++ s.declarations.toList).map (Path.resolve cwd)

/-- The generated files are as they should be for a module. -/
structure IsSettled (s : Settings) (fs : FileSystem) (m : RoutesModule) : Prop where
  /-- The module is written. -/
  output : ∃ path, s.output = some path ∧
    fs.Holds path (withLineFeed (Encoding.utf8Bytes m.source))
  /-- So is its declaration, if it has a path. -/
  declarations : ∀ path, s.declarations = some path → ∃ moduleName, s.moduleName = some moduleName ∧
    fs.Holds path (withLineFeed (Encoding.utf8Bytes (moduleDeclaration moduleName)))

/-- The module and its declaration are two files. -/
def TargetsDiffer (s : Settings) (cwd : Address) : Prop :=
  ∀ output declarations, s.output = some output → s.declarations = some declarations →
    output.resolve cwd ≠ declarations.resolve cwd

end Settings

section

variable {s : Settings} {w w' : Workspace} {changed : Bool} {m : RoutesModule} {path : Path}
  {output : Option Path}

/-- **Bringing a module up to date is bringing one file up to date.** -/
theorem writeModule_given_eq_ok (h : (writeModule s output m).eval w = (.ok changed, w')) :
    ∃ path w₁, output.or s.output = some path ∧
      (writeIfChanged path (Encoding.utf8Bytes m.source)).eval w = (.ok changed, w₁) ∧
      w'.files = w₁.files := by
  rw [writeModule_given_eq] at h
  obtain ⟨path, hpath, h⟩ := Action.of_eval_require_bind h
  obtain ⟨_, _, ⟨⟩, h⟩ := Action.eval_bind_eq_ok_iff.mp h
  obtain ⟨written, w₂, hwrite, h⟩ := Action.eval_bind_eq_ok_iff.mp h
  rw [writeTextIfChanged_eq] at hwrite
  -- What comes behind the write is at most a note.
  have hrest : written = changed ∧ w'.files = w₂.files := by
    split at h
    · obtain ⟨hanswer, rfl⟩ := Prod.mk.inj h
      exact ⟨Except.ok.inj hanswer, rfl⟩
    · rw [Action.eval_bind_of_ok (Action.eval_note _ _)] at h
      obtain ⟨hanswer, rfl⟩ := Prod.mk.inj h
      exact ⟨Except.ok.inj hanswer, rfl⟩
  obtain ⟨rfl, hfiles⟩ := hrest
  exact ⟨path, w₂, hpath, hwrite, hfiles⟩

/-- The module of the view files is brought up to date like a given one. -/
theorem writeModule_compiled_eq_ok (h : (writeModule s).eval w = (.ok changed, w')) :
    ∃ m path w₀ w₁, (compileModule s w.files).result = .ok m ∧ s.output = some path ∧
      w₀.files = w.files ∧
      (writeIfChanged path (Encoding.utf8Bytes m.source)).eval w₀ = (.ok changed, w₁) ∧
      w'.files = w₁.files := by
  rw [writeModule_compiled_eq] at h
  obtain ⟨path, hpath, h⟩ := Action.of_eval_require_bind h
  rw [Action.eval_bind_of_ok (Action.eval_get w)] at h
  obtain ⟨m, w₀, hcompile, h⟩ := Action.eval_bind_eq_ok_iff.mp h
  rw [Action.eval_ofOutcome] at hcompile
  obtain ⟨hm, rfl⟩ := Prod.mk.inj hcompile
  obtain ⟨_, w₁, ⟨⟩, hwrite, hfiles⟩ := writeModule_given_eq_ok h
  refine ⟨m, path, _, w₁, hm, hpath, ?_, hwrite, hfiles⟩
  rfl

/-- The steps of bringing the module up to date. -/
theorem writeModule_eq (s : Settings) :
    writeModule s = (do
      let path ← Action.require .path s.output
      let w ← get
      let m ← Action.ofOutcome (compileModule s w.files)
      let changed ← writeTextIfChanged path m.source
      if changed then pure changed
      else do
        Action.note (.moduleUpToDate path)
        pure changed) := rfl

theorem writeModule_eq_ok (h : (writeModule s).eval w = (.ok changed, w')) :
    ∃ path m, s.output = some path ∧ (compileModule s w.files).result = .ok m ∧
      w'.files.Holds path (withLineFeed (Encoding.utf8Bytes m.source)) ∧
      Frame [path.resolve w.files.cwd] w.files w'.files := by
  obtain ⟨m, path, w₀, w₁, hm, hpath, hbefore, hwrite, hafter⟩ := writeModule_compiled_eq_ok h
  obtain ⟨hholds, hframe⟩ := writeIfChanged_eq_ok hwrite
  rw [hbefore] at hframe
  rw [hafter]
  exact ⟨path, m, hpath, hm, hholds, hframe⟩

theorem eval_writeModule_of_holds (hpath : s.output = some path)
    (hm : (compileModule s w.files).result = .ok m)
    (hholds : w.files.Holds path (withLineFeed (Encoding.utf8Bytes m.source))) :
    ∃ log, (writeModule s).eval w = (.ok false, { w with log }) := by
  have hrequire : (Action.require .path s.output).eval w = (.ok path, w) :=
    Action.eval_require_of_some hpath w
  have hcompile := Action.eval_ofOutcome (compileModule s w.files) w
  rw [hm] at hcompile
  have hwrite : (writeIfChanged path (Encoding.utf8Bytes m.source)).eval
      { w with log := w.log ++ (compileModule s w.files).log } = (.ok false, _) :=
    eval_writeIfChanged_of_holds hholds
  rw [writeModule_eq, Action.eval_bind_of_ok hrequire, Action.eval_bind_of_ok (Action.eval_get w),
    Action.eval_bind_of_ok hcompile, writeTextIfChanged_eq, Action.eval_bind_of_ok hwrite,
    if_neg Bool.false_ne_true, Action.eval_bind_of_ok (Action.eval_note _ _)]
  exact ⟨_, rfl⟩

/-- The steps of bringing the declaration up to date. -/
theorem writeDeclaration_eq (hpath : s.declarations = some path) :
    writeDeclaration s = (do
      let moduleName ← Action.require .text s.moduleName
      writeTextIfChanged path (moduleDeclaration moduleName)) := by
  rw [writeDeclaration, hpath]
  rfl

/-- The declaration is one file as well. -/
theorem writeDeclaration_is_update (hpath : s.declarations = some path)
    (h : (writeDeclaration s).eval w = (.ok changed, w')) :
    ∃ moduleName, s.moduleName = some moduleName ∧
      (writeIfChanged path (Encoding.utf8Bytes (moduleDeclaration moduleName))).eval w
        = (.ok changed, w') := by
  rw [writeDeclaration_eq hpath] at h
  obtain ⟨moduleName, hname, h⟩ := Action.of_eval_require_bind h
  rw [writeTextIfChanged_eq] at h
  exact ⟨moduleName, hname, h⟩

theorem writeDeclaration_eq_ok (hpath : s.declarations = some path)
    (h : (writeDeclaration s).eval w = (.ok changed, w')) :
    (∃ moduleName, s.moduleName = some moduleName ∧
      w'.files.Holds path (withLineFeed (Encoding.utf8Bytes (moduleDeclaration moduleName)))) ∧
      Frame [path.resolve w.files.cwd] w.files w'.files := by
  obtain ⟨moduleName, hname, hwrite⟩ := writeDeclaration_is_update hpath h
  obtain ⟨hholds, hframe⟩ := writeIfChanged_eq_ok hwrite
  exact ⟨⟨moduleName, hname, hholds⟩, hframe⟩

theorem eval_writeDeclaration_of_holds {moduleName : String} (hpath : s.declarations = some path)
    (hname : s.moduleName = some moduleName)
    (hholds : w.files.Holds path
      (withLineFeed (Encoding.utf8Bytes (moduleDeclaration moduleName)))) :
    (writeDeclaration s).eval w = (.ok false, w) := by
  have hrequire : (Action.require .text s.moduleName).eval w = (.ok moduleName, w) :=
    Action.eval_require_of_some hname w
  rw [writeDeclaration_eq hpath, Action.eval_bind_of_ok hrequire, writeTextIfChanged_eq]
  exact eval_writeIfChanged_of_holds hholds

/-- The steps of a generation. -/
theorem generate_eq (s : Settings) :
    generate s = (do
      let changed ← writeModule s
      if s.declarations.isSome then do
        let declared ← writeDeclaration s
        pure (declared || changed)
      else pure changed) := rfl

/-- **A generation that succeeds leaves its files as they should be** and changes no other file. -/
theorem generate_eq_ok (hdiffer : s.TargetsDiffer w.files.cwd)
    (h : (generate s).eval w = (.ok changed, w')) :
    ∃ m, (compileModule s w.files).result = .ok m ∧ s.IsSettled w'.files m ∧
      Frame (s.targets w.files.cwd) w.files w'.files := by
  rw [generate_eq] at h
  obtain ⟨moduleChanged, w₁, hmodule, h⟩ := Action.eval_bind_eq_ok_iff.mp h
  obtain ⟨output, m, houtput, hm, hholds, hframe⟩ := writeModule_eq_ok hmodule
  have hmem : output.resolve w.files.cwd ∈ s.targets w.files.cwd :=
    List.mem_map_of_mem (List.mem_append_left _ (Option.mem_toList.mpr houtput))
  have hframe : Frame (s.targets w.files.cwd) w.files w₁.files :=
    hframe.mono fun a ha => List.mem_singleton.mp ha ▸ hmem
  cases hdeclarations : s.declarations with
  | none =>
    rw [hdeclarations] at h
    obtain rfl := (Prod.mk.inj h).2
    exact ⟨m, hm, ⟨⟨output, houtput, hholds⟩, by simp [hdeclarations]⟩, hframe⟩
  | some declarations =>
    rw [hdeclarations, Option.isSome_some, if_pos rfl] at h
    obtain ⟨declared, w₂, hdeclaration, h⟩ := Action.eval_bind_eq_ok_iff.mp h
    obtain rfl := (Prod.mk.inj h).2
    obtain ⟨hdeclared, hframe'⟩ := writeDeclaration_eq_ok hdeclarations hdeclaration
    rw [hframe.resolve_eq] at hframe'
    have hmem' : declarations.resolve w.files.cwd ∈ s.targets w.files.cwd :=
      List.mem_map_of_mem (List.mem_append_right _ (Option.mem_toList.mpr hdeclarations))
    refine ⟨m, hm, ⟨⟨output, houtput, ?_⟩, ?_⟩, hframe.trans (hframe'.mono fun a ha => ?_)⟩
    · -- The declaration is another file than the module.
      refine hholds.of_frame hframe' ?_
      rw [hframe.resolve_eq, List.mem_singleton]
      exact hdiffer output declarations houtput hdeclarations
    · intro path hpath
      rw [hdeclarations] at hpath
      exact Option.some.inj hpath ▸ hdeclared
    · exact List.mem_singleton.mp ha ▸ hmem'

/-- **If the files are as they should be, a generation changes nothing.** -/
theorem eval_generate_of_isSettled (hm : (compileModule s w.files).result = .ok m)
    (hsettled : s.IsSettled w.files m) :
    ∃ log, (generate s).eval w = (.ok false, { w with log }) := by
  obtain ⟨output, houtput, hholds⟩ := hsettled.output
  obtain ⟨log, hmodule⟩ := eval_writeModule_of_holds houtput hm hholds
  rw [generate_eq, Action.eval_bind_of_ok hmodule]
  cases hdeclarations : s.declarations with
  | none => exact ⟨log, rfl⟩
  | some declarations =>
    obtain ⟨moduleName, hname, hdeclared⟩ := hsettled.declarations declarations hdeclarations
    have hdeclaration : (writeDeclaration s).eval { w with log } = (.ok false, { w with log }) :=
      eval_writeDeclaration_of_holds hdeclarations hname hdeclared
    rw [Option.isSome_some, if_pos rfl, Action.eval_bind_of_ok hdeclaration]
    exact ⟨log, rfl⟩

/-! ## One generation after the other -/

/-- After a generation every target is a file. -/
theorem Settings.IsSettled.isFile {fs : FileSystem} (h : s.IsSettled fs m) :
    ∀ a ∈ s.targets fs.cwd, ∃ bytes, fs.get? a = some (.file bytes) := by
  intro a ha
  obtain ⟨path, hpath, rfl⟩ := List.mem_map.mp ha
  rcases List.mem_append.mp hpath with hpath | hpath
  · obtain ⟨output, houtput, -, hlookup⟩ := h.output
    rw [houtput] at hpath
    rw [Option.some.inj (Option.mem_toList.mp hpath)] at hlookup
    exact ⟨_, (lookup_eq_some_iff.mp hlookup).2⟩
  · obtain ⟨_, -, -, hlookup⟩ := h.declarations path (Option.mem_toList.mp hpath)
    exact ⟨_, (lookup_eq_some_iff.mp hlookup).2⟩

/-- A generation that finds the same view files afterwards would compile the same module again. -/
theorem eval_generate_again (hdiffer : s.TargetsDiffer w.files.cwd)
    (h : (generate s).eval w = (.ok changed, w'))
    (hselected : ∀ names, s.rootAddress w.files.cwd ++ names ∈ s.targets w.files.cwd →
      (s.IsSelected w'.files names ↔ s.IsSelected w.files names)) (log : List LogEntry)
    (printed : String) :
    ∃ log', (generate s).eval { files := w'.files, log, printed }
      = (.ok false, { files := w'.files, log := log', printed }) := by
  obtain ⟨m, hm, hsettled, hframe⟩ := generate_eq_ok hdiffer h
  have hsame : ∀ names, s.IsSelected w'.files names ↔ s.IsSelected w.files names := by
    intro names
    -- Away from the targets nothing changed.
    by_cases hnames : s.rootAddress w.files.cwd ++ names ∈ s.targets w.files.cwd
    · exact hselected names hnames
    · exact Settings.isSelected_iff_of_frame hframe hnames
  exact eval_generate_of_isSettled (Settings.compileModule_of_frame hframe hsame hm) hsettled

end

namespace Session

/-- The session after a generation. -/
def generated (session : Session) : Session :=
  (session.step .generate).2

/-- What a generation results in. -/
def generation (session : Session) : Except Failure Result :=
  (session.step .generate).1.result

variable {session : Session} {r r₁ r₂ : Result}

theorem eval_run_generate (s : Settings) (w : Workspace) :
    (Operation.generate.run s).eval w
      = match (generate s).eval w with
        | (.ok changed, w') => (.ok (.changed changed), w')
        | (.error e, w') => (.error e, w') := by
  show (generate s >>= fun changed => pure (Result.changed changed)).eval w = _
  rw [Action.eval_bind]
  rcases (generate s).eval w with ⟨_ | changed, w'⟩ <;> rfl

theorem generation_eq (session : Session) :
    session.generation
      = ((Operation.generate.run session.settings).eval { files := session.files }).1 := rfl

theorem generated_eq (session : Session) :
    session.generated
      = let (_, w) := (Operation.generate.run session.settings).eval { files := session.files }
        { session with files := w.files, debug := session.debug || false } := rfl

/-- A session in which a generation succeeds. -/
theorem generation_eq_ok (h : session.generation = .ok r) :
    ∃ changed w', (generate session.settings).eval { files := session.files } = (.ok changed, w') ∧
      session.generated = { session with files := w'.files } := by
  rw [generation_eq, eval_run_generate] at h
  rw [generated_eq, eval_run_generate, Bool.or_false]
  cases hrun : (generate session.settings).eval { files := session.files } with
  | mk result w' =>
    rw [hrun] at h
    cases result with
    | error e => exact absurd h (by simp)
    | ok changed => exact ⟨changed, w', rfl, rfl⟩

/-- A session in which a generation changes nothing. -/
theorem generation_of_unchanged {log : List LogEntry} {printed : String}
    (h : (generate session.settings).eval { files := session.files }
      = (.ok false, { files := session.files, log, printed })) :
    session.generation = .ok (.changed false) ∧ session.generated = session := by
  rw [generation_eq, generated_eq, eval_run_generate, h, Bool.or_false]
  exact ⟨rfl, rfl⟩

/-- A session that is left unchanged stays as it is however often it generates. -/
theorem generated_iterate (h : session.generated = session) (n : Nat) :
    generated^[n] session = session := by
  induction n with
  | zero => rfl
  | succ n ih => rw [Function.iterate_succ_apply, h, ih]

/-- **After a generation that finds the same view files the next one changes nothing.** -/
theorem generation_again (hdiffer : session.settings.TargetsDiffer session.files.cwd)
    (h : session.generation = .ok r)
    (hselected : ∀ names, session.settings.rootAddress session.files.cwd ++ names
        ∈ session.settings.targets session.files.cwd →
      (session.settings.IsSelected session.generated.files names
        ↔ session.settings.IsSelected session.files names)) :
    session.generated.generation = .ok (.changed false) ∧
      session.generated.generated = session.generated := by
  obtain ⟨changed, w', hrun, hgenerated⟩ := generation_eq_ok h
  rw [hgenerated] at hselected ⊢
  obtain ⟨log, hagain⟩ := eval_generate_again hdiffer hrun hselected [] ""
  exact generation_of_unchanged hagain

/-- A generation that succeeds leaves every target a file, where the settings have it. -/
theorem generated_targets (hdiffer : session.settings.TargetsDiffer session.files.cwd)
    (h : session.generation = .ok r) :
    session.generated.settings = session.settings ∧
      session.generated.files.cwd = session.files.cwd ∧
      ∀ a ∈ session.settings.targets session.files.cwd,
        ∃ bytes, session.generated.files.get? a = some (.file bytes) := by
  obtain ⟨changed, w', hrun, hgenerated⟩ := generation_eq_ok h
  obtain ⟨m, -, hsettled, hframe⟩ := generate_eq_ok hdiffer hrun
  rw [hgenerated]
  exact ⟨rfl, hframe.cwd, hframe.cwd ▸ hsettled.isFile⟩

/-- A project of one page, with the generated files beside the pages. -/
def onePage : Session where
  settings := {
      root := .ofString "pages", extensions := ["tsx"], exclude := []
      notFound := none, fallback := none, output := some (.ofString "routes.tsx")
      declarations := some (.ofString "routes.d.ts"), router := none
      moduleName := some "routes", stem := some "Route", onDuplicate := .refuse
      generateOnStart := none }
  files := {
      cwd := []
      items := [(["pages"], .directory), (["pages", "index.tsx"], .file [])]
      distinct := by decide }

theorem onePage_targetsDiffer : onePage.settings.TargetsDiffer onePage.files.cwd := by
  rintro output declarations ⟨⟩ ⟨⟩
  decide

theorem exists_generation_onePage : ∃ r, onePage.generation = .ok r := by
  have hdeclarations : onePage.settings.declarations = some (.ofString "routes.d.ts") := rfl
  have hfirst : onePage.generation.isOk = true := by
    rw [generation_eq, eval_run_generate, generate_eq, writeModule_eq,
      writeDeclaration_eq hdeclarations]
    simp only [writeTextIfChanged_eq]
    decide +kernel
  cases hgeneration : onePage.generation with
  | ok r => exact ⟨r, rfl⟩
  | error e => rw [hgeneration] at hfirst; cases hfirst

end Session

end PageRoutes
