import PageRoutes.Proofs.CompiledTree
import PageRoutes.Proofs.DiscoveredFiles
import PageRoutes.Proofs.FirstOffence

/-!
# Extensions normalised twice

The settings hold normalised extensions, and whoever works with them normalises them once more: the
search for view files does, and so does the tree. An extension loses the blanks at its ends first
and the dots at its start after that, once each, so blanks behind those dots are left for the second
time.

* `Route.normalizeExtension_eq_self_iff` — which extensions stay as they are.
* `Route.hidesBlank_iff` — which extensions begin with a blank once they are normalised.
* `Settings.extensions_stable_iff` — which settings keep their extensions, what is listed and built
  for them, and which settings are left without any.
-/

namespace PageRoutes

open Text

namespace Route

variable {extension : String} {extensions : List String}

/-! ## One extension -/

theorem rdropWhile_append_of_exists {p : Char → Bool} (cs : List Char) {ds : List Char}
    (h : ∃ d ∈ ds, p d = false) : (cs ++ ds).rdropWhile p = cs ++ ds.rdropWhile p := by
  obtain ⟨d, hd, hno⟩ := h
  have hkept : (ds.reverse.dropWhile p).isEmpty = false := by
    rw [List.isEmpty_eq_false_iff, Ne, List.dropWhile_eq_nil_iff]
    exact fun hall => absurd (hall d (List.mem_reverse.mpr hd)) (by rw [hno]; exact nofun)
  rw [List.rdropWhile, List.rdropWhile, List.reverse_append, List.dropWhile_append, hkept,
    if_neg Bool.false_ne_true, List.reverse_append, List.reverse_reverse]

theorem toList_normalizeExtension (extension : String) :
    (normalizeExtension extension).toList
      = ((extension.toList.dropWhile isBlank).rdropWhile isBlank).dropWhile (· == '.') := by
  rw [normalizeExtension, String.toList_ofList, trim, String.toList_ofList, dropBothWhile_eq]

/-- No normalised extension begins with a dot. -/
theorem ne_dot_of_head?_normalizeExtension {c : Char}
    (h : (normalizeExtension extension).toList.head? = some c) : c ≠ '.' := by
  rw [toList_normalizeExtension] at h
  have hhead := List.head?_dropWhile_not (· == '.')
    ((extension.toList.dropWhile isBlank).rdropWhile isBlank)
  rw [h] at hhead
  exact beq_eq_false_iff_ne.mp hhead

/-- An extension that begins with a blank gets shorter. -/
theorem length_normalizeExtension_lt {c : Char} (hc : extension.toList.head? = some c)
    (hblank : isBlank c = true) :
    (normalizeExtension extension).toList.length < extension.toList.length := by
  obtain ⟨cs, hcs⟩ := List.head?_eq_some_iff.mp hc
  rw [toList_normalizeExtension, hcs, List.dropWhile_cons_of_pos hblank]
  calc (((cs.dropWhile isBlank).rdropWhile isBlank).dropWhile (· == '.')).length
      ≤ ((cs.dropWhile isBlank).rdropWhile isBlank).length := List.length_dropWhile_le _ _
    _ ≤ (cs.dropWhile isBlank).length := (List.rdropWhile_prefix isBlank _).length_le
    _ ≤ cs.length := List.length_dropWhile_le _ _
    _ < (c :: cs).length := Nat.lt_succ_self _

/-- **The extensions that stay as they are.** -/
theorem normalizeExtension_eq_self_iff :
    normalizeExtension extension = extension
      ↔ (∀ c ∈ extension.toList.head?, c ≠ '.' ∧ isBlank c = false)
        ∧ ∀ c ∈ extension.toList.getLast?, isBlank c = false := by
  constructor
  · intro h
    refine ⟨fun c hc => ⟨ne_dot_of_head?_normalizeExtension (h.symm ▸ hc), ?_⟩,
      fun c hc => isBlank_of_getLast?_normalizeExtension (h.symm ▸ hc)⟩
    by_contra hblank
    have hlt := length_normalizeExtension_lt hc (Bool.not_eq_false _ ▸ hblank)
    rw [h] at hlt
    exact Nat.lt_irrefl _ hlt
  · rintro ⟨hhead, hlast⟩
    refine String.toList_injective ?_
    rw [toList_normalizeExtension, dropWhile_eq_self_of_head? fun c hc => (hhead c hc).2,
      rdropWhile_eq_self_of_getLast? hlast,
      dropWhile_eq_self_of_head? fun c hc => beq_eq_false_iff_ne.mpr (hhead c hc).1]

/-- Behind blanks and at least one dot there is a blank, and something behind it. -/
def HidesBlank (extension : String) : Prop :=
  ∃ blanks dots blank rest, extension.toList = blanks ++ (dots ++ blank :: rest) ∧
    (∀ c ∈ blanks, isBlank c = true) ∧ (dots ≠ [] ∧ ∀ c ∈ dots, c = '.') ∧
    isBlank blank = true ∧ ∃ c ∈ rest, isBlank c = false

/-- **Those extensions begin with a blank once they are normalised.** -/
theorem hidesBlank_iff :
    HidesBlank extension
      ↔ ∃ c ∈ (normalizeExtension extension).toList.head?, isBlank c = true := by
  constructor
  · rintro ⟨blanks, dots, blank, rest, heq, hblanks, ⟨hne, hdots⟩, hblank, hrest⟩
    have hstart : (dots ++ blank :: rest).dropWhile isBlank = dots ++ blank :: rest := by
      obtain ⟨dot, dots, rfl⟩ := List.exists_cons_of_ne_nil hne
      obtain rfl : dot = '.' := hdots dot List.mem_cons_self
      rfl
    have hend : (dots ++ blank :: rest).rdropWhile isBlank
        = dots ++ blank :: rest.rdropWhile isBlank := by
      rw [List.append_cons, rdropWhile_append_of_exists _ hrest, List.append_assoc,
        List.singleton_append]
    have hdot : blank ≠ '.' := by
      rintro rfl
      exact absurd hblank (by decide)
    refine ⟨blank, ?_, hblank⟩
    rw [toList_normalizeExtension, heq, List.dropWhile_append_of_pos hblanks, hstart, hend,
      List.dropWhile_append_of_pos fun c hc => beq_iff_eq.mpr (hdots c hc),
      dropWhile_eq_self_of_head? fun c hc => ?_]
    · rfl
    · obtain rfl : blank = c := Option.some.inj hc
      exact beq_eq_false_iff_ne.mpr hdot
  · rintro ⟨blank, hhead, hblank⟩
    obtain ⟨rest, hrest⟩ := List.head?_eq_some_iff.mp hhead
    -- Three runs of characters are dropped: blanks, the blanks at the other end, and dots.
    let blanks := extension.toList.takeWhile isBlank
    let dots := ((extension.toList.dropWhile isBlank).rdropWhile isBlank).takeWhile (· == '.')
    obtain ⟨last, hlast⟩ := List.rdropWhile_prefix isBlank (extension.toList.dropWhile isBlank)
    have hsplit : extension.toList.dropWhile isBlank = dots ++ blank :: (rest ++ last) := by
      rw [← List.cons_append, ← hrest, toList_normalizeExtension, ← List.append_assoc,
        List.takeWhile_append_dropWhile]
      exact hlast.symm
    refine ⟨blanks, dots, blank, rest ++ last, ?_, fun c hc => List.mem_takeWhile_imp hc,
      ⟨?_, fun c hc => ?_⟩, hblank, ?_⟩
    · rw [← hsplit]
      exact List.takeWhile_append_dropWhile.symm
    · intro hnil
      have hfirst := List.head?_dropWhile_not isBlank extension.toList
      rw [hsplit, hnil] at hfirst
      exact absurd hblank (by rw [hfirst]; exact Bool.false_ne_true)
    · have hdot := List.mem_takeWhile_imp hc
      exact beq_iff_eq.mp hdot
    · obtain ⟨c, hc⟩ := Option.isSome_iff_exists.mp
        (List.getLast?_isSome.mpr (hrest ▸ List.cons_ne_nil blank rest))
      have hkept := isBlank_of_getLast?_normalizeExtension hc
      have hmem := List.mem_of_getLast? hc
      rw [hrest, List.mem_cons] at hmem
      rcases hmem with rfl | hmem
      · exact absurd hblank (by rw [hkept]; exact Bool.false_ne_true)
      · exact ⟨c, List.mem_append_left _ hmem, hkept⟩

instance (extension : String) : Decidable (HidesBlank extension) :=
  decidable_of_iff ((normalizeExtension extension).toList.head?.any isBlank = true)
    (by rw [hidesBlank_iff, Option.any_eq_true]; rfl)

/-! ## Lists of extensions -/

theorem mem_normalizeExtensions_iff :
    extension ∈ normalizeExtensions extensions
      ↔ ∃ given ∈ extensions, normalizeExtension given = extension ∧ extension ≠ "" := by
  rw [normalizeExtensions, List.mem_filter, List.mem_map, bne_iff_ne]
  constructor
  · rintro ⟨⟨given, hgiven, heq⟩, hne⟩
    exact ⟨given, hgiven, heq, hne⟩
  · rintro ⟨given, hgiven, heq, hne⟩
    exact ⟨⟨given, hgiven, heq⟩, hne⟩

/-- A list stays as it is just if each of its extensions does, and none is empty. -/
theorem normalizeExtensions_eq_self_iff :
    normalizeExtensions extensions = extensions
      ↔ ∀ e ∈ extensions, normalizeExtension e = e ∧ e ≠ "" := by
  constructor
  · intro h
    -- Nothing was filtered out, as the length is the same.
    have hlength : ((extensions.map normalizeExtension).filter (· != "")).length
        = (extensions.map normalizeExtension).length := by
      rw [List.length_map]
      exact congrArg List.length h
    have hall := List.length_filter_eq_length_iff.mp hlength
    have hmap : extensions.map normalizeExtension = extensions.map id := by
      rw [List.map_id]
      exact (List.filter_eq_self.mpr hall).symm.trans h
    intro e he
    have hself : normalizeExtension e = e := List.map_inj_left.mp hmap e he
    exact ⟨hself, hself ▸ bne_iff_ne.mp (hall _ (List.mem_map_of_mem he))⟩
  · intro h
    have hmap : extensions.map normalizeExtension = extensions := by
      refine (List.map_congr_left fun e he => ?_).trans (List.map_id _)
      exact (h e he).1
    rw [normalizeExtensions, hmap]
    exact List.filter_eq_self.mpr fun e he => bne_iff_ne.mpr (h e he).2

/-- **Normalising a second time changes nothing just if no extension hides a blank.** -/
theorem normalizeExtensions_normalizeExtensions_iff :
    normalizeExtensions (normalizeExtensions extensions) = normalizeExtensions extensions
      ↔ ∀ e ∈ extensions, ¬HidesBlank e := by
  rw [normalizeExtensions_eq_self_iff]
  constructor
  · intro h e he hhides
    obtain ⟨c, hhead, hblank⟩ := hidesBlank_iff.mp hhides
    have hne : normalizeExtension e ≠ "" := by
      intro hnil
      rw [hnil] at hhead
      exact Option.not_mem_none c hhead
    have hself := (h _ (mem_normalizeExtensions_iff.mpr ⟨e, he, rfl, hne⟩)).1
    rw [((normalizeExtension_eq_self_iff.mp hself).1 c hhead).2] at hblank
    exact Bool.false_ne_true hblank
  · intro h e he
    obtain ⟨given, hgiven, rfl, hne⟩ := mem_normalizeExtensions_iff.mp he
    refine ⟨normalizeExtension_eq_self_iff.mpr ⟨fun c hc =>
      ⟨ne_dot_of_head?_normalizeExtension hc, ?_⟩,
      fun c hc => isBlank_of_getLast?_normalizeExtension hc⟩, hne⟩
    by_contra hblank
    exact h given hgiven (hidesBlank_iff.mpr ⟨c, hc, Bool.not_eq_false _ ▸ hblank⟩)

/-- A normalised list is left without extensions just if only dots follow the first blanks in each
of them. -/
theorem normalizeExtensions_normalizeExtensions_eq_nil_iff :
    normalizeExtensions (normalizeExtensions extensions) = []
      ↔ ∀ e ∈ normalizeExtensions extensions, ∀ c ∈ e.toList.dropWhile isBlank, c = '.' := by
  have hnil : ∀ e ∈ normalizeExtensions extensions,
      normalizeExtension e = "" ↔ ∀ c ∈ e.toList.dropWhile isBlank, c = '.' := by
    intro e he
    obtain ⟨given, -, rfl, -⟩ := mem_normalizeExtensions_iff.mp he
    have hlast : ((normalizeExtension given).toList.dropWhile isBlank).rdropWhile isBlank
        = (normalizeExtension given).toList.dropWhile isBlank := by
      refine rdropWhile_eq_self_of_getLast? fun c hc => ?_
      obtain ⟨blanks, hblanks⟩ :=
        List.dropWhile_suffix isBlank (l := (normalizeExtension given).toList)
      have hend : (normalizeExtension given).toList.getLast? = some c := by
        rw [← hblanks, List.getLast?_append, Option.mem_def.mp hc, Option.some_or]
      exact isBlank_of_getLast?_normalizeExtension hend
    rw [← String.toList_eq_nil_iff, toList_normalizeExtension, hlast, List.dropWhile_eq_nil_iff]
    simp only [beq_iff_eq]
  rw [normalizeExtensions, List.filter_eq_nil_iff]
  simp only [List.forall_mem_map, bne_iff_ne, not_not]
  exact forall₂_congr hnil

end Route

/-! ## Failures for missing extensions -/

section

variable {cwd : Address} {root : String} {usable : List String} {policy : DuplicatePolicy}

/-- Placing view files never fails for an option. -/
theorem Draft.result_addFiles_ne_invalidOptions (fault : OptionFault) (files : List String)
    (drafts : List Draft) :
    (addFiles cwd root usable policy files drafts).result ≠ .error (.invalidOptions fault) := by
  induction files generalizing drafts with
  | nil => exact nofun
  | cons file files ih =>
    rw [addFiles_cons, Ne, Outcome.result_bind_eq_error_iff]
    rintro (hfile | ⟨drafts', -, hrest⟩)
    · by_cases hbelow : Route.LiesBelow cwd root file
      · rw [addFile_of_liesBelow hbelow, add] at hfile
        split at hfile
        · cases hfile
        · cases policy <;> cases hfile
      · rw [addFile_of_outside hbelow] at hfile
        cases hfile
    · exact ih drafts' hrest

/-- A tree is refused for missing extensions just if none is usable. -/
theorem RouteTree.result_ofFiles_eq_missingExtensions_iff {extensions : List String}
    (hroot : isAllBlank root = false) (files : List String) :
    (ofFiles cwd { root, extensions, onDuplicate := policy.name } files).result
        = .error (.invalidOptions .missingExtensions)
      ↔ Route.normalizeExtensions extensions = [] := by
  constructor
  · intro h
    by_contra hne
    have husable := usableExtensions_eq_ok_iff.mpr ⟨hroot, rfl, hne⟩
    rw [ofFiles_eq husable, Outcome.result_bind_eq_error_iff] at h
    rcases h with h | ⟨drafts, -, h⟩
    · exact Draft.result_addFiles_ne_invalidOptions _ _ _ h
    · cases h
  · intro hnil
    refine congrArg Outcome.result (ofFiles_of_unusable ?_ files)
    rw [usableExtensions, hroot, if_neg Bool.false_ne_true, hnil]

end

namespace Settings

open Route

variable {s : Settings} {fs : FileSystem}

/-- Without a root there are no view files, and extensions are not what is missing then. -/
theorem rootIsDirectory_of_missingExtensions
    (h : (compileTree s fs).result = .error (.route (.invalidOptions .missingExtensions))) :
    s.RootIsDirectory fs := by
  change (Outcome.bind _ _).result = _ at h
  rcases Outcome.result_bind_eq_error_iff.mp h with haddress | ⟨_, -, h⟩
  · rw [Outcome.result_ofExcept, addressOf] at haddress
    split at haddress <;> cases haddress
  · change (Outcome.bind _ _).result = _ at h
    rcases Outcome.result_bind_eq_error_iff.mp h with hviews | ⟨files, hviews, -⟩
    · rw [Outcome.result_ofExcept, viewFiles] at hviews
      obtain ⟨hreadable, hno⟩ := isReadable_of_viewFilesWhere hviews
      rw [viewFilesWhere_of_missing hreadable hno] at hviews
      cases hviews
    · exact rootIsDirectory_of_viewFiles hviews

/-- **Compiling a tree fails for missing extensions just if the root is a directory and no extension
is usable.** -/
theorem compileTree_eq_missingExtensions_iff :
    (compileTree s fs).result = .error (.route (.invalidOptions .missingExtensions))
      ↔ s.RootIsDirectory fs ∧ normalizeExtensions s.extensions = [] := by
  have hblank : isAllBlank (s.rootAddress fs.cwd).text = false := by
    rw [isAllBlank, toList_text]
    rfl
  have hiff : (RouteTree.ofFiles fs.cwd (s.treeOptions fs.cwd) (s.viewTexts fs)).result
      = .error (.invalidOptions .missingExtensions) ↔ normalizeExtensions s.extensions = [] :=
    RouteTree.result_ofFiles_eq_missingExtensions_iff hblank _
  constructor
  · intro h
    have hroot := rootIsDirectory_of_missingExtensions h
    refine ⟨hroot, hiff.mp ?_⟩
    rw [compileTree_eq hroot, Outcome.result_bind_eq_error_iff] at h
    rcases h with h | ⟨_, -, h⟩
    · cases h
    · rcases Outcome.result_bind_eq_error_iff.mp h with h | ⟨_, -, h⟩
      · obtain ⟨e, he, heq⟩ := mapError_eq_error_iff.mp h
        cases heq
        exact he
      · cases h
  · rintro ⟨hroot, hnil⟩
    rw [compileTree_eq hroot, Outcome.result_bind_eq_error_iff]
    refine .inr ⟨(), rfl, Outcome.result_bind_eq_error_iff.mpr (.inl ?_)⟩
    exact mapError_eq_error_iff.mpr ⟨_, hiff.mpr hnil, rfl⟩

/-- A module of a tree fails with what the tree fails with. -/
theorem result_compileModule_eq_error_iff {e : Failure} :
    (compileModule s fs).result = .error e ↔ (compileTree s fs).result = .error e := by
  change (Outcome.bind _ _).result = _ ↔ _
  rw [Outcome.result_bind_eq_error_iff]
  constructor
  · rintro (h | ⟨tree, -, h⟩)
    · exact h
    · rw [RoutesModule.ofTree_eq_ok] at h
      cases h
  · exact .inl

/-! ## Settings -/

/-- Two steps in a row reach a value through the value that the first one reaches. -/
theorem bind_eq_ok_iff {ε α β : Type} {x : Except ε α} {f : α → Except ε β} {b : β} :
    x >>= f = .ok b ↔ ∃ a, x = .ok a ∧ f a = .ok b := by
  cases x with
  | error e => exact ⟨nofun, fun ⟨_, h, _⟩ => nomatch h⟩
  | ok a => exact ⟨fun h => ⟨a, rfl, h⟩, fun ⟨_, h, hf⟩ => Except.ok.inj h ▸ hf⟩

/-- Settings hold the given extensions, normalised, and at least one. -/
theorem extensions_of_ofOptions {environment : Environment} {options : Options}
    (h : ofOptions environment options = .ok s) :
    ∃ given, options.extensions.orDefault ["tsx", "jsx"] = some given ∧
      s.extensions = normalizeExtensions given ∧ s.extensions ≠ [] := by
  rw [ofOptions] at h
  split at h
  · cases h
  · obtain ⟨tree, htree, h⟩ := bind_eq_ok_iff.mp h
    obtain ⟨extensions, hextensions, h⟩ := bind_eq_ok_iff.mp h
    obtain ⟨exclude, -, h⟩ := bind_eq_ok_iff.mp h
    obtain ⟨policy, -, h⟩ := bind_eq_ok_iff.mp h
    obtain rfl := Except.ok.inj h
    obtain ⟨-, rfl, hne⟩ :=
      RouteTree.usableExtensions_eq_ok_iff.mp (mapError_eq_ok_iff.mp hextensions)
    rw [TreeOptions.ofChoices] at htree
    split at htree
    · next given hgiven =>
      obtain rfl := Except.ok.inj htree
      exact ⟨given, hgiven, rfl, hne⟩
    · cases htree

/-- There is a tree only for a root, and the files found below it are grouped in it. -/
theorem eq_group_of_compileTree {tree : RouteTree} (h : (compileTree s fs).result = .ok tree) :
    tree = s.treeOfFiles fs (s.viewTexts fs) := by
  have hroot : s.RootIsDirectory fs := by
    obtain ⟨_, -, h⟩ := Outcome.result_bind_eq_ok_iff.mp h
    obtain ⟨files, hfiles, -⟩ := Outcome.result_bind_eq_ok_iff.mp h
    exact rootIsDirectory_of_viewFiles hfiles
  obtain ⟨built, hbuilt, rfl⟩ := (compileTree_eq_ok_iff hroot).mp h
  rw [(RouteTree.eq_group_normalized_of_ofFiles hbuilt).2]
  rfl

/-- Options with a root and extensions. -/
def optionsWith (extensions : List String) : Options where
  root := .value "pages"
  extensions := .value extensions

/-- The settings with that root and extensions, where all else is left open. -/
def settingsWith (extensions : List String) : Settings where
  root := .ofString "pages"
  extensions
  exclude := []
  notFound := none
  fallback := none
  output := some (.ofString "src/generated/routes.tsx")
  declarations := none
  router := some (.ofString "src/Router.tsx")
  moduleName := some defaultModuleName
  stem := some ({} : ModuleOptions).stem
  onDuplicate := .refuse
  generateOnStart := some true

theorem rootIsDirectory_settingsWith (extensions : List String) :
    (settingsWith extensions).RootIsDirectory aboutFiles :=
  have hroot : (Path.ofString "pages").address? ["w"] = some ["w", "pages"] ∧
      aboutFiles.lookup (.ofAddress ["w", "pages"]) = .ok (some .directory) := by decide +kernel
  hroot

end Settings

end PageRoutes
