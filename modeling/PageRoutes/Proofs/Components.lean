import Mathlib.Data.List.Induction
import PageRoutes.Proofs.Below
import PageRoutes.Proofs.Lookup

/-!
# Components of paths

`Route.location` compares the ways to two places. What it accepts can be said with less: cut both
paths at their slashes and backslashes, follow the pieces from the root, and see whether one list of
names begins the other.

* `components` — the names that a path leads through, once no `.` and no `..` is left.
* `liesBelow_iff_components` — a file lies below the root if the components of the root are a proper
  beginning of its own.
* `location_text_append` — below a directory a path of names without backslashes is found as it is
  written.
* `walk_normalNames` — the normal form of a relative path leads where the path leads.
* `location_by_components` — the location of a file is what its components have in addition, and for
  two relative paths that do not begin upwards it is the same from everywhere.
-/

namespace PageRoutes

open Text

/-! ## Walks -/

namespace Address

variable {a : Address}

theorem step_of_stay {name : String} (h : name = "" ∨ name = ".") : step a name = a := by
  rw [step, if_pos h]

theorem step_up : step a ".." = a.dropLast := by
  simp [step]

/-- Pieces that lead nowhere may be left out. -/
theorem walk_filter (names : List String) :
    walk a (names.filter fun name => name != "" && name != ".") = walk a names := by
  induction names generalizing a with
  | nil => rfl
  | cons name names ih =>
    by_cases hstay : name = "" ∨ name = "."
    · rw [List.filter_cons_of_neg (by rcases hstay with rfl | rfl <;> decide), walk_cons,
        step_of_stay hstay, ih]
    · rw [not_or] at hstay
      rw [List.filter_cons_of_pos (by simp [hstay.1, hstay.2]), walk_cons, walk_cons, ih]

/-- The way between two places does not depend on what the ways to them have in common. -/
theorem relativeTo_append_append (b c : Address) :
    relativeTo (a ++ b) (a ++ c) = relativeTo b c := by
  induction a with
  | nil => rfl
  | cons name a ih => rw [List.cons_append, List.cons_append, relativeTo, if_pos rfl, ih]

end Address

namespace Route

/-! ## Pieces and components -/

/-- A path that starts at the root, with either slash. -/
def IsRooted (path : String) : Prop :=
  path.toList.head? = some '/' ∨ path.toList.head? = some '\\'

instance (path : String) : Decidable (IsRooted path) :=
  inferInstanceAs (Decidable (_ ∨ _))

/-- The pieces of a path between its slashes and backslashes. -/
def pieces (path : String) : List String :=
  split '/' (forwardSlashes path)

/-- The components of a path: its pieces, behind those of the current directory `cwd` unless it
starts at the root, followed from the root. Empty pieces and `.` lead nowhere, and `..` leaves the
last name, if there is one. -/
def components (cwd : Address) (path : String) : Address :=
  Address.walk [] ((if IsRooted path then [] else cwd) ++ pieces path)

/-- A name that is one piece of a path: the name of a file without a backslash in it. -/
structure IsPiece (name : String) : Prop where
  /-- It can be the name of a file. -/
  fileName : IsFileName name
  /-- No backslash cuts it. -/
  noBackslash : '\\' ∉ name.toList

instance (name : String) : Decidable (IsPiece name) :=
  decidable_of_iff (IsFileName name ∧ '\\' ∉ name.toList)
    ⟨fun h => ⟨h.1, h.2⟩, fun h => ⟨h.fileName, h.noBackslash⟩⟩

theorem toList_forwardSlashes (path : String) :
    (forwardSlashes path).toList = path.toList.map fun c => if c = '\\' then '/' else c := by
  rw [forwardSlashes, String.toList_ofList]

theorem backslash_not_mem_forwardSlashes (path : String) :
    '\\' ∉ (forwardSlashes path).toList := by
  rw [toList_forwardSlashes, List.mem_map]
  rintro ⟨c, -, hc⟩
  split at hc
  · exact absurd hc (by decide)
  · next hne => exact hne hc

/-- A piece of a path is a name of its own, unless it is empty, `.` or `..`. -/
theorem isPiece_of_mem_pieces {path name : String} (h : name ∈ pieces path)
    (hplain : Address.IsPlain name) : IsPiece name := by
  obtain ⟨cs, hcs, rfl⟩ := List.mem_map.mp h
  have hslash : '/' ∉ (String.ofList cs).toList := by
    rw [String.toList_ofList]
    exact not_mem_of_mem_splitChars hcs
  have hback : '\\' ∉ (String.ofList cs).toList := by
    rw [String.toList_ofList]
    exact fun hmem => backslash_not_mem_forwardSlashes path (mem_of_mem_splitChars hcs hmem)
  exact ⟨⟨hplain, hslash⟩, hback⟩

/-- Whether a path is absolute is seen from its first character. -/
theorem isAbsolute_readPath (path : String) :
    (readPath path).isAbsolute = true ↔ IsRooted path := by
  have hread : (readPath path).isAbsolute = true
      ↔ Anchor.ofChars (forwardSlashes path).toList ≠ .relative := by
    rw [readPath, Path.ofString, Path.isAbsolute, bne_iff_ne]
  rw [hread, Ne, ofChars_eq_relative_iff, not_not, toList_forwardSlashes, List.head?_map, IsRooted]
  cases path.toList.head? with
  | none => simp
  | some c =>
    by_cases hc : c = '\\'
    · simp [hc]
    · simp [hc]

/-- A path leads where its pieces lead. -/
theorem resolve_readPath (cwd : Address) (path : String) :
    (readPath path).resolve cwd
      = Address.walk (if IsRooted path then [] else cwd) (pieces path) := by
  rw [Path.resolve, ← Address.walk_filter (pieces path),
    if_congr (isAbsolute_readPath path) rfl rfl]
  rfl

section

variable {cwd : Address} (hcwd : ∀ name ∈ cwd, IsPiece name)
include hcwd

/-- **Components are names without slashes and backslashes**, and none of them is empty, `.` or
`..`. -/
theorem isPiece_of_mem_components {path name : String} (h : name ∈ components cwd path) :
    IsPiece name := by
  rcases Address.mem_walk h with hnil | ⟨hmem, hplain⟩
  · exact absurd hnil List.not_mem_nil
  · rcases List.mem_append.mp hmem with hstart | hpiece
    · split at hstart
      · exact absurd hstart List.not_mem_nil
      · exact hcwd name hstart
    · exact isPiece_of_mem_pieces hpiece hplain

/-- A path leads where its components say. -/
theorem resolve_eq_components (path : String) :
    (readPath path).resolve cwd = components cwd path := by
  have hstart : Address.walk [] (if IsRooted path then [] else cwd)
      = if IsRooted path then [] else cwd := by
    refine Address.walk_eq_of_plain (fun name hname => ?_) []
    split at hname
    · exact absurd hname List.not_mem_nil
    · exact (hcwd name hname).fileName.plain
  rw [resolve_readPath, components, Address.walk_append, hstart]

/-- **A file lies below the root just if the components of the root are a proper beginning of its
own**, and either both paths start at the root of the file system or none does. -/
theorem liesBelow_iff_components {file root : String} :
    LiesBelow cwd root file
      ↔ (IsRooted file ↔ IsRooted root) ∧ components cwd root <+: components cwd file ∧
        components cwd root ≠ components cwd file := by
  rw [LiesBelow, resolve_eq_components hcwd, resolve_eq_components hcwd, Bool.eq_iff_iff,
    isAbsolute_readPath, isAbsolute_readPath]
  refine and_congr_right fun _ => ?_
  constructor
  · rintro ⟨name, names, -, hway⟩
    rw [hway]
    exact ⟨List.prefix_append _ _, by simp⟩
  · rintro ⟨⟨names, hway⟩, hne⟩
    cases names with
    | nil => exact absurd (by rw [← hway, List.append_nil]) hne
    | cons name names =>
      have hname : name ∈ components cwd file := by rw [← hway]; simp
      exact ⟨name, names, (isPiece_of_mem_components hcwd hname).fileName.plain.2.2, hway.symm⟩

/-- **The location of a file below the root is what its components have in addition.** -/
theorem location_eq_join {file root : String} {names : List String}
    (hrooted : IsRooted file ↔ IsRooted root) (hne : names ≠ [])
    (hway : components cwd file = components cwd root ++ names) :
    location cwd file root = .ok (join '/' names) := by
  have hnames : ∀ name ∈ names, IsPiece name := fun name hname =>
    isPiece_of_mem_components hcwd (hway ▸ List.mem_append_right _ hname)
  obtain ⟨name, rest, rfl⟩ := List.exists_cons_of_ne_nil hne
  have hfirst := hnames name List.mem_cons_self
  rw [location_eq_ok ?_ hfirst.fileName.plain.2.2 ?_,
    normalizePath_join (fun n hn => (hnames n hn).fileName) fun n hn => (hnames n hn).noBackslash]
  · rw [Bool.eq_iff_iff, isAbsolute_readPath, isAbsolute_readPath, hrooted]
  · rw [resolve_eq_components hcwd, resolve_eq_components hcwd, hway]

end

/-! ## Texts of addresses -/

theorem isRooted_text (a : Address) : IsRooted a.text :=
  .inl (by rw [toList_text]; rfl)

/-- A slash in a path cuts it. -/
theorem pieces_eq_append {path before after : String}
    (h : path.toList = before.toList ++ '/' :: after.toList) :
    pieces path = pieces before ++ pieces after := by
  have hmap : (forwardSlashes path).toList
      = (forwardSlashes before).toList ++ '/' :: (forwardSlashes after).toList := by
    simp only [toList_forwardSlashes, h, List.map_append, List.map_cons]
    rfl
  rw [pieces, split, hmap, splitChars_append, List.map_append]
  rfl

/-- Names without backslashes are the pieces of a path that is made of them. -/
theorem pieces_join {names : List String} (hne : names ≠ []) (h : ∀ name ∈ names, IsPiece name) :
    pieces (join '/' names) = names := by
  rw [pieces, forwardSlashes_eq_self (backslash_not_mem_join fun name hname =>
      (h name hname).noBackslash),
    split_join hne fun name hname => (h name hname).fileName.noSlash]

/-- Names without backslashes lead down from where the text of an address leads, which may hold
backslashes. -/
theorem resolve_readPath_text_append (cwd base : Address) {names : List String} (hne : names ≠ [])
    (h : ∀ name ∈ names, IsPiece name) :
    (readPath (Address.text (base ++ names))).resolve cwd
      = (readPath base.text).resolve cwd ++ names := by
  have hplain : ∀ name ∈ names, Address.IsPlain name := fun name hname =>
    (h name hname).fileName.plain
  have hcut : ∀ before : String, (Address.text (base ++ names)).toList
      = before.toList ++ '/' :: (join '/' names).toList →
      Address.walk [] (pieces (Address.text (base ++ names)))
        = Address.walk [] (pieces before) ++ names := by
    intro before hbefore
    rw [pieces_eq_append hbefore, pieces_join hne h, Address.walk_append,
      Address.walk_eq_of_plain hplain]
  rw [resolve_readPath, resolve_readPath, if_pos (isRooted_text _), if_pos (isRooted_text _)]
  by_cases hbase : base = []
  · subst hbase
    exact hcut "" (toList_text names)
  · refine hcut base.text ?_
    rw [toList_text, toList_text, toList_join_append hbase hne]
    rfl

/-- **Below a directory a path of names without backslashes is found as it is written.** -/
theorem location_text_append (cwd base : Address) {names : List String} (hne : names ≠ [])
    (h : ∀ name ∈ names, IsPiece name) :
    location cwd (Address.text (base ++ names)) base.text = .ok (join '/' names) := by
  obtain ⟨name, rest, rfl⟩ := List.exists_cons_of_ne_nil hne
  have habs : (readPath (Address.text (base ++ name :: rest))).isAbsolute
      = (readPath base.text).isAbsolute := by
    rw [(isAbsolute_readPath _).mpr (isRooted_text _),
      (isAbsolute_readPath _).mpr (isRooted_text _)]
  rw [location_eq_ok habs (h name List.mem_cons_self).fileName.plain.2.2
      (resolve_readPath_text_append cwd base hne h),
    normalizePath_join (fun n hn => (h n hn).fileName) fun n hn => (h n hn).noBackslash]

/-! ## Relative paths -/

/-- Adds one piece to a relative path in normal form. A way up takes back the last name; where there
is none, it stays. -/
def normalStep (names : List String) (piece : String) : List String :=
  if piece = "" ∨ piece = "." then names
  else if piece = ".." ∧ names.getLast?.any (· ≠ "..") then names.dropLast
  else names ++ [piece]

/-- The normal form of the pieces of a relative path. -/
def normalNames (pieces : List String) : List String :=
  pieces.foldl normalStep []

/-- All ways up stand at the start. -/
def IsNormal (names : List String) : Prop :=
  ∃ ups rest, names = List.replicate ups ".." ++ rest ∧ ∀ name ∈ rest, Address.IsPlain name

theorem normalStep_of_plain {piece : String} (h : Address.IsPlain piece) (names : List String) :
    normalStep names piece = names ++ [piece] := by
  simp [normalStep, h.1, h.2.1, h.2.2]

theorem normalStep_up_of_plain {name : String} (h : Address.IsPlain name) (names : List String) :
    normalStep (names ++ [name]) ".." = names := by
  simp [normalStep, h.2.2]

theorem normalStep_up_of_ups (ups : Nat) :
    normalStep (List.replicate ups "..") ".." = List.replicate (ups + 1) ".." := by
  have hlast : (List.replicate ups "..").getLast?.any (· ≠ "..") = false := by
    rw [List.getLast?_replicate]
    split <;> rfl
  rw [normalStep, if_neg (by decide), hlast, if_neg (by simp), List.replicate_succ']

/-- One more piece keeps the normal form and leads one step further. -/
theorem IsNormal.step {names : List String} (h : IsNormal names) (piece : String) :
    IsNormal (normalStep names piece) ∧
      ∀ a, Address.walk a (normalStep names piece) = Address.step (Address.walk a names) piece := by
  obtain ⟨ups, rest, rfl, hrest⟩ := h
  by_cases hstay : piece = "" ∨ piece = "."
  · rw [normalStep, if_pos hstay]
    exact ⟨⟨ups, rest, rfl, hrest⟩, fun a => (Address.step_of_stay hstay).symm⟩
  · by_cases hup : piece = ".."
    · subst hup
      rcases List.eq_nil_or_concat rest with rfl | ⟨init, last, rfl⟩
      · -- There is no name to take back.
        rw [List.append_nil, normalStep_up_of_ups]
        refine ⟨⟨ups + 1, [], (List.append_nil _).symm, hrest⟩, fun a => ?_⟩
        rw [List.replicate_succ', Address.walk_append]
        rfl
      · rw [List.concat_eq_append] at hrest ⊢
        have hlast : Address.IsPlain last := hrest last (by simp)
        rw [← List.append_assoc, normalStep_up_of_plain hlast]
        refine ⟨⟨ups, init, rfl, fun name hname => hrest name (List.mem_append_left _ hname)⟩,
          fun a => ?_⟩
        rw [Address.step_up, Address.walk_append _ _ [last], Address.walk_cons,
          Address.step_eq_of_plain hlast, Address.walk_nil, List.dropLast_concat]
    · rw [not_or] at hstay
      have hplain : Address.IsPlain piece := ⟨hstay.1, hstay.2, hup⟩
      rw [normalStep_of_plain hplain]
      refine ⟨⟨ups, rest ++ [piece], List.append_assoc .., ?_⟩, fun a => ?_⟩
      · exact List.forall_mem_append.mpr ⟨hrest, List.forall_mem_singleton.mpr hplain⟩
      · rw [Address.walk_append _ _ [piece]]
        rfl

/-- **The normal form of a relative path leads where the path leads.** -/
theorem walk_normalNames (pieces : List String) :
    IsNormal (normalNames pieces) ∧
      ∀ a, Address.walk a (normalNames pieces) = Address.walk a pieces := by
  induction pieces using List.reverseRecOn with
  | nil => exact ⟨⟨0, [], rfl, fun _ hname => absurd hname List.not_mem_nil⟩, fun _ => rfl⟩
  | append_singleton pieces piece ih =>
    obtain ⟨hnormal, hwalk⟩ := ih
    have hconcat : normalNames (pieces ++ [piece]) = normalStep (normalNames pieces) piece := by
      rw [normalNames, List.foldl_append]
      rfl
    rw [hconcat]
    refine ⟨(hnormal.step piece).1, fun a => ?_⟩
    rw [(hnormal.step piece).2, hwalk, Address.walk_append]
    rfl

/-- A relative path whose normal form does not begin upwards leads down from anywhere. -/
theorem resolve_of_head?_ne {path : String} (hrooted : ¬IsRooted path)
    (hhead : (normalNames (pieces path)).head? ≠ some "..") (cwd : Address) :
    (readPath path).resolve cwd = cwd ++ normalNames (pieces path) := by
  obtain ⟨⟨ups, rest, hnormal, hrest⟩, hwalk⟩ := walk_normalNames (pieces path)
  cases ups with
  | zero =>
    rw [List.replicate_zero, List.nil_append] at hnormal
    rw [resolve_readPath, if_neg hrooted, ← hwalk, hnormal, Address.walk_eq_of_plain hrest]
  | succ ups =>
    rw [hnormal] at hhead
    exact absurd rfl hhead

/-- **Two relative paths that do not begin upwards lie to each other as they do from anywhere.** -/
theorem location_congr_cwd {file root : String} (hfile : ¬IsRooted file) (hroot : ¬IsRooted root)
    (hfileHead : (normalNames (pieces file)).head? ≠ some "..")
    (hrootHead : (normalNames (pieces root)).head? ≠ some "..") (cwd cwd' : Address) :
    location cwd file root = location cwd' file root := by
  have hrel : ∀ cwd, Address.relativeTo ((readPath root).resolve cwd) ((readPath file).resolve cwd)
      = Address.relativeTo (normalNames (pieces root)) (normalNames (pieces file)) := by
    intro cwd
    rw [resolve_of_head?_ne hfile hfileHead, resolve_of_head?_ne hroot hrootHead,
      Address.relativeTo_append_append]
  have hrel' := (hrel cwd).trans (hrel cwd').symm
  unfold readPath at hrel'
  unfold location
  simp only [hrel']

/--
**The location of a view file is what its components have in addition to those of the root.**

A file is refused just if one of the two paths starts at the root of the file system and the other
does not, or if the components of the root are no proper beginning of those of the file. Otherwise
the rest of its components, put together with slashes, is its location, and none of them is empty,
`.` or `..`. For two relative paths whose normal forms do not begin upwards, the current directory
does not matter.
-/
theorem location_by_components {cwd : Address} (hcwd : ∀ name ∈ cwd, IsPiece name)
    (file root : String) :
    let below := (IsRooted file ↔ IsRooted root) ∧
      components cwd root <+: components cwd file ∧ components cwd root ≠ components cwd file
    (location cwd file root = .error (.outsideRoot file root) ↔ ¬below) ∧
    (below → ∃ names, components cwd file = components cwd root ++ names ∧
      location cwd file root = .ok (join '/' names) ∧ join '/' names ≠ "" ∧
      ∀ name ∈ split '/' (join '/' names), name ≠ "" ∧ name ≠ "." ∧ name ≠ "..") ∧
    (¬IsRooted file → ¬IsRooted root → (normalNames (pieces file)).head? ≠ some ".." →
      (normalNames (pieces root)).head? ≠ some ".." →
      ∀ other : Address, location other file root = location cwd file root) := by
  intro below
  have hbelow : LiesBelow cwd root file ↔ below := liesBelow_iff_components hcwd
  have hfound : below → ∃ names, components cwd file = components cwd root ++ names ∧
      location cwd file root = .ok (join '/' names) ∧ join '/' names ≠ "" ∧
      ∀ name ∈ split '/' (join '/' names), name ≠ "" ∧ name ≠ "." ∧ name ≠ ".." := by
    rintro ⟨hrooted, ⟨names, hway⟩, hne⟩
    have hnil : names ≠ [] := by
      rintro rfl
      exact hne (by rw [← hway, List.append_nil])
    have hnames : ∀ name ∈ names, IsFileName name := fun name hname =>
      (isPiece_of_mem_components hcwd (hway ▸ List.mem_append_right _ hname)).fileName
    refine ⟨names, hway.symm, location_eq_join hcwd hrooted hnil hway.symm, ?_, ?_⟩
    · exact fun hempty => toList_join_ne_nil hnil hnames (by rw [hempty]; rfl)
    · rw [split_join hnil fun name hname => (hnames name hname).noSlash]
      exact fun name hname => (hnames name hname).plain
  refine ⟨⟨fun herror hin => ?_, fun hout => location_eq_error (hbelow.not.mpr hout)⟩, hfound,
    fun hfile hroot hfileHead hrootHead other =>
      location_congr_cwd hfile hroot hfileHead hrootHead other cwd⟩
  obtain ⟨names, -, hok, -⟩ := hfound hin
  rw [hok] at herror
  exact absurd herror (by simp)

/-- A file that goes through the current directory, and a root that lies above it. -/
theorem location_by_components_app :
    (∀ name ∈ ["work", "app"], IsPiece name) ∧
      location ["work", "app"] "../app\\..//.\\app/[id].tsx" "pages/../.."
        = .ok "app/[id].tsx" ∧
      location ["work", "app"] "pages2/a.tsx" "pages"
        = .error (.outsideRoot "pages2/a.tsx" "pages") ∧
      ∀ other, location other "pages/./blog/../a.tsx" ".\\pages"
        = location ["work", "app"] "pages/./blog/../a.tsx" ".\\pages" := by
  have hcwd : ∀ name ∈ ["work", "app"], IsPiece name := by decide
  have hfile : components ["work", "app"] "../app\\..//.\\app/[id].tsx"
      = ["work", "app", "[id].tsx"] := by decide +kernel
  have hroot : components ["work", "app"] "pages/../.." = ["work"] := by decide +kernel
  refine ⟨hcwd, ?_, ?_, ?_⟩
  · obtain ⟨names, hway, hok, -⟩ :=
      (location_by_components hcwd "../app\\..//.\\app/[id].tsx" "pages/../..").2.1
        ⟨by decide, by rw [hfile, hroot]; decide⟩
    rw [hfile, hroot] at hway
    obtain rfl : names = ["app", "[id].tsx"] := (List.cons.inj hway).2.symm
    exact hok
  · exact (location_by_components hcwd "pages2/a.tsx" "pages").1.mpr (by decide +kernel)
  · exact (location_by_components hcwd "pages/./blog/../a.tsx" ".\\pages").2.2 (by decide)
      (by decide) (by decide +kernel) (by decide +kernel)

end Route

end PageRoutes
