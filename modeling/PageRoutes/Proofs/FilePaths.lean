import Mathlib.Data.List.Basic
import Mathlib.Data.List.DropRight
import PageRoutes.Path
import PageRoutes.Route.Location

/-!
# Paths made of file names

An address is written as an absolute path and may be read again. What comes back is the same address
as long as its names are names of files: `IsFileName` says what no name of a file can be.

* `split_join` — pieces that were joined are found again.
* `ofString_text` — the text of an address is read as the path to it.
* `text_injective` — two addresses have two texts.
* `normalizePath_text` — as a view, an address loses its first slash and nothing else.
-/

namespace PageRoutes

open Text

/-! ## Joined pieces -/

namespace Text

variable {sep : Char} {pieces : List String}

theorem toList_join_singleton (piece : String) : (join sep [piece]).toList = piece.toList := by
  rw [join, String.intercalate_singleton]

theorem toList_join_cons_cons (piece next : String) (rest : List String) :
    (join sep (piece :: next :: rest)).toList
      = piece.toList ++ sep :: (join sep (next :: rest)).toList := by
  rw [join, String.intercalate_cons_cons, String.toList_append, String.toList_append,
    String.toList_singleton, List.append_assoc]
  rfl

/-- Two runs of pieces are joined with a separator between them. -/
theorem toList_join_append {xs ys : List String} (hxs : xs ≠ []) (hys : ys ≠ []) :
    (join sep (xs ++ ys)).toList = (join sep xs).toList ++ sep :: (join sep ys).toList := by
  induction xs with
  | nil => exact absurd rfl hxs
  | cons x rest ih =>
    cases rest with
    | nil =>
      obtain ⟨y, ys, rfl⟩ := List.exists_cons_of_ne_nil hys
      rw [toList_join_singleton]
      exact toList_join_cons_cons x y ys
    | cons next rest =>
      calc (join sep (x :: next :: rest ++ ys)).toList
          = x.toList ++ sep :: (join sep (next :: rest ++ ys)).toList :=
            toList_join_cons_cons x next (rest ++ ys)
        _ = (join sep (x :: next :: rest)).toList ++ sep :: (join sep ys).toList := by
            rw [ih (List.cons_ne_nil _ _), toList_join_cons_cons, List.append_assoc]
            rfl

/-- **Pieces that were joined are found again.** -/
theorem split_join (hne : pieces ≠ []) (h : ∀ piece ∈ pieces, sep ∉ piece.toList) :
    split sep (join sep pieces) = pieces := by
  induction pieces with
  | nil => exact absurd rfl hne
  | cons piece rest ih =>
    obtain ⟨hpiece, hrest⟩ := List.forall_mem_cons.mp h
    cases rest with
    | nil =>
      rw [split, toList_join_singleton, splitChars_of_not_mem hpiece, List.map_singleton,
        String.ofList_toList]
    | cons next rest =>
      have ih := ih (List.cons_ne_nil _ _) hrest
      rw [split] at ih ⊢
      rw [toList_join_cons_cons, splitChars_append, splitChars_of_not_mem hpiece, List.map_append,
        ih, List.map_singleton, String.ofList_toList]
      rfl

/-- Joined pieces hold nothing but their characters and the separator. -/
theorem mem_toList_join {c : Char} (h : c ∈ (join sep pieces).toList) :
    c = sep ∨ ∃ piece ∈ pieces, c ∈ piece.toList := by
  induction pieces with
  | nil => exact absurd h List.not_mem_nil
  | cons piece rest ih =>
    cases rest with
    | nil =>
      rw [toList_join_singleton] at h
      exact .inr ⟨piece, List.mem_cons_self, h⟩
    | cons next rest =>
      rw [toList_join_cons_cons, List.mem_append, List.mem_cons] at h
      rcases h with h | h | h
      · exact .inr ⟨piece, List.mem_cons_self, h⟩
      · exact .inl h
      · rcases ih h with hc | ⟨other, hother, hc⟩
        · exact .inl hc
        · exact .inr ⟨other, List.mem_cons_of_mem _ hother, hc⟩

/-- The characters of a piece are in the joined text. -/
theorem subset_toList_join {piece : String} (h : piece ∈ pieces) :
    piece.toList ⊆ (join sep pieces).toList := by
  induction pieces with
  | nil => exact absurd h List.not_mem_nil
  | cons first rest ih =>
    cases rest with
    | nil =>
      obtain rfl := List.mem_singleton.mp h
      rw [toList_join_singleton]
      exact List.Subset.refl _
    | cons next rest =>
      rw [toList_join_cons_cons]
      rcases List.mem_cons.mp h with rfl | hrest
      · exact List.subset_append_left _ _
      · exact fun c hc => List.mem_append_right _ (List.mem_cons_of_mem _ (ih hrest hc))

end Text

/-! ## Names of files -/

/-- A name that a file or a directory can have. -/
structure IsFileName (name : String) : Prop where
  /-- It leads down. -/
  plain : Address.IsPlain name
  /-- It is one name. -/
  noSlash : '/' ∉ name.toList

instance (name : String) : Decidable (IsFileName name) :=
  decidable_of_iff ((name ≠ "" ∧ name ≠ "." ∧ name ≠ "..") ∧ '/' ∉ name.toList)
    ⟨fun h => ⟨h.1, h.2⟩, fun h => ⟨h.plain, h.noSlash⟩⟩

/-- A name that a path can hold: that of a file, or `..`. -/
structure IsStepName (name : String) : Prop where
  /-- It leads somewhere. -/
  moves : name ≠ "" ∧ name ≠ "."
  /-- It is one name. -/
  noSlash : '/' ∉ name.toList

theorem isStepName_up : IsStepName ".." :=
  ⟨by decide, by decide⟩

theorem IsFileName.isStepName {name : String} (h : IsFileName name) : IsStepName name :=
  ⟨⟨h.plain.1, h.plain.2.1⟩, h.noSlash⟩

theorem IsStepName.toList_ne_nil {name : String} (h : IsStepName name) : name.toList ≠ [] :=
  fun hnil => h.moves.1 (String.toList_eq_nil_iff.mp hnil)

section

variable {a b : Address}

/-- A text starts at the current directory unless it begins with a slash. -/
theorem ofChars_eq_relative_iff {cs : List Char} :
    Anchor.ofChars cs = .relative ↔ cs.head? ≠ some '/' := by
  unfold Anchor.ofChars
  split
  · simp
  · simp
  · simp
  · next hslash =>
    refine ⟨fun _ hhead => ?_, fun _ => rfl⟩
    obtain ⟨rest, rfl⟩ := List.head?_eq_some_iff.mp hhead
    exact hslash rest rfl

/-- Names in a path that are joined begin with no slash. -/
theorem head?_join_ne (h : ∀ name ∈ a, IsStepName name) :
    (join '/' a).toList.head? ≠ some '/' := by
  match a with
  | [] => exact nofun
  | [name] =>
    obtain ⟨hname, -⟩ := List.forall_mem_cons.mp h
    rw [toList_join_singleton]
    exact fun hhead => hname.noSlash (List.mem_of_mem_head? hhead)
  | name :: next :: rest =>
    obtain ⟨hname, -⟩ := List.forall_mem_cons.mp h
    rw [toList_join_cons_cons, List.head?_append_of_ne_nil _ hname.toList_ne_nil]
    exact fun hhead => hname.noSlash (List.mem_of_mem_head? hhead)

/-- Names of files that are joined are a text with something in it, if there are any. -/
theorem toList_join_ne_nil (hne : a ≠ []) (h : ∀ name ∈ a, IsFileName name) :
    (join '/' a).toList ≠ [] := by
  match a with
  | [] => exact absurd rfl hne
  | [name] =>
    rw [toList_join_singleton]
    exact (h name List.mem_cons_self).isStepName.toList_ne_nil
  | name :: next :: rest =>
    rw [toList_join_cons_cons]
    exact List.append_ne_nil_of_right_ne_nil _ (List.cons_ne_nil _ _)

/-- Names of files that are joined end in no slash. -/
theorem getLast?_join_ne (h : ∀ name ∈ a, IsFileName name) :
    (join '/' a).toList.getLast? ≠ some '/' := by
  induction a with
  | nil => exact nofun
  | cons name rest ih =>
    obtain ⟨hname, hrest⟩ := List.forall_mem_cons.mp h
    cases rest with
    | nil =>
      rw [toList_join_singleton]
      exact fun hlast => hname.noSlash (List.mem_of_getLast? hlast)
    | cons next rest =>
      have hne := toList_join_ne_nil (List.cons_ne_nil next rest) hrest
      rw [toList_join_cons_cons, List.getLast?_append_of_ne_nil _ (List.cons_ne_nil _ _),
        List.getLast?_cons_of_ne_nil hne]
      exact ih hrest

/-- The names in a path are found again between its slashes. -/
theorem filter_split_join (h : ∀ name ∈ a, IsStepName name) :
    (split '/' (join '/' a)).filter (fun name => name != "" && name != ".") = a := by
  by_cases hne : a = []
  · rw [hne]
    decide
  · rw [split_join hne fun name hname => (h name hname).noSlash, List.filter_eq_self]
    intro name hname
    obtain ⟨hempty, hdot⟩ := (h name hname).moves
    simp [hempty, hdot]

theorem toList_text (a : Address) : a.text.toList = '/' :: (join '/' a).toList := by
  rw [Address.text, String.toList_append]
  rfl

/-- **The text of an address is read as the path to it.** -/
theorem ofString_text (h : ∀ name ∈ a, IsFileName name) : Path.ofString a.text = .ofAddress a := by
  have hsteps : ∀ name ∈ a, IsStepName name := fun name hname => (h name hname).isStepName
  have hanchor : Anchor.ofChars a.text.toList = .root := by
    rw [toList_text]
    unfold Anchor.ofChars
    split
    · rfl
    · next hcs => exact absurd (congrArg List.head? (List.cons.inj hcs).2) (head?_join_ne hsteps)
    · rfl
    · next hcs => exact absurd rfl (hcs _)
  have hnames : (split '/' a.text).filter (fun name => name != "" && name != ".") = a := by
    -- In front of the first slash stands an empty piece, which is no name.
    have hsplit : split '/' a.text = "" :: split '/' (join '/' a) := by
      rw [split, toList_text, splitChars_cons_sep, List.map_cons]
      rfl
    rw [hsplit, List.filter_cons_of_neg (by decide), filter_split_join hsteps]
  rw [Path.ofString, hanchor, hnames]
  rfl

/-- **Two addresses have two texts.** -/
theorem text_injective (ha : ∀ name ∈ a, IsFileName name) (hb : ∀ name ∈ b, IsFileName name)
    (h : a.text = b.text) : a = b := by
  have hpath : Path.ofAddress a = Path.ofAddress b := by
    rw [← ofString_text ha, ← ofString_text hb, h]
  exact congrArg Path.names hpath

theorem resolve_ofAddress (ha : ∀ name ∈ a, IsFileName name) (cwd : Address) :
    (Path.ofAddress a).resolve cwd = a :=
  Address.walk_eq_of_plain (fun name hname => (ha name hname).plain) []

/-! ## Ends of texts -/

theorem dropWhile_eq_self_of_head? {p : Char → Bool} {cs : List Char}
    (h : ∀ c ∈ cs.head?, p c = false) : cs.dropWhile p = cs := by
  cases cs with
  | nil => rfl
  | cons c cs => exact List.dropWhile_cons_of_neg (by rw [h c rfl]; exact Bool.false_ne_true)

theorem rdropWhile_eq_self_of_getLast? {p : Char → Bool} {cs : List Char}
    (h : ∀ c ∈ cs.getLast?, p c = false) : cs.rdropWhile p = cs := by
  refine List.rdropWhile_eq_self_iff.mpr fun hne hlast => ?_
  rw [h _ (List.getLast?_eq_some_getLast hne)] at hlast
  exact Bool.false_ne_true hlast

section

variable {p : Char → Bool} {cs : List Char} {c : Char}

theorem dropBothWhile_eq (p : Char → Bool) (cs : List Char) :
    dropBothWhile p cs = (cs.dropWhile p).rdropWhile p := rfl

theorem dropBothWhile_sublist (p : Char → Bool) (cs : List Char) :
    (dropBothWhile p cs).Sublist cs :=
  (List.rdropWhile_prefix p (cs.dropWhile p)).sublist.trans (List.dropWhile_sublist p)

theorem not_of_head?_dropBothWhile (h : (dropBothWhile p cs).head? = some c) : p c = false := by
  obtain ⟨rest, hrest⟩ := List.rdropWhile_prefix p (cs.dropWhile p)
  have hhead := List.head?_dropWhile_not p cs
  rwa [← hrest, List.head?_append, ← dropBothWhile_eq, h] at hhead

theorem not_of_getLast?_dropBothWhile (h : (dropBothWhile p cs).getLast? = some c) :
    p c = false := by
  rw [dropBothWhile_eq] at h
  have hne : (cs.dropWhile p).rdropWhile p ≠ [] := List.ne_nil_of_mem (List.mem_of_getLast? h)
  have hlast := List.rdropWhile_last_not p (cs.dropWhile p) hne
  rw [List.getLast?_eq_some_getLast hne] at h
  rwa [Option.some.inj h, Bool.not_eq_true] at hlast

theorem dropBothWhile_eq_nil_iff : dropBothWhile p cs = [] ↔ ∀ c ∈ cs, p c = true := by
  rw [dropBothWhile_eq, List.rdropWhile_eq_nil_iff]
  constructor
  · intro h
    rw [← List.dropWhile_eq_nil_iff]
    by_contra hne
    have hhead := List.head?_dropWhile_not p cs
    rw [List.head?_eq_some_head hne] at hhead
    exact Bool.false_ne_true (hhead.symm.trans (h _ (List.head_mem hne)))
  · exact fun h c hc => h c ((List.dropWhile_sublist p).mem hc)

end

/-! ## Slashes -/

theorem forwardSlashes_eq_self {s : String} (h : '\\' ∉ s.toList) :
    Route.forwardSlashes s = s := by
  have hmap : s.toList.map (fun c => if c = '\\' then '/' else c) = s.toList := by
    refine (List.map_congr_left fun c hc => if_neg ?_).trans (List.map_id _)
    rintro rfl
    exact h hc
  rw [Route.forwardSlashes, hmap, String.ofList_toList]

theorem dropBothWhile_join (h : ∀ name ∈ a, IsFileName name) :
    dropBothWhile (· == '/') (join '/' a).toList = (join '/' a).toList := by
  have hhead : (join '/' a).toList.dropWhile (· == '/') = (join '/' a).toList := by
    refine dropWhile_eq_self_of_head? fun c hc => ?_
    exact beq_eq_false_iff_ne.mpr fun heq =>
      head?_join_ne (fun name hname => (h name hname).isStepName) (heq ▸ hc)
  have hlast : (join '/' a).toList.rdropWhile (· == '/') = (join '/' a).toList := by
    refine rdropWhile_eq_self_of_getLast? fun c hc => ?_
    exact beq_eq_false_iff_ne.mpr fun heq => getLast?_join_ne h (heq ▸ hc)
  rw [dropBothWhile_eq, hhead, hlast]

theorem backslash_not_mem_join (h : ∀ name ∈ a, '\\' ∉ name.toList) :
    '\\' ∉ (join '/' a).toList := by
  intro hmem
  rcases mem_toList_join hmem with hslash | ⟨name, hname, hc⟩
  · exact absurd hslash (by decide)
  · exact h name hname hc

theorem backslash_not_mem_text (h : ∀ name ∈ a, '\\' ∉ name.toList) : '\\' ∉ a.text.toList := by
  rw [toList_text, List.mem_cons, not_or]
  exact ⟨by decide, backslash_not_mem_join h⟩

/-- Below a directory a path of names is written as it is. -/
theorem normalizePath_join (h : ∀ name ∈ a, IsFileName name)
    (hback : ∀ name ∈ a, '\\' ∉ name.toList) :
    Route.normalizePath (join '/' a) = join '/' a := by
  rw [Route.normalizePath, forwardSlashes_eq_self (backslash_not_mem_join hback),
    dropBothWhile_join h, String.ofList_toList]

/-- **As a view, an address loses its first slash** and nothing else. -/
theorem normalizePath_text (h : ∀ name ∈ a, IsFileName name)
    (hback : ∀ name ∈ a, '\\' ∉ name.toList) : Route.normalizePath a.text = join '/' a := by
  have hdrop : dropBothWhile (· == '/') a.text.toList = (join '/' a).toList := by
    rw [← dropBothWhile_join h, toList_text]
    rfl
  rw [Route.normalizePath, forwardSlashes_eq_self (backslash_not_mem_text hback), hdrop,
    String.ofList_toList]

end

end PageRoutes
