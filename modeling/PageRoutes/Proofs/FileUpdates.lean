import PageRoutes.Proofs.SessionFrames

/-!
# Bringing files up to date

A file is brought up to date only if it is not as it should be. `updateFile` does so for a content
that may be given as text, in any encoding, and compares digests instead of bytes.

* `FileSystem.HasParents`, `Holds.hasParents` — the directories on the way to a file are there.
* `writeIfChanged_eq_false_iff`, `frame_of_writeIfChanged_error` — what is done if the file is as it
  should be, and what is left if bringing it up to date fails.
* `eval_updateFile` — comparing digests is as good as comparing bytes, if the digests differ where
  the bytes do.
* `updateFile_exact` — a file is written just if it has to be, nothing else is, and not twice.
-/

namespace PageRoutes

open Text FileSystem

/-! ## The way to a file -/

namespace FileSystem

variable {fs : FileSystem} {a b : Address} {p : Path} {bytes bytes' : Bytes}

/-- The names lead to a place on the way to where the path leads, before its last name. -/
def IsAbove (names : List String) (p : Path) : Prop :=
  names <+: p.names ∧ names ≠ p.names

/-- Where the first names of a path lead. -/
def above (cwd : Address) (p : Path) (names : List String) : Address :=
  Path.resolve cwd { p with names }

/-- All directories on the way to where the path leads are there. -/
def HasParents (fs : FileSystem) (p : Path) : Prop :=
  ∀ names, IsAbove names p → fs.get? (above fs.cwd p names) = some .directory

/-- Whoever follows more names comes through a directory. -/
theorem get?_of_follow_append {names more : List String} {name : String}
    (h : fs.follow a (names ++ name :: more) = .ok b) :
    fs.get? (Address.walk a names) = some .directory := by
  rw [follow_append] at h
  cases hfollow : fs.follow a names with
  | error e =>
    rw [hfollow] at h
    cases h
  | ok c =>
    obtain rfl := follow_eq_ok hfollow
    rw [hfollow] at h
    have hrest : fs.follow (Address.walk a names) (name :: more) = .ok b := h
    rw [follow] at hrest
    split at hrest
    · assumption
    · cases hrest
    · cases hrest

/-- **The directories on the way to a file are there.** -/
theorem Holds.hasParents (h : fs.Holds p bytes) : fs.HasParents p := by
  rintro names ⟨⟨more, hmore⟩, hne⟩
  have hlocate := (lookup_eq_some_iff.mp h.2).1
  rw [locate] at hlocate
  split at hlocate
  · cases hlocate
  · cases more with
    | nil => exact absurd (by rw [← hmore, List.append_nil]) hne
    | cons name more =>
      rw [← hmore] at hlocate
      exact get?_of_follow_append hlocate

/-- A file is at the address that its path resolves to. -/
theorem Holds.get? (h : fs.Holds p bytes) : fs.get? (p.resolve fs.cwd) = some (.file bytes) :=
  (lookup_eq_some_iff.mp h.2).2

/-- A file holds one thing. -/
theorem Holds.unique (h : fs.Holds p bytes) (h' : fs.Holds p bytes') : bytes = bytes' := by
  have hsame := h.get?.symm.trans h'.get?
  exact Item.file.inj (Option.some.inj hsame)

end FileSystem

section

variable {p : Path} {bytes : Bytes} {w w' : Workspace} {changed : Bool} {e : Failure}

/-- Writes a file where directories may be missing. -/
def putFile (p : Path) (bytes : Bytes) : Action Bool := do
  Action.makeDirectories p.parent
  Action.writeFile p bytes
  return true

/-- The steps of bringing a file up to date. -/
theorem writeIfChanged_eq (p : Path) (bytes : Bytes) :
    writeIfChanged p bytes = (do
      let item ← Action.lookup p
      if item = some (.file (withLineFeed bytes)) then pure false
      else putFile p (withLineFeed bytes)) := rfl

theorem putFile_ne_ok_false : (putFile p bytes).eval w ≠ (.ok false, w') := by
  intro h
  obtain ⟨_, w₁, -, h⟩ := Action.eval_bind_eq_ok_iff.mp h
  obtain ⟨_, w₂, -, h⟩ := Action.eval_bind_eq_ok_iff.mp h
  exact absurd (Except.ok.inj (Prod.mk.inj h).1) (by decide)

/-- A look finds a file just if the file is there. -/
theorem eval_lookup_eq_file_iff :
    ((Action.lookup p).eval w).1 = .ok (some (.file bytes)) ↔ w.files.Holds p bytes := by
  rw [Action.eval_lookup]
  cases hnul : p.hasNul with
  | true => exact ⟨fun h => (by cases h), fun h => absurd (hnul.symm.trans h.1) (by decide)⟩
  | false => exact mapError_eq_ok_iff.trans ⟨fun h => ⟨hnul, h⟩, fun h => h.2⟩

/-- **Nothing is done just if the file is as it should be.** -/
theorem writeIfChanged_eq_false_iff :
    (writeIfChanged p bytes).eval w = (.ok false, w')
      ↔ w.files.Holds p (withLineFeed bytes) ∧ w' = w := by
  constructor
  · intro h
    rw [writeIfChanged_eq] at h
    obtain ⟨item, w₁, hlookup, h⟩ := Action.eval_bind_eq_ok_iff.mp h
    split at h
    · next hitem =>
      obtain rfl := (Prod.mk.inj h).2
      have hfound := congrArg Prod.fst hlookup
      rw [hitem, eval_lookup_eq_file_iff] at hfound
      rw [Action.eval_lookup] at hlookup
      exact ⟨hfound, (Prod.mk.inj hlookup).2.symm⟩
    · exact absurd h putFile_ne_ok_false
  · rintro ⟨hholds, rfl⟩
    exact eval_writeIfChanged_of_holds hholds

/-- A file that cannot be written leaves everything as it was. -/
theorem files_of_writeFile_error (h : (Action.writeFile p bytes).eval w = (.error e, w')) :
    w'.files = w.files := by
  unfold Action.writeFile at h
  dsimp only at h
  split at h
  · rcases Action.eval_bind_eq_error_iff.mp h with hthrow | ⟨_, _, hthrow, -⟩
    · rw [(Prod.mk.inj hthrow).2]
    · cases hthrow
  · rw [Action.eval_changeFiles] at h
    obtain ⟨hresult, rfl⟩ := Prod.mk.inj h
    cases hwrite : w.files.writeFile p bytes with
    | error e => rfl
    | ok fs =>
      rw [hwrite] at hresult
      cases hresult

/-- **If bringing a file up to date fails, no file has changed.** -/
theorem frame_of_writeIfChanged_error (h : (writeIfChanged p bytes).eval w = (.error e, w')) :
    Frame [] w.files w'.files := by
  rw [writeIfChanged_eq] at h
  rcases Action.eval_bind_eq_error_iff.mp h with h | ⟨item, w₁, hlookup, h⟩
  · rw [Action.eval_lookup] at h
    rw [(Prod.mk.inj h).2]
    exact .refl _ _
  · rw [Action.eval_lookup] at hlookup
    obtain rfl := (Prod.mk.inj hlookup).2
    split at h
    · cases h
    · have hmake : Evolves [] w.files ((Action.makeDirectories p.parent).eval w).2.files :=
        Action.evolves_makeDirectories _ w
      rcases Action.eval_bind_eq_error_iff.mp h with h | ⟨_, w₁, hmade, h⟩
      · rw [h] at hmake
        exact hmake.frame
      · rw [hmade] at hmake
        rcases Action.eval_bind_eq_error_iff.mp h with h | ⟨_, w₂, -, h⟩
        · rw [files_of_writeFile_error h]
          exact hmake.frame
        · cases h

/-- **A file is not written in place of a directory, nor behind a file.** -/
theorem writeIfChanged_refused (h : w.files.get? (p.resolve w.files.cwd) = some .directory ∨
    ∃ names, IsAbove names p ∧
      ∃ bytes, w.files.get? (above w.files.cwd p names) = some (.file bytes)) :
    ∃ e, ((writeIfChanged p bytes).eval w).1 = .error e := by
  have hevolves : Evolves [p] w.files ((writeIfChanged p bytes).eval w).2.files :=
    evolves_writeIfChanged (List.mem_singleton_self p) bytes w
  rcases hrun : (writeIfChanged p bytes).eval w with ⟨e | changed, w'⟩
  · exact ⟨e, rfl⟩
  · rw [hrun] at hevolves
    obtain ⟨hholds, hframe⟩ := writeIfChanged_eq_ok hrun
    exfalso
    rcases h with hdirectory | ⟨names, habove, present, hfile⟩
    · have hsame := (hframe.directory _ hdirectory).symm.trans (hframe.resolve_eq p ▸ hholds.get?)
      cases hsame
    · -- What was a file still is one, though a directory has to be there.
      obtain ⟨later, hlater⟩ := hevolves.file _ _ hfile
      have hsame := hlater.symm.trans (hframe.cwd ▸ hholds.hasParents names habove)
      cases hsame

/-! ## Comparing digests -/

/-- Whether a file is there whose bytes have the digest of the given ones. -/
def hasDigestOf {δ : Type} [DecidableEq δ] (digest : Bytes → δ) (data : Bytes) :
    Option Item → Bool
  | some (.file present) => digest present = digest data
  | _ => false

/--
Brings a file up to date, where the bytes that it holds are compared with the new ones by their
digests. A content that its encoding cannot write is `none`; it is refused before anything else
happens.
-/
def updateFile {δ : Type} [DecidableEq δ] (digest : Bytes → δ) (p : Path) :
    (content? : Option Bytes) → Action Bool
  | none => throw .unencodable
  | some content => do
    let item ← Action.lookup p
    if hasDigestOf digest (withLineFeed content) item then pure false
    else putFile p (withLineFeed content)

/-- The digests differ where the bytes of the file differ from the given ones. -/
def Separates {δ : Type} (digest : Bytes → δ) (fs : FileSystem) (p : Path) (data : Bytes) : Prop :=
  ∀ present, fs.Holds p present → digest present = digest data → present = data

section

variable {δ : Type} [DecidableEq δ] {digest : Bytes → δ}

/-- **Comparing digests is as good as comparing bytes.** -/
theorem eval_updateFile (h : Separates digest w.files p (withLineFeed bytes)) :
    (updateFile digest p (some bytes)).eval w = (writeIfChanged p bytes).eval w := by
  rw [writeIfChanged_eq, updateFile, Action.eval_bind, Action.eval_bind]
  rcases hlookup : (Action.lookup p).eval w with ⟨e | item, w₁⟩
  · rfl
  · have hsame : hasDigestOf digest (withLineFeed bytes) item = true
        ↔ item = some (.file (withLineFeed bytes)) := by
      constructor
      · intro hdigest
        rcases item with _ | _ | present
        · cases hdigest
        · cases hdigest
        · have hholds : w.files.Holds p present :=
            eval_lookup_eq_file_iff.mp (congrArg Prod.fst hlookup)
          rw [h present hholds (of_decide_eq_true hdigest)]
      · rintro rfl
        exact decide_eq_true rfl
    dsimp only
    rw [if_congr hsame rfl rfl]

/-- A file that is as it should be has the right digest, whatever digests tell apart. -/
theorem eval_updateFile_of_holds (h : w.files.Holds p (withLineFeed bytes)) :
    (updateFile digest p (some bytes)).eval w = (.ok false, w) := by
  have hseparates : Separates digest w.files p (withLineFeed bytes) :=
    fun present hpresent _ => hpresent.unique h
  rw [eval_updateFile hseparates]
  exact eval_writeIfChanged_of_holds h

/--
**A file is written just if it has to be**, nothing else is, and not twice.

Let the content of a file be given as bytes, or as a text in any encoding, which may be unable to
write it; behind it comes a line feed, if it does not end in one. Let the digests tell this from
what the file holds. Then nothing happens and the answer is no, just if the file holds it already.
If the answer is yes, the file holds it, the directories on the way to it are there, and all other
files are as before. If there is no answer, no file has changed; there is none if the encoding
cannot write the content, if the path leads to a directory, or if a file stands on the way. After
either answer the next one is no.
-/
theorem updateFile_exact (w : Workspace) (p : Path) (content? : Option Bytes)
    (h : ∀ data ∈ content?.map withLineFeed, Separates digest w.files p data) :
    let run := (updateFile digest p content?).eval w
    ((∀ bytes, content? = some bytes → (writeIfChanged p bytes).eval w = run) ∧
      ∀ text (encoding : Encoding), encoding.encode? text = content? →
        (writeTextIfChanged p text encoding).eval w = run) ∧
    (run.1 = .ok false ↔ ∃ data ∈ content?.map withLineFeed, w.files.Holds p data) ∧
    (run.1 = .ok false → run.2 = w) ∧
    (run.1 = .ok true → (∃ data ∈ content?.map withLineFeed, run.2.files.Holds p data) ∧
      run.2.files.HasParents p ∧ Frame [p.resolve w.files.cwd] w.files run.2.files) ∧
    (∀ e, run.1 = .error e → Frame [] w.files run.2.files) ∧
    ((content? = none ∨ w.files.get? (p.resolve w.files.cwd) = some .directory ∨
      (∃ names, IsAbove names p ∧
        ∃ bytes, w.files.get? (above w.files.cwd p names) = some (.file bytes))) →
      ∃ e, run.1 = .error e) ∧
    ∀ changed, run.1 = .ok changed →
      (updateFile digest p content?).eval run.2 = (.ok false, run.2) := by
  intro run
  cases content? with
  | none =>
    -- Nothing is done before the encoding is found unable.
    have hfails : ∀ {changed}, run.1 ≠ .ok changed := by
      intro changed h
      cases h
    refine ⟨⟨?_, fun text encoding hencode => ?_⟩, ⟨fun h => absurd h hfails, ?_⟩,
      fun h => absurd h hfails, fun h => absurd h hfails, fun e _ => .refl _ _,
      fun _ => ⟨.unencodable, rfl⟩, fun _ h => absurd h hfails⟩
    · intro bytes hbytes
      cases hbytes
    · rw [writeTextIfChanged, hencode]
      rfl
    · rintro ⟨data, hdata, -⟩
      cases hdata
  | some content =>
    have hrun : (writeIfChanged p content).eval w = run := (eval_updateFile (h _ rfl)).symm
    have hresult : ∀ result, run.1 = result →
        (writeIfChanged p content).eval w = (result, run.2) := by
      rintro result rfl
      exact hrun
    refine ⟨⟨?_, fun text encoding hencode => ?_⟩, ⟨fun hno => ?_, ?_⟩, fun hno => ?_,
      fun hyes => ?_, fun e herror => ?_, fun hrefused => ?_, fun changed hchanged => ?_⟩
    · rintro bytes ⟨⟩
      exact hrun
    · rw [writeTextIfChanged, hencode, ← hrun]
    · exact ⟨_, rfl, (writeIfChanged_eq_false_iff.mp (hresult _ hno)).1⟩
    · rintro ⟨data, ⟨⟩, hholds⟩
      rw [← hrun, eval_writeIfChanged_of_holds hholds]
    · exact (writeIfChanged_eq_false_iff.mp (hresult _ hno)).2
    · obtain ⟨hholds, hframe⟩ := writeIfChanged_eq_ok (hresult _ hyes)
      exact ⟨⟨_, rfl, hholds⟩, hholds.hasParents, hframe⟩
    · exact frame_of_writeIfChanged_error (hresult _ herror)
    · rw [← hrun]
      exact writeIfChanged_refused (hrefused.resolve_left (Option.some_ne_none _))
    · exact eval_updateFile_of_holds (writeIfChanged_eq_ok (hresult _ hchanged)).1

/-- A file without the last line feed, a directory and a file where a directory is needed. -/
def mixedFiles : FileSystem where
  cwd := ["w"]
  items := [(["w"], .directory), (["w", "a"], .file [0x61]), (["w", "d"], .directory)]
  distinct := by decide

/-- With lengths as digests, a line feed is added once, and a new file gets its directory; in place
of a directory or behind a file nothing is written. -/
theorem updateFile_exact_mixed :
    let w : Workspace := { files := mixedFiles }
    let update := fun path : String => updateFile List.length (.ofString path) (some [0x61])
    (∀ path ∈ ["a", "n/b", "d", "a/b/c"], ∀ data ∈ (some [0x61]).map withLineFeed,
      Separates List.length mixedFiles (.ofString path) data) ∧
    (((update "a").eval w).1 = .ok true ∧
      (update "a").eval ((update "a").eval w).2 = (.ok false, ((update "a").eval w).2)) ∧
    (((update "n/b").eval w).1 = .ok true ∧
      ((update "n/b").eval w).2.files.HasParents (.ofString "n/b")) ∧
    (∃ e, ((update "d").eval w).1 = .error e) ∧ ∃ e, ((update "a/b/c").eval w).1 = .error e := by
  intro w update
  have hseparates : ∀ path ∈ ["a", "n/b", "d", "a/b/c"], ∀ data ∈ (some [0x61]).map withLineFeed,
      Separates List.length mixedFiles (.ofString path) data := by
    rintro path hpath _ ⟨⟩ present hholds hlength
    have hitems : ∀ path ∈ ["a", "n/b", "d", "a/b/c"],
        mixedFiles.get? ((Path.ofString path).resolve mixedFiles.cwd)
          ∈ [none, some .directory, some (.file [0x61])] := by decide +kernel
    have hfound := hitems path hpath
    rw [hholds.get?] at hfound
    obtain rfl : present = [0x61] := by simpa using hfound
    exact absurd hlength (by decide)
  have hexact := fun path hpath => updateFile_exact w (.ofString path) (some [0x61])
    (hseparates path hpath)
  have ha : ((update "a").eval w).1 = .ok true := by decide +kernel
  have hn : ((update "n/b").eval w).1 = .ok true := by decide +kernel
  obtain ⟨-, -, -, -, -, -, hagain⟩ := hexact "a" (by decide)
  obtain ⟨-, -, -, hyes, -⟩ := hexact "n/b" (by decide)
  obtain ⟨-, -, -, -, -, hdirectory, -⟩ := hexact "d" (by decide)
  obtain ⟨-, -, -, -, -, hbehind, -⟩ := hexact "a/b/c" (by decide)
  refine ⟨hseparates, ⟨ha, hagain true ha⟩, ⟨hn, (hyes hn).2.1⟩,
    hdirectory (.inr (.inl (by decide +kernel))), hbehind (.inr (.inr ?_))⟩
  exact ⟨["a"], ⟨⟨["b", "c"], by decide +kernel⟩, by decide +kernel⟩, [0x61], by decide +kernel⟩

end

end

end PageRoutes
