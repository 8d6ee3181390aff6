import PageRoutes.Text.Split

/-!
# Segments of a route

A file path names a dynamic segment by brackets, `[slug]`; the route says `:slug`. A token is an
opening bracket, then at least one character that is no closing bracket, then a closing bracket.
Tokens are taken from left to right; an opening bracket that begins no token stays as it is.

Main statements:

* `colonChars_of_token` and `colonChars_of_no_token` — what an opening bracket turns into.
* `segments_append` — a slash ends a segment, so no token reaches over it.
-/

namespace PageRoutes.Route

open Text

/--
The name of the token whose opening bracket stood before the text, and what follows its closing
bracket; nothing if no token begins there.
-/
def takeToken (cs : List Char) : Option (List Char × List Char) :=
  match cs.takeWhile (· != ']'), cs.dropWhile (· != ']') with
  | c :: name, _ :: rest => some (c :: name, rest)
  | _, _ => none

theorem takeToken_eq_some {cs name rest : List Char} (h : takeToken cs = some (name, rest)) :
    cs = name ++ ']' :: rest ∧ name ≠ [] := by
  unfold takeToken at h
  split at h
  · next c n d r hn hr =>
    simp only [Option.some.injEq, Prod.mk.injEq] at h
    obtain ⟨rfl, rfl⟩ := h
    have hd : d = ']' := by
      have := List.head?_dropWhile_not (· != ']') cs
      simpa [hr] using this
    refine ⟨?_, by simp⟩
    subst hd
    rw [← hn, ← hr]
    exact List.takeWhile_append_dropWhile.symm
  · simp at h

/-- A token's rest is shorter than the text the token was taken from. -/
theorem length_lt_of_takeToken {cs name rest : List Char} (h : takeToken cs = some (name, rest)) :
    rest.length < cs.length := by
  rw [(takeToken_eq_some h).1]
  simp only [List.length_append, List.length_cons]
  omega

/-- The colon form of a text: every token `[name]` becomes `:name`, and all else stays. -/
def colonChars : List Char → List Char
  | [] => []
  | c :: cs =>
    if c = '[' then
      match _h : takeToken cs with
      | some (name, rest) => ':' :: (name ++ colonChars rest)
      | none => '[' :: colonChars cs
    else c :: colonChars cs
termination_by cs => cs.length
decreasing_by
  · have := length_lt_of_takeToken _h
    simp only [List.length_cons]
    omega
  · simp
  · simp

@[simp] theorem colonChars_nil : colonChars [] = [] := by
  rw [colonChars]

theorem colonChars_of_ne {c : Char} (h : c ≠ '[') (cs : List Char) :
    colonChars (c :: cs) = c :: colonChars cs := by
  rw [colonChars, if_neg h]

theorem colonChars_of_token {cs name rest : List Char} (h : takeToken cs = some (name, rest)) :
    colonChars ('[' :: cs) = ':' :: (name ++ colonChars rest) := by
  rw [colonChars, if_pos rfl]
  split
  · next n r hn => simp_all
  · simp_all

theorem colonChars_of_no_token {cs : List Char} (h : takeToken cs = none) :
    colonChars ('[' :: cs) = '[' :: colonChars cs := by
  rw [colonChars, if_pos rfl]
  split
  · simp_all
  · rfl

/-- One segment of a file path as a segment of a route. -/
def colonSegment (segment : String) : String :=
  String.ofList (colonChars segment.toList)

/-- The segments of a file path, each as a segment of a route. -/
def segments (path : String) : List String :=
  (split '/' path).map colonSegment

/-- A slash ends a segment. -/
theorem segments_append (a b : String) : segments (a ++ "/" ++ b) = segments a ++ segments b := by
  simp [segments, split, splitChars_append]

end PageRoutes.Route
