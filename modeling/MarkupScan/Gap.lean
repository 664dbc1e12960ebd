import MarkupScan.Character

/-! # Gaps between tokens

White space and comments, which stand between tokens and produce none. A comment runs from `/*` to
the first `*/` after it, or to the end of the text.

Main definitions.
* **`splitClose?`**: the rest of a comment up to its end mark, and what follows.
* **`Gap.read`**: the longest gap at the front of a text.

Main statements: a gap and what follows it are the text (`Gap.read_append`), so that what follows is
no longer than the text (`Gap.length_rest_le`). -/

namespace MarkupScan

/-- Splits a text just after its first `*/`, if it has one. -/
def splitClose? : List Char → Option (List Char × List Char)
  | [] => none
  | '*' :: '/' :: rest => some (['*', '/'], rest)
  | c :: rest => (splitClose? rest).map fun (body, after) => (c :: body, after)

/-- `splitClose? text = some (body, after)` implies `body ++ after = text`. -/
theorem append_of_splitClose? {text body after : List Char}
    (hSplit : splitClose? text = some (body, after)) : body ++ after = text := by
  fun_induction splitClose? text generalizing body after with
  | case1 => cases hSplit
  | case2 rest => cases hSplit; rfl
  | case3 c rest _ ih =>
      obtain ⟨⟨inner, tail⟩, hFound, hEqual⟩ := Option.map_eq_some_iff.1 hSplit
      cases hEqual
      simp [ih hFound]

/-- What stands between two tokens, with the text that follows. -/
structure Gap where
  /-- White space and closed comments. -/
  skipped : List Char
  /-- A comment that is still open at the end of the text, or `[]`. -/
  unclosed : List Char
  /-- The text after the gap. -/
  rest : List Char
  deriving DecidableEq, Repr

namespace Gap

/-- The gap with the characters of `front` skipped before it. -/
def skip (front : List Char) (gap : Gap) : Gap := { gap with skipped := front ++ gap.skipped }

/-- The longest gap at the front of a text. -/
def read (text : List Char) : Gap :=
  match text with
  | [] => ⟨[], [], []⟩
  | '/' :: '*' :: tail =>
      match _hFound : splitClose? tail with
      | some (body, after) => (read after).skip ('/' :: '*' :: body)
      | none => ⟨[], '/' :: '*' :: tail, []⟩
  | c :: tail => if isBlank c then (read tail).skip [c] else ⟨[], [], c :: tail⟩
termination_by text.length
decreasing_by
  · have hWhole := congrArg List.length (append_of_splitClose? _hFound)
    simp at hWhole ⊢
    omega
  · simp

/-- `skipped ++ unclosed ++ rest = text` for the gap at the front of `text`. -/
theorem read_append (text : List Char) :
    (read text).skipped ++ (read text).unclosed ++ (read text).rest = text := by
  fun_induction read text with
  | case1 => rfl
  | case2 tail body after hSplit ih =>
      have hWhole := append_of_splitClose? hSplit
      simp only [List.append_assoc] at ih
      simp [skip, ih, hWhole]
  | case3 => simp
  | case4 c tail _ _ ih =>
      simp only [List.append_assoc] at ih
      simp [skip, ih]
  | case5 => simp

/-- The `rest` behind a gap is no longer than the text. -/
theorem length_rest_le (text : List Char) : (read text).rest.length ≤ text.length := by
  have hWhole := congrArg List.length (read_append text)
  simp at hWhole
  omega

end Gap

end MarkupScan
