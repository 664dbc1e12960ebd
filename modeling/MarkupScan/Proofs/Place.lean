import Mathlib.Data.List.DropRight
import MarkupScan.Position

/-! # The place of an offset

A position is handed on from character to character while a text is read. Here it is told from the
whole text in front of it instead: the line from the line feeds in that text, the column from the
characters after the last of them.

Main definitions.
* **`Position.ofOffset`**: the position of an offset, read off the text before it.
* **`Position.Precedes`**: the order of lines, and of columns within a line.

Main statements: reading a text moves from the place of one offset to the place of another
(`Position.after_ofOffset`), the place of an offset depends on the text before it only
(`Position.ofOffset_eq_of_take_eq`), and places are ordered as their offsets are
(`Position.ofOffset_precedes_iff`). -/

namespace MarkupScan

/-- `source.drop m = source.extract m n ++ source.drop n` for `m ≤ n`. -/
theorem drop_eq_extract_append {source : List Char} {m n : ℕ} (hmn : m ≤ n) :
    source.drop m = source.extract m n ++ source.drop n := by
  conv_lhs => rw [← List.take_append_drop (n - m) (source.drop m), List.drop_drop]
  rw [Nat.add_sub_of_le hmn]

/-- `source.extract m n` has `n - m` characters. -/
theorem length_extract {source : List Char} {m n : ℕ} (hn : n ≤ source.length) :
    (source.extract m n).length = n - m := by
  rw [List.length_take, List.length_drop]
  omega

/-- `source.extract n source.length = source.drop n`. -/
theorem extract_length (source : List Char) (n : ℕ) :
    source.extract n source.length = source.drop n := by
  rw [List.extract, ← List.length_drop, List.take_length]

/-- Where `text` stands at `n`, its characters are those up to its end, and `rest` stands at its
end. -/
theorem extract_of_drop_eq {source text rest : List Char} {n : ℕ} (hn : n ≤ source.length)
    (h : source.drop n = text ++ rest) :
    n + text.length ≤ source.length ∧ source.extract n (n + text.length) = text ∧
      source.drop (n + text.length) = rest := by
  have hLength := congrArg List.length h
  rw [List.length_drop, List.length_append] at hLength
  refine ⟨by omega, ?_, ?_⟩
  · rw [List.extract, Nat.add_sub_cancel_left, h, List.take_left]
  · rw [← List.drop_drop, h, List.drop_left]

/-- `source.extract m n ++ source.extract n k = source.extract m k` for `m ≤ n ≤ k`. -/
theorem extract_append_extract {source : List Char} {m n k : ℕ} (hmn : m ≤ n) (hnk : n ≤ k) :
    source.extract m n ++ source.extract n k = source.extract m k := by
  have hFirst : (source.drop m).drop (n - m) = source.drop n := by
    rw [List.drop_drop, Nat.add_sub_of_le hmn]
  have hCount : k - m = n - m + (k - n) := by omega
  simp only [List.extract, hCount, List.take_add, hFirst]

/-! ### Texts with the same beginning -/

section SameBeginning

variable {source other : List Char} {k n : ℕ}

/-- Texts that begin with the same `k` characters begin with the same fewer ones. -/
theorem take_eq_of_le (hSame : source.take k = other.take k) (hn : n ≤ k) :
    source.take n = other.take n := by
  have hTake := congrArg (List.take n) hSame
  rwa [List.take_take, List.take_take, Nat.min_eq_left hn] at hTake

/-- They have the same characters between offsets up to `k`. -/
theorem extract_eq_of_take_eq (hSame : source.take k = other.take k) (m : ℕ) (hn : n ≤ k) :
    source.extract m n = other.extract m n := by
  rw [List.extract, List.extract, ← List.drop_take, ← List.drop_take, take_eq_of_le hSame hn]

/-- They have the same character at every offset before `k`. -/
theorem head?_drop_eq_of_take_eq (hSame : source.take k = other.take k) (hn : n < k) :
    (source.drop n).head? = (other.drop n).head? := by
  rw [List.head?_drop, List.head?_drop, ← List.getElem?_take_of_lt hn, hSame,
    List.getElem?_take_of_lt hn]

end SameBeginning

namespace Position

/-- The position of the offset `n` in a text: the line is one more than the number of line feeds
before the offset, the column one more than the number of characters after the last of them. -/
def ofOffset (source : List Char) (n : ℕ) : Position :=
  ⟨1 + (source.take n).count '\n', 1 + ((source.take n).rtakeWhile (· != '\n')).length, n⟩

/-- `(ofOffset source n).offset = n`. -/
@[simp] theorem offset_ofOffset (source : List Char) (n : ℕ) :
    (ofOffset source n).offset = n := rfl

/-- `ofOffset source 0 = origin`. -/
@[simp] theorem ofOffset_zero (source : List Char) : ofOffset source 0 = origin := by
  simp [ofOffset, origin]

/-- `ofOffset source n` depends on `source.take n` only. -/
theorem ofOffset_eq_of_take_eq {source other : List Char} {n : ℕ}
    (hSame : source.take n = other.take n) : ofOffset source n = ofOffset other n := by
  rw [ofOffset, ofOffset, hSame]

/-- **Counting while reading is counting at the end.** The position reached from the beginning of a
text by reading all of it has as many lines as the text has line feeds, and as many columns as it
has characters after the last one. -/
theorem after_origin (text : List Char) :
    origin.after text
      = ⟨1 + text.count '\n', 1 + (text.rtakeWhile (· != '\n')).length, text.length⟩ := by
  -- the last line is counted from the end of the text, so the last character is taken off
  induction text using List.reverseRecOn with
  | nil => simp [origin]
  | append_singleton text c ih =>
      rw [after_append, ih, after_cons, after_nil, next, List.rtakeWhile_concat]
      by_cases hc : c = '\n'
      · subst hc
        simp
        omega
      · rw [if_neg hc, if_pos (by simpa using hc)]
        simp [hc]
        omega

/-- Reading the first `n` characters leads to the place of `n`. -/
theorem after_take {source : List Char} {n : ℕ} (hn : n ≤ source.length) :
    origin.after (source.take n) = ofOffset source n := by
  rw [after_origin, ofOffset, List.length_take_of_le hn]

/-- **Reading on leads from place to place:** `after text` leads from `ofOffset source n` to that of
`n + text.length`. -/
theorem after_ofOffset {source text rest : List Char} {n : ℕ} (hn : n ≤ source.length)
    (hRest : source.drop n = text ++ rest) :
    (ofOffset source n).after text = ofOffset source (n + text.length) := by
  have hTake : source.take (n + text.length) = source.take n ++ text := by
    rw [List.take_add, hRest, List.take_left]
  rw [← after_take hn, ← after_append, ← hTake, after_take (extract_of_drop_eq hn hRest).1]

/-- Reading `source.extract m n` leads from `ofOffset source m` to `ofOffset source n`. -/
theorem after_extract {source : List Char} {m n : ℕ} (hmn : m ≤ n) (hn : n ≤ source.length) :
    (ofOffset source m).after (source.extract m n) = ofOffset source n := by
  rw [after_ofOffset (by omega) (drop_eq_extract_append hmn), length_extract hn,
    Nat.add_sub_of_le hmn]

/-! ### The order of places -/

/-- One position comes before another on the page: on an earlier line, or further left on the same
line. -/
def Precedes (p q : Position) : Prop :=
  p.line < q.line ∨ p.line = q.line ∧ p.column < q.column

/-- No position `Precedes` itself. -/
theorem not_precedes_self (p : Position) : ¬ p.Precedes p := by
  rintro (h | ⟨-, h⟩)
  · exact Int.lt_irrefl _ h
  · exact Int.lt_irrefl _ h

/-- `p.Precedes q` excludes `q.Precedes p`. -/
theorem Precedes.asymm {p q : Position} (h : p.Precedes q) : ¬ q.Precedes p := by
  unfold Precedes at *
  omega

/-- `p.after text` is on a later line, or on that of `p` and `text.length` columns further. -/
theorem line_after (p : Position) (text : List Char) :
    p.line < (p.after text).line ∨
      p.line = (p.after text).line ∧ (p.after text).column = p.column + text.length := by
  induction text generalizing p with
  | nil => simp
  | cons c text ih =>
      rw [after_cons, List.length_cons]
      by_cases hc : c = '\n'
      · -- the line feed alone leads to the next line, whatever follows it
        have hNext : (p.next c).line = p.line + 1 := by simp [next, hc]
        rcases ih (p.next c) with h | ⟨h, -⟩ <;> omega
      · have hLine : (p.next c).line = p.line := by simp [next, hc]
        have hColumn : (p.next c).column = p.column + 1 := by simp [next, hc]
        rcases ih (p.next c) with h | ⟨hSame, hMoved⟩
        · omega
        · right
          push_cast
          omega

/-- `p.Precedes (p.after text)` for a text that is not empty. -/
theorem precedes_after (p : Position) {text : List Char} (hText : text ≠ []) :
    p.Precedes (p.after text) := by
  have hLength : 0 < text.length := List.length_pos_iff.mpr hText
  rcases line_after p text with h | ⟨hLine, hColumn⟩
  · exact Or.inl h
  · exact Or.inr ⟨hLine, by omega⟩

/-- `ofOffset source m` precedes `ofOffset source n` for `m < n`. -/
theorem ofOffset_precedes {source : List Char} {m n : ℕ} (hmn : m < n)
    (hn : n ≤ source.length) : (ofOffset source m).Precedes (ofOffset source n) := by
  have hLength := length_extract (m := m) hn
  rw [← after_extract hmn.le hn]
  exact precedes_after _ (List.length_pos_iff.mp (by omega))

/-- **Places are ordered as their offsets are.** -/
theorem ofOffset_precedes_iff {source : List Char} {m n : ℕ} (hm : m ≤ source.length)
    (hn : n ≤ source.length) : (ofOffset source m).Precedes (ofOffset source n) ↔ m < n := by
  constructor
  · intro h
    by_contra hNot
    -- otherwise the places would be the same or in the opposite order
    rcases Nat.lt_or_eq_of_le (Nat.le_of_not_lt hNot) with hLess | hEqual
    · exact (ofOffset_precedes hLess hm).asymm h
    · subst hEqual
      exact not_precedes_self _ h
  · intro h
    exact ofOffset_precedes h hn

end Position

end MarkupScan
