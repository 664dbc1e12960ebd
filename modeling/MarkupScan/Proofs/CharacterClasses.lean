import MarkupScan.Lexeme

/-! # Disjoint character classes

The scanner asks for the classes of a character in a fixed order. The answers would be the same in
any other order, because the classes that begin different things have no character in common. A
class with few characters is compared with the others one character at a time.

Main statements.
* **`takeWhile_append_stop`**: a run of characters of one class is taken whole.
* **`forall_of_isBlank`**, **`forall_of_isDigit`**: what holds of the listed characters of a small
  class holds of every character in it.
* **`isWordPart_eq_false_of_isBlank`**, **`isWordStart_eq_false_of_isDigit`**: white space continues
  no word and digits begin none. -/

namespace MarkupScan

open Number (isDigit)

/-- **A run of one class is taken whole:** `takeWhile` and `dropWhile` split `run ++ rest` into
`run` and `rest` where a character outside the class, or nothing, follows the run. -/
theorem takeWhile_append_stop {p : Char → Bool} {run rest : List Char}
    (hRun : ∀ c ∈ run, p c = true) (hStop : ∀ c ∈ rest.head?, p c = false) :
    (run ++ rest).takeWhile p = run ∧ (run ++ rest).dropWhile p = rest := by
  rw [List.takeWhile_append_of_pos hRun, List.dropWhile_append_of_pos hRun]
  cases rest with
  | nil => simp
  | cons c rest => simp [hStop c rfl]

/-- `p c = false` for the character that ends a run of `p`. -/
theorem stop_of_head?_dropWhile {p : Char → Bool} {text : List Char} {c : Char}
    (hc : c ∈ (text.dropWhile p).head?) : p c = false := by
  have hStop := List.head?_dropWhile_not p text
  rw [Option.mem_def.mp hc] at hStop
  exact hStop

namespace Text.CodeSet

/-- The code points of a set, listed in the order of its ranges. -/
def members : CodeSet → List Nat
  | .empty => []
  | .node below first last above =>
      below.members ++ List.range' first (last + 1 - first) ++ above.members

/-- **Whatever is found in a set is listed:** `contains code` implies `code ∈ set.members`. The
search goes down one side of each node, so the listing of that side holds the code point. -/
theorem mem_members_of_contains {set : CodeSet} {code : Nat} (h : set.contains code = true) :
    code ∈ set.members := by
  induction set with
  | empty => rw [contains_empty] at h; cases h
  | node below first last above ihBelow ihAbove =>
      rw [contains_node] at h
      simp only [members, List.mem_append, List.mem_range'_1]
      by_cases hFirst : code < first
      · rw [if_pos hFirst] at h
        exact Or.inl (Or.inl (ihBelow h))
      · rw [if_neg hFirst] at h
        by_cases hLast : code ≤ last
        · exact Or.inl (Or.inr (by omega))
        · rw [if_neg hLast] at h
          exact Or.inr (ihAbove h)

end Text.CodeSet

/-! ### White space -/

/-- `isBlank` of space, line feed and carriage return. -/
theorem isBlank_common : isBlank ' ' = true ∧ isBlank '\n' = true ∧ isBlank '\r' = true := by
  decide +kernel

/-- A space is white space (`isBlank`). -/
theorem isBlank_space : isBlank ' ' = true := isBlank_common.1

/-- A line feed is white space (`isBlank`). -/
theorem isBlank_feed : isBlank '\n' = true := isBlank_common.2.1

/-- A carriage return is white space (`isBlank`). -/
theorem isBlank_return : isBlank '\r' = true := isBlank_common.2.2

/-- `p c` for every blank, if `p` holds of the `members` of `Text.blanks`. -/
theorem forall_of_isBlank {p : Char → Bool}
    (hAll : Text.blanks.members.all (fun code => p (Char.ofNat code)) = true) {c : Char}
    (hc : isBlank c = true) : p c = true := by
  have hMem : c.toNat ∈ Text.blanks.members := Text.CodeSet.mem_members_of_contains hc
  have hp := List.all_eq_true.mp hAll c.toNat hMem
  rwa [Char.ofNat_toNat] at hp

/-- `isBlank c` excludes `isWordPart c`: white space continues no word. -/
theorem isWordPart_eq_false_of_isBlank {c : Char} (hc : isBlank c = true) :
    isWordPart c = false := by
  have h := forall_of_isBlank (p := fun c => !isWordPart c) (by decide +kernel) hc
  simpa using h

/-- `isBlank c` excludes `isWordStart c`: white space begins no word. -/
theorem isWordStart_eq_false_of_isBlank {c : Char} (hc : isBlank c = true) :
    isWordStart c = false := by
  cases hStart : isWordStart c with
  | false => rfl
  | true =>
      rw [← isWordPart_eq_false_of_isBlank hc, isWordPart_of_isWordStart hStart]

/-- White space is neither a digit nor a mark with a meaning of its own: none of `isDigit`, `"`,
`/`, operators and signs. -/
theorem marks_of_isBlank {c : Char} (hc : isBlank c = true) :
    isDigit c = false ∧ c ≠ '"' ∧ c ≠ '/' ∧ operatorCategories? c = none ∧
      signCategory? c = none := by
  have h := forall_of_isBlank
    (p := fun c => !isDigit c && c != '"' && c != '/' && (operatorCategories? c).isNone &&
      (signCategory? c).isNone) (by decide +kernel) hc
  simpa [and_assoc] using h

/-! ### Digits -/

/-- `p c` for every digit, if `p` holds of the code points `48` to `57`. -/
theorem forall_of_isDigit {p : Char → Bool}
    (hAll : (List.range' 48 10).all (fun code => p (Char.ofNat code)) = true) {c : Char}
    (hc : isDigit c = true) : p c = true := by
  have hMem : c.toNat ∈ List.range' 48 10 := by
    simp only [isDigit, Bool.and_eq_true, decide_eq_true_eq, Char.le_def, UInt32.le_iff_toNat_le]
      at hc
    have hLow : 48 ≤ c.toNat := hc.1
    have hHigh : c.toNat ≤ 57 := hc.2
    rw [List.mem_range'_1]
    omega
  have hp := List.all_eq_true.mp hAll c.toNat hMem
  rwa [Char.ofNat_toNat] at hp

/-- `isDigit c` excludes `isWordStart c` and `isBlank c`. -/
theorem classes_of_isDigit {c : Char} (hc : isDigit c = true) :
    isWordStart c = false ∧ isBlank c = false := by
  have h := forall_of_isDigit (p := fun c => !isWordStart c && !isBlank c) (by decide +kernel) hc
  simpa using h

/-- `isDigit c` excludes `isWordStart c`: digits begin no word. -/
theorem isWordStart_eq_false_of_isDigit {c : Char} (hc : isDigit c = true) :
    isWordStart c = false := (classes_of_isDigit hc).1

/-- `isDigit c` excludes `isBlank c`: no digit is white space. -/
theorem isBlank_eq_false_of_isDigit {c : Char} (hc : isDigit c = true) : isBlank c = false :=
  (classes_of_isDigit hc).2

end MarkupScan
