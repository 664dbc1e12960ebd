/-! # UTF-16 code units

How many 16-bit units a text takes, and which ones: characters above `U+FFFF` are pairs of
surrogates.

Main definitions.
* **`codeUnits`**: the one or two units of a character.
* **`unitWidth`**, **`unitLength`**: the number of units of a character and of a text.

Main statements: a text has as many units as it is made of (`length_flatMap_codeUnits`), and units of
two texts add up (`unitLength_append`). -/

namespace MarkupScan.Text

/-- The UTF-16 code units of a character. -/
def codeUnits (c : Char) : List Nat :=
  if c.toNat < 0x10000 then [c.toNat]
  else
    let above := c.toNat - 0x10000
    [0xD800 + above / 0x400, 0xDC00 + above % 0x400]

/-- The number of UTF-16 code units of a character: `1` or `2`. -/
def unitWidth (c : Char) : Nat := if c.toNat < 0x10000 then 1 else 2

/-- `unitWidth c` counts the `codeUnits` of `c`. -/
theorem length_codeUnits (c : Char) : (codeUnits c).length = unitWidth c := by
  unfold codeUnits unitWidth
  split <;> rfl

/-- The number of UTF-16 code units of a text: the sum of `unitWidth`. -/
def unitLength (text : List Char) : Nat := text.foldl (fun count c => count + unitWidth c) 0

/-- `unitLength [] = 0`. -/
@[simp] theorem unitLength_nil : unitLength [] = 0 := rfl

/-- Counting on from `count` adds it to `unitLength text`. -/
theorem foldl_unitWidth (text : List Char) (count : Nat) :
    text.foldl (fun count c => count + unitWidth c) count = count + unitLength text := by
  induction text generalizing count with
  | nil => rfl
  | cons c text ih =>
      unfold unitLength
      rw [List.foldl_cons, List.foldl_cons, ih, ih]
      omega

/-- Units are counted character by character. -/
@[simp] theorem unitLength_cons (c : Char) (text : List Char) :
    unitLength (c :: text) = unitWidth c + unitLength text := by
  rw [unitLength, List.foldl_cons, foldl_unitWidth]
  omega

/-- **`unitLength text` is the number of code units of the text.** -/
theorem length_flatMap_codeUnits (text : List Char) :
    (text.flatMap codeUnits).length = unitLength text := by
  induction text with
  | nil => rfl
  | cons c text ih =>
      rw [List.flatMap_cons, List.length_append, length_codeUnits, unitLength_cons, ih]

/-- `unitLength (first ++ second) = unitLength first + unitLength second`. -/
@[simp] theorem unitLength_append (first second : List Char) :
    unitLength (first ++ second) = unitLength first + unitLength second := by
  induction first with
  | nil => simp
  | cons c first ih =>
      rw [List.cons_append, unitLength_cons, unitLength_cons, ih]
      omega

end MarkupScan.Text
