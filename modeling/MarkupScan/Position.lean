/-! # Source positions

Where a character stands in a text: its line and column, both counted from one, and its offset,
counted from zero. All three count characters.

Main definitions.
* **`Position`**: line, column and offset; positions made by hand may be any integers.
* **`Position.after`**: the position reached by reading characters from a given one.
* **`Span`**: the positions of the first character and of the one just after the last. -/

namespace MarkupScan

/-- A position in a text. -/
structure Position where
  /-- The line, counted from one. -/
  line : Int
  /-- The column, counted from one. -/
  column : Int
  /-- The offset, counted from zero. -/
  offset : Int
  deriving DecidableEq, Repr

namespace Position

/-- Where every text begins: line `1`, column `1`, offset `0`. -/
def origin : Position := ⟨1, 1, 0⟩

/-- The position after one more character; a line feed ends the line. -/
def next (p : Position) (c : Char) : Position :=
  if c = '\n' then ⟨p.line + 1, 1, p.offset + 1⟩
  else ⟨p.line, p.column + 1, p.offset + 1⟩

/-- The position after the characters of `text`. -/
def after (p : Position) (text : List Char) : Position := text.foldl next p

/-- `p.after [] = p`. -/
@[simp] theorem after_nil (p : Position) : p.after [] = p := rfl

/-- Reading `c :: text` is reading `c`, then `text`. -/
@[simp] theorem after_cons (p : Position) (c : Char) (text : List Char) :
    p.after (c :: text) = (p.next c).after text := rfl

/-- Reading `first ++ second` is reading `first`, then `second`. -/
theorem after_append (p : Position) (first second : List Char) :
    p.after (first ++ second) = (p.after first).after second := by
  simp [after]

/-- Every character moves the offset by one: `(p.next c).offset = p.offset + 1`. -/
@[simp] theorem offset_next (p : Position) (c : Char) : (p.next c).offset = p.offset + 1 := by
  unfold next
  split <;> rfl

end Position

/-- A stretch of text. -/
structure Span where
  /-- The position of the first character. -/
  start : Position
  /-- The position just after the last character. -/
  stop : Position
  deriving DecidableEq, Repr

end MarkupScan
