import MarkupScan.Position
import MarkupScan.Text.Lines
import MarkupScan.Text.Units

/-! # Editor ranges

Spans as editors count them: lines from zero, and characters of a line in UTF-16 units from zero.

Main definitions.
* **`Range`**: two places in an editor's counting.
* **`rangeOf`**: the range of a span over the lines of a text.
* **`rangeOf?`**: the same for a span made by hand, whose lines may be no lines at all. -/

namespace MarkupScan.Editor

/-- A place in an editor's counting. -/
structure Place where
  /-- The line, counted from zero. -/
  line : Nat
  /-- The UTF-16 units before it on its line. -/
  character : Nat
  deriving DecidableEq, Repr

/-- A stretch of text in an editor's counting. -/
structure Range where
  /-- The place of the first character. -/
  start : Place
  /-- The place just after the last character. -/
  stop : Place
  deriving DecidableEq, Repr

/-- The UTF-16 units of `line` before the given column, which is counted from one. -/
def unitsBefore (line : List Char) (column : Int) : Nat :=
  Text.unitLength (Text.takeSigned (column - 1) line)

/-- The place of a position; lines beyond the last are empty. -/
def placeOf (lines : List (List Char)) (p : Position) : Place :=
  let index := (p.line - 1).toNat
  ⟨index, unitsBefore ((lines[index]?).getD []) p.column⟩

/-- The range of a span: `placeOf` of both ends. -/
def rangeOf (lines : List (List Char)) (span : Span) : Range :=
  ⟨placeOf lines span.start, placeOf lines span.stop⟩

/-- Why a position has no place in an editor. -/
inductive RangeError where
  /-- The line lies farther before the text than the text is long. -/
  | farBeforeText
  /-- The line is not among those that an editor can number. -/
  | unfitLine
  deriving DecidableEq, Repr

/-- The greatest line, counted from one, that an editor can number. -/
def lastLine : Int := 0x80000000

/-- The position, if an editor can number its line: from `1` to `lastLine`. -/
def fitting (lines : List (List Char)) (p : Position) : Except RangeError Position :=
  if p.line ≤ -lines.length then .error .farBeforeText
  else if p.line < 1 ∨ lastLine < p.line then .error .unfitLine
  else .ok p

/-- The range of a span whose positions may be any integers: `rangeOf` where both ends are
`fitting`. -/
def rangeOf? (lines : List (List Char)) (span : Span) : Except RangeError Range := do
  let start ← fitting lines span.start
  let stop ← fitting lines span.stop
  return rangeOf lines ⟨start, stop⟩

end MarkupScan.Editor
