import MarkupScan.Number.Decimal
import MarkupScan.Text.Blank
import MarkupScan.Text.Letter
import MarkupScan.Text.Mark
import MarkupScan.Text.Numeral

/-! # Character classes

The classes of characters that the scanner tells apart, and their extent over ranges of code points.

Main definitions.
* **`isWordStart`**, **`isWordPart`**: the characters that begin and that continue a word.
* **`isBlank`**: the characters that separate tokens and mean nothing else.
* **`CharClass`**: the answers of all classes for one character.
* **`CharClass.runs`**: the maximal runs of equally classified code points in an interval. -/

namespace MarkupScan

open Number (isDigit)

/-- Whether `c` may begin a word: a letter, an underscore, a spacing mark or a letter number. -/
def isWordStart (c : Char) : Bool :=
  Text.letters.has c || c == '_' || Text.spacingMarks.has c || Text.letterNumbers.has c

/-- Whether `c` may continue a word: `isWordStart c`, a numeral, a hyphen or a nonspacing mark. -/
def isWordPart (c : Char) : Bool :=
  isWordStart c || Text.numerals.has c || c == '-' || Text.nonspacingMarks.has c

/-- `isWordStart c` implies `isWordPart c`. -/
theorem isWordPart_of_isWordStart {c : Char} (hStart : isWordStart c = true) :
    isWordPart c = true := by
  simp [isWordPart, hStart]

/-- Whether the character is white space. -/
def isBlank (c : Char) : Bool := Text.blanks.has c

/-- The classes that a character belongs to. -/
structure CharClass where
  /-- The character may begin a word (`isWordStart`). -/
  wordStart : Bool
  /-- The character may continue a word (`isWordPart`). -/
  wordPart : Bool
  /-- The character is an ASCII digit. -/
  digit : Bool
  /-- The character is white space (`isBlank`). -/
  blank : Bool
  deriving DecidableEq, Repr

namespace CharClass

/-- The classes of a character. -/
def of (c : Char) : CharClass := ⟨isWordStart c, isWordPart c, isDigit c, isBlank c⟩

/-- The classes of an absent character: none. -/
def absent : CharClass := ⟨false, false, false, false⟩

/-- One letter for each class that holds and a dot for each that does not. -/
def flags (k : CharClass) : String :=
  String.ofList
    [if k.wordStart then 'S' else '.', if k.wordPart then 'C' else '.',
      if k.digit then 'D' else '.', if k.blank then 'W' else '.']

/-- The classes of a code point; `none` where it is no character. -/
def ofCode? (code : Nat) : Option CharClass :=
  if code.isValidChar then some (of (Char.ofNat code)) else none

/-- Consecutive code points with the same classes. -/
structure Run where
  /-- The first code point of the run. -/
  first : Nat
  /-- The last code point of the run. -/
  last : Nat
  /-- The classes of all of them. -/
  kind : CharClass
  deriving DecidableEq, Repr

/-- Puts a code point in front of the runs that follow it, joining it to an adjacent run with the
same classes; a code point that is no character joins nothing. -/
def Run.cons (code : Nat) (runs : List Run) : List Run :=
  match ofCode? code, runs with
  | none, runs => runs
  | some k, run :: rest =>
      if run.first = code + 1 ∧ run.kind = k then { run with first := code } :: rest
      else ⟨code, code, k⟩ :: run :: rest
  | some k, [] => [⟨code, code, k⟩]

/-- The maximal runs of equally classified characters among the code points from `first` to
`last`. -/
def runs (first last : Nat) : List Run :=
  (List.range' first (last + 1 - first)).foldr Run.cons []

end CharClass

end MarkupScan
