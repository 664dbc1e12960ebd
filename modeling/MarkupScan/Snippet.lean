import MarkupScan.Notice
import MarkupScan.Number.Integer
import MarkupScan.Text.Lines

/-! # Snippets

A notice shown with the source line it points at, in five lines: what is wrong, where, an empty
gutter, the source line, and carets under the place.

Main definitions.
* **`shownLine`**: the source line that a snippet shows.
* **`caretCount`**: how many carets stand under it.
* **`Notice.snippet`**: the five lines, joined by line feeds.
* **`Notice.snippet?`**: the same for a span made by hand, whose line and columns may be too far
  out. -/

namespace MarkupScan

/-- The file name of a text that has none. -/
def defaultFileName : String := "input.wn"

/-- The line of `source` with the given number, counted from one, without its carriage returns at
the end; `[]` if there is no such line. -/
def shownLine (source : List Char) (line : Int) : List Char :=
  if line < 1 then []
  else Text.trimReturns (((Text.lines source)[(line - 1).toNat]?).getD [])

/-- The width of the underline: the span where it lies on one line, else up to the end of the
`shown` line; at least `1`. -/
def caretCount (span : Span) (shown : List Char) : Int :=
  let column := span.start.column
  if span.stop.line = span.start.line then max 1 (span.stop.column - column)
  else max 1 (shown.length - column + 1)

/-- The lines of a snippet: message, place, a bar, the `shownLine`, and carets under the span. -/
def Notice.snippetLines (n : Notice) (source fileName : String) : List String :=
  let line := n.span.start.line
  let column := n.span.start.column
  let number := toString line
  let gutter := Text.spaces (number.length + 1)
  let shown := shownLine source.toList line
  let carets := String.ofList (List.replicate (caretCount n.span shown).toNat '^')
  [n.severity.label ++ ": " ++ n.message,
    gutter ++ "--> " ++ fileName ++ ":" ++ number ++ ":" ++ toString column,
    gutter ++ "|",
    number ++ " | " ++ String.ofList shown,
    gutter ++ "| " ++ Text.spaces (column - 1) ++ carets]

/-- The notice shown with its source line: its `snippetLines`, joined. -/
def Notice.snippet (n : Notice) (source fileName : String) : String :=
  "\n".intercalate (n.snippetLines source fileName)

/-- Why a notice cannot be shown. -/
inductive SnippetError where
  /-- A width is no 64-bit number. -/
  | unfit
  /-- The text would be larger than the memory. -/
  | tooWide
  /-- The number of the line has more than `maxIntegerDigits` digits. -/
  | longInteger
  deriving DecidableEq, Repr

/-- The greatest width of a text. -/
def widthLimit : Int := 0x100000000

/-- Whether a text can have the given width; a negative one stands for none. Beyond `widthLimit` it
is `tooWide`, and `unfit` if it is no 64-bit number. -/
def checkWidth (width : Int) : Except SnippetError Unit :=
  if width < -0x8000000000000000 ∨ 0x8000000000000000 ≤ width then .error .unfit
  else if widthLimit < width then .error .tooWide
  else .ok ()

/-- The notice as `Notice.snippet` shows it, unless its span is too far out: first the columns
count, then the number of the line. A column that is not too far out has few digits. -/
def Notice.snippet? (n : Notice) (source fileName : String) : Except SnippetError String := do
  checkWidth (n.span.start.column - 1)
  checkWidth (caretCount n.span (shownLine source.toList n.span.start.line))
  match Number.integerText? n.span.start.line with
  | some _ => return n.snippet source fileName
  | none => throw .longInteger

end MarkupScan
