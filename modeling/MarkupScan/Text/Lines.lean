import MarkupScan.Text.Pieces

/-! # Lines of a text

Lines end at line feeds only; a carriage return belongs to its line until the line is shown.

Main definitions.
* **`lines`**: the pieces of a text between line feeds.
* **`trimReturns`**: a line without the carriage returns that end it.
* **`unifyNewlines`**: a text in which every line end is a line feed. -/

namespace MarkupScan.Text

/-- The pieces of a text between line feeds; there is always one more than there are line feeds. -/
def lines (text : List Char) : List (List Char) := pieces '\n' text

/-- `lines text ≠ []`: even the empty text has a line. -/
theorem lines_ne_nil (text : List Char) : lines text ≠ [] := pieces_ne_nil '\n' text

/-- The line without the carriage returns that end it. -/
def trimReturns (line : List Char) : List Char :=
  (line.reverse.dropWhile (· == '\r')).reverse

/-- The text with a line feed for every carriage return, a line feed right after one being part of
it. -/
def unifyNewlines : List Char → List Char
  | [] => []
  | '\r' :: '\n' :: text => '\n' :: unifyNewlines text
  | c :: text => (if c = '\r' then '\n' else c) :: unifyNewlines text

/-- The first `count` characters; a negative count leaves off that many from the end instead. -/
def takeSigned (count : Int) (text : List Char) : List Char :=
  if 0 ≤ count then text.take count.toNat else text.take (text.length - (-count).toNat)

/-- `count` spaces; none for a negative number. -/
def spaces (count : Int) : String := String.ofList (List.replicate count.toNat ' ')

end MarkupScan.Text
