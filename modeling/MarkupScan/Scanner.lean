import MarkupScan.Gap
import MarkupScan.Lexeme

/-! # The scanner

Pulling tokens from a text, one at a time or all at once. The scanner never fails: an unknown
character is a token of its own, and a comment or string that is still open at the end of the text
is recorded as a warning.

Main definitions.
* **`Warning`**: an open comment or string with its place.
* **`Scanner`**: how far a text has been read and the warnings so far.
* **`Scanner.next`**: the next token; at the end of the text always the end-of-input token.
* **`Scanner.drain`**: all tokens up to and including the end-of-input token.
* **`Scanner.Request`**, **`Scanner.answer`**: the questions that can be put to a scanner, in any
  order.
* **`scan`**: tokens and warnings of a whole text. -/

namespace MarkupScan

/-- A construct that the end of the text can leave open. -/
inductive OpenConstruct where
  /-- A comment without its end mark. -/
  | comment
  /-- A string without its closing quote. -/
  | string
  deriving DecidableEq, Repr

/-- What is said about an open construct. -/
def OpenConstruct.message : OpenConstruct → String
  | .comment => "unterminated block comment"
  | .string => "unterminated string literal"

/-- A problem that the scanner recovered from. -/
structure Warning where
  /-- What was left open. -/
  construct : OpenConstruct
  /-- From the first character of the construct to the end of the text. -/
  span : Span
  deriving DecidableEq, Repr

/-- What the warning says: the message of its `construct`. -/
def Warning.message (w : Warning) : String := w.construct.message

/-- A text that is being read. -/
structure Scanner where
  /-- The place of the next character. -/
  position : Position
  /-- The characters not yet read. -/
  rest : List Char
  /-- The warnings so far. -/
  warnings : List Warning
  deriving DecidableEq, Repr

namespace Scanner

/-- A scanner at the beginning of `source`, without warnings. -/
def start (source : List Char) : Scanner := ⟨.origin, source, []⟩

/-- Whether every character has been read: `rest = []`. -/
def atEnd (s : Scanner) : Bool := s.rest.isEmpty

/-- The warning about a comment that is open from `start` to `stop`, if it has characters. -/
def commentWarnings (unclosed : List Char) (start stop : Position) : List Warning :=
  if unclosed.isEmpty then [] else [⟨.comment, ⟨start, stop⟩⟩]

/-- The warning about a string that is open: `[]` for a `closed` lexeme. -/
def stringWarnings (lexeme : Lexeme) (span : Span) : List Warning :=
  if lexeme.closed then [] else [⟨.string, span⟩]

/-- The `endOfInput` token, with an empty span after the gap that runs to the end of the text. -/
def finish (s : Scanner) : Token × Scanner :=
  let gap := Gap.read s.rest
  let start := s.position.after gap.skipped
  let stop := start.after gap.unclosed
  (⟨.endOfInput, .none, "", ⟨stop, stop⟩⟩,
    ⟨stop, [], s.warnings ++ commentWarnings gap.unclosed start stop⟩)

/-- `s.finish` gives an `endOfInput` token. -/
@[simp] theorem category_finish (s : Scanner) : s.finish.1.category = .endOfInput := rfl

/-- The token that begins with `first` after the gap in front of it. -/
def take (s : Scanner) (first : Char) (tail : List Char) : Token × Scanner :=
  let start := s.position.after (Gap.read s.rest).skipped
  let lexeme := (Lexeme.read first tail).1
  let stop := start.after lexeme.raw
  (⟨lexeme.category, lexeme.value, lexeme.text, ⟨start, stop⟩⟩,
    ⟨stop, (Lexeme.read first tail).2, s.warnings ++ stringWarnings lexeme ⟨start, stop⟩⟩)

/-- What is left after a token is what `Lexeme.read` leaves. -/
@[simp] theorem rest_take (s : Scanner) (first : Char) (tail : List Char) :
    (s.take first tail).2.rest = (Lexeme.read first tail).2 := rfl

/-- Skips the gap in front, then reads one token. At the end of the text the token is `endOfInput`.
-/
def next (s : Scanner) : Token × Scanner :=
  match (Gap.read s.rest).rest with
  | [] => s.finish
  | first :: tail => s.take first tail

/-- `s.next = s.finish` where only a gap is left. -/
theorem next_of_nil {s : Scanner} (hRest : (Gap.read s.rest).rest = []) : s.next = s.finish := by
  unfold next
  rw [hRest]

/-- `s.next = s.take first tail` where `first` follows the gap. -/
theorem next_of_cons {s : Scanner} {first : Char} {tail : List Char}
    (hRest : (Gap.read s.rest).rest = first :: tail) : s.next = s.take first tail := by
  unfold next
  rw [hRest]

/-- A token other than `endOfInput` was read from at least one character. -/
theorem length_rest_next_lt (s : Scanner) (hMore : s.next.1.category ≠ .endOfInput) :
    s.next.2.rest.length < s.rest.length := by
  have hBound := Gap.length_rest_le s.rest
  match hRest : (Gap.read s.rest).rest with
  | [] => exact absurd (by rw [next_of_nil hRest, category_finish]) hMore
  | first :: tail =>
      rw [next_of_cons hRest, rest_take]
      rw [hRest] at hBound
      exact Nat.lt_of_lt_of_le (Lexeme.length_read_lt first tail) hBound

/-- Reads all tokens that are left, `endOfInput` included. -/
def drain (s : Scanner) : List Token × Scanner :=
  if s.next.1.category = .endOfInput then ([s.next.1], s.next.2)
  else
    let (tokens, last) := s.next.2.drain
    (s.next.1 :: tokens, last)
termination_by s.rest.length
decreasing_by exact length_rest_next_lt s ‹_›

/-- A question to a scanner. -/
inductive Request where
  /-- The next token. -/
  | next
  /-- All tokens that are left. -/
  | drain
  /-- Whether every character has been read. -/
  | atEnd
  /-- The warnings so far. -/
  | warnings
  deriving DecidableEq, Repr

/-- The answer to a question. -/
inductive Answer where
  /-- One token. -/
  | token (token : Token)
  /-- All tokens that were left. -/
  | tokens (tokens : List Token)
  /-- Whether every character had been read. -/
  | atEnd (holds : Bool)
  /-- The warnings so far. -/
  | warnings (warnings : List Warning)
  deriving DecidableEq, Repr

/-- Answers one question; only `next` and `drain` change the scanner. -/
def answer (s : Scanner) : Request → Answer × Scanner
  | .next => (.token s.next.1, s.next.2)
  | .drain => (.tokens s.drain.1, s.drain.2)
  | .atEnd => (.atEnd s.atEnd, s)
  | .warnings => (.warnings s.warnings, s)

/-- Answers questions in turn, each by the scanner that the one before it leaves. -/
def answers (s : Scanner) : List Request → List Answer × Scanner
  | [] => ([], s)
  | request :: rest =>
      let (reply, s') := s.answer request
      let (replies, last) := s'.answers rest
      (reply :: replies, last)

end Scanner

/-- Everything that a text scans to. -/
structure Scan where
  /-- The tokens, the end of input last. -/
  tokens : List Token
  /-- What was left open. -/
  warnings : List Warning
  deriving DecidableEq, Repr

/-- The tokens and warnings of `source`: those of `drain` from its beginning. -/
def scanChars (source : List Char) : Scan :=
  let (tokens, last) := (Scanner.start source).drain
  ⟨tokens, last.warnings⟩

/-- The tokens and warnings of `source`, by its characters (`scanChars`). -/
def scan (source : String) : Scan := scanChars source.toList

end MarkupScan
