import MarkupScan.Proofs.Requests

/-! # Reading by index

The scanner once more, as a machine that keeps the whole text and an index into it. Its only way to
move is to take the character at the index, and that fails where the index is out of range. Loops
test the characters ahead and move one at a time.

Main definitions.
* **`Cursor`**: the text, the index, and the counters kept beside it.
* **`Cursor.advance`**: takes one character, or fails.
* **`Cursor.advanceWhile`**: moves on as long as a test holds and the end is not reached.
* **`Cursor.next`**: one token, or nothing if some move on the way failed.
* **`Cursor.drainWithin`**: all tokens, if a given number of calls is enough for them.
* **`Cursor.answers`**: the questions that can be put to a scanner, put to a cursor. -/

namespace MarkupScan

open Number (Binary64 isDigit)

/-- A text that is read by index. -/
structure Cursor where
  /-- The whole text. -/
  source : List Char
  /-- The index of the next character. -/
  offset : ℕ
  /-- The line of the next character. -/
  line : ℤ
  /-- The column of the next character. -/
  column : ℤ
  /-- The warnings so far. -/
  warnings : List Warning

namespace Cursor

/-- The position of the next character: `line`, `column` and `offset`. -/
def position (c : Cursor) : Position := ⟨c.line, c.column, c.offset⟩

/-- Whether the index has reached the end of `source`. -/
def atEnd (c : Cursor) : Bool := c.source.length ≤ c.offset

/-- The character `ahead` places behind the index, if the text goes that far. -/
def peek (c : Cursor) (ahead : ℕ) : Option Char := c.source[c.offset + ahead]?

/-- Whether the next character is `first`. -/
def sees (c : Cursor) (first : Char) : Bool := c.peek 0 == some first

/-- Whether the next two characters are `first` and `second`. -/
def seesPair (c : Cursor) (first second : Char) : Bool :=
  c.peek 0 == some first && c.peek 1 == some second

/-- **Takes one character.** `none` where the index is out of range. -/
def advance (c : Cursor) : Option Cursor :=
  match c.source[c.offset]? with
  | none => none
  | some taken =>
      let moved := c.position.next taken
      some { c with offset := c.offset + 1, line := moved.line, column := moved.column }

/-- `c.advance = some moved` only with the index in range, and it goes up by one. -/
theorem advance_eq_some {c moved : Cursor} (h : c.advance = some moved) :
    moved.source = c.source ∧ moved.offset = c.offset + 1 ∧ c.offset < c.source.length := by
  unfold advance at h
  split at h
  · cases h
  · rename_i taken hTaken
    cases h
    exact ⟨rfl, rfl, (List.getElem?_eq_some_iff.mp hTaken).1⟩

/-- Moves on by `advance` while the end is not reached and the test holds. -/
def advanceWhile (test : Cursor → Bool) (c : Cursor) : Option Cursor :=
  if c.atEnd || !test c then some c
  else c.advance.pbind fun moved _taken => moved.advanceWhile test
termination_by c.source.length - c.offset
decreasing_by
  obtain ⟨hSource, hOffset, hRange⟩ := advance_eq_some _taken
  rw [hSource, hOffset]
  omega

/-- The loop `advanceWhile` unrolled once. -/
theorem advanceWhile_eq (test : Cursor → Bool) (c : Cursor) :
    c.advanceWhile test
      = if c.atEnd || !test c then some c else c.advance.bind (advanceWhile test) := by
  rw [advanceWhile, Option.pbind_eq_bind]

/-- `advanceWhile` never goes back and keeps the text. -/
theorem advanceWhile_eq_some {test : Cursor → Bool} {c stopped : Cursor}
    (h : c.advanceWhile test = some stopped) :
    stopped.source = c.source ∧ c.offset ≤ stopped.offset := by
  fun_induction advanceWhile test c with
  | case1 c _ =>
      cases h
      exact ⟨rfl, Nat.le_refl _⟩
  | case2 c _ ih =>
      rw [Option.pbind_eq_bind] at h
      obtain ⟨moved, hTaken, hMoved⟩ := Option.bind_eq_some_iff.mp h
      obtain ⟨hSource, hOffset, -⟩ := advance_eq_some hTaken
      obtain ⟨hSame, hLe⟩ := ih moved hTaken hMoved
      exact ⟨hSame.trans hSource, by omega⟩

/-- Records that `construct` is open from `start` up to here. -/
def warn (c : Cursor) (construct : OpenConstruct) (start : Position) : Cursor :=
  { c with warnings := c.warnings ++ [⟨construct, ⟨start, c.position⟩⟩] }

/-! ### Gaps -/

/-- Passes a comment: its two opening characters, all that stands before the end mark, and the two
characters of the mark, or everything if there is no mark. -/
def skipComment (c : Cursor) : Option Cursor := do
  let slash ← c.advance
  let inside ← slash.advance
  let stopped ← inside.advanceWhile fun c => !c.seesPair '*' '/'
  if stopped.atEnd then
    some (stopped.warn .comment c.position)
  else
    let star ← stopped.advance
    star.advance

/-- `skipComment` takes at least one character. -/
theorem skipComment_eq_some {c stopped : Cursor} (h : c.skipComment = some stopped) :
    stopped.source = c.source ∧ c.offset < stopped.offset := by
  unfold skipComment at h
  obtain ⟨slash, hSlash, h⟩ := Option.bind_eq_some_iff.mp h
  obtain ⟨inside, hInside, h⟩ := Option.bind_eq_some_iff.mp h
  obtain ⟨body, hBody, h⟩ := Option.bind_eq_some_iff.mp h
  obtain ⟨hSource₁, hOffset₁, -⟩ := advance_eq_some hSlash
  obtain ⟨hSource₂, hOffset₂, -⟩ := advance_eq_some hInside
  obtain ⟨hSource₃, hOffset₃⟩ := advanceWhile_eq_some hBody
  split at h
  · cases h
    refine ⟨hSource₃.trans (hSource₂.trans hSource₁), ?_⟩
    show c.offset < body.offset
    omega
  · obtain ⟨star, hStar, h⟩ := Option.bind_eq_some_iff.mp h
    obtain ⟨hSource₄, hOffset₄, -⟩ := advance_eq_some hStar
    obtain ⟨hSource₅, hOffset₅, -⟩ := advance_eq_some h
    exact ⟨by rw [hSource₅, hSource₄, hSource₃, hSource₂, hSource₁], by omega⟩

/-- Passes white space and comments. -/
def skipGap (c : Cursor) : Option Cursor :=
  if _more : c.atEnd then some c
  else if (c.peek 0).any isBlank then c.advance.pbind fun moved _taken => moved.skipGap
  else if c.seesPair '/' '*' then c.skipComment.pbind fun moved _passed => moved.skipGap
  else some c
termination_by c.source.length - c.offset
decreasing_by
  · obtain ⟨hSource, hOffset, hRange⟩ := advance_eq_some _taken
    rw [hSource, hOffset]
    omega
  · obtain ⟨hSource, hOffset⟩ := skipComment_eq_some _passed
    have hRange : c.offset < c.source.length := by simpa [atEnd] using _more
    rw [hSource]
    omega

/-- The loop `skipGap` unrolled once. -/
theorem skipGap_eq (c : Cursor) :
    c.skipGap
      = if c.atEnd then some c
        else if (c.peek 0).any isBlank then c.advance.bind skipGap
        else if c.seesPair '/' '*' then c.skipComment.bind skipGap
        else some c := by
  rw [skipGap, dite_eq_ite, Option.pbind_eq_bind, Option.pbind_eq_bind]

/-! ### Lexemes -/

/-- The token that begins at `start` and ends here. -/
def token (c : Cursor) (category : Category) (value : Payload) (text : String)
    (start : Position) : Token :=
  ⟨category, value, text, ⟨start, c.position⟩⟩

/-- The text from the index of `c` to that of `stopped`. -/
def textTo (c stopped : Cursor) : String :=
  String.ofList (c.source.extract c.offset stopped.offset)

/-- Whether the character goes on a word, said by itself: letters and numerals, two signs, and all
marks and letter numbers. -/
def continuesWord (c : Char) : Bool :=
  Text.letters.has c || Text.numerals.has c || c == '_' || c == '-' ||
    (Text.nonspacingMarks.has c || Text.spacingMarks.has c || Text.letterNumbers.has c)

/-- `continuesWord c = isWordPart c`: the same characters continue a word as for the scanner. -/
theorem continuesWord_eq_isWordPart (c : Char) : continuesWord c = isWordPart c := by
  simp only [continuesWord, isWordPart, isWordStart]
  ac_rfl

/-- Reads a word; the loop tests its first character too. -/
def word (c : Cursor) : Option (Token × Cursor) := do
  let stopped ← c.advanceWhile fun c => (c.peek 0).any continuesWord
  let text := c.textTo stopped
  let category := if text ∈ reservedWords then Category.keyword else .identifier
  some (stopped.token category (.text text) text c.position, stopped)

/-- Passes digits, and one point unless a point was `seen` before. -/
def passNumber (seen : Bool) (c : Cursor) : Option Cursor :=
  if c.atEnd then some c
  else if (c.peek 0).any isDigit then c.advance.pbind fun moved _taken => moved.passNumber seen
  else if c.sees '.' && !seen then c.advance.pbind fun moved _taken => moved.passNumber true
  else some c
termination_by c.source.length - c.offset
decreasing_by
  all_goals
    obtain ⟨hSource, hOffset, hRange⟩ := advance_eq_some _taken
    rw [hSource, hOffset]
    omega

/-- The loop `passNumber` unrolled once. -/
theorem passNumber_eq (seen : Bool) (c : Cursor) :
    c.passNumber seen
      = if c.atEnd then some c
        else if (c.peek 0).any isDigit then c.advance.bind (passNumber seen)
        else if c.sees '.' && !seen then c.advance.bind (passNumber true)
        else some c := by
  rw [passNumber, Option.pbind_eq_bind, Option.pbind_eq_bind]

/-- Reads a number; a text that is no numeral would count as zero. -/
def number (c : Cursor) : Option (Token × Cursor) := do
  let stopped ← c.passNumber false
  let text := c.textTo stopped
  let value := (Binary64.ofText? text).getD (.finite false .zero)
  some (stopped.token .number (.number value) text c.position, stopped)

/-- Reads a string: the opening quote, what stands before the next quote, and that quote if there is
one. -/
def string (c : Cursor) : Option (Token × Cursor) := do
  let inside ← c.advance
  let stopped ← inside.advanceWhile fun c => (c.peek 0).any (· != '"')
  let content := inside.textTo stopped
  if stopped.atEnd then
    some (stopped.token .stringLiteral (.text content) content c.position,
      stopped.warn .string c.position)
  else
    let closed ← stopped.advance
    some (closed.token .stringLiteral (.text content) content c.position, closed)

/-- Reads an operator, with the `=` behind it if there is one. -/
def operator (c : Cursor) (first : Char) (alone withEquals : Category) :
    Option (Token × Cursor) := do
  let stopped ← c.advance
  if stopped.sees '=' then
    let last ← stopped.advance
    some (last.token withEquals .none (String.ofList [first, '=']) c.position, last)
  else
    some (stopped.token alone .none (String.ofList [first]) c.position, stopped)

/-- Reads one character, punctuation or `illegal`. -/
def single (c : Cursor) (first : Char) : Option (Token × Cursor) := do
  let stopped ← c.advance
  match signCategory? first with
  | some category =>
      some (stopped.token category .none (String.ofList [first]) c.position, stopped)
  | none =>
      some (stopped.token .illegal (.text (String.singleton first)) (String.singleton first)
        c.position, stopped)

/-- Reads the lexeme that begins with `first`. -/
def lexeme (c : Cursor) (first : Char) : Option (Token × Cursor) :=
  if isWordStart first then c.word
  else if isDigit first then c.number
  else if first = '"' then c.string
  else
    match operatorCategories? first with
    | some (alone, withEquals) => c.operator first alone withEquals
    | none => c.single first

/-- **Reads one token.** `none` if a character was taken out of range on the way. -/
def next (c : Cursor) : Option (Token × Cursor) := do
  let stopped ← c.skipGap
  match stopped.peek 0 with
  | none => some (stopped.token .endOfInput .none "" stopped.position, stopped)
  | some first => stopped.lexeme first

/-- **Reads all tokens that are left** with at most `calls` calls of `next`. -/
def drainWithin : ℕ → Cursor → Option (List Token × Cursor)
  | 0, _ => none
  | calls + 1, c => do
      let (t, moved) ← c.next
      if t.category = .endOfInput then
        some ([t], moved)
      else
        let (tokens, last) ← moved.drainWithin calls
        some (t :: tokens, last)

/-- A cursor at the beginning of `source`. -/
def start (source : List Char) : Cursor := ⟨source, 0, 1, 1, []⟩

/-- Answers one question; for all tokens that are left, one more call than characters are left may
be made. -/
def answer (c : Cursor) : Scanner.Request → Option (Scanner.Answer × Cursor)
  | .next => do
      let (t, moved) ← c.next
      some (.token t, moved)
  | .drain => do
      let (tokens, moved) ← c.drainWithin (c.source.length - c.offset + 1)
      some (.tokens tokens, moved)
  | .atEnd => some (.atEnd c.atEnd, c)
  | .warnings => some (.warnings c.warnings, c)

/-- **Answers questions in turn**; `none` if one of them cannot be answered. -/
def answers (c : Cursor) : List Scanner.Request → Option (List Scanner.Answer × Cursor)
  | [] => some ([], c)
  | request :: rest => do
      let (reply, moved) ← c.answer request
      let (replies, last) ← moved.answers rest
      some (reply :: replies, last)

end Cursor

end MarkupScan
