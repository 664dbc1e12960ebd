import MarkupScan.Character
import MarkupScan.Token

/-! # Lexemes

One token's worth of text, read from its first character on. Each shape takes as much as it can.

Main definitions.
* **`reservedWords`**, **`signCategory?`**, **`operatorCategories?`**: the fixed vocabulary.
* **`Lexeme`**: category and payload together with the characters that were read.
* **`Lexeme.read`**: the lexeme that begins with a given character, and the text after it.

Main statement: the characters read and the text after them are the text
(`Lexeme.raw_append_read`). -/

namespace MarkupScan

open Number (Binary64 isDigit)

/-- The words that are keywords. -/
def reservedWords : List String := ["def", "header", "body"]

/-- The categories of the signs that stand alone. -/
def signCategory? : Char → Option Category
  | ',' => some .comma
  | ';' => some .semicolon
  | '(' => some .leftParen
  | ')' => some .rightParen
  | '\x7b' => some .leftBrace
  | '\x7d' => some .rightBrace
  | _ => none

/-- The categories of an operator sign: on its own, and with `=` after it. -/
def operatorCategories? : Char → Option (Category × Category)
  | '=' => some (.equals, .equalsTo)
  | '!' => some (.not, .notEqualsTo)
  | '<' => some (.lessThan, .lessOrEqual)
  | '>' => some (.greaterThan, .greaterOrEqual)
  | _ => none

/-- A token without its place; `raw` is what it takes from the text. -/
structure Lexeme where
  /-- The category. -/
  category : Category
  /-- What the token carries. -/
  value : Payload
  /-- The producing text: `raw` without the quotes of a string. -/
  text : String
  /-- All characters read, quotes included. -/
  raw : List Char
  /-- Whether the lexeme is complete; only a string can be read up to the end of the text instead.
  -/
  closed : Bool
  deriving DecidableEq, Repr

namespace Lexeme

/-- The word that begins with `first`, and the text after it. -/
def word (first : Char) (tail : List Char) : Lexeme × List Char :=
  let raw := first :: tail.takeWhile isWordPart
  let text := String.ofList raw
  let category := if text ∈ reservedWords then Category.keyword else .identifier
  (⟨category, .text text, text, raw, true⟩, tail.dropWhile isWordPart)

/-- The number of the digits `whole` before `point` and `fraction` behind it. -/
def ofNumber (whole fraction point : List Char) : Lexeme :=
  let raw := whole ++ point ++ fraction
  ⟨.number, .number (.ofDigits false whole fraction), String.ofList raw, raw, true⟩

/-- The number that begins with `first`, and the text after it: digits, and one point with more
digits if a point follows. -/
def number (first : Char) (tail : List Char) : Lexeme × List Char :=
  let whole := first :: tail.takeWhile isDigit
  match tail.dropWhile isDigit with
  | '.' :: rest => (ofNumber whole (rest.takeWhile isDigit) ['.'], rest.dropWhile isDigit)
  | rest => (ofNumber whole [] [], rest)

/-- The string with the given content, between its opening quote and `close`. -/
def ofString (content close : List Char) (closed : Bool) : Lexeme :=
  let text := String.ofList content
  ⟨.stringLiteral, .text text, text, '"' :: content ++ close, closed⟩

/-- The string whose opening quote stands before `tail`, and the text after it. -/
def string (tail : List Char) : Lexeme × List Char :=
  let content := tail.takeWhile (· != '"')
  match tail.dropWhile (· != '"') with
  | [] => (ofString content [] false, [])
  | quote :: rest => (ofString content [quote] true, rest)

/-- The lexeme of a sign, which carries `Payload.none`. -/
def ofSign (category : Category) (raw : List Char) : Lexeme :=
  ⟨category, .none, String.ofList raw, raw, true⟩

/-- The operator that begins with `first`, and the text after it. -/
def operator (first : Char) (alone withEquals : Category) : List Char → Lexeme × List Char
  | '=' :: rest => (ofSign withEquals [first, '='], rest)
  | rest => (ofSign alone [first], rest)

/-- The sign or the illegal character `c`. -/
def single (c : Char) : Lexeme :=
  match signCategory? c with
  | some category => ofSign category [c]
  | none => ⟨.illegal, .text (String.singleton c), String.singleton c, [c], true⟩

/-- The lexeme that begins with `first`, and the text after it. -/
def read (first : Char) (tail : List Char) : Lexeme × List Char :=
  if isWordStart first then word first tail
  else if isDigit first then number first tail
  else if first = '"' then string tail
  else
    match operatorCategories? first with
    | some (alone, withEquals) => operator first alone withEquals tail
    | none => (single first, tail)

/-- `raw ++ rest = first :: tail` for a word and the text after it. -/
theorem raw_append_word (first : Char) (tail : List Char) :
    (word first tail).1.raw ++ (word first tail).2 = first :: tail := by
  simp [word]

/-- `raw ++ rest = first :: tail` for a number and the text after it. -/
theorem raw_append_number (first : Char) (tail : List Char) :
    (number first tail).1.raw ++ (number first tail).2 = first :: tail := by
  have hWhole := List.takeWhile_append_dropWhile (p := isDigit) (l := tail)
  unfold number
  split
  · rename_i rest hDropped
    rw [hDropped] at hWhole
    simp [ofNumber, hWhole]
  · rename_i rest _
    simp [ofNumber, hWhole]

/-- `raw ++ rest` is the quote and `tail` for a string and the text after it. -/
theorem raw_append_string (tail : List Char) :
    (string tail).1.raw ++ (string tail).2 = '"' :: tail := by
  have hWhole := List.takeWhile_append_dropWhile (p := (· != '"')) (l := tail)
  unfold string
  split
  · rename_i hDropped
    rw [hDropped] at hWhole
    simpa [ofString] using hWhole
  · rename_i quote rest hDropped
    rw [hDropped] at hWhole
    simpa [ofString] using hWhole

/-- `raw ++ rest = first :: tail` for an operator and the text after it. -/
theorem raw_append_operator (first : Char) (alone withEquals : Category) (tail : List Char) :
    (operator first alone withEquals tail).1.raw ++ (operator first alone withEquals tail).2 =
      first :: tail := by
  unfold operator
  split <;> simp [ofSign]

/-- `(single c).raw = [c]`: a sign and an illegal character are one character long. -/
@[simp] theorem raw_single (c : Char) : (single c).raw = [c] := by
  unfold single
  split <;> rfl

/-- `raw ++ rest = first :: tail` for every lexeme and the text after it. -/
theorem raw_append_read (first : Char) (tail : List Char) :
    (read first tail).1.raw ++ (read first tail).2 = first :: tail := by
  unfold read
  split
  · exact raw_append_word first tail
  · split
    · exact raw_append_number first tail
    · split
      · rename_i hQuote
        rw [raw_append_string, hQuote]
      · split
        · exact raw_append_operator first _ _ tail
        · simp

/-- `raw ≠ []`: every lexeme takes a character. -/
theorem raw_read_ne_nil (first : Char) (tail : List Char) : (read first tail).1.raw ≠ [] := by
  unfold read word number string operator
  repeat' split
  all_goals simp [ofNumber, ofString, ofSign]

/-- The text after a lexeme is shorter than `first :: tail`. -/
theorem length_read_lt (first : Char) (tail : List Char) :
    (read first tail).2.length < (first :: tail).length := by
  have hWhole := congrArg List.length (raw_append_read first tail)
  have hSome := List.length_pos_iff.2 (raw_read_ne_nil first tail)
  simp only [List.length_append] at hWhole
  omega

end Lexeme

end MarkupScan
