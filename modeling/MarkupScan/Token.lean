import MarkupScan.Number.Binary64
import MarkupScan.Number.Integer
import MarkupScan.Position

/-! # Tokens

The closed set of token categories, what a token carries, and its display form.

Main definitions.
* **`Category`**: the categories, with their names.
* **`Payload`**: nothing, a text, or a number.
* **`Token`**: category, payload, producing text and span.
* **`Token.display`**: one line that names category, text and place.
* **`Token.display?`**: the same for a token made by hand, whose place may have too many digits. -/

namespace MarkupScan

/-- The category of a token. -/
inductive Category where
  /-- One of the reserved words. -/
  | keyword
  /-- Any other word. -/
  | identifier
  /-- Text between double quotes, as in `"a"`. -/
  | stringLiteral
  /-- Digits with at most one point, as in `1.5`. -/
  | number
  /-- The sign `=`. -/
  | equals
  /-- The sign `,`. -/
  | comma
  /-- The sign `;`. -/
  | semicolon
  /-- The sign `(`. -/
  | leftParen
  /-- The sign `)`. -/
  | rightParen
  /-- The opening brace. -/
  | leftBrace
  /-- The closing brace. -/
  | rightBrace
  /-- The sign `!`. -/
  | not
  /-- The sign `==`. -/
  | equalsTo
  /-- The sign `!=`. -/
  | notEqualsTo
  /-- The sign `<`. -/
  | lessThan
  /-- The sign `>`. -/
  | greaterThan
  /-- The sign `<=`. -/
  | lessOrEqual
  /-- The sign `>=`. -/
  | greaterOrEqual
  /-- The end of the text. -/
  | endOfInput
  /-- A character that begins no token. -/
  | illegal
  deriving DecidableEq, Repr

namespace Category

/-- The name of a category. -/
def name : Category → String
  | .keyword => "Keyword"
  | .identifier => "Identifier"
  | .stringLiteral => "StringLiteral"
  | .number => "Number"
  | .equals => "Equals"
  | .comma => "Comma"
  | .semicolon => "Semicolon"
  | .leftParen => "LParen"
  | .rightParen => "RParen"
  | .leftBrace => "LBrace"
  | .rightBrace => "RBrace"
  | .not => "Not"
  | .equalsTo => "EqualsTo"
  | .notEqualsTo => "NotEqualsTo"
  | .lessThan => "LessThan"
  | .greaterThan => "GreaterThan"
  | .lessOrEqual => "LessOrEqual"
  | .greaterOrEqual => "GreaterOrEqual"
  | .endOfInput => "EndOfInput"
  | .illegal => "Illegal"

/-- All categories. -/
def all : List Category :=
  [.keyword, .identifier, .stringLiteral, .number, .equals, .comma, .semicolon, .leftParen,
    .rightParen, .leftBrace, .rightBrace, .not, .equalsTo, .notEqualsTo, .lessThan, .greaterThan,
    .lessOrEqual, .greaterOrEqual, .endOfInput, .illegal]

/-- The category with `Category.name` as given. -/
def ofName? (name : String) : Option Category := all.find? (·.name = name)

/-- `ofName? k.name = some k` for every category. -/
theorem ofName?_name (k : Category) : ofName? k.name = some k := by
  cases k <;> decide +kernel

end Category

/-- What a token carries besides its text. -/
inductive Payload where
  /-- Nothing, for signs and the end of the text. -/
  | none
  /-- The word, the content of a string, or the illegal character. -/
  | text (content : String)
  /-- The value of a number. -/
  | number (value : Number.Binary64)
  deriving DecidableEq, Repr

/-- Equality of payloads, numbers being compared by `Binary64.numEq`. -/
def Payload.sameValue : Payload → Payload → Bool
  | .none, .none => true
  | .text s, .text t => s == t
  | .number x, .number y => x.numEq y
  | _, _ => false

/-- A token: `text` is what produced it, without the quotes of a string. -/
structure Token where
  /-- The category. -/
  category : Category
  /-- What the token carries. -/
  value : Payload
  /-- The producing text, without the quotes of a string. -/
  text : String
  /-- The place in the source, quotes included. -/
  span : Span
  deriving DecidableEq, Repr

namespace Token

/-- The line on which the token starts. -/
def line (t : Token) : Int := t.span.start.line

/-- The column in which the token starts. -/
def column (t : Token) : Int := t.span.start.column

/-- Equality of tokens in all fields, payloads being compared by `Payload.sameValue`. -/
def sameAs (t u : Token) : Bool :=
  t.category == u.category && t.value.sameValue u.value && t.text == u.text && t.span == u.span

/-- One line for a reader, `[category] 'text' at line …, column …`, with the given texts for the line
and the column. -/
def displayAt (t : Token) (line column : String) : String :=
  "[" ++ t.category.name ++ "] '" ++ t.text ++ "' at line " ++ line ++ ", column " ++ column

/-- One line for a reader: `displayAt` with the line and the column in decimal digits. -/
def display (t : Token) : String := t.displayAt (toString t.line) (toString t.column)

/-- What is made of the texts of the line and the column, if `Number.integerText?` has both. -/
def atPlace? {α : Type} (t : Token) (make : String → String → α) : Option α := do
  return make (← Number.integerText? t.line) (← Number.integerText? t.column)

/-- The line for a reader; `none` if the line or the column has no `Number.integerText?`. -/
def display? (t : Token) : Option String := t.atPlace? t.displayAt

end Token

end MarkupScan
