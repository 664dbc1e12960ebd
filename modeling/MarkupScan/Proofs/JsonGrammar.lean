import MarkupScan.Number.Decimal
import MarkupScan.Text.Hex
import MarkupScan.Text.Units

/-! # The grammar of JSON texts

Which texts are JSON and what they say, as a grammar: white space, numbers, strings, and the values
built of them. The grammar describes texts from any writer.

Main definitions.
* **`Value`**: what a JSON text says; of a number its literal.
* **`Dialect`**: whether words for numbers that are not finite are accepted as numbers.
* **`IsNumber`**: the literals of numbers.
* **`Spelled`**: the code units that stand between two quotes; **`Quoted`**: the text they are of.
* **`Padded`**, **`Separated`**, **`Member`**: white space around something, a list of things with
  commas between them, and a name with a value.
* **`Spells`**: the texts of a value without white space around it; **`Document`**: a whole text. -/

namespace MarkupScan.JsonText

open Number (isDigit)

/-- What a JSON text says. -/
inductive Value where
  /-- Nothing. -/
  | null
  /-- True or false. -/
  | boolean (b : Bool)
  /-- A number, as it is spelled. -/
  | number (literal : String)
  /-- A text. -/
  | string (text : String)
  /-- Values in order. -/
  | array (items : List Value)
  /-- Names with values, in order. -/
  | object (members : List (String × Value))
  deriving Repr

/-- Which literals count as numbers. -/
inductive Dialect where
  /-- Only those of finite numbers. -/
  | strict
  /-- Words for the infinities and for a value that is not a number as well. -/
  | extended
  deriving DecidableEq, Repr

/-- The words that count as numbers: none, or `Infinity`, `-Infinity` and `NaN`. -/
def Dialect.numberWords : Dialect → List String
  | .strict => []
  | .extended => ["Infinity", "-Infinity", "NaN"]

/-! ### White space -/

/-- Whether the character is white space between the parts of a JSON text. -/
def isSpace (c : Char) : Bool := c == ' ' || c == '\t' || c == '\n' || c == '\r'

/-- White space (`isSpace`), of any length. -/
def Space (text : List Char) : Prop := ∀ c ∈ text, isSpace c = true

/-! ### Numbers -/

/-- At least one digit, and only digits. -/
def Digits (text : List Char) : Prop := text ≠ [] ∧ ∀ c ∈ text, isDigit c = true

/-- The whole part of a number: `Digits`, the first of which is zero only if it is alone. -/
def IsWhole (text : List Char) : Prop := Digits text ∧ (text.head? = some '0' → text = ['0'])

/-- The fraction of a number, a point and `Digits`, which may be left out. -/
def IsFraction (text : List Char) : Prop := text = [] ∨ ∃ digits, Digits digits ∧ text = '.' :: digits

/-- The power of ten of a number, `e` or `E` and `Digits`, with or without a sign; it may be left
out. -/
def IsPower (text : List Char) : Prop :=
  text = [] ∨ ∃ mark sign digits, mark ∈ ['e', 'E'] ∧ sign ∈ [[], ['+'], ['-']] ∧ Digits digits ∧
    text = mark :: sign ++ digits

/-- **The literals of numbers.** -/
def IsNumber (text : List Char) : Prop :=
  ∃ sign whole fraction power, sign ∈ [[], ['-']] ∧ IsWhole whole ∧ IsFraction fraction ∧
    IsPower power ∧ text = sign ++ whole ++ fraction ++ power

/-- A literal that counts as a number: `IsNumber`, or one of `d.numberWords`. -/
def Dialect.IsLiteral (d : Dialect) (literal : String) : Prop :=
  IsNumber literal.toList ∨ literal ∈ d.numberWords

/-! ### Strings -/

/-- The letters behind a backslash, each with the character that it stands for. -/
def shortEscapes : List (Char × Char) :=
  [('"', '"'), ('\\', '\\'), ('/', '/'), ('b', '\x08'), ('f', '\x0c'), ('n', '\n'), ('r', '\r'),
    ('t', '\t')]

/-- The code unit whose hexadecimal digits are `digits`. -/
def unitOf (digits : List Char) : Nat := digits.foldl (fun n c => 16 * n + Text.hexValue c) 0

/-- **The code units that stand between two quotes.** -/
inductive Spelled : List Char → List Nat → Prop
  /-- Nothing is left. -/
  | nil : Spelled [] []
  /-- A character that stands for itself, which no control, quote or backslash does. -/
  | plain {c : Char} {body : List Char} {units : List Nat} (hControl : ' ' ≤ c) (hQuote : c ≠ '"')
      (hBackslash : c ≠ '\\') (h : Spelled body units) :
      Spelled (c :: body) (Text.codeUnits c ++ units)
  /-- A character by its letter among the `shortEscapes`. -/
  | short {letter c : Char} {body : List Char} {units : List Nat}
      (hLetter : (letter, c) ∈ shortEscapes) (h : Spelled body units) :
      Spelled ('\\' :: letter :: body) (Text.codeUnits c ++ units)
  /-- A code unit behind `\u`, by its four digits. -/
  | unit {digits body : List Char} {units : List Nat} (hLength : digits.length = 4)
      (hDigits : ∀ c ∈ digits, Text.isHexDigit c = true) (h : Spelled body units) :
      Spelled ('\\' :: 'u' :: digits ++ body) (unitOf digits :: units)

/-- The code units of a text, character by character. -/
def unitsOf (text : List Char) : List Nat := text.flatMap Text.codeUnits

/-- **A text in quotes**: what stands between them is `Spelled` as its code units. -/
def Quoted (raw : List Char) (text : String) : Prop :=
  ∃ body, Spelled body (unitsOf text.toList) ∧ raw = '"' :: body ++ ['"']

/-! ### Values -/

variable {α : Type}

/-- Something that satisfies `P`, with white space around it. -/
inductive Padded (P : List Char → α → Prop) : List Char → α → Prop
  /-- White space on both sides, which may be none. -/
  | intro {front raw back : List Char} {a : α} (hFront : Space front) (h : P raw a)
      (hBack : Space back) : Padded P (front ++ raw ++ back) a

/-- One thing or more, each of which satisfies `P`, with commas between them. -/
inductive Separated (P : List Char → α → Prop) : List Char → List α → Prop
  /-- The last one. -/
  | last {raw : List Char} {a : α} (h : P raw a) : Separated P raw [a]
  /-- One more in front. -/
  | more {raw rest : List Char} {a : α} {as : List α} (h : P raw a) (hRest : Separated P rest as) :
      Separated P (raw ++ ',' :: rest) (a :: as)

/-- A name in quotes and what it stands for, which satisfies `P`. -/
inductive Member (P : List Char → Value → Prop) : List Char → String × Value → Prop
  /-- The two with a colon between them. -/
  | intro {key : String} {value : Value} {name raw : List Char} (hName : Padded Quoted name key)
      (hValue : Padded P raw value) : Member P (name ++ ':' :: raw) (key, value)

/-- **The texts of a value**, without white space around it. -/
inductive Spells (d : Dialect) : List Char → Value → Prop
  /-- The word `null`. -/
  | null : Spells d ['n', 'u', 'l', 'l'] .null
  /-- The word `true`. -/
  | yes : Spells d ['t', 'r', 'u', 'e'] (.boolean true)
  /-- The word `false`. -/
  | no : Spells d ['f', 'a', 'l', 's', 'e'] (.boolean false)
  /-- A number is its literal. -/
  | number {literal : String} (h : d.IsLiteral literal) : Spells d literal.toList (.number literal)
  /-- A text is in quotes. -/
  | string {raw : List Char} {text : String} (h : Quoted raw text) : Spells d raw (.string text)
  /-- An array of nothing. -/
  | noItems {space : List Char} (h : Space space) : Spells d ('[' :: space ++ [']']) (.array [])
  /-- An array of something. -/
  | items {raw : List Char} {items : List Value} (h : Separated (Padded (Spells d)) raw items) :
      Spells d ('[' :: raw ++ [']']) (.array items)
  /-- An object of nothing. -/
  | noMembers {space : List Char} (h : Space space) :
      Spells d ('\x7b' :: space ++ ['\x7d']) (.object [])
  /-- An object of something. -/
  | members {raw : List Char} {members : List (String × Value)}
      (h : Separated (Member (Spells d)) raw members) :
      Spells d ('\x7b' :: raw ++ ['\x7d']) (.object members)

/-- **A whole JSON text**: a value with white space around it, `Padded (Spells d)`. -/
def Document (d : Dialect) : List Char → Value → Prop := Padded (Spells d)

end MarkupScan.JsonText
