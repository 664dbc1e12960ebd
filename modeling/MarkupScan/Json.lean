import MarkupScan.Text.Hex
import MarkupScan.Text.Units

/-! # Written JSON

JSON values and their text: two spaces of indentation per level, one item per line, and ASCII
characters only.

Main definitions.
* **`Json`**: a value; numbers are kept as the literal to be written.
* **`Json.escape`**: the form of a character inside a string.
* **`Json.write`**: the text of a value at a given depth. -/

namespace MarkupScan

/-- A JSON value. -/
inductive Json where
  /-- The literal `null`. -/
  | null
  /-- A number, as it is written: `literal` is not read. -/
  | number (literal : String)
  /-- A string. -/
  | string (text : String)
  /-- An array. -/
  | array (items : List Json)
  /-- An object; members are written in the given order. -/
  | object (members : List (String × Json))
  deriving Repr

namespace Json

/-- A code unit as an escape: `\u` and four hexadecimal digits. -/
def escapeUnit (unit : Nat) : List Char := '\\' :: 'u' :: Text.hexDigits 4 unit

/-- The form of a character inside a string: quote and backslash behind a backslash, five controls
by a letter, other printable ASCII as it is, and everything else by its code units. -/
def escape (c : Char) : List Char :=
  if c = '"' then ['\\', '"']
  else if c = '\\' then ['\\', '\\']
  else if c = '\n' then ['\\', 'n']
  else if c = '\r' then ['\\', 'r']
  else if c = '\t' then ['\\', 't']
  else if c = '\x0c' then ['\\', 'f']
  else if c = '\x08' then ['\\', 'b']
  else if ' ' ≤ c ∧ c ≤ '~' then [c]
  else (Text.codeUnits c).flatMap escapeUnit

/-- A text in quotes. -/
def quote (text : String) : List Char := '"' :: text.toList.flatMap escape ++ ['"']

/-- A line feed and the indentation of the given depth. -/
def lineBreak (depth : Nat) : List Char := '\n' :: List.replicate (2 * depth) ' '

mutual

/-- The text of a value whose lines after the first are indented to `depth`. -/
def write (depth : Nat) : Json → List Char
  | .null => ['n', 'u', 'l', 'l']
  | .number literal => literal.toList
  | .string text => quote text
  | .array [] => ['[', ']']
  | .array (item :: items) =>
      '[' :: lineBreak (depth + 1) ++ write (depth + 1) item ++ writeItems (depth + 1) items ++
        lineBreak depth ++ [']']
  | .object [] => ['\x7b', '\x7d']
  | .object ((key, value) :: members) =>
      '\x7b' :: lineBreak (depth + 1) ++ quote key ++ ':' :: ' ' :: write (depth + 1) value ++
        writeMembers (depth + 1) members ++ lineBreak depth ++ ['\x7d']

/-- The items after the first, each on a line of its own. -/
def writeItems (depth : Nat) : List Json → List Char
  | [] => []
  | item :: items => ',' :: lineBreak depth ++ write depth item ++ writeItems depth items

/-- The members after the first, each on a line of its own. -/
def writeMembers (depth : Nat) : List (String × Json) → List Char
  | [] => []
  | (key, value) :: members =>
      ',' :: lineBreak depth ++ quote key ++ ':' :: ' ' :: write depth value ++
        writeMembers depth members

end

/-- The text of a value, written at depth `0`. -/
def render (value : Json) : String := String.ofList (value.write 0)

end Json

end MarkupScan
