import MarkupScan.Json
import MarkupScan.Number.Layout
import MarkupScan.Token

/-! # Token dumps

Token lists as text, for readers and for programs. A list of tokens made by hand has a dump only if
`Number.integerText?` has texts for all lines and columns. Those of a scanned text count its
characters, and are below `10 ^ 4300` in any text that there is.

Main definitions.
* **`DumpFormat`**: the two forms of a dump.
* **`dumpLines`**: one display line per token.
* **`dumpJson`**: a JSON array with one object per token.
* **`dumpLines?`**, **`dumpJson?`**: the dumps of tokens made by hand.
* **`DumpFormat.dump`**: what is delivered for a token list; it always ends with a line feed. -/

namespace MarkupScan

/-- The form of a dump. -/
inductive DumpFormat where
  /-- Display lines. -/
  | text
  /-- A JSON array. -/
  | json
  deriving DecidableEq, Repr

namespace DumpFormat

/-- The name of a form: `text` or `json`. -/
def name : DumpFormat → String
  | .text => "text"
  | .json => "json"

/-- All forms. -/
def all : List DumpFormat := [.text, .json]

/-- The form with `DumpFormat.name` as given. -/
def ofName? (name : String) : Option DumpFormat := all.find? (·.name = name)

end DumpFormat

/-- The lines, each of them ended by a line feed. -/
def joinLines (lines : List String) : String := String.join (lines.map fun line => line ++ "\n")

/-- One line `Token.display` per token. -/
def dumpLines (tokens : List Token) : String := joinLines (tokens.map Token.display)

/-- One line per token; `none` if `Token.display?` has none for a token. -/
def dumpLines? (tokens : List Token) : Option String := (tokens.mapM Token.display?).map joinLines

/-- What a token carries, as JSON: `null`, a string or a number in `Number.jsonLayout`. -/
def Payload.toJson : Payload → Json
  | .none => .null
  | .text content => .string content
  | .number value => .number (Number.jsonLayout.write value)

/-- A token as JSON with the given literals for `line` and `column`: where it ends is not told. -/
def Token.jsonAt (t : Token) (line column : String) : Json :=
  .object
    [("type", .string t.category.name), ("value", t.value.toJson), ("text", .string t.text),
      ("line", .number line), ("column", .number column)]

/-- A token as JSON, with its line and column in decimal digits. -/
def Token.toJson (t : Token) : Json := t.jsonAt (toString t.line) (toString t.column)

/-- A token as JSON; `none` if its place has no text. -/
def Token.toJson? (t : Token) : Option Json := t.atPlace? t.jsonAt

/-- The array of `Token.toJson` of each token, without a line feed at the end. -/
def dumpJson (tokens : List Token) : String := (Json.array (tokens.map Token.toJson)).render

/-- The array of `Token.toJson?` of each token; `none` if a token has none. -/
def dumpJson? (tokens : List Token) : Option String :=
  (tokens.mapM Token.toJson?).map fun items => (Json.array items).render

/-- The whole dump of a token list: `dumpLines` or `dumpJson`. -/
def DumpFormat.dump (format : DumpFormat) (tokens : List Token) : String :=
  match format with
  | .text => dumpLines tokens
  | .json => dumpJson tokens ++ "\n"

end MarkupScan
