import MarkupScan.Number.Integer
import MarkupScan.Number.Layout
import MarkupScan.Text.Quoted
import MarkupScan.Toml.Time

/-! # TOML values

The values of a configuration file, and their texts in messages.

Main definitions.
* **`Value`**: a value; the entries of a table keep the order of the file.
* **`Value.get?`**: an entry of a table.
* **`Excess`**: what keeps a value from being read or shown.
* **`Value.display`**: the text of a value on its own; **`Value.inner`**: inside a list or table. -/

namespace MarkupScan.Toml

/-- A value of a configuration file. -/
inductive Value where
  /-- A text. -/
  | string (text : String)
  /-- A whole number. -/
  | integer (n : Int)
  /-- A number with a fraction or an exponent, or a special value. -/
  | float (x : Number.Binary64)
  /-- True or false. -/
  | boolean (b : Bool)
  /-- A date or time. -/
  | moment (m : Moment)
  /-- A list of values. -/
  | array (items : List Value)
  /-- A table, in the order of the file. -/
  | table (entries : List (String × Value))
  deriving Repr

/-- A table, in the order of the file. -/
abbrev Table := List (String × Value)

/-- What is too much about a value. -/
inductive Excess where
  /-- An integer has too many digits. -/
  | longInteger
  /-- Lists or tables stand too deep in each other. -/
  | deepNesting
  deriving DecidableEq, Repr

/-- The room that is left inside something that takes some of it; `deepNesting` if there is not
enough. -/
def roomWithin (room taken : Nat) : Except Excess Nat :=
  if taken ≤ room then .ok (room - taken) else .error .deepNesting

namespace Value

/-- The entry of a table; `none` of any other value. -/
def get? (v : Value) (key : String) : Option Value :=
  match v with
  | .table entries => entries.lookup key
  | _ => none

/-- The word for a truth value: `True` or `False`. -/
def booleanText (b : Bool) : String := if b then "True" else "False"

/-- The text of an integer, if `Number.integerText?` has one. -/
def integerText (n : Int) : Except Excess String :=
  (Number.integerText? n).elim (.error .longInteger) .ok

/-- The room for values that are shown: how many can stand in each other. -/
def displayRoom : Nat := 990

mutual

/-- The text of a value inside a list or table, in the given room. -/
def inner (value : Value) (room : Nat) : Except Excess String := do
  let inside ← roomWithin room 1
  match value with
  | .string text => return Text.quoted text
  | .integer n => integerText n
  | .float x => return Number.displayLayout.write x
  | .boolean b => return booleanText b
  | .moment m => return m.inner
  | .array items => do
      let texts ← innerItems items inside
      return "[" ++ ", ".intercalate texts ++ "]"
  | .table entries => do
      let texts ← innerEntries entries inside
      return "\x7b" ++ ", ".intercalate texts ++ "\x7d"

/-- The texts of the items of a list, each by `inner`. -/
def innerItems : List Value → Nat → Except Excess (List String)
  | [], _ => .ok []
  | item :: items, room => do
      let text ← inner item room
      let texts ← innerItems items room
      return text :: texts

/-- The texts of the entries of a table, each by `inner` behind its key. -/
def innerEntries : List (String × Value) → Nat → Except Excess (List String)
  | [], _ => .ok []
  | (key, value) :: entries, room => do
      let text ← inner value room
      let texts ← innerEntries entries room
      return (Text.quoted key ++ ": " ++ text) :: texts

end

/-- The text of a value on its own: `inner` but for texts and moments, which stand without quotes.
-/
def display : Value → Except Excess String
  | .string text => .ok text
  | .moment m => .ok m.display
  | value => value.inner displayRoom

end Value

end MarkupScan.Toml
