import MarkupScan.Toml.Quote
import MarkupScan.Toml.Tree

/-! # TOML documents

Reading a whole configuration file, statement by statement: entries, headers of tables and of lists
of tables, comments and blank lines.

Main definitions.
* **`readKey`**: a key of one or more parts.
* **`readValue`**: a value of any kind.
* **`Draft`**: the tables so far, with the table that entries go to.
* **`readDocument`**: the table of a file. -/

namespace MarkupScan.Toml

/-! ### Blanks and comments -/

/-- Drops blanks. -/
def skipGap (text : List Char) : List Char := text.dropWhile isGap

/-- Drops a comment, which runs to the end of its line. -/
def skipComment (text : List Char) : Except ReadError (List Char) :=
  match text with
  | '#' :: rest =>
      if (rest.takeWhile (· != '\n')).any isControl then .error .malformed
      else .ok (rest.dropWhile (· != '\n'))
  | _ => .ok text

/-- Drops blanks, line feeds and comments between the items of a list; `inComment` tells whether the
text begins inside a comment. -/
def skipFiller (inComment : Bool) : List Char → Except ReadError (List Char)
  | [] => .ok []
  | c :: rest =>
      if c = '\n' then skipFiller false rest
      else if inComment then if isControl c then .error .malformed else skipFiller true rest
      else if isGap c then skipFiller false rest
      else if c = '#' then skipFiller true rest
      else .ok (c :: rest)

/-! ### Keys -/

/-- Whether `c` may stand in a key without quotes. -/
def isBareKey (c : Char) : Bool :=
  Number.isDigit c || ('a' ≤ c && c ≤ 'z') || ('A' ≤ c && c ≤ 'Z') || c == '-' || c == '_'

/-- One part of a key. -/
def readKeyPart (text : List Char) : Except ReadError (String × List Char) :=
  match text with
  | '\'' :: rest => (readLiteral rest).map fun (content, rest) => (String.ofList content, rest)
  | '"' :: rest => (readBasic rest).map fun (content, rest) => (String.ofList content, rest)
  | _ =>
      let bare := text.takeWhile isBareKey
      if bare.isEmpty then .error .malformed
      else .ok (String.ofList bare, text.dropWhile isBareKey)

/-- A key: the parts before the last, and the last. -/
structure Key where
  /-- The parts before the last. -/
  path : List String
  /-- The last part. -/
  last : String
  deriving DecidableEq, Repr

/-- All parts of a key. -/
def Key.parts (k : Key) : List String := k.path ++ [k.last]

/-- A key with points between its parts and blanks around them, given as many parts as fuel. -/
def readKeyFrom : Nat → List Char → Except ReadError (Key × List Char)
  | 0, _ => .error .malformed
  | fuel + 1, text => do
      let (part, rest) ← readKeyPart text
      match skipGap rest with
      | '.' :: rest => do
          let (key, rest) ← readKeyFrom fuel (skipGap rest)
          return (⟨part :: key.path, key.last⟩, rest)
      | rest => return (⟨[], part⟩, rest)

/-- A key with the blanks behind it. -/
def readKey (text : List Char) : Except ReadError (Key × List Char) :=
  readKeyFrom text.length text

/-! ### Values -/

/-- A value that is neither quoted nor nested. -/
def readScalar (text : List Char) : Except ReadError (Value × List Char) :=
  match text with
  | 't' :: 'r' :: 'u' :: 'e' :: rest => .ok (.boolean true, rest)
  | 'f' :: 'a' :: 'l' :: 's' :: 'e' :: rest => .ok (.boolean false, rest)
  | _ =>
      match readMoment? text with
      | some found => found
      | none => (readNumber? text).getD (.error .malformed)

/-- A quoted value. -/
def ofQuoted (found : Except ReadError (List Char × List Char)) :
    Except ReadError (Value × List Char) :=
  found.map fun (content, rest) => (.string (String.ofList content), rest)

/-- How much nesting there is room for around a value. -/
def nestingRoom : Nat := 988

/-- The room that a list takes. -/
def listNesting : Nat := 2

/-- The room that a table on one line takes. -/
def tableNesting : Nat := 3

/-- The room that is left inside a list or table that is read, by `roomWithin`. -/
def roomInside (room taken : Nat) : Except ReadError Nat :=
  (roomWithin room taken).mapError .beyond

mutual

/-- A value of any kind. Each nested value takes a character at least, so the number of characters
is fuel enough. -/
def readValueFrom : Nat → Nat → List Char → Except ReadError (Value × List Char)
  | 0, _, _ => .error .malformed
  | fuel + 1, room, text =>
      match text with
      | '"' :: '"' :: '"' :: rest => ofQuoted (readLongBasic rest)
      | '"' :: rest => ofQuoted (readBasic rest)
      | '\'' :: '\'' :: '\'' :: rest => ofQuoted (readLongLiteral rest)
      | '\'' :: rest => ofQuoted (readLiteral rest)
      | '[' :: rest => do
          let room ← roomInside room listNesting
          let (items, rest) ← readItemsFrom fuel room (← skipFiller false rest)
          return (.array items, rest)
      | '\x7b' :: rest => do
          let room ← roomInside room tableNesting
          match skipGap rest with
          | '\x7d' :: rest => return (.table [], rest)
          | rest => do
              let (entries, rest) ← readInlineFrom fuel room [] rest
              return (.table (toTable entries), rest)
      | _ => readScalar text

/-- The items of a list up to its closing bracket; a comma may follow the last. -/
def readItemsFrom : Nat → Nat → List Char → Except ReadError (List Value × List Char)
  | 0, _, _ => .error .malformed
  | fuel + 1, room, text =>
      match text with
      | ']' :: rest => return ([], rest)
      | _ => do
          let (item, rest) ← readValueFrom fuel room text
          match ← skipFiller false rest with
          | ']' :: rest => return ([item], rest)
          | ',' :: rest => do
              let (items, rest) ← readItemsFrom fuel room (← skipFiller false rest)
              return (item :: items, rest)
          | _ => throw .malformed

/-- The entries of a table on one line up to its closing brace; no comma may follow the last. -/
def readInlineFrom : Nat → Nat → Entries → List Char → Except ReadError (Entries × List Char)
  | 0, _, _, _ => .error .malformed
  | fuel + 1, room, entries, text => do
      let (key, rest) ← readKey text
      match rest with
      | '=' :: rest => do
          let (value, rest) ← readValueFrom fuel room (skipGap rest)
          match assign 0 key.path key.last value entries, skipGap rest with
          | some entries, '\x7d' :: rest => return (entries, rest)
          | some entries, ',' :: rest => readInlineFrom fuel room entries (skipGap rest)
          | _, _ => throw .malformed
      | _ => throw .malformed

end

/-- A value of any kind, with `nestingRoom` around it. -/
def readValue (text : List Char) : Except ReadError (Value × List Char) :=
  readValueFrom (text.length + 1) nestingRoom text

/-! ### Statements -/

/-- A configuration that is being read. -/
structure Draft where
  /-- The tables so far. -/
  entries : Entries
  /-- The path of the table that entries go to. -/
  header : List String
  /-- The part of the file; every header begins a new one. -/
  part : Nat

namespace Draft

/-- Before the first statement: no tables, part `0`. -/
def start : Draft := ⟨[], [], 0⟩

/-- The draft with other tables; `malformed` if there are none. -/
def update (d : Draft) (entries : Option Entries) : Except ReadError Draft :=
  match entries with
  | some entries => .ok { d with entries }
  | none => .error .malformed

/-- An entry with its value, which goes to the table at `header`. -/
def readEntry (d : Draft) (text : List Char) : Except ReadError (Draft × List Char) := do
  let (key, rest) ← readKey text
  match rest with
  | '=' :: rest => do
      let (value, rest) ← readValue (skipGap rest)
      let d' ← d.update (within d.header (assign d.part key.path key.last value) d.entries)
      return (d', rest)
  | _ => throw .malformed

/-- The header of a table, from behind its `[` on. -/
def readHeader (d : Draft) (text : List Char) : Except ReadError (Draft × List Char) := do
  let (key, rest) ← readKey (skipGap text)
  match rest with
  | ']' :: rest => do
      let d' ← d.update (declare key.path key.last d.entries)
      return ({ d' with header := key.parts, part := d.part + 1 }, rest)
  | _ => throw .malformed

/-- The header of one more table of a list, from behind its `[[` on. -/
def readListHeader (d : Draft) (text : List Char) : Except ReadError (Draft × List Char) := do
  let (key, rest) ← readKey (skipGap text)
  match rest with
  | ']' :: ']' :: rest => do
      let d' ← d.update (append key.path key.last d.entries)
      return ({ d' with header := key.parts, part := d.part + 1 }, rest)
  | _ => throw .malformed

/-- A statement without the blanks before it and the comment behind it. -/
def readStatement (d : Draft) (text : List Char) : Except ReadError (Draft × List Char) :=
  match text with
  | [] => .ok (d, [])
  | '\n' :: _ => .ok (d, text)
  | '#' :: _ => .ok (d, text)
  | '[' :: '[' :: rest => d.readListHeader rest
  | '[' :: rest => d.readHeader rest
  | _ => d.readEntry text

/-- The statements of a file, one to a line; each line takes a character at least. -/
def readLines (d : Draft) : Nat → List Char → Except ReadError Draft
  | 0, _ => .ok d
  | fuel + 1, text => do
      let (d', rest) ← d.readStatement (skipGap text)
      match ← skipComment (skipGap rest) with
      | [] => return d'
      | '\n' :: rest => d'.readLines fuel rest
      | _ => throw .malformed

end Draft

/-- The text with `\n` for every `\r\n`. -/
def joinReturns : List Char → List Char
  | [] => []
  | '\r' :: '\n' :: text => '\n' :: joinReturns text
  | c :: text => c :: joinReturns text

/-- The table of a configuration file, after `joinReturns`. -/
def readDocument (source : String) : Except ReadError Table := do
  let text := joinReturns source.toList
  let d ← Draft.start.readLines (text.length + 1) text
  return toTable d.entries

end MarkupScan.Toml
