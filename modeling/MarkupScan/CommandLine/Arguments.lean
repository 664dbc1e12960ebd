import MarkupScan.CommandLine.Switch
import MarkupScan.Dump
import MarkupScan.Text.Numeral
import MarkupScan.Text.Quoted

/-! # Command-line arguments

Reading the words of a command line. First every word is classified on its own, which settles the
abbreviations; then the words are taken in order, a switch with its value at a time.

Main definitions.
* **`Item`**, **`classify`**: what a word is, taken alone.
* **`expand`**: the switches in one word, since short ones can be joined.
* **`Given`**: what is known of a value that can be given.
* **`Choices`**, **`Arguments`**: what the switches and what the whole command line say.
* **`ArgumentError`**: the ways in which a command line is wrong, with their wording.
* **`parse`**: the arguments, or why there are none. -/

namespace MarkupScan.CommandLine

/-- What stands behind a switch in the same word. -/
inductive Attached where
  /-- Nothing, as in `-o`. -/
  | nothing
  /-- A value behind an equals sign, as in `--output=a`, and nothing else. -/
  | assigned (value : List Char)
  /-- Characters behind a short switch, as in `-qo`: its value, or short switches without dashes. -/
  | joined (value : List Char)
  deriving DecidableEq, Repr

/-- What a word of the command line is, taken alone. -/
inductive Item where
  /-- Not a switch. -/
  | operand (text : String)
  /-- The word `--`, after which nothing is a switch. -/
  | separator
  /-- A switch and what is attached to it. -/
  | switch (s : Switch) (attached : Attached)
  /-- It looks like a switch and is none. -/
  | unknown (text : String)
  deriving DecidableEq, Repr

/-- The ways in which a command line is wrong. -/
inductive ArgumentError where
  /-- A word abbreviates several switches. -/
  | ambiguous (text : String) (candidates : List String)
  /-- A switch lacks its value. -/
  | valueExpected (s : Switch)
  /-- A switch has a value that it does not take. -/
  | valueIgnored (s : Switch) (value : String)
  /-- A form of dump that does not exist. -/
  | unknownFormat (value : String)
  /-- There is no input. -/
  | inputMissing
  /-- Words that mean nothing here. -/
  | unrecognized (texts : List String)
  deriving DecidableEq, Repr

/-- The wording of an error. -/
def ArgumentError.message : ArgumentError → String
  | .ambiguous text candidates =>
      "ambiguous option: " ++ text ++ " could match " ++ ", ".intercalate candidates
  | .valueExpected s => "argument " ++ s.display ++ ": expected one argument"
  | .valueIgnored s value =>
      "argument " ++ s.display ++ ": ignored explicit argument " ++ Text.quoted value
  | .unknownFormat value =>
      "argument " ++ Switch.format.display ++ ": invalid choice: " ++ Text.quoted value ++
        " (choose from " ++ ", ".intercalate (DumpFormat.all.map fun f => Text.quoted f.name) ++ ")"
  | .inputMissing => "the following arguments are required: input"
  | .unrecognized texts => "unrecognized arguments: " ++ " ".intercalate texts

/-! ### Classifying words -/

/-- Whether the characters are decimal digits of any script, at least one. -/
def isDigitRun (text : List Char) : Bool := !text.isEmpty && text.all Text.decimalDigits.has

/-- Whether the word looks like a negative number, as `-1` and `-.5` do: a dash and digits with at
most one point, which has a digit after it. A line feed at the end does not count. -/
def looksNegative (text : List Char) : Bool :=
  let body := if text.getLast? = some '\n' then text.dropLast else text
  match body with
  | '-' :: number =>
      match number.dropWhile Text.decimalDigits.has with
      | [] => isDigitRun number
      | '.' :: fraction => isDigitRun fraction
      | _ => false
  | _ => false

/-- The part of a word before its first `=`, and the part after it. -/
def splitEquals (text : List Char) : List Char × Option (List Char) :=
  (text.takeWhile (· != '='),
    match text.dropWhile (· != '=') with
    | [] => none
    | _ :: value => some value)

/-- Whether a word begins with `--`. -/
def isLong (text : List Char) : Bool := ['-', '-'].isPrefixOf text

/-- What `=` attaches to a switch of the given spelling. Behind a short switch it makes no
difference whether the sign is there. -/
def attachedOf (name : List Char) : Option (List Char) → Attached
  | none => .nothing
  | some value => if isLong name || value.isEmpty then .assigned value else .joined value

/-- What a word is that no spelling explains: a number or anything with a space is an `operand`. -/
def classifyOther (text : String) : Item :=
  if looksNegative text.toList || text.toList.contains ' ' then .operand text else .unknown text

/-- What a word is that begins with a dash and is no exact spelling: an abbreviation of a long
switch, a short switch with something `joined` to it, or neither. -/
def classifyInexact (text : String) : Except ArgumentError Item :=
  let (name, value) := splitEquals text.toList
  if isLong text.toList then
    match Switch.abbreviated name with
    | [] => .ok (classifyOther text)
    | [(_, s)] => .ok (.switch s (attachedOf name value))
    | several => .error (.ambiguous text (several.map (·.1)))
  else
    match Switch.ofSpelling? (String.ofList (text.toList.take 2)) with
    | some s => .ok (.switch s (.joined (text.toList.drop 2)))
    | none => .ok (classifyOther text)

/-- What a word is, taken alone. -/
def classify (text : String) : Except ArgumentError Item :=
  let chars := text.toList
  if chars.head? ≠ some '-' then .ok (.operand text)
  else
    match Switch.ofSpelling? text with
    | some s => .ok (.switch s .nothing)
    | none =>
        if chars = ['-'] then .ok (.operand text)
        else
          match splitEquals chars with
          | (name, some value) =>
              match Switch.ofSpelling? (String.ofList name) with
              | some s => .ok (.switch s (attachedOf name (some value)))
              | none => classifyInexact text
          | (_, none) => classifyInexact text

/-- The word `--`, after which nothing is a switch. -/
def separatorWord : String := "--"

/-- What the words of a command line are; after the first `separatorWord` all are operands. -/
def classifyAll : List String → Except ArgumentError (List Item)
  | [] => .ok []
  | text :: rest =>
      if text = separatorWord then .ok (.separator :: rest.map .operand)
      else do
        let item ← classify text
        let items ← classifyAll rest
        return item :: items

/-! ### Taking words in order -/

/-- A switch with the value it takes, if it takes one. -/
structure Use where
  /-- The switch. -/
  switch : Switch
  /-- Its value; empty for a switch that takes none. -/
  value : String
  deriving DecidableEq, Repr

/-- What one word with switches comes to. -/
structure Expansion where
  /-- The switches that are complete. -/
  uses : List Use
  /-- A last switch whose value is the next word. -/
  pending : Option Switch
  deriving DecidableEq, Repr

/-- The switch without attached value: in `uses`, or `pending` if it takes one. -/
def Expansion.ofBare (s : Switch) : Expansion :=
  if s.takesValue then ⟨[], some s⟩ else ⟨[⟨s, ""⟩], none⟩

/-- The switch with its value; nothing is `pending`. -/
def Expansion.ofValue (s : Switch) (value : List Char) : Expansion :=
  ⟨[⟨s, String.ofList value⟩], none⟩

/-- The expansion with one more complete switch in front of its `uses`. -/
def Expansion.after (s : Switch) (e : Expansion) : Expansion :=
  { e with uses := ⟨s, ""⟩ :: e.uses }

/-- The switches that are `joined` behind a short switch. A switch that takes a value takes all that
follows it; behind any other the next character has to be a short switch again. -/
def expandJoined (s : Switch) : List Char → Except ArgumentError Expansion
  | [] => .ok (.ofBare s)
  | c :: rest =>
      if s.takesValue then .ok (.ofValue s (c :: rest))
      else
        match Switch.ofSpelling? (String.ofList ['-', c]) with
        | none => .error (.valueIgnored s (String.ofList (c :: rest)))
        | some s' => (expandJoined s' rest).map (.after s)

/-- The switches in one word, or the error of an attached value that is not taken. -/
def expand (s : Switch) : Attached → Except ArgumentError Expansion
  | .nothing => .ok (.ofBare s)
  | .assigned value =>
      if s.takesValue then .ok (.ofValue s value)
      else .error (.valueIgnored s (String.ofList value))
  | .joined value => expandJoined s value

/-- What is known of a value that can be given. -/
inductive Given (α : Type) where
  /-- It is not given. -/
  | absent
  /-- It is given as nothing, by `--` in its place. -/
  | blank
  /-- It is given. -/
  | value (a : α)
  deriving DecidableEq, Repr

/-- What the text of a value gives: `blank` for `--` and `value text` otherwise. -/
def Given.ofText (text : String) : Given String :=
  if text = separatorWord then .blank else .value text

/-- What the switches of a command line say. -/
structure Choices where
  /-- The file to write the dump to. -/
  output : Given String
  /-- The form of the dump. -/
  format : Given DumpFormat
  /-- Whether illegal characters are to be dumped. -/
  allowIllegal : Bool
  /-- Whether warnings are not to be reported. -/
  quiet : Bool
  /-- The configuration file. -/
  config : Given String
  deriving DecidableEq, Repr

/-- What the switches say when there are none: everything `absent`, nothing set. -/
def Choices.none : Choices := ⟨.absent, .absent, false, false, .absent⟩

/-- What a command line says. -/
structure Arguments extends Choices where
  /-- The input file. -/
  input : String
  deriving DecidableEq, Repr

/-- Why a command line yields no arguments. -/
inductive Stop where
  /-- The help was asked for. -/
  | help
  /-- The command line is wrong. -/
  | error (cause : ArgumentError)
  deriving DecidableEq, Repr

/-- What has been read of a command line. -/
structure Progress where
  /-- The input file, if it has been met. -/
  input : Option String
  /-- The words that mean nothing, in order. -/
  strays : List String
  /-- What the switches so far say. -/
  said : Choices
  deriving DecidableEq, Repr

namespace Progress

/-- Before the first word. -/
def start : Progress := ⟨none, [], .none⟩

/-- One more word that means nothing. -/
def stray (p : Progress) (text : String) : Progress := { p with strays := p.strays ++ [text] }

/-- Heeds one switch. The last value of a switch is the one that counts. -/
def use (p : Progress) (u : Use) : Except Stop Progress :=
  match u.switch with
  | .help => .error .help
  | .output => .ok { p with said := { p.said with output := .ofText u.value } }
  | .format =>
      match Given.ofText u.value with
      | .value name =>
          match DumpFormat.ofName? name with
          | some format => .ok { p with said := { p.said with format := .value format } }
          | none => .error (.error (.unknownFormat name))
      | _ => .ok { p with said := { p.said with format := .blank } }
  | .allowIllegal => .ok { p with said := { p.said with allowIllegal := true } }
  | .quiet => .ok { p with said := { p.said with quiet := true } }
  | .config => .ok { p with said := { p.said with config := .ofText u.value } }

/-- Heeds switches in order, once the word they stand in has been read. -/
def useAll (p : Progress) (uses : List Use) : Except Stop Progress := uses.foldlM use p

/-- Takes the words in order. The first `operand` is the input, and a `separator` next to it on
either side is dropped; a switch that waits for its value takes the next word if that is an operand.
-/
def takeAll (p : Progress) : List Item → Except Stop Progress
  | [] => .ok p
  | .unknown text :: rest => (p.stray text).takeAll rest
  | .operand text :: rest =>
      if p.input.isSome then (p.stray text).takeAll rest
      else
        match rest with
        | .separator :: rest => { p with input := some text }.takeAll rest
        | rest => { p with input := some text }.takeAll rest
  | .separator :: rest =>
      match p.input, rest with
      | none, .operand text :: rest => { p with input := some text }.takeAll rest
      | _, rest => (p.stray separatorWord).takeAll rest
  | .switch s attached :: rest =>
      match expand s attached with
      | .error cause => .error (.error cause)
      | .ok ⟨uses, none⟩ => do
          let p' ← p.useAll uses
          p'.takeAll rest
      | .ok ⟨uses, some last⟩ =>
          match rest with
          | .operand value :: rest => do
              let p' ← p.useAll (uses ++ [⟨last, value⟩])
              p'.takeAll rest
          | _ => .error (.error (.valueExpected last))

/-- What the whole command line says: an error without `input` or with `strays`. -/
def finish (p : Progress) : Except Stop Arguments :=
  match p.input, p.strays with
  | none, _ => .error (.error .inputMissing)
  | some input, [] => .ok ⟨p.said, input⟩
  | some _, strays => .error (.error (.unrecognized strays))

end Progress

/-- Reads a command line: `classifyAll`, then `takeAll` from `Progress.start`, then `finish`. -/
def parse (words : List String) : Except Stop Arguments :=
  match classifyAll words with
  | .error cause => .error (.error cause)
  | .ok items => do
      let p ← Progress.start.takeAll items
      p.finish

end MarkupScan.CommandLine
