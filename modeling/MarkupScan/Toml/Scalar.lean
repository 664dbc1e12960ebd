import MarkupScan.Text.Hex
import MarkupScan.Toml.Value

/-! # Numbers, dates and times in TOML

Reading the values that are not quoted and not nested. A reader takes the characters of a file from
some point on and gives what it found together with the rest; `none` means that nothing of its kind
stands there.

Main definitions.
* **`digitRun?`**: digits with single underscores between them.
* **`readMoment?`**: a date, a time or both.
* **`readNumber?`**: an integer or a float, special values included.
* **`ReadError`**: why a file is no configuration. -/

namespace MarkupScan.Toml

open Number (Binary64 digitsValue isDigit)

/-- Why a file is no configuration. -/
inductive ReadError where
  /-- It does not follow the rules of the format. -/
  | malformed
  /-- It follows them, and a value is too much. -/
  | beyond (e : Excess)
  deriving DecidableEq, Repr

/-! ### Dates and times -/

/-- A run of exactly `count` digits. -/
def digits? (count : Nat) (text : List Char) : Option (Nat × List Char) :=
  let run := text.take count
  if run.length = count && run.all isDigit then some (digitsValue run, text.drop count) else none

/-- Two digits with a value from `least` to `most`. -/
def twoDigits? (least most : Nat) (text : List Char) : Option (Nat × List Char) :=
  match digits? 2 text with
  | some (n, rest) => if least ≤ n ∧ n ≤ most then some (n, rest) else none
  | none => none

/-- The character `c` at the front of a text, and what follows it. -/
def sign? (c : Char) : List Char → Option (List Char)
  | d :: rest => if d = c then some rest else none
  | [] => none

/-- Year, month and day with dashes. -/
def readDate? (text : List Char) : Option (Date × List Char) := do
  let (year, text) ← digits? 4 text
  let text ← sign? '-' text
  let (month, text) ← twoDigits? 1 12 text
  let text ← sign? '-' text
  let (day, text) ← twoDigits? 1 31 text
  return (⟨year, month, day⟩, text)

/-- The microseconds of a fraction, digits beyond the sixth being dropped. -/
def readFraction (text : List Char) : Nat × List Char :=
  match text with
  | '.' :: rest =>
      let run := rest.takeWhile isDigit
      if run.isEmpty then (0, text)
      else
        let kept := run.take 6
        (digitsValue (kept ++ List.replicate (6 - kept.length) '0'), rest.dropWhile isDigit)
  | _ => (0, text)

/-- Hour, minute and second with colons, and a fraction of a second. -/
def readTime? (text : List Char) : Option (TimeOfDay × List Char) := do
  let (hour, text) ← twoDigits? 0 23 text
  let text ← sign? ':' text
  let (minute, text) ← twoDigits? 0 59 text
  let text ← sign? ':' text
  let (second, text) ← twoDigits? 0 59 text
  let (micro, text) := readFraction text
  return (⟨hour, minute, second, micro⟩, text)

/-- The minutes of a signed offset. -/
def readHours? (text : List Char) : Option (Int × List Char) := do
  let (hour, text) ← twoDigits? 0 23 text
  let text ← sign? ':' text
  let (minute, text) ← twoDigits? 0 59 text
  return ((60 * hour + minute : Nat), text)

/-- An offset from universal time; `none` if none is written. -/
def readOffset (text : List Char) : Option Int × List Char :=
  match text with
  | 'Z' :: rest | 'z' :: rest => (some 0, rest)
  | '+' :: rest =>
      match readHours? rest with
      | some (minutes, rest) => (some minutes, rest)
      | none => (none, text)
  | '-' :: rest =>
      match readHours? rest with
      | some (minutes, rest) => (some (-minutes), rest)
      | none => (none, text)
  | _ => (none, text)

/-- The time after a date, if one is written. -/
def readTimeAfter (date : Date) (text : List Char) : Moment × List Char :=
  match text with
  | [] => (.date date, text)
  | c :: rest =>
      if c = 'T' ∨ c = 't' ∨ c = ' ' then
        match readTime? rest with
        | some (time, rest) =>
            let (offset, rest) := readOffset rest
            (.dateTime date time offset, rest)
        | none => (.date date, text)
      else (.date date, text)

/-- A date, a time or both; a day that the calendar does not have is an error. -/
def readMoment? (text : List Char) : Option (Except ReadError (Value × List Char)) :=
  match readDate? text with
  | some (date, rest) =>
      let (moment, rest) := readTimeAfter date rest
      some (if date.inCalendar then .ok (.moment moment, rest) else .error .malformed)
  | none => (readTime? text).map fun (time, rest) => .ok (.moment (.time time), rest)

/-! ### Numbers -/

/-- The digits that go on a run, `_` being allowed before each. -/
def digitTail (isMember : Char → Bool) : List Char → List Char × List Char
  | [] => ([], [])
  | '_' :: c :: rest =>
      if isMember c then
        let (digits, rest) := digitTail isMember rest
        (c :: digits, rest)
      else ([], '_' :: c :: rest)
  | c :: rest =>
      if isMember c then
        let (digits, rest) := digitTail isMember rest
        (c :: digits, rest)
      else ([], c :: rest)

/-- Digits with single `_` between them, the underscores left out. -/
def digitRun? (isMember : Char → Bool) : List Char → Option (List Char × List Char)
  | [] => none
  | c :: rest =>
      if isMember c then
        let (digits, rest) := digitTail isMember rest
        some (c :: digits, rest)
      else none

/-- The number that digits of `base`, up to sixteen, denote. -/
def valueInBase (base : Nat) (digits : List Char) : Nat :=
  digits.foldl (fun n c => base * n + Text.hexValue c) 0

/-- An integer with a mark for its base: `0x`, `0o` or `0b`. -/
def readBased? (text : List Char) : Option (Value × List Char) :=
  let read (base : Nat) (isMember : Char → Bool) (rest : List Char) : Option (Value × List Char) :=
    (digitRun? isMember rest).map fun (digits, rest) => (.integer (valueInBase base digits), rest)
  match text with
  | '0' :: 'x' :: rest => read 16 Text.isHexDigit rest
  | '0' :: 'b' :: rest => read 2 (fun c => c == '0' || c == '1') rest
  | '0' :: 'o' :: rest => read 8 (fun c => '0' ≤ c && c ≤ '7') rest
  | _ => none

/-- The digits before the point: a zero alone, or digits that do not begin with zero. -/
def readWhole? : List Char → Option (List Char × List Char)
  | '0' :: rest => some (['0'], rest)
  | text => digitRun? isDigit text

/-- The digits after the point, if there are any. -/
def readPoint? : List Char → Option (List Char × List Char)
  | '.' :: rest => digitRun? isDigit rest
  | _ => none

/-- The exponent behind `e` or `E`, if there is one. -/
def readExponent? : List Char → Option (Int × List Char)
  | mark :: rest =>
      if mark = 'e' ∨ mark = 'E' then
        let (negative, rest) := Binary64.splitSign rest
        (digitRun? isDigit rest).map fun (digits, rest) =>
          (if negative then -(digitsValue digits : Int) else digitsValue digits, rest)
      else none
  | [] => none

/-- A decimal number: an integer, or a float if it has a point or an exponent. -/
def readDecimal? (text : List Char) : Option (Except ReadError (Value × List Char)) :=
  let (negative, unsigned) := Binary64.splitSign text
  match readWhole? unsigned with
  | none => none
  | some (whole, afterWhole) =>
      let point := readPoint? afterWhole
      let (fraction, afterPoint) := point.getD ([], afterWhole)
      let exponent := readExponent? afterPoint
      let (power, rest) := exponent.getD (0, afterPoint)
      let value := digitsValue (whole ++ fraction)
      some <|
        if point.isSome || exponent.isSome then
          .ok (.float (.ofScientific negative value (power - fraction.length)), rest)
        else if whole.length > Number.maxIntegerDigits then .error (.beyond .longInteger)
        else .ok (.integer (if negative then -(value : Int) else value), rest)

/-- A special value, `inf` or `nan`, behind an optional sign. -/
def readSpecial? (text : List Char) : Option (Value × List Char) :=
  let (negative, unsigned) := Binary64.splitSign text
  match unsigned with
  | 'i' :: 'n' :: 'f' :: rest => some (.float (.infinite negative), rest)
  | 'n' :: 'a' :: 'n' :: rest => some (.float .nan, rest)
  | _ => none

/-- A number of any kind. -/
def readNumber? (text : List Char) : Option (Except ReadError (Value × List Char)) :=
  match readBased? text with
  | some found => some (.ok found)
  | none =>
      match readDecimal? text with
      | some found => some found
      | none => (readSpecial? text).map .ok

end MarkupScan.Toml
