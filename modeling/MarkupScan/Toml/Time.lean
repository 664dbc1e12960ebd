/-! # Dates and times

Calendar dates, times of day to the microsecond, and offsets from universal time, with the two
texts that messages use: the plain one, and the one for a value inside a list or table.

Main definitions.
* **`Date`**, **`TimeOfDay`**: a day and a time.
* **`Date.inCalendar`**: whether the calendar has the day.
* **`Moment`**: a date, a time, or both with an optional offset. -/

namespace MarkupScan.Toml

/-- A day of the calendar. -/
structure Date where
  /-- The year. -/
  year : Nat
  /-- The month, counted from one. -/
  month : Nat
  /-- The day of the month, counted from one. -/
  day : Nat
  deriving DecidableEq, Repr

/-- A time of day. -/
structure TimeOfDay where
  /-- The hour. -/
  hour : Nat
  /-- The minute. -/
  minute : Nat
  /-- The second. -/
  second : Nat
  /-- The microsecond. -/
  micro : Nat
  deriving DecidableEq, Repr

/-- A date, a time, or both; an offset from universal time is in minutes. -/
inductive Moment where
  /-- A day. -/
  | date (d : Date)
  /-- A time on no particular day. -/
  | time (t : TimeOfDay)
  /-- A time on a day, here or at an offset from universal time. -/
  | dateTime (d : Date) (t : TimeOfDay) (offset : Option Int)
  deriving DecidableEq, Repr

/-- Whether a year has a leap day. -/
def isLeapYear (year : Nat) : Bool :=
  year % 4 == 0 && (year % 100 != 0 || year % 400 == 0)

/-- The number of days of a month. -/
def daysIn (year month : Nat) : Nat :=
  if month = 2 then if isLeapYear year then 29 else 28
  else if month = 4 ∨ month = 6 ∨ month = 9 ∨ month = 11 then 30
  else 31

/-- Whether the calendar has the day; it begins with the year `1`. -/
def Date.inCalendar (d : Date) : Bool :=
  decide (1 ≤ d.year) && decide (1 ≤ d.month) && decide (d.month ≤ 12) && decide (1 ≤ d.day) &&
    decide (d.day ≤ daysIn d.year d.month)

/-- `n` filled up with zeros to `width` digits. -/
def padded (width n : Nat) : String :=
  let digits := Nat.toDigits 10 n
  String.ofList (List.replicate (width - digits.length) '0' ++ digits)

/-! ### Plain text -/

/-- Year, month and day as in `1979-05-27`. -/
def Date.display (d : Date) : String :=
  padded 4 d.year ++ "-" ++ padded 2 d.month ++ "-" ++ padded 2 d.day

/-- Hour, minute and second as in `07:32:00`, and the microseconds if there are any. -/
def TimeOfDay.display (t : TimeOfDay) : String :=
  padded 2 t.hour ++ ":" ++ padded 2 t.minute ++ ":" ++ padded 2 t.second ++
    if t.micro = 0 then "" else "." ++ padded 6 t.micro

/-- The sign, hours and minutes of an offset, as in `+01:30`. -/
def offsetDisplay (minutes : Int) : String :=
  (if minutes < 0 then "-" else "+") ++ padded 2 (minutes.natAbs / 60) ++ ":" ++
    padded 2 (minutes.natAbs % 60)

/-- The plain text of a moment, with a space between day and time. -/
def Moment.display : Moment → String
  | .date d => d.display
  | .time t => t.display
  | .dateTime d t none => d.display ++ " " ++ t.display
  | .dateTime d t (some offset) => d.display ++ " " ++ t.display ++ offsetDisplay offset

/-! ### Text inside a list or table -/

/-- The parts of a day. -/
def Date.parts (d : Date) : List Nat := [d.year, d.month, d.day]

/-- The parts of a time; zero microseconds are left out, and then a zero second too. -/
def TimeOfDay.parts (t : TimeOfDay) : List Nat :=
  [t.hour, t.minute] ++
    if t.micro ≠ 0 then [t.second, t.micro] else if t.second ≠ 0 then [t.second] else []

/-- The parts with `, ` between them. -/
def partsText (parts : List Nat) : String := ", ".intercalate (parts.map toString)

/-- An offset; whole days count down from zero, seconds up. -/
def offsetInner (minutes : Int) : String :=
  if minutes = 0 then "datetime.timezone.utc"
  else
    let duration :=
      if minutes < 0 then "days=-1, seconds=" ++ toString (86400 + minutes * 60)
      else "seconds=" ++ toString (minutes * 60)
    "datetime.timezone(datetime.timedelta(" ++ duration ++ "))"

/-- The text of a moment inside a list or table, as in `datetime.date(1979, 5, 27)`. -/
def Moment.inner : Moment → String
  | .date d => "datetime.date(" ++ partsText d.parts ++ ")"
  | .time t => "datetime.time(" ++ partsText t.parts ++ ")"
  | .dateTime d t none => "datetime.datetime(" ++ partsText (d.parts ++ t.parts) ++ ")"
  | .dateTime d t (some offset) =>
      "datetime.datetime(" ++ partsText (d.parts ++ t.parts) ++ ", tzinfo=" ++
        offsetInner offset ++ ")"

end MarkupScan.Toml
