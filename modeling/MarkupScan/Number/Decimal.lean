import MarkupScan.Number.Binary64

/-! # Decimal numerals

Reading a decimal numeral as the double-precision number nearest to it.

Main definitions.
* **`digitsValue`**: the natural number that a run of ASCII digits denotes.
* **`Binary64.ofDigits`**: the number nearest to a numeral without exponent.
* **`Binary64.ofScientific`**: the number nearest to `± digits * 10 ^ exponent`; an exponent of any
  size is read without computing its power of ten.
* **`Binary64.ofText?`**: the number that a signed numeral or a word for a special value denotes. -/

namespace MarkupScan.Number

/-- Whether `c` is an ASCII decimal digit. -/
def isDigit (c : Char) : Bool := '0' ≤ c && c ≤ '9'

/-- The natural number that `digits` denote, most significant digit first. -/
def digitsValue (digits : List Char) : Nat := Nat.ofDigitChars 10 digits 0

/-- The number of decimal digits of `n`; `1` for zero. -/
def digitCount (n : Nat) : Nat := (Nat.toDigits 10 n).length

namespace Binary64

/-- The number nearest to the numeral `whole.fraction`. -/
def ofDigits (negative : Bool) (whole fraction : List Char) : Binary64 :=
  nearest negative (digitsValue (whole ++ fraction)) (Nat.pow 10 fraction.length)

/-- The number nearest to `± digits * 10 ^ exponent`. From `10 ^ 310` on the answer is infinite and
below `10 ^ -330` it is zero, so that neither end computes the power. -/
def ofScientific (negative : Bool) (digits : Nat) (exponent : Int) : Binary64 :=
  let magnitude := exponent + digitCount digits
  if digits = 0 then .finite negative .zero
  else if magnitude > 310 then .infinite negative
  else if magnitude < -330 then .finite negative .zero
  else nearest negative (digits * Nat.pow 10 exponent.toNat) (Nat.pow 10 (-exponent).toNat)

/-- Splits a leading sign off a numeral: `true` for a minus sign. -/
def splitSign : List Char → Bool × List Char
  | '-' :: rest => (true, rest)
  | '+' :: rest => (false, rest)
  | rest => (false, rest)

/-- The integer that an optionally signed run of digits denotes; `none` of another text. -/
def signedValue? (text : List Char) : Option Int :=
  let (negative, digits) := splitSign text
  if digits.isEmpty || !digits.all isDigit then none
  else if negative then some (-(digitsValue digits : Int))
  else some (digitsValue digits)

/-- The number denoted by a numeral without sign: digits with an optional point and an optional
exponent; `none` of another text. -/
def ofUnsigned? (negative : Bool) (text : List Char) : Option Binary64 :=
  let whole := text.takeWhile isDigit
  let afterWhole := text.dropWhile isDigit
  let (fraction, rest) :=
    match afterWhole with
    | '.' :: tail => (tail.takeWhile isDigit, tail.dropWhile isDigit)
    | _ => ([], afterWhole)
  if whole.isEmpty && fraction.isEmpty then none
  else
    let digits := digitsValue (whole ++ fraction)
    match rest with
    | [] => some (ofScientific negative digits (-fraction.length))
    | mark :: power =>
        if mark == 'e' || mark == 'E' then
          (signedValue? power).map fun exponent =>
            ofScientific negative digits (exponent - fraction.length)
        else none

/-- The words for an infinite number. -/
def infiniteWords : List String := ["inf", "infinity"]

/-- The number denoted by a signed numeral, or by a word for a special value after an optional sign,
in letters of either case; `none` of another text. -/
def ofText? (text : String) : Option Binary64 :=
  let (negative, rest) := splitSign text.toList
  let word := String.ofList (rest.map Char.toLower)
  if infiniteWords.contains word then some (.infinite negative)
  else if word = "nan" then some .nan
  else ofUnsigned? negative rest

end Binary64

end MarkupScan.Number
