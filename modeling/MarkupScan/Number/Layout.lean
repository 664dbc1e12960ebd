import MarkupScan.Number.Shortest

/-! # Written numbers

How a number is spelled out: shortest digits, positional where the leading digit's power of ten is
in a given range and scientific outside it.

Main definitions.
* **`Layout`**: the choices of a format.
* **`Layout.write`**: the text of a number in a format.
* **`displayLayout`**, **`jsonLayout`**: the two formats in use, which differ in the words for the
  special values only. -/

namespace MarkupScan.Number

/-- The choices of a number format; `Layout.write` follows them. -/
structure Layout where
  /-- The least power of ten of a leading digit that is written positionally. -/
  positionalFrom : Int
  /-- The least power of ten beyond the positional range. -/
  positionalBelow : Int
  /-- The least number of digits of an exponent. -/
  exponentWidth : Nat
  /-- The word for infinity, without a sign. -/
  infinity : String
  /-- The word for a value that is not a number. -/
  notANumber : String
  deriving DecidableEq, Repr

/-- Numbers in messages: positional from `0.0001` up to `10 ^ 16`, two exponent digits. -/
def displayLayout : Layout := ⟨-4, 16, 2, "inf", "nan"⟩

/-- Numbers in JSON dumps: as in `displayLayout`, with words of their own for the special values. -/
def jsonLayout : Layout := ⟨-4, 16, 2, "Infinity", "NaN"⟩

/-- The decimal digits of `n`, most significant first. -/
def digitsOf (n : Nat) : List Char := Nat.toDigits 10 n

/-- The digits without the zeros that end them; at least one digit stays. -/
def trimZeros : List Char → List Char
  | [] => []
  | digit :: rest =>
      match trimZeros rest with
      | [] => [digit]
      | ['0'] => [digit]
      | kept => digit :: kept

/-- Positional notation of `0.digits * 10 ^ point`, with at least one digit on each side. -/
def positional (digits : List Char) (point : Int) : List Char :=
  if point ≤ 0 then '0' :: '.' :: List.replicate (-point).toNat '0' ++ digits
  else
    let whole := digits.take point.toNat
    let fraction := digits.drop point.toNat
    whole ++ List.replicate (point.toNat - digits.length) '0' ++
      '.' :: (if fraction.isEmpty then ['0'] else fraction)

/-- `exponent` with its sign, filled up with zeros to at least `width` digits. -/
def exponentText (width : Nat) (exponent : Int) : List Char :=
  let digits := digitsOf exponent.natAbs
  (if exponent < 0 then '-' else '+') :: List.replicate (width - digits.length) '0' ++ digits

/-- Scientific notation of `d.igits * 10 ^ exponent`. -/
def scientific (width : Nat) (digits : List Char) (exponent : Int) : List Char :=
  let mantissa :=
    match digits with
    | [] => []
    | [digit] => [digit]
    | digit :: rest => digit :: '.' :: rest
  mantissa ++ 'e' :: exponentText width exponent

namespace Layout

/-- The text of a magnitude: `0.0` or its `Decimal.shortest`, positional or scientific. -/
def writeMagnitude (layout : Layout) (x : Magnitude) : List Char :=
  if x = .zero then ['0', '.', '0']
  else
    let decimal := Decimal.shortest x
    let written := digitsOf decimal.digits
    let digits := trimZeros written
    let leading := decimal.exponent + written.length - 1
    if layout.positionalFrom ≤ leading ∧ leading < layout.positionalBelow then
      positional digits (leading + 1)
    else scientific layout.exponentWidth digits leading

/-- The text of a number: a minus sign and `writeMagnitude`, or the word for a special value. -/
def write (layout : Layout) : Binary64 → String
  | .finite negative x =>
      String.ofList ((if negative then ['-'] else []) ++ layout.writeMagnitude x)
  | .infinite negative => (if negative then "-" else "") ++ layout.infinity
  | .nan => layout.notANumber

end Layout

end MarkupScan.Number
