import MarkupScan.Number.Decimal

/-! # Shortest decimals

The decimal with the fewest digits that reads back as a given finite number, and of those the one
nearest to it.

Main definitions.
* **`Decimal`**: digits and a power of ten.
* **`decimalExponent`**: the power of ten of a fraction's leading digit.
* **`Decimal.onGrid?`**: the decimal with a given number of digits that reads back, if there is one.
* **`Decimal.shortest`**: the first hit over increasing numbers of digits. -/

namespace MarkupScan.Number

/-- The decimal `digits * 10 ^ exponent`. -/
structure Decimal where
  /-- The digits, as a natural number. -/
  digits : Nat
  /-- The power of ten. -/
  exponent : Int
  deriving DecidableEq, Repr

/-- The greatest `k` with `10 ^ k ≤ num / den`, for a positive fraction. -/
def decimalExponent (num den : Nat) : Int :=
  let guess : Int := digitCount num - digitCount den
  if den * Nat.pow 10 guess.toNat ≤ num * Nat.pow 10 (-guess).toNat then guess else guess - 1

/-- The numerator of `x` as a fraction in which no power of two is given twice. -/
def Magnitude.numerator (x : Magnitude) : Nat := x.significand * Nat.pow 2 (x.exponent - 1074)

/-- The denominator of `x` in that fraction. -/
def Magnitude.denominator (x : Magnitude) : Nat := Nat.pow 2 (1074 - x.exponent)

namespace Decimal

/-- The number nearest to `digits * 10 ^ exponent`. -/
def toBinary64 (d : Decimal) : Binary64 :=
  .nearest false (d.digits * Nat.pow 10 d.exponent.toNat) (Nat.pow 10 (-d.exponent).toNat)

/-- Whether the decimal reads back as the positive number `x`. -/
def readsBack (x : Magnitude) (d : Decimal) : Bool := d.toBinary64 = .finite false x

/-- Of the two multiples of `10 ^ grid` around the number, the one that reads back; of two that do,
the nearer, and the even one when they are equally near. -/
def onGrid? (x : Magnitude) (grid : Int) : Option Decimal :=
  let num := x.numerator * Nat.pow 10 (-grid).toNat
  let den := x.denominator * Nat.pow 10 grid.toNat
  let low : Decimal := ⟨num / den, grid⟩
  let high : Decimal := ⟨num / den + 1, grid⟩
  if low.readsBack x then
    some (if high.readsBack x then ⟨roundDiv num den, grid⟩ else low)
  else if high.readsBack x then some high
  else none

/-- All digits of `x`: the decimal is equal to it. -/
def exact (x : Magnitude) : Decimal :=
  ⟨x.significand * Nat.pow 2 x.exponent * Nat.pow 5 1074, -1074⟩

/-- The decimal with the fewest digits that reads back as the positive number `x`. Seventeen digits
tell any two numbers apart. -/
def shortest (x : Magnitude) : Decimal :=
  let leading := decimalExponent x.numerator x.denominator
  ((List.range 17).findSome? fun places : Nat => onGrid? x (leading - places)).getD (exact x)

end Decimal

end MarkupScan.Number
