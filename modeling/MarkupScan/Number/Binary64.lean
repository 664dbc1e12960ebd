/-! # Double-precision numbers

The numbers of the 64-bit binary format as exact values. A finite number is a whole number of units
of `2 ^ -1074`, so rounding and comparison are arithmetic on natural numbers.

Main definitions.
* **`IsCanonical`**, **`Magnitude`**: the significands and exponents of finite numbers, each number
  once.
* **`Binary64`**: a finite number with its sign, an infinity, or not a number.
* **`roundDiv`**: a quotient rounded to the nearest natural number, ties to even.
* **`Binary64.nearest`**: the number nearest to a non-negative fraction, ties to the even
  significand, infinite once the fraction rounds beyond the greatest finite number. -/

namespace MarkupScan.Number

/-- The greatest exponent of a finite number, in units: the numbers lie below `2 ^ 1024`. -/
def maxExponent : Nat := 2045

/-- **The significands and exponents of finite numbers**: 53 bits, all of which are used unless the
exponent is the least one. -/
structure IsCanonical (significand exponent : Nat) : Prop where
  /-- `significand < 2 ^ 53`: the significand has at most 53 bits. -/
  lt : significand < 0x20000000000000
  /-- The exponent is not too great. -/
  le : exponent ≤ maxExponent
  /-- `2 ^ 52 ≤ significand` unless the exponent is the least one. -/
  normal : 0x10000000000000 ≤ significand ∨ exponent = 0

/-- `IsCanonical` as a conjunction. -/
theorem isCanonical_iff {significand exponent : Nat} :
    IsCanonical significand exponent ↔ significand < 0x20000000000000 ∧ exponent ≤ maxExponent ∧
      (0x10000000000000 ≤ significand ∨ exponent = 0) :=
  ⟨fun h => ⟨h.lt, h.le, h.normal⟩, fun h => ⟨h.1, h.2.1, h.2.2⟩⟩

instance (significand exponent : Nat) : Decidable (IsCanonical significand exponent) :=
  decidable_of_iff _ isCanonical_iff.symm

/-- The finite number `significand * 2 ^ exponent` in units of `2 ^ -1074`, without its sign. -/
structure Magnitude where
  /-- The significand. -/
  significand : Nat
  /-- The exponent, in units. -/
  exponent : Nat
  /-- No other significand and exponent are the same number (`IsCanonical`). -/
  canonical : IsCanonical significand exponent := by decide
  deriving DecidableEq, Repr

/-- The magnitude of zero: significand `0`, exponent `0`. -/
def Magnitude.zero : Magnitude := ⟨0, 0, by decide⟩

/-- A number of the 64-bit binary format. -/
inductive Binary64 where
  /-- A finite number. -/
  | finite (negative : Bool) (magnitude : Magnitude)
  /-- Positive or negative infinity. -/
  | infinite (negative : Bool)
  /-- Not a number. -/
  | nan
  deriving DecidableEq, Repr, Inhabited

/-- How many units make one: finite numbers are multiples of `1 / unitsPerOne`. The power is only
looked into where a proof says so, by `unitsPerOne_eq`. -/
@[irreducible] def unitsPerOne : Nat := Nat.pow 2 1074

/-- `unitsPerOne` is the power `2 ^ 1074`. -/
theorem unitsPerOne_eq : unitsPerOne = Nat.pow 2 1074 := by
  delta unitsPerOne
  exact Eq.refl _

/-- `0 < unitsPerOne`. -/
theorem unitsPerOne_pos : 0 < unitsPerOne := by
  rw [unitsPerOne_eq]
  generalize 1074 = k
  exact Nat.pow_pos (by decide)

/-- The quotient `num / den` rounded to the nearest natural number, a tie going to the even one. -/
def roundDiv (num den : Nat) : Nat :=
  let quotient := num / den
  let twice := 2 * (num % den)
  if twice < den then quotient
  else if den < twice then quotient + 1
  else quotient + quotient % 2

namespace Binary64

/-- The exponent at which a magnitude of `units` whole units has 53 significant bits, or zero where
it has fewer. -/
def exponentOf (units : Nat) : Nat := units.log2 - 52

/-- The number `± significand * 2 ^ exponent`, infinite if there is no such finite number. -/
def ofCanonical (negative : Bool) (significand exponent : Nat) : Binary64 :=
  if h : IsCanonical significand exponent then .finite negative ⟨significand, exponent, h⟩
  else .infinite negative

/-- The number `± significand * 2 ^ exponent`, the significand being at most `2 ^ 53`: a carry out of
the 53 bits moves to the next exponent, and what is beyond the last exponent is infinite. -/
def ofUnits (negative : Bool) (significand exponent : Nat) : Binary64 :=
  if significand = 0x20000000000000 then ofCanonical negative 0x10000000000000 (exponent + 1)
  else ofCanonical negative significand exponent

/-- The number nearest to `± num / den`, a tie going to the even significand. -/
def nearest (negative : Bool) (num den : Nat) : Binary64 :=
  let units := num * unitsPerOne
  let exponent := exponentOf (units / den)
  ofUnits negative (roundDiv units (den * Nat.pow 2 exponent)) exponent

/-- Numeric equality: the two zeros are equal, and `nan` differs from everything. -/
def numEq : Binary64 → Binary64 → Bool
  | .nan, _ => false
  | _, .nan => false
  | .finite s x, .finite s' y => (x = .zero && y = .zero) || (s == s' && x = y)
  | .infinite s, .infinite s' => s == s'
  | _, _ => false

end Binary64

end MarkupScan.Number
