import Mathlib.Algebra.Order.Field.Basic
import Mathlib.Algebra.Order.Field.Rat
import MarkupScan.Proofs.NumeralValue

/-! # Numbers beyond the finite ones

Which numerals are too great for a finite double-precision number. The greatest finite number is
`2 ^ 1024 - 2 ^ 971`; from half a step above it on, fractions round to infinity.

Main definitions.
* **`Binary64.IsFinite`**: the finite numbers.
* **`exactValue`**: the rational number that a numeral denotes.

Main statements.
* **`lt_roundDiv_iff`**: what rounds to more than an odd number.
* **`Binary64.nearest_eq_infinite_iff`**, **`Binary64.nearest_eq_infinite_iff_le_div`**: which fractions
  round to infinity.
* **`Binary64.ofDigits_finite_iff`**: which numerals round to finite numbers.
* **`exactValue_append`**: the value of a numeral by its digits on both sides of the point. -/

namespace MarkupScan.Number

/-! ### Rounding quotients -/

section Quotients

variable {num den : ℕ}

/-- `num / den ≤ roundDiv num den`. -/
theorem div_le_roundDiv (num den : ℕ) : num / den ≤ roundDiv num den := by
  unfold roundDiv
  simp only
  split
  · exact Nat.le_refl _
  split
  · exact Nat.le_succ _
  · exact Nat.le_add_right _ _

/-- `num / den / scale`, dividing twice and dropping the rest, is at most the rounded quotient. -/
theorem div_div_le_roundDiv (num den scale : ℕ) : num / den / scale ≤ roundDiv num (den * scale) := by
  rw [Nat.div_div_eq_div_mul]
  exact div_le_roundDiv num (den * scale)

/-- `roundDiv num den ≤ num / den + 1`. -/
theorem roundDiv_le (num den : ℕ) : roundDiv num den ≤ num / den + 1 := by
  unfold roundDiv
  simp only
  split
  · exact Nat.le_succ _
  split
  · exact Nat.le_refl _
  · have hOdd : num / den % 2 < 2 := Nat.mod_lt _ (by decide)
    omega

/-- **A quotient rounds to more than an odd number** `m` exactly if it is at least half a step above
it: a tie goes up to the even one. -/
theorem lt_roundDiv_iff (hDen : 0 < den) {m : ℕ} (hOdd : m % 2 = 1) :
    m < roundDiv num den ↔ (2 * m + 1) * den ≤ 2 * num := by
  have hDivision := Nat.div_add_mod num den
  have hRest := Nat.mod_lt num hDen
  have hLow := div_le_roundDiv num den
  have hHigh := roundDiv_le num den
  rcases Nat.lt_trichotomy (num / den) m with hLess | hEqual | hMore
  · -- the quotient is too small, even with the step up
    have hProduct := Nat.mul_le_mul_left den hLess
    rw [Nat.add_mul, Nat.mul_assoc, Nat.mul_comm m]
    rw [Nat.mul_succ] at hProduct
    omega
  · -- here the rest decides
    have hProduct : den * m + num % den = num := by rw [← hEqual, hDivision]
    rw [Nat.add_mul, Nat.mul_assoc, Nat.mul_comm m]
    unfold roundDiv
    simp only [hEqual, hOdd]
    split
    · omega
    split <;> omega
  · have hProduct := Nat.mul_le_mul_left den hMore
    rw [Nat.add_mul, Nat.mul_assoc, Nat.mul_comm m]
    rw [Nat.mul_succ] at hProduct
    omega

end Quotients

namespace Binary64

/-- `exponentOf units ≤ exponent` exactly for `units < 2 ^ (exponent + 53)`. -/
theorem exponentOf_le_iff {units exponent : ℕ} :
    exponentOf units ≤ exponent ↔ units < 2 ^ (exponent + 53) := by
  unfold exponentOf
  rcases Nat.eq_zero_or_pos units with rfl | hPos
  · simp
  · rw [← Nat.log2_lt (Nat.ne_of_gt hPos)]
    omega

/-- At its exponent a magnitude rounds to a significand of at most `2 ^ 53`, and its quotient is at
least `2 ^ 52` there unless the exponent is `0`. -/
theorem roundDiv_exponentOf (units den : ℕ) :
    roundDiv units (den * 2 ^ exponentOf (units / den)) ≤ 2 ^ 53 ∧
      (2 ^ 52 ≤ units / den / 2 ^ exponentOf (units / den) ∨
        exponentOf (units / den) = 0) := by
  generalize hExponent : exponentOf (units / den) = k
  have hPower : 0 < 2 ^ k := Nat.pow_pos (by decide)
  refine ⟨?_, ?_⟩
  -- at its exponent the quotient has 53 bits at most, and rounding adds one at most
  · have hFew : units / den < 2 ^ (53 + k) := by
      rw [Nat.add_comm]
      exact exponentOf_le_iff.mp (Nat.le_of_eq hExponent)
    have hBits : units / den / 2 ^ k < 2 ^ 53 := by
      rwa [Nat.div_lt_iff_lt_mul hPower, ← Nat.pow_add]
    rw [Nat.div_div_eq_div_mul] at hBits
    have hRound := roundDiv_le units (den * 2 ^ k)
    omega
  -- at the exponent before it would have more
  · refine or_iff_not_imp_right.mpr fun hPos => ?_
    have hMany : ¬ units / den < 2 ^ (k - 1 + 53) := by
      rw [← exponentOf_le_iff, hExponent]
      omega
    rw [Nat.le_div_iff_mul_le hPower, ← Nat.pow_add]
    rw [show k - 1 + 53 = 52 + k by omega] at hMany
    omega

/-- `ofCanonical` is infinite exactly where there is no finite number. -/
theorem ofCanonical_eq_infinite_iff {negative : Bool} {significand exponent : ℕ} :
    ofCanonical negative significand exponent = .infinite negative ↔
      ¬ IsCanonical significand exponent := by
  unfold ofCanonical
  split <;> simp_all

/-- `ofUnits` is infinite beyond the exponent `maxExponent`, and at that exponent if it is carried out
of the bits of the significand. -/
theorem ofUnits_eq_infinite_iff {negative : Bool} {significand exponent : ℕ}
    (hFew : significand ≤ 2 ^ 53) (hMany : 2 ^ 52 ≤ significand ∨ exponent = 0) :
    ofUnits negative significand exponent = .infinite negative ↔
      maxExponent < exponent ∨ exponent = maxExponent ∧ significand = 2 ^ 53 := by
  unfold ofUnits
  split <;> rw [ofCanonical_eq_infinite_iff, isCanonical_iff]
  · omega
  · omega

/-- A fraction rounds to `infinite` exactly if, at `maxExponent`, it rounds to more than the
greatest significand. -/
theorem nearest_eq_infinite_iff_lt_roundDiv (negative : Bool) (num den : ℕ) :
    nearest negative num den = .infinite negative ↔
      2 ^ 53 - 1 < roundDiv (num * unitsPerOne) (den * 2 ^ maxExponent) := by
  rw [nearest]
  generalize num * unitsPerOne = units
  obtain ⟨hFew, hBits⟩ := roundDiv_exponentOf units den
  have hRound := hBits.imp_left fun h => h.trans (div_div_le_roundDiv units den _)
  rw [Nat.pow_eq, ofUnits_eq_infinite_iff hFew hRound]
  clear hFew hBits hRound
  have hLow := div_le_roundDiv units (den * 2 ^ maxExponent)
  have hHigh := roundDiv_le units (den * 2 ^ maxExponent)
  rw [← Nat.div_div_eq_div_mul] at hLow hHigh
  have hPower : 0 < 2 ^ maxExponent := Nat.pow_pos (by decide)
  rcases Nat.lt_trichotomy (exponentOf (units / den)) maxExponent with hLess | hEqual | hMore
  · -- fewer than 53 bits are left at the greatest exponent
    have hFew : units / den < 2 ^ (52 + maxExponent) := by
      have h := exponentOf_le_iff.mp (Nat.le_sub_one_of_lt hLess)
      rwa [show maxExponent - 1 + 53 = 52 + maxExponent from rfl] at h
    have hSmall : units / den / 2 ^ maxExponent < 2 ^ 52 := by
      rwa [Nat.div_lt_iff_lt_mul hPower, ← Nat.pow_add]
    omega
  · have hMany : units / den < 2 ^ (53 + maxExponent) := by
      rw [Nat.add_comm]
      exact exponentOf_le_iff.mp (Nat.le_of_eq hEqual)
    have hSmall : units / den / 2 ^ maxExponent < 2 ^ 53 := by
      rwa [Nat.div_lt_iff_lt_mul hPower, ← Nat.pow_add]
    rw [hEqual]
    omega
  · have hMany : 2 ^ (53 + maxExponent) ≤ units / den := by
      rw [Nat.add_comm, ← Nat.not_lt, ← exponentOf_le_iff]
      omega
    have hLarge : 2 ^ 53 ≤ units / den / 2 ^ maxExponent := by
      rwa [Nat.le_div_iff_mul_le hPower, ← Nat.pow_add]
    omega

/-- **From half a step above the greatest finite number on, fractions round to `infinite`.** -/
theorem nearest_eq_infinite_iff (negative : Bool) {num den : ℕ} (hDen : 0 < den) :
    nearest negative num den = .infinite negative ↔ den * ((2 ^ 54 - 1) * 2 ^ 970) ≤ num := by
  have hUnits : 0 < unitsPerOne := unitsPerOne_pos
  have hPower : 0 < 2 ^ maxExponent := Nat.pow_pos (by decide)
  have hOdd : 2 * (2 ^ 53 - 1) + 1 = 2 ^ 54 - 1 := by decide
  have hScale : ∀ k, 2 ^ (k + 1 + 1074) = 2 * (2 ^ k * unitsPerOne) := by
    intro k
    rw [two_pow_add, Nat.pow_succ', Nat.mul_assoc]
  rw [nearest_eq_infinite_iff_lt_roundDiv, lt_roundDiv_iff (Nat.mul_pos hDen hPower) (by decide),
    hOdd, show maxExponent = 970 + 1 + 1074 from rfl, hScale]
  -- the powers are not to be computed
  generalize 2 ^ 54 - 1 = steps
  generalize 2 ^ 970 = half
  generalize unitsPerOne = units at hUnits ⊢
  have hOrder : steps * (den * (2 * (half * units)))
      = 2 * (den * (steps * half) * units) := by ac_rfl
  rw [hOrder, Nat.mul_le_mul_left_iff (by decide), Nat.mul_le_mul_right_iff hUnits]

/-- The fractions that round to `infinite`, by the rational numbers that they denote: from
`2 ^ 1024 - 2 ^ 970` on. -/
theorem nearest_eq_infinite_iff_le_div (negative : Bool) {num den : ℕ} (hDen : 0 < den) :
    nearest negative num den = .infinite negative ↔ (2 ^ 1024 - 2 ^ 970 : ℚ) ≤ num / den := by
  have hBound : (2 : ℚ) ^ 1024 - 2 ^ 970 = ((2 ^ 54 - 1) * 2 ^ 970 : ℕ) := by
    have hSplit : (2 : ℚ) ^ 1024 = 2 ^ 54 * 2 ^ 970 := by rw [← pow_add]
    rw [hSplit, ← sub_one_mul, Nat.cast_mul, Nat.cast_pow]
    norm_num
  have hDenCast : (0 : ℚ) < den := Nat.cast_pos.mpr hDen
  rw [nearest_eq_infinite_iff negative hDen, le_div_iff₀ hDenCast, hBound]
  generalize (2 ^ 54 - 1) * 2 ^ 970 = bound
  rw [Nat.mul_comm]
  exact_mod_cast Iff.rfl

/-- **A numeral rounds to `infinite`** exactly if what it denotes is at least `2 ^ 1024 - 2 ^ 970`.
-/
theorem ofDigits_eq_infinite_iff (negative : Bool) (whole fraction : List Char) :
    ofDigits negative whole fraction = .infinite negative ↔
      (2 ^ 1024 - 2 ^ 970 : ℚ) ≤ digitsValue (whole ++ fraction) / 10 ^ fraction.length := by
  have hTen : 0 < 10 ^ fraction.length := Nat.pow_pos (by decide)
  rw [ofDigits, Nat.pow_eq, nearest_eq_infinite_iff_le_div negative hTen, Nat.cast_pow,
    Nat.cast_ofNat]

/-- The number is `finite`, with either sign. -/
def IsFinite (x : Binary64) : Prop :=
  ∃ negative magnitude, x = .finite negative magnitude

/-- `ofCanonical` is finite or infinite. -/
theorem ofCanonical_cases (negative : Bool) (significand exponent : ℕ) :
    ofCanonical negative significand exponent = .infinite negative ∨
      (ofCanonical negative significand exponent).IsFinite := by
  unfold ofCanonical
  split
  · exact Or.inr ⟨_, _, rfl⟩
  · exact Or.inl rfl

/-- `nearest` of a fraction is `infinite` or satisfies `IsFinite`. -/
theorem nearest_cases (negative : Bool) (num den : ℕ) :
    nearest negative num den = .infinite negative ∨ (nearest negative num den).IsFinite := by
  rw [nearest]
  unfold ofUnits
  split
  · exact ofCanonical_cases _ _ _
  · exact ofCanonical_cases _ _ _

/-- **A numeral rounds to a finite number** exactly if what it denotes is below
`2 ^ 1024 - 2 ^ 970`. -/
theorem ofDigits_finite_iff (negative : Bool) (whole fraction : List Char) :
    (ofDigits negative whole fraction).IsFinite ↔
      (digitsValue (whole ++ fraction) / 10 ^ fraction.length : ℚ) < 2 ^ 1024 - 2 ^ 970 := by
  rw [← not_le, ← ofDigits_eq_infinite_iff negative]
  constructor
  · rintro ⟨sign, x, hFinite⟩ hInfinite
    rw [hFinite] at hInfinite
    cases hInfinite
  · exact (nearest_cases negative _ _).resolve_left

end Binary64

/-! ### The value of a numeral -/

/-- **The rational number that a numeral denotes**: digits, with a point among them or without. -/
def exactValue (text : List Char) : ℚ :=
  digitsValue (text.filter isDigit) / 10 ^ (text.dropWhile isDigit).tail.length

/-- `filter isDigit` of a numeral are its digits, and `dropWhile isDigit` leaves its point and those
behind it. -/
theorem numeral_parts {digits point fraction : List Char}
    (hDigits : ∀ c ∈ digits, isDigit c = true) (hFraction : ∀ c ∈ fraction, isDigit c = true)
    (hPoint : point = ['.'] ∨ point = [] ∧ fraction = []) :
    (digits ++ point ++ fraction).filter isDigit = digits ++ fraction ∧
      ((digits ++ point ++ fraction).dropWhile isDigit).tail = fraction := by
  have hDot : ∀ c ∈ (point ++ fraction).head?, isDigit c = false := by
    rcases hPoint with rfl | ⟨rfl, rfl⟩
    · rintro c ⟨⟩
      rfl
    · simp
  have hNone : point.filter isDigit = [] ∧ (point ++ fraction).tail = fraction := by
    rcases hPoint with rfl | ⟨rfl, rfl⟩ <;> exact ⟨rfl, rfl⟩
  constructor
  · rw [List.filter_append, List.filter_append, hNone.1, List.append_nil,
      List.filter_eq_self.mpr hDigits, List.filter_eq_self.mpr hFraction]
  · rw [List.append_assoc, (takeWhile_append_stop hDigits hDot).2, hNone.2]

/-- `exactValue` of a numeral counts its digits in powers of ten from its point. -/
theorem exactValue_append {digits point fraction : List Char}
    (hDigits : ∀ c ∈ digits, isDigit c = true) (hFraction : ∀ c ∈ fraction, isDigit c = true)
    (hPoint : point = ['.'] ∨ point = [] ∧ fraction = []) :
    exactValue (digits ++ point ++ fraction)
      = digitsValue (digits ++ fraction) / 10 ^ fraction.length := by
  obtain ⟨hAll, hBehind⟩ := numeral_parts hDigits hFraction hPoint
  rw [exactValue, hAll, hBehind]

end MarkupScan.Number
