import MarkupScan.Proofs.NearestNumbers
import MarkupScan.Proofs.NumberLiterals

/-! # Shortest decimals

The shortest decimal of a finite number rounds to it, and no decimal with fewer significant digits
does. It is looked for on finer and finer grids of multiples of a power of ten: if one multiple rounds
to the number, one of the two next to the number does, and with seventeen digits one always does.

Main definitions.
* **`Decimal.value`**: the rational number that a decimal denotes.
* **`Decimal.significantDigits`**: the number of digits of a decimal, without zeros at either end.

Main statements.
* **`Decimal.readsBack_iff`**: a decimal reads back as a number if its value rounds to that number.
* **`decimalExponent_spec`**: the power of ten of the leading digit.
* **`Decimal.roundsTo_of_onGrid?`**, **`Decimal.not_roundsTo_of_onGrid?`**: the grids on which a decimal
  is found.
* **`seventeen_digits`**: seventeen digits suffice.
* **`Decimal.shortest_spec`**: the shortest decimal is one. -/

namespace MarkupScan.Number

/-! ### Values of decimals -/

/-- **The rational number that a decimal denotes**: `digits * 10 ^ exponent`. -/
def Decimal.value (d : Decimal) : ℚ := d.digits * 10 ^ d.exponent

/-- A power of ten is a fraction of two powers of natural exponents, one of which is `1`. -/
theorem ten_zpow_eq_div (k : ℤ) : (10 : ℚ) ^ k = 10 ^ k.toNat / 10 ^ (-k).toNat := by
  rw [← zpow_natCast, ← zpow_natCast, ← zpow_sub₀ (by decide), Int.toNat_sub_toNat_neg]

/-- `0 < 10 ^ k` for an integer `k`. -/
theorem ten_zpow_pos (k : ℤ) : (0 : ℚ) < 10 ^ k := zpow_pos (by norm_num) k

/-- `10 ^ k * 10 ^ n = 10 ^ (k + n)` for a natural `k` and an integer `n`. -/
theorem ten_pow_mul_zpow (k : ℕ) (n : ℤ) : ((10 ^ k : ℕ) : ℚ) * 10 ^ n = 10 ^ (k + n) := by
  rw [zpow_add₀ (by decide), zpow_natCast]
  push_cast
  rfl

/-- `d.value` as the fraction that is rounded. -/
theorem Decimal.value_eq_div (d : Decimal) :
    d.value = (d.digits * Nat.pow 10 d.exponent.toNat : ℕ) /
      (Nat.pow 10 (-d.exponent).toNat : ℕ) := by
  rw [value, ten_zpow_eq_div, Nat.pow_eq, Nat.pow_eq]
  push_cast
  rw [mul_div_assoc]

/-- **A decimal reads back as a number** exactly if its value `RoundsTo` that number. -/
theorem Decimal.readsBack_iff {x : Magnitude} {d : Decimal} :
    d.readsBack x = true ↔ RoundsTo d.value (.finite false x) := by
  have hDen : 0 < Nat.pow 10 (-d.exponent).toNat := Nat.pow_pos (by decide)
  rw [readsBack, decide_eq_true_eq, toBinary64, nearest_eq_iff hDen, value_eq_div]

/-! ### Grids -/

/-- `0 < x.denominator`. -/
theorem Magnitude.denominator_pos (x : Magnitude) : 0 < x.denominator := Nat.pow_pos (by decide)

/-- `x.numerator / x.denominator = x.value`. -/
theorem Magnitude.numerator_div_denominator (x : Magnitude) :
    (x.numerator / x.denominator : ℚ) = x.value := by
  have hDenominator : (x.denominator : ℚ) ≠ 0 := Nat.cast_ne_zero.mpr x.denominator_pos.ne'
  have hUnits : (2 : ℚ) ^ 1074 ≠ 0 := pow_ne_zero _ (by decide)
  have hProducts : x.numerator * 2 ^ 1074 = x.significand * 2 ^ x.exponent * x.denominator := by
    rw [numerator, denominator, Nat.pow_eq, Nat.pow_eq, mul_assoc, mul_assoc, ← Nat.pow_add,
      ← Nat.pow_add, show x.exponent - 1074 + 1074 = x.exponent + (1074 - x.exponent) by omega]
  rw [value, unitsValue, div_eq_div_iff hDenominator hUnits]
  simpa only [Nat.cast_mul, Nat.cast_pow, Nat.cast_ofNat] using congrArg ((↑) : ℕ → ℚ) hProducts

/-- On a grid `x.value` is counted by the fraction that is rounded down. -/
theorem grid_fraction (x : Magnitude) (grid : ℤ) :
    ((x.numerator * 10 ^ (-grid).toNat : ℕ) / (x.denominator * 10 ^ grid.toNat : ℕ) : ℚ)
      * 10 ^ grid = x.value := by
  have hFront : (10 : ℚ) ^ grid.toNat ≠ 0 := pow_ne_zero _ (by decide)
  have hBack : (10 : ℚ) ^ (-grid).toNat ≠ 0 := pow_ne_zero _ (by decide)
  have hDenominator : (x.denominator : ℚ) ≠ 0 := Nat.cast_ne_zero.mpr x.denominator_pos.ne'
  rw [← x.numerator_div_denominator, ten_zpow_eq_div, Nat.cast_mul, Nat.cast_mul, Nat.cast_pow,
    Nat.cast_pow, Nat.cast_ofNat]
  -- the powers are not to be computed
  generalize (10 : ℚ) ^ grid.toNat = front at *
  generalize (10 : ℚ) ^ (-grid).toNat = back at *
  generalize (x.numerator : ℚ) = num
  generalize (x.denominator : ℚ) = den at *
  field_simp

/-- **A magnitude lies between two neighbouring multiples of `10 ^ grid`:** from `gridFloor x grid`
to below one more. -/
theorem gridFloor_bounds (x : Magnitude) (grid : ℤ) :
    gridFloor x grid * (10 : ℚ) ^ grid ≤ x.value ∧
      x.value < (gridFloor x grid + 1 : ℕ) * (10 : ℚ) ^ grid := by
  have hDen : 0 < x.denominator * 10 ^ grid.toNat :=
    Nat.mul_pos x.denominator_pos (Nat.pow_pos (by decide))
  have hPower := ten_zpow_pos grid
  rw [← grid_fraction x grid]
  unfold gridFloor
  simp only [Nat.pow_eq]
  generalize x.numerator * 10 ^ (-grid).toNat = num
  generalize x.denominator * 10 ^ grid.toNat = den at hDen
  have hDenCast : (0 : ℚ) < den := Nat.cast_pos.mpr hDen
  refine ⟨mul_le_mul_of_nonneg_right ?_ hPower.le, mul_lt_mul_of_pos_right ?_ hPower⟩
  · rw [le_div_iff₀ hDenCast]
    exact_mod_cast Nat.div_mul_le_self num den
  · rw [div_lt_iff₀ hDenCast, mul_comm]
    exact_mod_cast Nat.lt_mul_div_succ num hDen

section Grids

variable {x : Magnitude} {grid : ℤ}

/-- **What `onGrid?` finds rounds to the number.** -/
theorem Decimal.roundsTo_of_onGrid? {d : Decimal} (h : onGrid? x grid = some d) :
    RoundsTo d.value (.finite false x) :=
  readsBack_iff.mp (onGrid?_cases h).1

/-- **If `onGrid?` finds nothing, no multiple of `10 ^ grid` rounds to the number.** -/
theorem Decimal.not_roundsTo_of_onGrid? (h : onGrid? x grid = none) (n : ℕ) :
    ¬ RoundsTo (n * 10 ^ grid) (.finite false x) := by
  obtain ⟨hLow, hHigh⟩ := not_readsBack_of_onGrid? h
  rw [readsBack_iff, value] at hLow hHigh
  obtain ⟨hFloor, hCeiling⟩ := gridFloor_bounds x grid
  have hPower := ten_zpow_pos grid
  have hSelf := x.roundsTo_self
  intro hRounds
  -- the neighbour on the same side lies between the multiple and the number
  rcases Nat.lt_or_ge (gridFloor x grid) n with hMore | hLess
  · have hBeyond : ((gridFloor x grid + 1 : ℕ) : ℚ) * 10 ^ grid ≤ n * 10 ^ grid :=
      mul_le_mul_of_nonneg_right (Nat.cast_le.mpr hMore) hPower.le
    exact hHigh (hSelf.between hRounds hCeiling.le hBeyond)
  · have hBefore : (n : ℚ) * 10 ^ grid ≤ gridFloor x grid * 10 ^ grid :=
      mul_le_mul_of_nonneg_right (Nat.cast_le.mpr hLess) hPower.le
    exact hLow (hRounds.between hSelf hBefore hFloor)

end Grids

/-! ### The leading digit -/

/-- A positive `n` lies between two powers of ten that `digitCount n` gives. -/
theorem exists_digitCount {n : ℕ} (hn : 0 < n) :
    ∃ k, digitCount n = k + 1 ∧ 10 ^ k ≤ n ∧ n < 10 ^ (k + 1) := by
  obtain ⟨k, hk⟩ : ∃ k, digitCount n = k + 1 :=
    Nat.exists_eq_succ_of_ne_zero (Nat.ne_of_gt Nat.length_toDigits_pos)
  refine ⟨k, hk, ?_, hk ▸ Binary64.lt_pow_digitCount n⟩
  rcases Nat.eq_zero_or_pos k with rfl | hPos
  · exact hn
  · exact Binary64.pow_le_of_lt_digitCount hPos (by omega)

/-- `10 ^ k ≤ num / den` is decided without dividing. -/
theorem ten_zpow_le_div_iff {num den : ℕ} (hDen : 0 < den) (k : ℤ) :
    (10 : ℚ) ^ k ≤ num / den ↔ den * Nat.pow 10 k.toNat ≤ num * Nat.pow 10 (-k).toNat := by
  have hDenCast : (0 : ℚ) < den := Nat.cast_pos.mpr hDen
  have hBack : (0 : ℚ) < 10 ^ (-k).toNat := by positivity
  rw [ten_zpow_eq_div, div_le_div_iff₀ hBack hDenCast, Nat.pow_eq, Nat.pow_eq, mul_comm]
  exact_mod_cast Iff.rfl

/-- **The power of ten of the leading digit** of a positive fraction is `decimalExponent num den`.
-/
theorem decimalExponent_spec {num den : ℕ} (hNum : 0 < num) (hDen : 0 < den) :
    (10 : ℚ) ^ decimalExponent num den ≤ num / den ∧
      (num / den : ℚ) < 10 ^ (decimalExponent num den + 1) := by
  obtain ⟨k, hk, hNumLow, hNumHigh⟩ := exists_digitCount hNum
  obtain ⟨n, hn, hDenLow, hDenHigh⟩ := exists_digitCount hDen
  have hTen : (10 : ℚ) ≠ 0 := by decide
  have hNumCast : (0 : ℚ) < num := Nat.cast_pos.mpr hNum
  have hDenCast : (0 : ℚ) < den := Nat.cast_pos.mpr hDen
  -- the guess is right or too great by one
  have hLower : (10 : ℚ) ^ ((k : ℤ) - n - 1) ≤ num / den := by
    have hSplit : (10 : ℚ) ^ ((k : ℤ) - n - 1) = 10 ^ k / 10 ^ (n + 1) := by
      rw [sub_sub, zpow_sub₀ hTen, zpow_natCast, ← zpow_natCast 10 (n + 1)]
      push_cast
      rfl
    rw [hSplit]
    exact div_le_div₀ hNumCast.le (by exact_mod_cast hNumLow) hDenCast (by exact_mod_cast hDenHigh.le)
  have hUpper : (num / den : ℚ) < 10 ^ ((k : ℤ) - n + 1) := by
    have hSplit : (10 : ℚ) ^ ((k : ℤ) - n + 1) = 10 ^ (k + 1) / 10 ^ n := by
      rw [sub_add_eq_add_sub, zpow_sub₀ hTen, zpow_natCast, ← zpow_natCast 10 (k + 1)]
      push_cast
      rfl
    rw [hSplit]
    exact div_lt_div₀ (by exact_mod_cast hNumHigh) (by exact_mod_cast hDenLow) (by positivity)
      (by positivity)
  have hGuess : ((k + 1 : ℕ) : ℤ) - (n + 1 : ℕ) = k - n := by omega
  unfold decimalExponent
  simp only [hk, hn, hGuess, ← ten_zpow_le_div_iff hDen]
  split
  · exact ⟨‹_›, hUpper⟩
  · rw [sub_add_cancel]
    exact ⟨hLower, not_le.mp ‹_›⟩

/-! ### Seventeen digits -/

/-- **With seventeen digits a decimal is always found:** `onGrid?` at `leading - 16` is not `none`.
-/
theorem seventeen_digits {x : Magnitude} {leading : ℤ} (hLeading : (10 : ℚ) ^ leading ≤ x.value) :
    Decimal.onGrid? x (leading - 16) ≠ none := by
  intro hNone
  have hNoMultiple := Decimal.not_roundsTo_of_onGrid? hNone
  obtain ⟨hFloor, hCeiling⟩ := gridFloor_bounds x (leading - 16)
  have hUnit := unitAt_pos x.exponent
  have hStep : ((10 ^ 16 : ℕ) : ℚ) * 10 ^ (leading - 16) = 10 ^ leading := by
    rw [ten_pow_mul_zpow, show ((16 : ℕ) : ℤ) + (leading - 16) = leading by omega]
  have hPower := ten_zpow_pos (leading - 16)
  have hLow := hNoMultiple (gridFloor x (leading - 16))
  have hHigh := hNoMultiple (gridFloor x (leading - 16) + 1)
  have hValue := unitsValue_eq x.significand x.exponent
  rw [← Magnitude.value] at hValue
  push_cast at hHigh hCeiling
  generalize (gridFloor x (leading - 16) : ℚ) = low at *
  generalize (10 : ℚ) ^ (leading - 16) = step at *
  rw [← hStep] at hLeading
  push_cast at hLeading
  -- a step is shorter than a unit of the last place, and than half a unit where the exponent changes
  have hShort : step < unitAt x.exponent := by
    have hBits : (x.significand : ℚ) < 2 ^ 53 := by exact_mod_cast x.canonical.lt
    have hMany : x.value ≤ 2 ^ 53 * unitAt x.exponent := by
      rw [hValue]
      exact mul_le_mul_of_nonneg_right hBits.le hUnit.le
    linarith
  have hShorter : x.significand = 2 ^ 52 → 2 * step < unitAt x.exponent := by
    intro hBoundary
    rw [hValue, hBoundary] at hLeading
    push_cast at hLeading
    linarith
  rcases lt_or_ge (2 * ((low + 1) * step - x.value)) (unitAt x.exponent) with hNear | hFar
  · refine hHigh (x.roundsTo ?_ (fun hTie => ?_) (Or.inl hCeiling.le))
    · linarith
    · linarith
  · refine hLow (x.roundsTo ?_ (fun hTie => ?_) (Or.inr ⟨Or.inl ?_, ?_⟩))
    · linarith
    · linarith
    · intro hBoundary
      linarith [hShorter hBoundary]
    · linarith

/-! ### Significant digits -/

/-- **The number of significant digits** of a natural number: its digits without the zeros that end
them. Zero has none. -/
def significantDigits (n : ℕ) : ℕ := ((digitsOf n).reverse.dropWhile (· == '0')).length

/-- Behind a digit the decimal digits go on: `digitsOf (n * 10 + digit)`. -/
theorem digitsOf_mul_ten_add {n digit : ℕ} (hn : 0 < n) (hDigit : digit < 10) :
    digitsOf (n * 10 + digit) = digitsOf n ++ [digit.digitChar] := by
  have hDiv : (n * 10 + digit) / 10 = n := by omega
  have hMod : (n * 10 + digit) % 10 = digit := by omega
  rw [digitsOf, Nat.toDigits_eq_if (by decide), if_neg (by omega), hDiv, hMod]
  rfl

/-- `digitsOf (n * 10 ^ zeros)` are `digitsOf n` with zeros behind them. -/
theorem digitsOf_mul_ten_pow {n : ℕ} (hn : 0 < n) (zeros : ℕ) :
    digitsOf (n * 10 ^ zeros) = digitsOf n ++ List.replicate zeros '0' := by
  induction zeros with
  | zero => simp
  | succ zeros ih =>
      have hPos : 0 < n * 10 ^ zeros := Nat.mul_pos hn (Nat.pow_pos (by decide))
      rw [Nat.pow_succ, ← Nat.mul_assoc, ← Nat.add_zero (n * 10 ^ zeros * 10),
        digitsOf_mul_ten_add hPos (by decide), ih, List.append_assoc, List.replicate_succ']
      rfl

/-- **Zeros at the end are not significant:**
`significantDigits (n * 10 ^ zeros) = significantDigits n`. -/
theorem significantDigits_mul_ten_pow (n zeros : ℕ) :
    significantDigits (n * 10 ^ zeros) = significantDigits n := by
  rcases Nat.eq_zero_or_pos n with rfl | hn
  · rw [Nat.zero_mul]
  · rw [significantDigits, digitsOf_mul_ten_pow hn, List.reverse_append, List.reverse_replicate,
      List.dropWhile_append_of_pos (by simp), significantDigits]

/-- `significantDigits n ≤ digitCount n`. -/
theorem significantDigits_le_digitCount (n : ℕ) : significantDigits n ≤ digitCount n := by
  have hSuffix := (List.dropWhile_suffix (fun c => c == '0') (l := (digitsOf n).reverse)).length_le
  rwa [List.length_reverse] at hSuffix

/-- `significantDigits n ≤ k` for `n ≤ 10 ^ k`. -/
theorem significantDigits_le_of_le {n k : ℕ} (hk : 0 < k) (h : n ≤ 10 ^ k) :
    significantDigits n ≤ k := by
  rcases h.lt_or_eq with hLess | rfl
  · exact (significantDigits_le_digitCount n).trans
      ((Nat.length_toDigits_le_iff (by decide) hk).mpr hLess)
  · rw [← Nat.one_mul (10 ^ k), significantDigits_mul_ten_pow]
    exact hk

/-- The last of `digitsOf n` is `n % 10`. -/
theorem exists_digitsOf_eq_append (n : ℕ) : ∃ front, digitsOf n = front ++ [(n % 10).digitChar] := by
  rw [digitsOf, Nat.toDigits_eq_if (by decide)]
  split
  · rename_i hLess
    exact ⟨[], by rw [Nat.mod_eq_of_lt hLess, List.nil_append]⟩
  · exact ⟨_, rfl⟩

/-- `significantDigits n = digitCount n` if the last digit is not zero. -/
theorem significantDigits_of_mod_ne {n : ℕ} (h : n % 10 ≠ 0) : significantDigits n = digitCount n := by
  have hDigits : ∀ digit < 10, digit ≠ 0 → Nat.digitChar digit ≠ '0' := by decide
  have hLast := hDigits (n % 10) (Nat.mod_lt n (by decide)) h
  obtain ⟨front, hFront⟩ := exists_digitsOf_eq_append n
  rw [significantDigits, digitCount, ← digitsOf, hFront, List.reverse_append, List.reverse_singleton,
    List.singleton_append, List.dropWhile_cons_of_neg (by simpa using hLast)]
  simp

/-- **A number is its significant digits with zeros behind them:** `n = front * 10 ^ zeros`. -/
theorem exists_significant (n : ℕ) :
    ∃ front zeros, n = front * 10 ^ zeros ∧ front < 10 ^ significantDigits n := by
  induction n using Nat.strongRecOn with
  | ind n ih =>
      rcases Nat.eq_zero_or_pos n with rfl | hn
      · exact ⟨0, 0, rfl, Nat.pow_pos (by decide)⟩
      by_cases hZero : n % 10 = 0
      · -- the last digit is a zero, which is taken off
        obtain ⟨front, zeros, hFront, hFew⟩ := ih (n / 10) (by omega)
        have hTen : n = n / 10 * 10 ^ 1 := by omega
        refine ⟨front, zeros + 1, ?_, ?_⟩
        · rw [Nat.pow_succ, ← Nat.mul_assoc, ← hFront]
          omega
        · rw [hTen, significantDigits_mul_ten_pow]
          exact hFew
      · refine ⟨n, 0, by rw [Nat.pow_zero, Nat.mul_one], ?_⟩
        rw [significantDigits_of_mod_ne hZero]
        exact Binary64.lt_pow_digitCount n

/-! ### The shortest decimal -/

/-- The first hit over increasing numbers: `f k = some a`, and `f j = none` for `j < k`. -/
theorem findSome?_range_eq_some {α : Type} {f : ℕ → Option α} {n : ℕ} {a : α}
    (h : (List.range n).findSome? f = some a) : ∃ k < n, f k = some a ∧ ∀ j < k, f j = none := by
  induction n with
  | zero => cases h
  | succ n ih =>
      rw [List.range_succ, List.findSome?_append] at h
      cases hBefore : (List.range n).findSome? f with
      | some b =>
          rw [hBefore] at h
          obtain rfl : b = a := Option.some.inj h
          obtain ⟨k, hk, hHit, hMisses⟩ := ih hBefore
          exact ⟨k, by omega, hHit, hMisses⟩
      | none =>
          have hHit : f n = some a := by simpa [hBefore] using h
          rw [List.findSome?_eq_none_iff] at hBefore
          exact ⟨n, by omega, hHit, fun j hj => hBefore j (List.mem_range.mpr hj)⟩

section Shortest

variable {x : Magnitude}

/-- **A decimal that rounds to a positive number has company** on the grid of `significantDigits`
places: it is a multiple of that power of ten itself, or the leading power of ten lies between it
and the number. -/
theorem Decimal.exists_multiple (hPos : x ≠ .zero) {leading : ℤ}
    (hLeading : (10 : ℚ) ^ leading ≤ x.value) {d : Decimal}
    (h : RoundsTo d.value (.finite false x)) :
    0 < significantDigits d.digits ∧
      ∃ n : ℕ, RoundsTo (n * 10 ^ (leading + 1 - significantDigits d.digits))
        (.finite false x) := by
  obtain ⟨front, zeros, hDigits, hFew⟩ := exists_significant d.digits
  generalize significantDigits d.digits = count at *
  have hTen : (10 : ℚ) ≠ 0 := by decide
  have hValue : d.value = front * 10 ^ (zeros + d.exponent) := by
    rw [value, hDigits, zpow_add₀ hTen, zpow_natCast]
    push_cast
    ring
  have hCount : 0 < count := by
    refine Nat.pos_of_ne_zero ?_
    rintro rfl
    -- without digits the decimal is zero
    obtain rfl : front = 0 := by omega
    have hZero : RoundsTo d.value (.finite false .zero) := by
      have hSelf := Magnitude.zero.roundsTo_self
      rwa [Magnitude.value_zero, ← zero_mul ((10 : ℚ) ^ (zeros + d.exponent)), ← Nat.cast_zero,
        ← hValue] at hSelf
    injection h.unique hZero with _ hMagnitude
    exact hPos hMagnitude
  refine ⟨hCount, ?_⟩
  rw [hValue] at h
  by_cases hCoarse : leading + 1 - count ≤ zeros + d.exponent
  · obtain ⟨more, hMore⟩ := Int.exists_add_of_le hCoarse
    refine ⟨front * 10 ^ more, ?_⟩
    rw [hMore, zpow_add₀ hTen, zpow_natCast] at h
    push_cast
    rwa [mul_assoc, mul_comm ((10 : ℚ) ^ more)]
  · refine ⟨10 ^ (count - 1), ?_⟩
    rw [ten_pow_mul_zpow, show ((count - 1 : ℕ) : ℤ) + (leading + 1 - count) = leading by omega]
    refine h.between x.roundsTo_self ?_ hLeading
    calc (front : ℚ) * 10 ^ (zeros + d.exponent)
        ≤ (10 ^ count : ℕ) * 10 ^ (zeros + d.exponent) :=
          mul_le_mul_of_nonneg_right (Nat.cast_le.mpr hFew.le) (ten_zpow_pos _).le
      _ = 10 ^ (count + (zeros + d.exponent)) := ten_pow_mul_zpow count _
      _ ≤ 10 ^ leading := zpow_le_zpow_right₀ (by norm_num) (by omega)

/-- On a grid `leading - places`, the neighbours of a number have at most `places + 1` significant
digits. -/
theorem significantDigits_le_of_onGrid? {leading : ℤ}
    (hLeading : x.value < 10 ^ (leading + 1)) {places : ℕ} {d : Decimal}
    (h : Decimal.onGrid? x (leading - places) = some d) :
    significantDigits d.digits ≤ places + 1 := by
  have hPower := ten_zpow_pos (leading - places)
  have hSplit : (10 : ℚ) ^ (leading + 1) = (10 ^ (places + 1) : ℕ) * 10 ^ (leading - places) := by
    rw [ten_pow_mul_zpow,
      show ((places + 1 : ℕ) : ℤ) + (leading - places) = leading + 1 by omega]
  have hFloor : gridFloor x (leading - places) < 10 ^ (places + 1) := by
    have hBelow := (gridFloor_bounds x (leading - places)).1.trans_lt hLeading
    rw [hSplit] at hBelow
    exact Nat.cast_lt.mp (lt_of_mul_lt_mul_right hBelow hPower.le)
  refine significantDigits_le_of_le (Nat.succ_pos places) ?_
  rcases (Decimal.onGrid?_cases h).2 with rfl | rfl
  · exact hFloor.le
  · exact hFloor

/-- **The shortest decimal of a positive number rounds to it, and no decimal with fewer significant
digits does:** `Decimal.shortest` by `RoundsTo` and `significantDigits`. -/
theorem Decimal.shortest_spec (hPos : x ≠ .zero) :
    RoundsTo (shortest x).value (.finite false x) ∧
      ∀ d : Decimal, RoundsTo d.value (.finite false x) →
        significantDigits (shortest x).digits ≤ significantDigits d.digits := by
  have hSignificand := Nat.pos_of_ne_zero (mt Magnitude.significand_eq_zero_iff.mp hPos)
  have hNumerator : 0 < x.numerator := Nat.mul_pos hSignificand (Nat.pow_pos (by decide))
  obtain ⟨hLow, hHigh⟩ := decimalExponent_spec hNumerator x.denominator_pos
  rw [x.numerator_div_denominator] at hLow hHigh
  have hSeventeen := seventeen_digits hLow
  rw [shortest]
  generalize exact x = all
  generalize decimalExponent x.numerator x.denominator = leading at *
  cases hFound : (List.range 17).findSome? fun places : ℕ => onGrid? x (leading - places) with
  | none => exact absurd (List.findSome?_eq_none_iff.mp hFound 16 (by decide)) hSeventeen
  | some d =>
      obtain ⟨places, -, hGrid, hCoarser⟩ := findSome?_range_eq_some hFound
      refine ⟨roundsTo_of_onGrid? hGrid, fun other hOther => ?_⟩
      obtain ⟨hCount, n, hMultiple⟩ := exists_multiple hPos hLow hOther
      refine (significantDigits_le_of_onGrid? hHigh hGrid).trans (Nat.le_of_not_lt fun hFewer => ?_)
      -- on the grid of as many digits nothing was found
      have hNone := hCoarser (significantDigits other.digits - 1) (by omega)
      refine not_roundsTo_of_onGrid? hNone n ?_
      rwa [show leading - (significantDigits other.digits - 1 : ℕ)
        = leading + 1 - significantDigits other.digits by omega]

end Shortest

end MarkupScan.Number
