import Mathlib.Algebra.Group.Nat.Defs
import MarkupScan.Proofs.CharacterClasses

/-! # The value of a numeral

Two ways to the value of a decimal numeral agree: rounding the fraction that its digits denote, and
reading its text with the reader for signed numerals, exponents and special words. The reader
answers at once where the exponent alone decides, and there the fraction rounds to the same number.

Main statements.
* **`Binary64.nearest_of_huge`**, **`Binary64.nearest_of_tiny`**: what rounds to infinity and what
  rounds to zero.
* **`Binary64.ofText?_numeral`**: digits with at most one point are read as the number nearest to
  them. -/

namespace MarkupScan.Number.Binary64

/-! ### Fractions beyond the finite numbers -/

/-- `2 ^ (k + 1074)` units are `2 ^ k`. -/
theorem two_pow_add (k : Nat) : 2 ^ (k + 1074) = 2 ^ k * unitsPerOne := by
  rw [unitsPerOne_eq]
  generalize 1074 = n
  exact Nat.pow_add 2 k n

/-- A magnitude of at least `2 ^ k` units has an exponent of at least `k - 52`. -/
theorem le_exponentOf {units k : Nat} (h : 2 ^ k ≤ units) : k - 52 ≤ exponentOf units := by
  have hPos : 0 < 2 ^ k := Nat.pow_pos (by decide)
  have hLog : k ≤ units.log2 := (Nat.le_log2 (by omega)).mpr h
  unfold exponentOf
  omega

/-- A magnitude beyond `maxExponent` is infinite, with and without a carry out of its significand.
-/
theorem ofUnits_of_lt (negative : Bool) (significand : Nat) {exponent : Nat}
    (h : maxExponent < exponent) : ofUnits negative significand exponent = .infinite negative := by
  unfold ofUnits ofCanonical
  split <;> refine dif_neg fun hCanonical => ?_
  · have hExponent := hCanonical.le
    omega
  · have hExponent := hCanonical.le
    omega

/-- A fraction of at least `2 ^ 1025` is infinite. -/
theorem nearest_of_huge (negative : Bool) {num den k : Nat} (hDen : 0 < den) (hk : 1024 < k)
    (hHuge : den * 2 ^ k ≤ num) : nearest negative num den = .infinite negative := by
  have hUnits : 2 ^ (k + 1074) ≤ num * unitsPerOne / den := by
    calc 2 ^ (k + 1074) = 2 ^ k * unitsPerOne := two_pow_add k
      _ ≤ num * unitsPerOne / den := by
          rw [Nat.le_div_iff_mul_le hDen, Nat.mul_right_comm, Nat.mul_comm (2 ^ k) den]
          exact Nat.mul_le_mul_right _ hHuge
  have hExponent := le_exponentOf hUnits
  rw [nearest]
  exact ofUnits_of_lt _ _ (by unfold maxExponent; omega)

/-- A fraction of at most a quarter of a unit is `Magnitude.zero`. -/
theorem nearest_of_tiny (negative : Bool) {num den : Nat} (hDen : 0 < den)
    (hTiny : num * (4 * unitsPerOne) ≤ den) : nearest negative num den = .finite negative .zero := by
  have hSmall : 4 * (num * unitsPerOne) ≤ den := by
    rw [Nat.mul_left_comm]
    exact hTiny
  have hQuotient : num * unitsPerOne / den = 0 := Nat.div_eq_of_lt (by omega)
  have hRound : roundDiv (num * unitsPerOne) den = 0 := by
    have hMod : num * unitsPerOne % den = num * unitsPerOne := Nat.mod_eq_of_lt (by omega)
    simp only [roundDiv, hQuotient, hMod]
    rw [if_pos (by omega)]
  have hExponent : exponentOf 0 = 0 := rfl
  simp only [nearest, hQuotient, hExponent, Nat.pow_eq, Nat.pow_zero, Nat.mul_one, hRound]
  rfl

/-! ### Reading scientific notation -/

/-- `n < 10 ^ digitCount n`. -/
theorem lt_pow_digitCount (n : Nat) : n < 10 ^ digitCount n :=
  (Nat.length_toDigits_le_iff (by decide) Nat.length_toDigits_pos).mp (Nat.le_refl _)

/-- A natural number with more than `k` digits is at least the `k`-th power of ten. -/
theorem pow_le_of_lt_digitCount {n k : Nat} (hk : 0 < k) (h : k < digitCount n) : 10 ^ k ≤ n := by
  refine Nat.le_of_not_lt fun hLess => ?_
  have hFew := (Nat.length_toDigits_le_iff (b := 10) (by decide) hk).mpr hLess
  exact absurd h (Nat.not_lt_of_le hFew)

/-- **The shortcuts of scientific notation change nothing**: digits with `k` of them after the point
are read as the number nearest to the fraction that they denote. -/
theorem ofScientific_neg (negative : Bool) (digits k : Nat) :
    ofScientific negative digits (-(k : Int)) = nearest negative digits (10 ^ k) := by
  have hTen : 0 < 10 ^ k := Nat.pow_pos (by decide)
  simp only [ofScientific]
  by_cases hZero : digits = 0
  · rw [if_pos hZero, hZero, nearest_of_tiny negative hTen]
    rw [Nat.zero_mul]
    exact Nat.zero_le _
  rw [if_neg hZero]
  by_cases hMany : -(k : Int) + digitCount digits > 310
  · -- more than 310 digits stand before the point
    rw [if_pos hMany, nearest_of_huge negative hTen (k := 1029) (by decide)]
    calc 10 ^ k * 2 ^ 1029 ≤ 10 ^ k * 10 ^ 310 := Nat.mul_le_mul_left _ (by decide +kernel)
      _ = 10 ^ (k + 310) := (Nat.pow_add 10 k 310).symm
      _ ≤ digits := pow_le_of_lt_digitCount (by omega) (by omega)
  rw [if_neg hMany]
  by_cases hFew : -(k : Int) + digitCount digits < -330
  · -- more than 330 zeros stand behind the point before the first digit
    rw [if_pos hFew, nearest_of_tiny negative hTen]
    calc digits * (4 * unitsPerOne)
        ≤ 10 ^ digitCount digits * 10 ^ 330 :=
          Nat.mul_le_mul (Nat.le_of_lt (lt_pow_digitCount digits)) (by decide +kernel)
      _ = 10 ^ (digitCount digits + 330) := (Nat.pow_add 10 _ 330).symm
      _ ≤ 10 ^ k := Nat.pow_le_pow_right (by decide) (by omega)
  rw [if_neg hFew, Int.neg_neg, Int.toNat_natCast, show (-(k : Int)).toNat = 0 by omega, Nat.pow_eq,
    Nat.pow_zero, Nat.mul_one, Nat.pow_eq]

/-! ### Reading the text of a numeral -/

/-- `ofText?` of a text that begins with a digit is `ofUnsigned?`: it has no sign and is no word for
a special value. -/
theorem ofText?_of_isDigit {first : Char} (hFirst : isDigit first = true) (more : List Char) :
    ofText? (String.ofList (first :: more)) = ofUnsigned? false (first :: more) := by
  have hMarks := forall_of_isDigit
    (p := fun c => c != '-' && c != '+' && c.toLower != 'i' && c.toLower != 'n')
    (by decide +kernel) hFirst
  simp only [Bool.and_eq_true, bne_iff_ne, and_assoc] at hMarks
  obtain ⟨hMinus, hPlus, hI, hN⟩ := hMarks
  have hSign : splitSign (first :: more) = (false, first :: more) := by
    rw [splitSign]
    · rintro rest ⟨⟩
      exact hMinus rfl
    · rintro rest ⟨⟩
      exact hPlus rfl
  have hWord : ∀ (c : Char) (letters : List Char), first.toLower ≠ c →
      String.ofList ((first :: more).map Char.toLower) ≠ String.ofList (c :: letters) := by
    intro c letters hc hEqual
    have hList := String.ofList_injective hEqual
    exact hc (List.cons.inj hList).1
  -- the words begin with letters that are no digits
  have hInf := hWord 'i' ['n', 'f'] hI
  have hInfinity := hWord 'i' ['n', 'f', 'i', 'n', 'i', 't', 'y'] hI
  have hNan := hWord 'n' ['a', 'n'] hN
  simp only [ofText?, String.toList_ofList, hSign]
  rw [if_neg, if_neg]
  · exact hNan
  · simp only [infiniteWords, List.contains_eq_mem, List.mem_cons, List.not_mem_nil, or_false,
      decide_eq_true_eq, not_or]
    exact ⟨hInf, hInfinity⟩

/-- **A numeral is read as the number nearest to its digits:** `ofText?` is `ofDigits`. The point
may be missing, and then no digits stand behind it. -/
theorem ofText?_numeral {first : Char} {digits point fraction : List Char}
    (hFirst : isDigit first = true) (hDigits : ∀ c ∈ digits, isDigit c = true)
    (hFraction : ∀ c ∈ fraction, isDigit c = true)
    (hPoint : point = ['.'] ∨ point = [] ∧ fraction = []) :
    ofText? (String.ofList (first :: digits ++ point ++ fraction))
      = some (ofDigits false (first :: digits) fraction) := by
  have hWhole : ∀ c ∈ first :: digits, isDigit c = true :=
    List.forall_mem_cons.mpr ⟨hFirst, hDigits⟩
  rw [List.cons_append, List.cons_append, ofText?_of_isDigit hFirst, ← List.cons_append,
    ← List.cons_append, List.append_assoc]
  rcases hPoint with rfl | ⟨rfl, rfl⟩
  -- with a point: the digits stop at it, and the fraction at the end
  · have hDot : ∀ c ∈ (['.'] ++ fraction).head?, isDigit c = false := by
      rintro c ⟨⟩
      decide
    obtain ⟨hTake, hDrop⟩ := takeWhile_append_stop hWhole hDot
    have hEnd : ∀ c ∈ ([] : List Char).head?, isDigit c = false := by simp
    obtain ⟨hTakeFraction, hDropFraction⟩ := takeWhile_append_stop hFraction hEnd
    rw [List.append_nil] at hTakeFraction hDropFraction
    simp only [ofUnsigned?, hTake, hDrop]
    simp only [List.singleton_append, hTakeFraction, hDropFraction]
    rw [if_neg (by simp), ofScientific_neg, ofDigits, Nat.pow_eq]
  -- without one the digits stop at the end
  · have hEnd : ∀ c ∈ ([] : List Char).head?, isDigit c = false := by simp
    obtain ⟨hTake, hDrop⟩ := takeWhile_append_stop hWhole hEnd
    simp only [List.append_nil] at hTake hDrop ⊢
    simp only [ofUnsigned?, hTake, hDrop]
    rw [if_neg (by simp), ofScientific_neg, ofDigits, Nat.pow_eq]

end MarkupScan.Number.Binary64
