import Mathlib.Algebra.Order.Field.Power
import Mathlib.Tactic.FieldSimp
import Mathlib.Tactic.Linarith
import Mathlib.Tactic.Positivity
import Mathlib.Tactic.Ring
import MarkupScan.Proofs.Rounding

/-! # The number nearest to a fraction

Finite double-precision numbers are the rational numbers that they denote. A fraction rounds to the
nearest of them, and of two that are equally near to the one with the even significand.

Main definitions.
* **`unitsValue`**, **`Magnitude.value`**: the rational numbers that finite numbers denote.
* **`RoundsTo`**: a fraction rounds to a number.

Main statements.
* **`IsCanonical.add_le`**, **`IsCanonical.add_le_of_gt`**: how far apart finite numbers are.
* **`RoundsTo.unique`**: a fraction rounds to one number only.
* **`RoundsTo.between`**: what lies between two fractions that round to a number rounds to it.
* **`roundsTo_nearest`**: rounding a fraction gives the number that it rounds to. -/

namespace MarkupScan.Number

/-! ### Finite numbers -/

/-- The rational number that a significand and an exponent denote, in units of `2 ^ -1074`. -/
def unitsValue (significand exponent : ℕ) : ℚ := (significand * 2 ^ exponent : ℕ) / 2 ^ 1074

/-- **The rational number that a magnitude denotes.** -/
def Magnitude.value (x : Magnitude) : ℚ := unitsValue x.significand x.exponent

section Spacing

variable {m e m' e' : ℕ}

/-- Magnitudes are compared by their whole numbers of units, `m * 2 ^ e`. -/
theorem unitsValue_lt_iff : unitsValue m e < unitsValue m' e' ↔ m * 2 ^ e < m' * 2 ^ e' := by
  have hUnit : (0 : ℚ) < 2 ^ 1074 := by positivity
  rw [unitsValue, unitsValue, div_lt_div_iff_of_pos_right hUnit, Nat.cast_lt]

/-- A number of a lesser exponent is below `2 ^ 52 * 2 ^ e` and so below all numbers of the exponent
`e`. -/
theorem IsCanonical.lt_of_exponent_lt (h' : IsCanonical m' e') (hExponent : e' < e) :
    m' * 2 ^ e' < 2 ^ 52 * 2 ^ e := by
  have hPower : 0 < 2 ^ e' := Nat.pow_pos (by decide)
  calc m' * 2 ^ e' < 2 ^ 53 * 2 ^ e' := Nat.mul_lt_mul_of_pos_right h'.lt hPower
    _ = 2 ^ 52 * 2 ^ (e' + 1) := by ring
    _ ≤ 2 ^ 52 * 2 ^ e := Nat.mul_le_mul_left _ (Nat.pow_le_pow_right (by decide) hExponent)

/-- A number of an exponent `e' ≥ e` is a whole number of units `2 ^ e`. -/
theorem exists_mul_of_le (m' : ℕ) (h : e ≤ e') : ∃ n, m' * 2 ^ e' = n * 2 ^ e := by
  obtain ⟨k, rfl⟩ := Nat.exists_eq_add_of_le h
  exact ⟨m' * 2 ^ k, by rw [Nat.pow_add]; ac_rfl⟩

/-- **A greater number is greater by at least a unit of the last place**, `2 ^ e`. -/
theorem IsCanonical.add_le (h : IsCanonical m e) (h' : IsCanonical m' e')
    (hLess : m * 2 ^ e < m' * 2 ^ e') : (m + 1) * 2 ^ e ≤ m' * 2 ^ e' := by
  rcases Nat.lt_or_ge e' e with hExponent | hExponent
  · -- the exponent of a greater number is not the lesser one
    have hNormal : 2 ^ 52 * 2 ^ e ≤ m * 2 ^ e :=
      Nat.mul_le_mul_right _ (h.normal.resolve_right (by omega))
    have hBelow := h'.lt_of_exponent_lt hExponent
    omega
  · obtain ⟨n, hn⟩ := exists_mul_of_le m' hExponent
    rw [hn] at hLess ⊢
    exact Nat.mul_le_mul_right _ (Nat.lt_of_mul_lt_mul_right hLess)

/-- **A lesser number is less by at least a unit of the last place**, unless all bits of the
significand but the first are zero (`m = 2 ^ 52`), where the exponents change. -/
theorem IsCanonical.add_le_of_gt (h : IsCanonical m e) (h' : IsCanonical m' e')
    (hInside : m ≠ 2 ^ 52 ∨ e = 0) (hLess : m' * 2 ^ e' < m * 2 ^ e) :
    m' * 2 ^ e' + 2 ^ e ≤ m * 2 ^ e := by
  rcases Nat.lt_or_ge e' e with hExponent | hExponent
  · have hNormal := h.normal.resolve_right (by omega)
    have hBelow := h'.lt_of_exponent_lt hExponent
    have hAbove : (2 ^ 52 + 1) * 2 ^ e ≤ m * 2 ^ e := Nat.mul_le_mul_right _ (by omega)
    rw [Nat.add_one_mul] at hAbove
    omega
  · obtain ⟨n, hn⟩ := exists_mul_of_le m' hExponent
    rw [hn] at hLess ⊢
    rw [← Nat.succ_mul]
    exact Nat.mul_le_mul_right _ (Nat.lt_of_mul_lt_mul_right hLess)

/-- Every number has one significand and one exponent: `m * 2 ^ e` determines both. -/
theorem IsCanonical.eq_of_units_eq (h : IsCanonical m e) (h' : IsCanonical m' e')
    (hUnits : m * 2 ^ e = m' * 2 ^ e') : m = m' ∧ e = e' := by
  have hNotLess : ∀ {m e m' e' : ℕ}, IsCanonical m e → IsCanonical m' e' →
      m * 2 ^ e = m' * 2 ^ e' → ¬ e' < e := by
    intro m e m' e' h h' hUnits hExponent
    have hNormal : 2 ^ 52 * 2 ^ e ≤ m * 2 ^ e :=
      Nat.mul_le_mul_right _ (h.normal.resolve_right (by omega))
    have hBelow := h'.lt_of_exponent_lt hExponent
    omega
  obtain rfl : e = e' :=
    Nat.le_antisymm (Nat.not_lt.mp (hNotLess h h' hUnits)) (Nat.not_lt.mp (hNotLess h' h hUnits.symm))
  exact ⟨Nat.eq_of_mul_eq_mul_right (Nat.pow_pos (by decide)) hUnits, rfl⟩

end Spacing

/-! ### Rounding -/

/-- **A fraction rounds to a number**: to the nearest finite one, and if two are equally near to the
one with an even significand; to infinity from half a step above the greatest finite number on. -/
inductive RoundsTo (q : ℚ) : Binary64 → Prop
  /-- To a finite number. -/
  | finite {x : Magnitude} (hBound : q < 2 ^ 1024 - 2 ^ 970)
      (hNearest : ∀ y : Magnitude, |q - x.value| ≤ |q - y.value|)
      (hEven : ∀ y : Magnitude, |q - x.value| = |q - y.value| →
        y.value = x.value ∨ x.significand % 2 = 0) :
      RoundsTo q (.finite false x)
  /-- To infinity, from `2 ^ 1024 - 2 ^ 970` on. -/
  | infinite (hBound : 2 ^ 1024 - 2 ^ 970 ≤ q) : RoundsTo q (.infinite false)

/-- The lesser of two values is at least as near up to the middle between them: `2 * q ≤ v + w`. -/
theorem abs_sub_le_iff_of_lt {q v w : ℚ} (h : v < w) : |q - v| ≤ |q - w| ↔ 2 * q ≤ v + w := by
  rcases abs_cases (q - v) with ⟨hv, _⟩ | ⟨hv, _⟩ <;>
    rcases abs_cases (q - w) with ⟨hw, _⟩ | ⟨hw, _⟩ <;>
    rw [hv, hw] <;> constructor <;> intro _ <;> linarith

/-- The greater of two values is at least as near from the middle between them on: `v + w ≤ 2 * q`.
-/
theorem abs_sub_le_iff_of_gt {q v w : ℚ} (h : w < v) : |q - v| ≤ |q - w| ↔ v + w ≤ 2 * q := by
  rcases abs_cases (q - v) with ⟨hv, _⟩ | ⟨hv, _⟩ <;>
    rcases abs_cases (q - w) with ⟨hw, _⟩ | ⟨hw, _⟩ <;>
    rw [hv, hw] <;> constructor <;> intro _ <;> linarith

/-- Two values are equally near in the middle between them: `2 * q = v + w`. -/
theorem abs_sub_eq_iff_of_ne {q v w : ℚ} (h : v ≠ w) : |q - v| = |q - w| ↔ 2 * q = v + w := by
  rcases lt_or_gt_of_ne h with hLess | hMore
  · rw [le_antisymm_iff, abs_sub_le_iff_of_lt hLess, abs_sub_le_iff_of_gt hLess, add_comm w,
      le_antisymm_iff]
  · rw [le_antisymm_iff, abs_sub_le_iff_of_gt hMore, abs_sub_le_iff_of_lt hMore, add_comm w,
      le_antisymm_iff, and_comm]

/-- **The value `v` is preferred to `w`**: the fraction `q` is on its side of the middle between
them, or in the middle, if `v` is even. -/
structure Preferred (q v w : ℚ) (even : Prop) : Prop where
  /-- A greater value is not nearer. -/
  below : v < w → 2 * q ≤ v + w
  /-- A lesser value is not nearer. -/
  above : w < v → v + w ≤ 2 * q
  /-- In the middle the one that is preferred is even. -/
  middle : v ≠ w → 2 * q = v + w → even

/-- **The number that a fraction rounds to is `Preferred` to all others.** -/
theorem roundsTo_finite_iff {q : ℚ} {x : Magnitude} :
    RoundsTo q (.finite false x) ↔ q < 2 ^ 1024 - 2 ^ 970 ∧
      ∀ y : Magnitude, Preferred q x.value y.value (x.significand % 2 = 0) := by
  constructor
  -- distances are compared by the middle of the two values, on either side of it
  · intro h
    cases h with
    | finite hBound hNearest hEven =>
      refine ⟨hBound, fun y => ⟨?_, ?_, ?_⟩⟩
      · exact fun hLess => (abs_sub_le_iff_of_lt hLess).mp (hNearest y)
      · exact fun hMore => (abs_sub_le_iff_of_gt hMore).mp (hNearest y)
      · intro hDiffer hMiddle
        have hEqual := (abs_sub_eq_iff_of_ne hDiffer).mpr hMiddle
        exact (hEven y hEqual).resolve_left hDiffer.symm
  · rintro ⟨hBound, hPreferred⟩
    refine .finite hBound (fun y => ?_) (fun y hEqual => ?_)
    · obtain ⟨hBelow, hAbove, -⟩ := hPreferred y
      rcases lt_trichotomy x.value y.value with hLess | hSame | hMore
      · exact (abs_sub_le_iff_of_lt hLess).mpr (hBelow hLess)
      · rw [hSame]
      · exact (abs_sub_le_iff_of_gt hMore).mpr (hAbove hMore)
    · rcases eq_or_ne x.value y.value with hSame | hDiffer
      · exact Or.inl hSame.symm
      · have hMiddle := (abs_sub_eq_iff_of_ne hDiffer).mp hEqual
        exact Or.inr ((hPreferred y).middle hDiffer hMiddle)

/-- A value that is `Preferred` for `a` and for `b` is so for what lies between them. -/
theorem Preferred.between {a b q v w : ℚ} {even : Prop} (ha : Preferred a v w even)
    (hb : Preferred b v w even) (haq : a ≤ q) (hqb : q ≤ b) : Preferred q v w even := by
  obtain ⟨-, hAbove, hFirst⟩ := ha
  obtain ⟨hBelow, -, hLast⟩ := hb
  refine ⟨fun hLess => ?_, fun hMore => ?_, fun hDiffer hMiddle => ?_⟩
  · linarith [hBelow hLess]
  · linarith [hAbove hMore]
  · -- a fraction in the middle is one of the two ends
    rcases lt_or_gt_of_ne hDiffer with hLess | hMore
    · exact hLast hDiffer (by linarith [hBelow hLess])
    · exact hFirst hDiffer (by linarith [hAbove hMore])

/-- **What lies between two fractions that round to a number rounds to it:** `RoundsTo q x` for
`a ≤ q ≤ b`. -/
theorem RoundsTo.between {a b q : ℚ} {x : Binary64} (ha : RoundsTo a x) (hb : RoundsTo b x)
    (haq : a ≤ q) (hqb : q ≤ b) : RoundsTo q x := by
  cases ha with
  | infinite hBound => exact .infinite (hBound.trans haq)
  | @finite x hBound hNearest hEven =>
      obtain ⟨-, hFirst⟩ := roundsTo_finite_iff.mp (.finite hBound hNearest hEven)
      obtain ⟨hBelow, hLast⟩ := roundsTo_finite_iff.mp hb
      exact roundsTo_finite_iff.mpr ⟨hqb.trans_lt hBelow,
        fun y => (hFirst y).between (hLast y) haq hqb⟩

/-- Of two numbers that `q` rounds to, none is the greater one. -/
theorem not_lt_of_roundsTo {q : ℚ} {x y : Magnitude} (hx : RoundsTo q (.finite false x))
    (hy : RoundsTo q (.finite false y)) : ¬ x.value < y.value := by
  intro hLess
  obtain ⟨-, hPreferred⟩ := roundsTo_finite_iff.mp hx
  obtain ⟨-, hPreferred'⟩ := roundsTo_finite_iff.mp hy
  have hMiddle : 2 * q = x.value + y.value := by
    refine le_antisymm ((hPreferred y).below hLess) ?_
    linarith [(hPreferred' x).above hLess]
  have hEven := (hPreferred y).middle hLess.ne hMiddle
  have hEven' := (hPreferred' x).middle hLess.ne' (by linarith)
  -- the next number has an odd significand, so that it is neither of the two
  let next : Magnitude :=
    ⟨x.significand + 1, x.exponent, by have := x.canonical.lt; omega, x.canonical.le,
      x.canonical.normal.imp_left (by omega)⟩
  have hStep : x.value < next.value :=
    unitsValue_lt_iff.mpr (Nat.mul_lt_mul_of_pos_right (Nat.lt_succ_self _) (Nat.pow_pos (by decide)))
  have hUpTo := x.canonical.add_le y.canonical (unitsValue_lt_iff.mp hLess)
  rcases Nat.lt_or_eq_of_le hUpTo with hInside | hSame
  · have hNear := (hPreferred next).below hStep
    have hNext : next.value < y.value := unitsValue_lt_iff.mpr hInside
    linarith
  · have hSignificand : x.significand + 1 = y.significand :=
      (next.canonical.eq_of_units_eq y.canonical hSame).1
    omega

/-- `x.value = y.value` implies `x = y`. -/
theorem Magnitude.eq_of_value_eq {x y : Magnitude} (h : x.value = y.value) : x = y := by
  have hUnits : x.significand * 2 ^ x.exponent = y.significand * 2 ^ y.exponent := by
    have hNotLess := mt unitsValue_lt_iff.mpr h.not_lt
    have hNotMore := mt unitsValue_lt_iff.mpr h.symm.not_lt
    omega
  obtain ⟨hSignificand, hExponent⟩ := x.canonical.eq_of_units_eq y.canonical hUnits
  cases x
  cases y
  obtain rfl : _ = _ := hSignificand
  obtain rfl : _ = _ := hExponent
  rfl

/-- **A fraction rounds to one number only:** `RoundsTo q` holds of one `x`. -/
theorem RoundsTo.unique {q : ℚ} {x y : Binary64} (hx : RoundsTo q x) (hy : RoundsTo q y) :
    x = y := by
  cases hx with
  | infinite hBound =>
      cases hy with
      | infinite => rfl
      | finite hBelow => exact absurd hBound (not_le.mpr hBelow)
  | finite hBelow hNearest hEven =>
      cases hy with
      | infinite hBound => exact absurd hBound (not_le.mpr hBelow)
      | finite hBelow' hNearest' hEven' =>
          have hx := RoundsTo.finite hBelow hNearest hEven
          have hy := RoundsTo.finite hBelow' hNearest' hEven'
          have hSame := le_antisymm (not_lt.mp (not_lt_of_roundsTo hy hx))
            (not_lt.mp (not_lt_of_roundsTo hx hy))
          rw [Magnitude.eq_of_value_eq hSame]

/-- **A fraction rounds to infinity** exactly from `2 ^ 1024 - 2 ^ 970` on, half a step above the
greatest finite number. -/
theorem roundsTo_infinite_iff {q : ℚ} : RoundsTo q (.infinite false) ↔ 2 ^ 1024 - 2 ^ 970 ≤ q := by
  constructor
  · intro h
    cases h with
    | infinite hBound => exact hBound
  · exact .infinite

/-! ### Rounding quotients -/

section Quotients

variable {num den : ℕ}

/-- **A quotient is rounded by half at most**, and by half to even numbers only: the bounds of
`roundDiv num den`. -/
theorem roundDiv_near (num : ℕ) (hDen : 0 < den) :
    (2 * num ≤ (2 * roundDiv num den + 1) * den ∧
      (2 * num = (2 * roundDiv num den + 1) * den → roundDiv num den % 2 = 0)) ∧
    2 * roundDiv num den * den ≤ 2 * num + den ∧
      (2 * roundDiv num den * den = 2 * num + den → roundDiv num den % 2 = 0) := by
  have hDivision := Nat.div_add_mod num den
  have hRest := Nat.mod_lt num hDen
  rw [Nat.mul_comm] at hDivision
  unfold roundDiv
  simp only
  generalize num / den = k at hDivision
  generalize num % den = rest at hDivision hRest
  split
  · refine ⟨⟨?_, ?_⟩, ?_, ?_⟩ <;> simp only [Nat.mul_assoc, Nat.add_mul] <;> omega
  split
  · refine ⟨⟨?_, ?_⟩, ?_, ?_⟩ <;> simp only [Nat.mul_assoc, Nat.add_mul] <;> omega
  · -- half a step: the even one of the two
    rcases Nat.mod_two_eq_zero_or_one k with hEven | hOdd
    · refine ⟨⟨?_, ?_⟩, ?_, ?_⟩ <;> simp only [hEven, Nat.mul_assoc, Nat.add_mul] <;> omega
    · refine ⟨⟨?_, ?_⟩, ?_, ?_⟩ <;> simp only [hOdd, Nat.mul_assoc, Nat.add_mul] <;> omega

/-- **The rounded quotient is `Preferred` to all other natural numbers.** -/
theorem preferred_roundDiv (hDen : 0 < den) (n : ℕ) :
    Preferred (num / den) (roundDiv num den) n (roundDiv num den % 2 = 0) := by
  obtain ⟨⟨hUp, hUpEven⟩, hDown, hDownEven⟩ := roundDiv_near num hDen
  have hDenCast : (0 : ℚ) < den := Nat.cast_pos.mpr hDen
  have hNum : (num : ℚ) = num / den * den := (div_mul_cancel₀ _ hDenCast.ne').symm
  generalize roundDiv num den = r at *
  generalize (num / den : ℚ) = q at *
  have hUpper : 2 * q ≤ 2 * r + 1 := by
    refine le_of_mul_le_mul_right ?_ hDenCast
    rw [mul_assoc, ← hNum]
    exact_mod_cast hUp
  have hLower : 2 * r ≤ 2 * q + 1 := by
    refine le_of_mul_le_mul_right ?_ hDenCast
    rw [add_mul, mul_assoc 2 q, ← hNum, one_mul]
    exact_mod_cast hDown
  refine ⟨fun hLess => ?_, fun hMore => ?_, fun hDiffer hMiddle => ?_⟩
  · have hNext : (r + 1 : ℚ) ≤ n := by exact_mod_cast hLess
    linarith
  · have hNext : (n + 1 : ℚ) ≤ r := by exact_mod_cast hMore
    linarith
  · -- a middle that is reached is the one next to the rounded quotient
    rcases lt_or_gt_of_ne hDiffer with hLess | hMore
    · have hNext : (r + 1 : ℚ) ≤ n := by exact_mod_cast hLess
      refine hUpEven ?_
      have hTie : 2 * q = 2 * r + 1 := by linarith
      have hScaled : 2 * (num : ℚ) = (2 * r + 1) * den := by rw [hNum, ← mul_assoc, hTie]
      exact_mod_cast hScaled
    · have hNext : (n + 1 : ℚ) ≤ r := by exact_mod_cast hMore
      refine hDownEven ?_
      have hTie : 2 * r = 2 * q + 1 := by linarith
      have hScaled : 2 * r * (den : ℚ) = 2 * num + den := by rw [hTie, hNum]; ring
      exact_mod_cast hScaled

end Quotients

/-- `Preferred` stays when all is scaled by `c > 0`. -/
theorem Preferred.scale {q v w c : ℚ} {even : Prop} (h : Preferred q v w even) (hc : 0 < c) :
    Preferred (q * c) (v * c) (w * c) even := by
  refine ⟨fun hLess => ?_, fun hMore => ?_, fun hDiffer hMiddle => ?_⟩
  · have hBelow := mul_le_mul_of_nonneg_right (h.below (lt_of_mul_lt_mul_right hLess hc.le)) hc.le
    linarith
  · have hAbove := mul_le_mul_of_nonneg_right (h.above (lt_of_mul_lt_mul_right hMore hc.le)) hc.le
    linarith
  · refine h.middle (fun hSame => hDiffer (by rw [hSame])) (mul_right_cancel₀ hc.ne' ?_)
    linarith

/-- What is `Preferred` to a value `w` below the fraction is so to all lesser values. -/
theorem Preferred.of_lt {q v w z : ℚ} {even : Prop} (h : Preferred q v w even) (hzw : z < w)
    (hwv : w ≤ v) (hwq : w ≤ q) : Preferred q v z even := by
  have hStrict : v + z < 2 * q := by
    rcases hwv.lt_or_eq with hLess | rfl
    · linarith [h.above hLess]
    · linarith
  refine ⟨fun hLess => ?_, fun _ => hStrict.le, fun _ hMiddle => ?_⟩
  · linarith
  · linarith

/-! ### The nearest number -/

/-- The unit of the last place of an exponent. -/
def unitAt (exponent : ℕ) : ℚ := 2 ^ exponent / 2 ^ 1074

/-- `0 < unitAt exponent`. -/
theorem unitAt_pos (exponent : ℕ) : 0 < unitAt exponent := by
  unfold unitAt
  positivity

/-- `unitAt exponent` is `2 ^ exponent` units of the least one. -/
theorem unitAt_eq (exponent : ℕ) : unitAt exponent = 2 ^ exponent / unitsPerOne := by
  rw [unitAt, unitsPerOne_eq]
  generalize 1074 = n
  rw [Nat.pow_eq, Nat.cast_pow, Nat.cast_ofNat]

/-- A magnitude is its significand, counted in `unitAt exponent`. -/
theorem unitsValue_eq (significand exponent : ℕ) :
    unitsValue significand exponent = significand * unitAt exponent := by
  rw [unitsValue, unitAt, Nat.cast_mul, Nat.cast_pow, Nat.cast_ofNat, mul_div_assoc]

/-- `unitsValue m e` depends on the number `m * 2 ^ e` of units only. -/
theorem unitsValue_congr {m e m' e' : ℕ} (h : m * 2 ^ e = m' * 2 ^ e') :
    unitsValue m e = unitsValue m' e' := by
  rw [unitsValue, unitsValue, h]

/-- `ofCanonical` is the number with the given significand and exponent. -/
theorem ofCanonical_eq_finite {negative sign : Bool} {r k : ℕ} {x : Magnitude}
    (h : Binary64.ofCanonical negative r k = .finite sign x) :
    sign = negative ∧ x.significand = r ∧ x.exponent = k := by
  unfold Binary64.ofCanonical at h
  split at h
  · cases h
    exact ⟨rfl, rfl, rfl⟩
  · cases h

/-- `ofUnits` is the number of `r * 2 ^ k` units, with the significand `r` or a carried one. -/
theorem ofUnits_eq_finite {negative sign : Bool} {r k : ℕ} {x : Magnitude}
    (h : Binary64.ofUnits negative r k = .finite sign x) :
    sign = negative ∧ x.value = unitsValue r k ∧ (r % 2 = 0 → x.significand % 2 = 0) := by
  unfold Binary64.ofUnits at h
  split at h
  · rename_i hCarried
    obtain ⟨rfl, hSignificand, hExponent⟩ := ofCanonical_eq_finite h
    refine ⟨rfl, ?_, fun _ => by rw [hSignificand]⟩
    rw [Magnitude.value, hSignificand, hExponent, hCarried]
    refine unitsValue_congr ?_
    ring
  · obtain ⟨rfl, rfl, rfl⟩ := ofCanonical_eq_finite h
    exact ⟨rfl, rfl, id⟩

/-- The magnitude that a fraction is rounded to at the exponent `k` is `Preferred` to all finite
ones, if all bits of the fraction are used there or `k = 0`. -/
theorem preferred_at_exponent {num den k : ℕ} (hDen : 0 < den)
    (hMany : 2 ^ 52 ≤ num * unitsPerOne / den / 2 ^ k ∨ k = 0) (y : Magnitude) :
    Preferred (num / den) (unitsValue (roundDiv (num * unitsPerOne) (den * 2 ^ k)) k)
      y.value (roundDiv (num * unitsPerOne) (den * 2 ^ k) % 2 = 0) := by
  have hScaled : 0 < den * 2 ^ k := Nat.mul_pos hDen (Nat.pow_pos (by decide))
  have hFraction : ((num * unitsPerOne : ℕ) / (den * 2 ^ k : ℕ) : ℚ) * unitAt k = num / den := by
    have hDenCast : (den : ℚ) ≠ 0 := Nat.cast_ne_zero.mpr hDen.ne'
    have hOne : (unitsPerOne : ℚ) ≠ 0 := Nat.cast_ne_zero.mpr unitsPerOne_pos.ne'
    rw [unitAt_eq, Nat.cast_mul, Nat.cast_mul, Nat.cast_pow, Nat.cast_ofNat]
    field_simp
  -- whole numbers of units at the exponent
  have hUnits : ∀ n : ℕ, Preferred (num / den)
      (unitsValue (roundDiv (num * unitsPerOne) (den * 2 ^ k)) k) (unitsValue n k)
      (roundDiv (num * unitsPerOne) (den * 2 ^ k) % 2 = 0) := by
    intro n
    rw [unitsValue_eq, unitsValue_eq, ← hFraction]
    exact (preferred_roundDiv hScaled n).scale (unitAt_pos k)
  rcases Nat.lt_or_ge y.exponent k with hExponent | hExponent
  · -- a lesser exponent has lesser numbers only, all below the first one with 53 bits
    have hNormal := hMany.resolve_right (by omega)
    rw [Nat.div_div_eq_div_mul] at hNormal
    refine (hUnits (2 ^ 52)).of_lt (unitsValue_lt_iff.mpr (y.canonical.lt_of_exponent_lt hExponent))
      ?_ ?_
    · rw [unitsValue_eq, unitsValue_eq]
      have hRound := hNormal.trans (div_le_roundDiv _ _)
      exact mul_le_mul_of_nonneg_right (Nat.cast_le.mpr hRound) (unitAt_pos k).le
    · rw [unitsValue_eq, ← hFraction]
      refine mul_le_mul_of_nonneg_right ?_ (unitAt_pos k).le
      rw [le_div_iff₀ (Nat.cast_pos.mpr hScaled)]
      exact_mod_cast (Nat.le_div_iff_mul_le hScaled).mp hNormal
  · obtain ⟨n, hn⟩ := exists_mul_of_le y.significand hExponent
    rw [Magnitude.value, unitsValue_congr hn]
    exact hUnits n

/-- **Rounding a fraction gives the number that it rounds to:** `RoundsTo (num / den)` holds of
`nearest`. -/
theorem roundsTo_nearest (num : ℕ) {den : ℕ} (hDen : 0 < den) :
    RoundsTo (num / den) (Binary64.nearest false num den) := by
  by_cases hInfinite : Binary64.nearest false num den = .infinite false
  · rw [hInfinite]
    exact .infinite ((Binary64.nearest_eq_infinite_iff_le_div false hDen).mp hInfinite)
  have hBelow := not_le.mp (mt (Binary64.nearest_eq_infinite_iff_le_div false hDen).mpr hInfinite)
  obtain ⟨sign, x, hFinite⟩ := (Binary64.nearest_cases false num den).resolve_left hInfinite
  have hMany := (Binary64.roundDiv_exponentOf (num * unitsPerOne) den).2
  obtain ⟨rfl, hValue, hEven⟩ := ofUnits_eq_finite hFinite
  rw [hFinite]
  refine roundsTo_finite_iff.mpr ⟨hBelow, fun y => ?_⟩
  have hPreferred := preferred_at_exponent hDen hMany y
  rw [hValue]
  exact ⟨hPreferred.below, hPreferred.above, fun hDiffer hMiddle =>
    hEven (hPreferred.middle hDiffer hMiddle)⟩

/-- `Binary64.nearest` of a fraction is the number that it `RoundsTo`. -/
theorem nearest_eq_iff {num den : ℕ} (hDen : 0 < den) {x : Binary64} :
    Binary64.nearest false num den = x ↔ RoundsTo (num / den) x := by
  have hRounds := roundsTo_nearest num hDen
  constructor
  · rintro rfl
    exact hRounds
  · exact hRounds.unique

/-! ### Fractions near a number -/

/-- A greater exponent has a greater `unitAt`. -/
theorem unitAt_le {k n : ℕ} (h : k ≤ n) : unitAt k ≤ unitAt n := by
  have hPower : (2 : ℚ) ^ k ≤ 2 ^ n := pow_le_pow_right₀ one_le_two h
  exact div_le_div_of_nonneg_right hPower (by positivity)

/-- The bound `2 ^ 1024 - 2 ^ 970`, in units of the greatest finite number. -/
theorem two_mul_bound : 2 * (2 ^ 1024 - 2 ^ 970 : ℚ) = (2 ^ 54 - 1) * unitAt maxExponent := by
  have hUnit : unitAt maxExponent = 2 * 2 ^ 970 := by
    rw [unitAt, div_eq_iff (by positivity), ← pow_succ', ← pow_add]
    rfl
  have hSplit : (2 : ℚ) ^ 1024 = 2 ^ 54 * 2 ^ 970 := by rw [← pow_add]
  rw [hUnit, hSplit]
  generalize (2 : ℚ) ^ 970 = half
  ring

/-- The numbers above `x` are greater by at least `unitAt x.exponent`. -/
theorem Magnitude.add_unit_le {x y : Magnitude} (hLess : x.value < y.value) :
    x.value + unitAt x.exponent ≤ y.value := by
  have hUnits := x.canonical.add_le y.canonical (unitsValue_lt_iff.mp hLess)
  have hPositive : (0 : ℚ) < 2 ^ 1074 := by positivity
  rw [value, value, unitsValue, unitsValue, unitAt, ← add_div, div_le_div_iff_of_pos_right hPositive]
  rw [Nat.add_one_mul] at hUnits
  exact_mod_cast hUnits

/-- The numbers below `x` are less by at least `unitAt x.exponent`, if the exponent does not change
there. -/
theorem Magnitude.add_unit_le_of_gt {x y : Magnitude}
    (hInside : x.significand ≠ 2 ^ 52 ∨ x.exponent = 0) (hLess : y.value < x.value) :
    y.value + unitAt x.exponent ≤ x.value := by
  have hUnits := x.canonical.add_le_of_gt y.canonical hInside (unitsValue_lt_iff.mp hLess)
  have hPositive : (0 : ℚ) < 2 ^ 1074 := by positivity
  rw [value, value, unitsValue, unitsValue, unitAt, ← add_div, div_le_div_iff_of_pos_right hPositive]
  exact_mod_cast hUnits

/-- Half a unit above a number is not beyond `2 ^ 1024 - 2 ^ 970`, and less than that if the
significand is even. -/
theorem Magnitude.two_mul_add_unit_le (x : Magnitude) :
    2 * x.value + unitAt x.exponent ≤ 2 * (2 ^ 1024 - 2 ^ 970) ∧
      (x.significand % 2 = 0 →
        2 * x.value + unitAt x.exponent < 2 * (2 ^ 1024 - 2 ^ 970)) := by
  have hUnit := unitAt_le x.canonical.le
  have hPositive := unitAt_pos maxExponent
  have hBits := x.canonical.lt
  -- half a unit above a number is an odd number of half units, of which there are at most `2 ^ 54 -
  -- 1`
  have hSum : 2 * x.value + unitAt x.exponent
      = ((2 * x.significand + 1 : ℕ) : ℚ) * unitAt x.exponent := by
    rw [value, unitsValue_eq]
    push_cast
    ring
  have hScale : ((2 * x.significand + 1 : ℕ) : ℚ) * unitAt x.exponent
      ≤ (2 * x.significand + 1 : ℕ) * unitAt maxExponent :=
    mul_le_mul_of_nonneg_left hUnit (Nat.cast_nonneg _)
  rw [two_mul_bound, hSum]
  refine ⟨hScale.trans ?_, fun hEven => hScale.trans_lt ?_⟩
  · refine mul_le_mul_of_nonneg_right ?_ hPositive.le
    have hFew : 2 * x.significand + 1 ≤ 2 ^ 54 - 1 := by omega
    calc ((2 * x.significand + 1 : ℕ) : ℚ) ≤ (2 ^ 54 - 1 : ℕ) := Nat.cast_le.mpr hFew
      _ = 2 ^ 54 - 1 := by norm_num
  · refine mul_lt_mul_of_pos_right ?_ hPositive
    have hFew : 2 * x.significand + 1 < 2 ^ 54 - 1 := by omega
    calc ((2 * x.significand + 1 : ℕ) : ℚ) < (2 ^ 54 - 1 : ℕ) := Nat.cast_lt.mpr hFew
      _ = 2 ^ 54 - 1 := by norm_num

/-- **What is at most half a unit above `x`, or less than that below it, rounds to it**; in the
middle the significand has to be even, and below `x` the exponent must not change. -/
theorem Magnitude.roundsTo {q : ℚ} (x : Magnitude)
    (hUp : 2 * q ≤ 2 * x.value + unitAt x.exponent)
    (hEven : 2 * q = 2 * x.value + unitAt x.exponent → x.significand % 2 = 0)
    (hDown : x.value ≤ q ∨
      (x.significand ≠ 2 ^ 52 ∨ x.exponent = 0) ∧ 2 * x.value < 2 * q + unitAt x.exponent) :
    RoundsTo q (.finite false x) := by
  obtain ⟨hBound, hStrict⟩ := x.two_mul_add_unit_le
  have hUnit := unitAt_pos x.exponent
  refine roundsTo_finite_iff.mpr ⟨?_, fun y => ?_⟩
  -- the fraction is not too great: half a unit above `x` is not
  · rcases hUp.lt_or_eq with hInside | hTie
    · exact lt_of_mul_lt_mul_left (hInside.trans_le hBound) zero_le_two
    · exact lt_of_mul_lt_mul_left (hTie.trans_lt (hStrict (hEven hTie))) zero_le_two
  clear hBound hStrict
  -- a lesser number is farther away: by a unit of `x` where the exponent does not change
  have hLower : y.value < x.value → x.value + y.value < 2 * q := by
    intro hMore
    rcases hDown with hAtLeast | ⟨hInside, hNear⟩
    · linarith
    · linarith [Magnitude.add_unit_le_of_gt hInside hMore]
  refine ⟨fun hLess => ?_, fun hMore => (hLower hMore).le, fun hDiffer hMiddle => ?_⟩
  · linarith [Magnitude.add_unit_le hLess]
  · rcases lt_or_gt_of_ne hDiffer with hLess | hMore
    · exact hEven (by linarith [Magnitude.add_unit_le hLess])
    · linarith [hLower hMore]

/-- `RoundsTo x.value` holds of `x`: every finite number rounds to itself. -/
theorem Magnitude.roundsTo_self (x : Magnitude) : RoundsTo x.value (.finite false x) := by
  have hUnit := unitAt_pos x.exponent
  refine x.roundsTo ?_ (fun hTie => ?_) (Or.inl (le_refl _))
  · linarith
  · linarith

/-- `Magnitude.zero.value = 0`. -/
@[simp] theorem Magnitude.value_zero : Magnitude.zero.value = 0 := by
  simp [value, zero, unitsValue]

/-- **A fraction rounds to zero** exactly up to `1 / 2 ^ 1075`, half a unit. -/
theorem roundsTo_zero_iff {q : ℚ} (hq : 0 ≤ q) :
    RoundsTo q (.finite false .zero) ↔ q ≤ 1 / 2 ^ 1075 := by
  let least : Magnitude := ⟨1, 0, by decide⟩
  have hLeast : least.value = 1 / 2 ^ 1074 := by
    simp only [least, Magnitude.value, unitsValue, pow_zero, mul_one, Nat.cast_one]
  have hUnit : unitAt Magnitude.zero.exponent = 1 / 2 ^ 1074 := by
    rw [unitAt, Magnitude.zero, pow_zero]
  have hPositive : (0 : ℚ) < 1 / 2 ^ 1074 := by positivity
  have hHalf : q ≤ 1 / 2 ^ 1075 ↔ 2 * q ≤ 1 / 2 ^ 1074 := by
    rw [pow_succ, ← div_div, le_div_iff₀ two_pos, mul_comm]
  rw [hHalf]
  -- the power is not to be computed
  generalize (1 / 2 ^ 1074 : ℚ) = unit at *
  constructor
  · intro h
    have hBelow := ((roundsTo_finite_iff.mp h).2 least).below
    rw [Magnitude.value_zero, hLeast] at hBelow
    linarith [hBelow hPositive]
  · intro h
    refine Magnitude.zero.roundsTo ?_ (fun _ => rfl) (Or.inl ?_)
    · rw [Magnitude.value_zero, hUnit]
      linarith
    · rw [Magnitude.value_zero]
      exact hq

end MarkupScan.Number
