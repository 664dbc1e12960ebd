import MarkupScan.Number.Layout
import MarkupScan.Proofs.JsonGrammar
import MarkupScan.Proofs.Rounding

/-! # Written numbers are literals

Every number that is written for a JSON text is one of its literals: an integer, a double-precision
number in positional or scientific notation, or one of the words for the special values. All digits
that are written for a positive magnitude begin with a digit that is not zero.

Main definition: **`LeadingDigits`**, digits that do not begin with zero.

Main statements.
* **`leadingDigits_digitsOf`**, **`leadingDigits_trimZeros`**: the digits of a positive number, also
  without the zeros that end them.
* **`Decimal.shortest_pos`**: the shortest decimal of a positive number is positive.
* **`isNumber_toString`**, **`toString_injective`**: integers are literals, which tell them apart.
* **`isLiteral_write`**: double-precision numbers are literals. -/

namespace MarkupScan

open JsonText (Digits Dialect IsFraction IsNumber IsPower IsWhole)

namespace Number

/-! ### Digits -/

/-- `digitsOf n` are `Digits`. -/
theorem digits_digitsOf (n : ℕ) : Digits (digitsOf n) := by
  refine ⟨Nat.toDigits_ne_nil, ?_⟩
  intro c hc
  have hDigit : c.isDigit = true := Nat.isDigit_of_mem_toDigits (by decide) (by decide) hc
  simpa [isDigit, Char.isDigit, Char.le_def] using hDigit

/-- **Digits that do not begin with zero.** -/
structure LeadingDigits (text : List Char) : Prop where
  /-- There are digits, and nothing else. -/
  digits : Digits text
  /-- The first of them is not zero. -/
  head?_ne : text.head? ≠ some '0'

/-- **A positive number does not begin with zero:** `digitsOf n` are `LeadingDigits`. -/
theorem leadingDigits_digitsOf {n : ℕ} (hn : 0 < n) : LeadingDigits (digitsOf n) := by
  refine ⟨digits_digitsOf n, ?_⟩
  unfold digitsOf
  -- the first digit stays the same when the last one is taken off
  induction n using Nat.strongRecOn with
  | ind n ih =>
      rw [Nat.toDigits_eq_if (by decide)]
      split
      · simp
        omega
      · have hHead := ih (n / 10) (by omega) (by omega)
        obtain ⟨c, rest, hDigits⟩ :=
          List.exists_cons_of_ne_nil (Nat.toDigits_ne_nil (n := n / 10) (b := 10))
        rw [hDigits] at hHead ⊢
        simpa using hHead

/-- `trimZeros` keeps the first digit. -/
theorem head?_trimZeros (digits : List Char) : (trimZeros digits).head? = digits.head? := by
  cases digits with
  | nil => rfl
  | cons digit rest =>
      rw [trimZeros]
      split <;> rfl

/-- `trimZeros` keeps only digits that were there. -/
theorem mem_of_mem_trimZeros {digits : List Char} {c : Char} (hc : c ∈ trimZeros digits) :
    c ∈ digits := by
  induction digits with
  | nil => exact hc
  | cons digit rest ih =>
      rw [trimZeros] at hc
      split at hc
      · simp_all
      · simp_all
      · rcases List.mem_cons.mp hc with rfl | hRest
        · exact List.mem_cons_self
        · exact List.mem_cons_of_mem _ (ih hRest)

/-- `LeadingDigits` stay such without the zeros that end them. -/
theorem LeadingDigits.trimZeros {text : List Char} (h : LeadingDigits text) :
    LeadingDigits (trimZeros text) := by
  refine ⟨⟨?_, fun c hc => h.digits.2 c (mem_of_mem_trimZeros hc)⟩, ?_⟩
  · intro hNil
    have hHead := head?_trimZeros text
    rw [hNil] at hHead
    exact h.digits.1 (List.head?_eq_none_iff.mp hHead.symm)
  · rw [head?_trimZeros]
    exact h.head?_ne

/-- `LeadingDigits` are the whole part of a number. -/
theorem LeadingDigits.isWhole {text : List Char} (h : LeadingDigits text) : IsWhole text :=
  ⟨h.digits, fun hZero => absurd hZero h.head?_ne⟩

/-- `digitsOf n` is the whole part of a number, for every `n`. -/
theorem isWhole_digitsOf (n : ℕ) : IsWhole (digitsOf n) := by
  rcases Nat.eq_zero_or_pos n with rfl | hn
  · exact ⟨digits_digitsOf 0, fun _ => rfl⟩
  · exact (leadingDigits_digitsOf hn).isWhole

/-! ### Notations -/

/-- `Digits` stay such with zeros in front. -/
theorem digits_zeros_append (count : ℕ) {digits : List Char} (h : Digits digits) :
    Digits (List.replicate count '0' ++ digits) := by
  refine ⟨by simp [h.1], ?_⟩
  intro c hc
  rcases List.mem_append.mp hc with hZero | hDigit
  · rw [(List.mem_replicate.mp hZero).2]
    rfl
  · exact h.2 c hDigit

/-- `LeadingDigits` are some of them, at least one, and zeros behind. -/
theorem LeadingDigits.take_append_zeros {digits : List Char} (h : LeadingDigits digits) {count : ℕ}
    (hCount : 0 < count) (zeros : ℕ) :
    LeadingDigits (digits.take count ++ List.replicate zeros '0') := by
  obtain ⟨c, rest, rfl⟩ := List.exists_cons_of_ne_nil h.digits.1
  obtain ⟨count, rfl⟩ := Nat.exists_eq_succ_of_ne_zero (Nat.ne_of_gt hCount)
  refine ⟨⟨by simp, ?_⟩, by simpa using h.head?_ne⟩
  intro d hd
  rcases List.mem_append.mp hd with hDigit | hZero
  · exact h.digits.2 d (List.mem_of_mem_take hDigit)
  · rw [(List.mem_replicate.mp hZero).2]
    rfl

/-- **Positional notation is a whole part and a fraction:** `positional` is `IsWhole` and
`IsFraction`, one behind the other. -/
theorem positional_eq {digits : List Char} (h : LeadingDigits digits) (point : ℤ) :
    ∃ whole fraction, IsWhole whole ∧ IsFraction fraction ∧
      positional digits point = whole ++ fraction := by
  have hZero : IsWhole ['0'] := isWhole_digitsOf 0
  unfold positional
  by_cases hPoint : point ≤ 0
  · rw [if_pos hPoint]
    exact ⟨['0'], _, hZero, Or.inr ⟨_, digits_zeros_append _ h.digits, rfl⟩, rfl⟩
  · rw [if_neg hPoint]
    refine ⟨_, _, (h.take_append_zeros (by omega) _).isWhole, Or.inr ⟨_, ?_, rfl⟩, rfl⟩
    split
    · exact hZero.1
    · rename_i hSome
      refine ⟨by simpa using hSome, ?_⟩
      intro c hc
      exact h.digits.2 c (List.mem_of_mem_drop hc)

/-- `exponentText` is a sign and `Digits`. -/
theorem exponentText_eq (width : ℕ) (exponent : ℤ) :
    ∃ sign digits, sign ∈ [[], ['+'], ['-']] ∧ Digits digits ∧
      exponentText width exponent = sign ++ digits := by
  refine ⟨[if exponent < 0 then '-' else '+'], _, ?_,
    digits_zeros_append _ (digits_digitsOf exponent.natAbs), rfl⟩
  split <;> simp

/-- **Scientific notation is a whole part of one digit, a fraction and a power of ten:**
`scientific` is `IsWhole`, `IsFraction` and `IsPower`, one behind the other. -/
theorem scientific_eq (width : ℕ) {digits : List Char} (h : LeadingDigits digits) (exponent : ℤ) :
    ∃ whole fraction power, IsWhole whole ∧ IsFraction fraction ∧ IsPower power ∧
      scientific width digits exponent = whole ++ fraction ++ power := by
  obtain ⟨sign, power, hSign, hPower, hText⟩ := exponentText_eq width exponent
  have hPowerText : IsPower ('e' :: exponentText width exponent) :=
    Or.inr ⟨'e', sign, power, by simp, hSign, hPower, by rw [hText, List.cons_append]⟩
  obtain ⟨c, rest, rfl⟩ := List.exists_cons_of_ne_nil h.digits.1
  have hFirst : IsWhole [c] := (h.take_append_zeros Nat.one_pos 0).isWhole
  cases rest with
  | nil => exact ⟨[c], [], _, hFirst, Or.inl rfl, hPowerText, rfl⟩
  | cons d rest =>
      refine ⟨[c], '.' :: d :: rest, _, hFirst, Or.inr ⟨_, ⟨by simp, ?_⟩, rfl⟩, hPowerText, rfl⟩
      intro x hx
      exact h.digits.2 x (List.mem_cons_of_mem _ hx)

/-! ### Double-precision numbers -/

/-- `x.significand = 0` for the magnitude of zero only. -/
theorem Magnitude.significand_eq_zero_iff {x : Magnitude} : x.significand = 0 ↔ x = .zero := by
  refine ⟨fun hSignificand => ?_, fun h => by rw [h, zero]⟩
  obtain ⟨significand, exponent, hCanonical⟩ := x
  obtain rfl : significand = 0 := hSignificand
  obtain rfl : exponent = 0 := hCanonical.normal.resolve_left (by decide)
  rfl

/-- A decimal with no digits but zero is read as `Magnitude.zero`. -/
theorem Decimal.toBinary64_zero (exponent : ℤ) :
    (⟨0, exponent⟩ : Decimal).toBinary64 = .finite false .zero := by
  rw [toBinary64]
  refine Binary64.nearest_of_tiny false (Nat.pow_pos (by decide)) ?_
  simp

section Magnitudes

variable {x : Magnitude} {grid : ℤ} {d : Decimal}

/-- A decimal that `readsBack` as a positive number is positive. -/
theorem Decimal.pos_of_readsBack (hPos : x ≠ .zero) (h : d.readsBack x = true) : 0 < d.digits := by
  refine Nat.pos_of_ne_zero fun hZero => hPos ?_
  obtain ⟨digits, power⟩ := d
  obtain rfl : digits = 0 := hZero
  rw [readsBack, toBinary64_zero, decide_eq_true_eq] at h
  injection h with _ hMagnitude
  exact hMagnitude.symm

/-- How many multiples of `10 ^ grid` there are up to `x`. -/
def gridFloor (x : Magnitude) (grid : ℤ) : ℕ :=
  x.numerator * Nat.pow 10 (-grid).toNat / (x.denominator * Nat.pow 10 grid.toNat)

/-- **A decimal on a grid is one of the two neighbours of the number:** `gridFloor x grid` or one
more, and it `readsBack`. -/
theorem Decimal.onGrid?_cases (h : onGrid? x grid = some d) :
    d.readsBack x = true ∧ (d = ⟨gridFloor x grid, grid⟩ ∨ d = ⟨gridFloor x grid + 1, grid⟩) := by
  rw [onGrid?] at h
  unfold gridFloor
  generalize x.numerator * Nat.pow 10 (-grid).toNat = num at h ⊢
  generalize x.denominator * Nat.pow 10 grid.toNat = den at h ⊢
  by_cases hLow : (⟨num / den, grid⟩ : Decimal).readsBack x = true
  · rw [if_pos hLow] at h
    by_cases hHigh : (⟨num / den + 1, grid⟩ : Decimal).readsBack x = true
    · -- the nearer one of the two
      rw [if_pos hHigh] at h
      obtain rfl := Option.some.inj h
      have hAtLeast := div_le_roundDiv num den
      have hAtMost := roundDiv_le num den
      rcases hAtLeast.eq_or_lt with hEqual | hMore
      · rw [← hEqual]
        exact ⟨hLow, Or.inl rfl⟩
      · rw [Nat.le_antisymm hAtMost hMore]
        exact ⟨hHigh, Or.inr rfl⟩
    · rw [if_neg hHigh] at h
      rw [← Option.some.inj h]
      exact ⟨hLow, Or.inl rfl⟩
  · rw [if_neg hLow] at h
    by_cases hHigh : (⟨num / den + 1, grid⟩ : Decimal).readsBack x = true
    · rw [if_pos hHigh] at h
      rw [← Option.some.inj h]
      exact ⟨hHigh, Or.inr rfl⟩
    · rw [if_neg hHigh] at h
      cases h

/-- Where `onGrid?` has no decimal, none of the two neighbours of the number `readsBack`. -/
theorem Decimal.not_readsBack_of_onGrid? (h : onGrid? x grid = none) :
    ¬ (⟨gridFloor x grid, grid⟩ : Decimal).readsBack x = true ∧
      ¬ (⟨gridFloor x grid + 1, grid⟩ : Decimal).readsBack x = true := by
  rw [onGrid?] at h
  unfold gridFloor
  generalize x.numerator * Nat.pow 10 (-grid).toNat = num at h ⊢
  generalize x.denominator * Nat.pow 10 grid.toNat = den at h ⊢
  by_cases hLow : (⟨num / den, grid⟩ : Decimal).readsBack x = true
  · rw [if_pos hLow] at h
    cases h
  · rw [if_neg hLow] at h
    by_cases hHigh : (⟨num / den + 1, grid⟩ : Decimal).readsBack x = true
    · rw [if_pos hHigh] at h
      cases h
    · exact ⟨hLow, hHigh⟩

/-- The digits of `Decimal.exact x` are positive for `x ≠ .zero`. -/
theorem Decimal.exact_pos (hPos : x ≠ .zero) : 0 < (exact x).digits := by
  have hSignificand := Nat.pos_of_ne_zero (mt Magnitude.significand_eq_zero_iff.mp hPos)
  have hPow : ∀ base power : ℕ, 0 < base → 0 < Nat.pow base power := fun _ _ h => Nat.pow_pos h
  rw [exact]
  -- the power is not to be computed
  generalize (1074 : ℕ) = places
  exact Nat.mul_pos (Nat.mul_pos hSignificand (hPow 2 x.exponent (by decide)))
    (hPow 5 places (by decide))

/-- **The shortest decimal of a positive number is positive:** `0 < (shortest x).digits`. -/
theorem Decimal.shortest_pos (hPos : x ≠ .zero) : 0 < (shortest x).digits := by
  have hExact := exact_pos hPos
  rw [shortest]
  generalize exact x = all at hExact ⊢
  generalize decimalExponent x.numerator x.denominator = leading
  cases hFound : (List.range 17).findSome? fun places : ℕ => onGrid? x (leading - places) with
  | none => exact hExact
  | some d =>
      obtain ⟨places, -, hGrid⟩ := List.exists_of_findSome?_eq_some hFound
      exact pos_of_readsBack hPos (onGrid?_cases hGrid).1

end Magnitudes

/-- **A finite magnitude is written as a whole part, a fraction and a power of ten:**
`writeMagnitude` is `IsWhole`, `IsFraction` and `IsPower`, one behind the other. -/
theorem writeMagnitude_eq (layout : Layout) (x : Magnitude) :
    ∃ whole fraction power, IsWhole whole ∧ IsFraction fraction ∧ IsPower power ∧
      layout.writeMagnitude x = whole ++ fraction ++ power := by
  have hZero : IsWhole ['0'] := isWhole_digitsOf 0
  unfold Layout.writeMagnitude
  by_cases hMagnitude : x = .zero
  · rw [if_pos hMagnitude]
    exact ⟨['0'], ['.', '0'], [], hZero, Or.inr ⟨['0'], hZero.1, rfl⟩, Or.inl rfl, rfl⟩
  · rw [if_neg hMagnitude]
    have hDigits := (leadingDigits_digitsOf (Decimal.shortest_pos hMagnitude)).trimZeros
    generalize Decimal.shortest x = decimal at hDigits ⊢
    simp only
    split
    · obtain ⟨whole, fraction, hWhole, hFraction, hText⟩ := positional_eq hDigits _
      exact ⟨whole, fraction, [], hWhole, hFraction, Or.inl rfl, by rw [hText, List.append_nil]⟩
    · exact scientific_eq _ hDigits _

end Number

/-! ### Literals -/

namespace JsonText

/-- The parts of a number with a sign in front, or without, satisfy `IsNumber`. -/
theorem isNumber_of_parts {sign whole fraction power : List Char} (hSign : sign ∈ [[], ['-']])
    (hWhole : IsWhole whole) (hFraction : IsFraction fraction) (hPower : IsPower power) :
    IsNumber (sign ++ (whole ++ fraction ++ power)) :=
  ⟨sign, whole, fraction, power, hSign, hWhole, hFraction, hPower, by simp⟩

/-- `n.repr` is the whole part of a number. -/
theorem isWhole_repr (n : ℕ) : IsWhole n.repr.toList := by
  rw [Nat.toList_repr]
  exact Number.isWhole_digitsOf n

/-- A negative integer is written as `-` and digits. -/
theorem toString_negSucc (n : ℕ) : (toString (Int.negSucc n)).toList = '-' :: (n + 1).repr.toList :=
  String.toList_append

/-- `toString n` has digits and minus signs, and no other character. -/
theorem notMem_toString (n : ℤ) {c : Char} (hDigit : Number.isDigit c = false) (hMinus : c ≠ '-') :
    c ∉ (toString n).toList := by
  have hDigits : ∀ n : ℕ, c ∉ n.repr.toList := by
    intro n hc
    rw [(isWhole_repr n).1.2 c hc] at hDigit
    cases hDigit
  cases n with
  | ofNat n => exact hDigits n
  | negSucc n =>
      rw [toString_negSucc]
      exact List.not_mem_cons_of_ne_of_not_mem hMinus (hDigits (n + 1))

/-- **Integers are literals of numbers:** `IsNumber (toString n).toList`. -/
theorem isNumber_toString (n : ℤ) : IsNumber (toString n).toList := by
  have hNone : ∀ text : List Char, text ++ [] ++ [] = text := by simp
  cases n with
  | ofNat n =>
      have h := isNumber_of_parts List.mem_cons_self (isWhole_repr n) (Or.inl rfl) (Or.inl rfl)
      rw [hNone] at h
      exact h
  | negSucc n =>
      have h := isNumber_of_parts (List.mem_cons_of_mem _ List.mem_cons_self) (isWhole_repr (n + 1))
        (Or.inl rfl) (Or.inl rfl)
      rw [hNone] at h
      rw [toString_negSucc]
      exact h

/-- `repr` is injective on natural numbers. -/
theorem repr_injective {m n : ℕ} (h : m.repr.toList = n.repr.toList) : m = n := by
  rw [Nat.toList_repr, Nat.toList_repr] at h
  have hValue := congrArg (Nat.ofDigitChars 10 · 0) h
  simpa [Nat.ofDigitChars_ten_toDigits] using hValue

/-- `m.repr` is the text of no negative integer. -/
theorem repr_ne_toString_negSucc (m n : ℕ) :
    m.repr.toList ≠ (toString (Int.negSucc n)).toList := by
  rw [toString_negSucc]
  intro h
  have hMinus := (isWhole_repr m).1.2 '-' (by simp [h])
  cases hMinus

/-- **Integers are told apart by their literals:** `toString` is injective. -/
theorem toString_injective {m n : ℤ} (h : toString m = toString n) : m = n := by
  have hList := congrArg String.toList h
  cases m with
  | ofNat m =>
      cases n with
      | ofNat n => rw [repr_injective hList]
      | negSucc n => exact absurd hList (repr_ne_toString_negSucc m n)
  | negSucc m =>
      cases n with
      | ofNat n => exact absurd hList.symm (repr_ne_toString_negSucc n m)
      | negSucc n =>
          rw [toString_negSucc, toString_negSucc, List.cons.injEq] at hList
          have hSucc := repr_injective hList.2
          rw [Nat.succ.inj hSucc]

/-- `jsonLayout.write` of a finite number satisfies `IsNumber`. -/
theorem isNumber_write_finite (negative : Bool) (x : Number.Magnitude) :
    IsNumber (Number.jsonLayout.write (.finite negative x)).toList := by
  obtain ⟨whole, fraction, power, hWhole, hFraction, hPower, hText⟩ :=
    Number.writeMagnitude_eq Number.jsonLayout x
  have hSign : (if negative then ['-'] else []) ∈ [[], ['-']] := by cases negative <;> decide
  rw [Number.Layout.write, hText, String.toList_ofList]
  exact isNumber_of_parts hSign hWhole hFraction hPower

/-- **Double-precision numbers are literals** of the `extended` dialect, in which the words for the
special values count. -/
theorem isLiteral_write (x : Number.Binary64) :
    Dialect.extended.IsLiteral (Number.jsonLayout.write x) := by
  cases x with
  | nan => exact Or.inr (by decide)
  | infinite negative => exact Or.inr (by cases negative <;> decide)
  | finite negative x => exact Or.inl (isNumber_write_finite negative x)

end JsonText

end MarkupScan
