import MarkupScan.Proofs.ShortestDecimals
import MarkupScan.Proofs.StrictJson

/-! # Faithful numbers

The number that a token carries is the one nearest to its numeral, and what a dump says of it is the
literal of a decimal that rounds to the same number, with as few significant digits as any.

Main definitions.
* **`Decimal.ofLiteral`**: the decimal that a literal denotes.
* **`ShortestLiteral`**: a literal denotes a decimal that rounds to a number, and none is shorter.

Main statements.
* **`Decimal.ofLiteral_positional`**, **`Decimal.ofLiteral_scientific`**: both notations denote the
  decimal that they are of.
* **`shortestLiteral_write`**: finite numbers are written in shortest literals.
* **`numbers_faithful`**: the numbers of a text and of its dump. -/

namespace MarkupScan

open JsonText (Digits Document IsNumber)

namespace Number

/-! ### Literals as decimals -/

/-- **The decimal that a literal without a sign denotes**: its digits, and its power of ten less the
number of digits behind the point. -/
def Decimal.ofLiteral (text : List Char) : Decimal :=
  let mantissa := text.takeWhile fun c => c != 'e' && c != 'E'
  let power := (text.dropWhile fun c => c != 'e' && c != 'E').tail
  ⟨digitsValue (mantissa.filter isDigit),
    (Binary64.signedValue? power).getD 0 - (mantissa.dropWhile isDigit).tail.length⟩

/-- **A literal is read by its parts:** `ofLiteral` of digits, fraction and exponent. -/
theorem Decimal.ofLiteral_parts {digits point fraction rest : List Char} {exponent : ℤ}
    (hDigits : ∀ c ∈ digits, isDigit c = true) (hFraction : ∀ c ∈ fraction, isDigit c = true)
    (hPoint : point = ['.'] ∨ point = [] ∧ fraction = [])
    (hPower : rest = [] ∧ exponent = 0 ∨
      ∃ power, rest = 'e' :: power ∧ Binary64.signedValue? power = some exponent) :
    ofLiteral (digits ++ point ++ fraction ++ rest)
      = ⟨digitsValue (digits ++ fraction), exponent - fraction.length⟩ := by
  have hMarks : ∀ c, isDigit c = true → (c != 'e' && c != 'E') = true := fun c =>
    forall_of_isDigit (p := fun c => c != 'e' && c != 'E') (by decide +kernel)
  -- the mark of the exponent is the first `e`, for neither digits nor a point is one
  have hMantissa : ∀ c ∈ digits ++ point ++ fraction, (c != 'e' && c != 'E') = true := by
    intro c hc
    rcases List.mem_append.mp hc with hFront | hBack
    · rcases List.mem_append.mp hFront with hDigit | hMark
      · exact hMarks c (hDigits c hDigit)
      · rcases hPoint with rfl | ⟨rfl, -⟩
        · obtain rfl := List.mem_singleton.mp hMark
          rfl
        · cases hMark
    · exact hMarks c (hFraction c hBack)
  have hStop : ∀ c ∈ rest.head?, (c != 'e' && c != 'E') = false := by
    rcases hPower with ⟨rfl, -⟩ | ⟨power, rfl, -⟩
    · simp
    · rintro c ⟨⟩
      rfl
  -- the exponent is what stands behind the mark, or zero
  have hExponent : (Binary64.signedValue? rest.tail).getD 0 = exponent := by
    rcases hPower with ⟨rfl, rfl⟩ | ⟨power, rfl, hValue⟩
    · rfl
    · rw [List.tail_cons, hValue, Option.getD_some]
  obtain ⟨hTake, hDrop⟩ := takeWhile_append_stop hMantissa hStop
  obtain ⟨hAll, hBehind⟩ := numeral_parts hDigits hFraction hPoint
  simp only [ofLiteral, hTake, hDrop, hAll, hBehind, hExponent]

example : Decimal.ofLiteral "2.50e-07".toList = ⟨250, -9⟩ := by decide +kernel

/-- `digitsValue` does not count zeros in front. -/
theorem digitsValue_zeros_append (zeros : ℕ) (digits : List Char) :
    digitsValue (List.replicate zeros '0' ++ digits) = digitsValue digits := by
  rw [digitsValue, Nat.ofDigitChars_append, Nat.ofDigitChars_replicate_zero, Nat.mul_zero, digitsValue]

/-- `digitsValue` with zeros behind is multiplied by a power of ten. -/
theorem digitsValue_append_zeros (digits : List Char) (zeros : ℕ) :
    digitsValue (digits ++ List.replicate zeros '0') = digitsValue digits * 10 ^ zeros := by
  rw [digitsValue, Nat.ofDigitChars_append, Nat.ofDigitChars_replicate_zero, Nat.mul_comm, digitsValue]

/-- `digitsValue (digitsOf n) = n`. -/
theorem digitsValue_digitsOf (n : ℕ) : digitsValue (digitsOf n) = n := Nat.ofDigitChars_ten_toDigits

/-! ### Notations -/

/-- `signedValue?` reads an exponent as `exponentText` writes it. -/
theorem signedValue?_exponentText (width : ℕ) (exponent : ℤ) :
    Binary64.signedValue? (exponentText width exponent) = some exponent := by
  have hDigits := digits_zeros_append (width - (digitsOf exponent.natAbs).length)
    (digits_digitsOf exponent.natAbs)
  have hValue := digitsValue_zeros_append (width - (digitsOf exponent.natAbs).length)
    (digitsOf exponent.natAbs)
  rw [digitsValue_digitsOf] at hValue
  unfold exponentText
  dsimp only
  rw [List.cons_append]
  generalize List.replicate (width - (digitsOf exponent.natAbs).length) '0' ++
    digitsOf exponent.natAbs = power at *
  have hSome : (power.isEmpty || !power.all isDigit) = false := by
    simpa [hDigits.1] using hDigits.2
  -- the sign decides how the digits are read
  by_cases hNegative : exponent < 0
  · rw [if_pos hNegative]
    simp only [Binary64.signedValue?, Binary64.splitSign, hSome, hValue]
    exact congrArg some (show -(exponent.natAbs : ℤ) = exponent by omega)
  · rw [if_neg hNegative]
    simp only [Binary64.signedValue?, Binary64.splitSign, hSome, hValue]
    exact congrArg some (show (exponent.natAbs : ℤ) = exponent by omega)

section Notations

variable {digits : List Char} (hDigits : ∀ c ∈ digits, isDigit c = true)
include hDigits

/-- **Positional notation denotes its digits, counted from the point** (`ofLiteral`), with zeros
behind them where there are too few. -/
theorem Decimal.ofLiteral_positional (point : ℤ) :
    ∃ zeros : ℕ, ofLiteral (positional digits point)
      = ⟨digitsValue digits * 10 ^ zeros, point - digits.length - zeros⟩ := by
  have hZeros : ∀ n, ∀ c ∈ List.replicate n '0', isDigit c = true := by
    intro n c hc
    rw [(List.mem_replicate.mp hc).2]
    rfl
  have hRead : ∀ {whole fraction : List Char}, (∀ c ∈ whole, isDigit c = true) →
      (∀ c ∈ fraction, isDigit c = true) →
      ofLiteral (whole ++ '.' :: fraction) = ⟨digitsValue (whole ++ fraction), -fraction.length⟩ := by
    intro whole fraction hWhole hFraction
    have hParts := ofLiteral_parts hWhole hFraction (Or.inl rfl) (Or.inl ⟨rfl, rfl⟩)
    rwa [List.append_nil, List.append_assoc, List.singleton_append, zero_sub] at hParts
  unfold positional
  by_cases hPoint : point ≤ 0
  · -- zeros in front of the digits
    rw [if_pos hPoint]
    refine ⟨0, (hRead (hZeros 1) (List.forall_mem_append.mpr ⟨hZeros _, hDigits⟩)).trans ?_⟩
    rw [digitsValue_zeros_append, digitsValue_zeros_append, List.length_append, List.length_replicate,
      pow_zero, mul_one]
    congr 1
    omega
  · rw [if_neg hPoint]
    dsimp only
    obtain ⟨n, rfl⟩ := Int.eq_ofNat_of_zero_le (not_le.mp hPoint).le
    rw [Int.toNat_natCast]
    by_cases hInside : n < digits.length
    · -- the point is between two digits
      refine ⟨0, ?_⟩
      rw [if_neg (by simpa using hInside), Nat.sub_eq_zero_of_le hInside.le, List.replicate_zero,
        List.append_nil, hRead (fun c hc => hDigits c (List.mem_of_mem_take hc))
          (fun c hc => hDigits c (List.mem_of_mem_drop hc)), List.take_append_drop, List.length_drop,
        pow_zero, mul_one]
      congr 1
      omega
    · -- zeros behind the digits, one of them behind the point
      have hAll : digits.length ≤ n := Nat.le_of_not_lt hInside
      refine ⟨n - digits.length + 1, ?_⟩
      rw [List.drop_eq_nil_of_le hAll, List.take_of_length_le hAll, if_pos List.isEmpty_nil,
        show ['0'] = List.replicate 1 '0' from rfl,
        hRead (List.forall_mem_append.mpr ⟨hDigits, hZeros _⟩) (hZeros 1), List.append_assoc,
        ← List.replicate_add, digitsValue_append_zeros, List.length_replicate]
      congr 1
      omega

/-- **Scientific notation denotes its digits, counted from the first one** (`ofLiteral`). -/
theorem Decimal.ofLiteral_scientific (hNe : digits ≠ []) (width : ℕ) (exponent : ℤ) :
    ofLiteral (scientific width digits exponent)
      = ⟨digitsValue digits, exponent + 1 - digits.length⟩ := by
  have hPower := signedValue?_exponentText width exponent
  obtain ⟨first, rest, rfl⟩ := List.exists_cons_of_ne_nil hNe
  obtain ⟨hFirst, hRest⟩ := List.forall_mem_cons.mp hDigits
  have hSingle : ∀ c ∈ [first], isDigit c = true := List.forall_mem_singleton.mpr hFirst
  -- one digit, then a fraction or none, and the exponent behind its mark
  have hRead : ∀ {point fraction : List Char}, (∀ c ∈ fraction, isDigit c = true) →
      (point = ['.'] ∨ point = [] ∧ fraction = []) →
      ofLiteral ([first] ++ point ++ fraction ++ 'e' :: exponentText width exponent)
        = ⟨digitsValue ([first] ++ fraction), exponent - fraction.length⟩ :=
    fun hFraction hPoint => ofLiteral_parts hSingle hFraction hPoint (Or.inr ⟨_, rfl, hPower⟩)
  cases rest with
  | nil =>
      have hText := hRead (List.forall_mem_nil _) (Or.inr ⟨rfl, rfl⟩)
      refine hText.trans ?_
      simp
  | cons second more =>
      have hText := hRead hRest (Or.inl rfl)
      refine hText.trans ?_
      simp only [List.singleton_append, List.length_cons]
      congr 1
      omega

end Notations

/-! ### Written numbers -/

/-- `digits` are `trimZeros digits` with zeros behind. -/
theorem exists_trimZeros_append (digits : List Char) :
    ∃ zeros, digits = trimZeros digits ++ List.replicate zeros '0' := by
  induction digits with
  | nil => exact ⟨0, rfl⟩
  | cons digit rest ih =>
      obtain ⟨zeros, hRest⟩ := ih
      rw [trimZeros]
      split
      · rename_i hNil
        rw [hNil, List.nil_append] at hRest
        exact ⟨zeros, by rw [List.singleton_append, ← hRest]⟩
      · rename_i hZero
        rw [hZero] at hRest
        exact ⟨zeros + 1, by rw [hRest]; rfl⟩
      · exact ⟨zeros, by rw [List.cons_append, ← hRest]⟩

/-- Zeros behind the digits of a decimal do not change its `value`. -/
theorem Decimal.value_zeros (digits zeros : ℕ) (exponent : ℤ) :
    (⟨digits * 10 ^ zeros, exponent - zeros⟩ : Decimal).value = digits * 10 ^ exponent := by
  rw [value, Nat.cast_mul, mul_assoc, ten_pow_mul_zpow, add_sub_cancel]

/-- **A finite magnitude is written as its `shortest` decimal**, up to zeros at the end. -/
theorem Decimal.ofLiteral_writeMagnitude (layout : Layout) {x : Magnitude} (hPos : x ≠ .zero) :
    (ofLiteral (layout.writeMagnitude x)).value = (shortest x).value ∧
      significantDigits (ofLiteral (layout.writeMagnitude x)).digits
        = significantDigits (shortest x).digits := by
  have hDigits := leadingDigits_digitsOf (shortest_pos hPos)
  rw [Layout.writeMagnitude, if_neg hPos]
  generalize shortest x = d at *
  obtain ⟨zeros, hWritten⟩ := exists_trimZeros_append (digitsOf d.digits)
  have hTrimmed := hDigits.trimZeros.digits
  have hLength := congrArg List.length hWritten
  have hValue := congrArg digitsValue hWritten
  rw [List.length_append, List.length_replicate] at hLength
  rw [digitsValue_digitsOf, digitsValue_append_zeros] at hValue
  dsimp only
  generalize trimZeros (digitsOf d.digits) = digits at *
  have hLeading : d.exponent + (digitsOf d.digits).length - 1 + 1 - digits.length
      = d.exponent + zeros := by omega
  generalize d.exponent + (digitsOf d.digits).length - 1 = leading at *
  -- in both notations the literal has the same digits, with zeros behind them or not
  obtain ⟨more, hRead⟩ : ∃ more : ℕ, ofLiteral
      (if layout.positionalFrom ≤ leading ∧ leading < layout.positionalBelow then
        positional digits (leading + 1) else scientific layout.exponentWidth digits leading)
      = ⟨digitsValue digits * 10 ^ more, d.exponent + zeros - more⟩ := by
    rw [← hLeading]
    split
    · exact ofLiteral_positional hTrimmed.2 _
    · refine ⟨0, ?_⟩
      rw [ofLiteral_scientific hTrimmed.2 hTrimmed.1, pow_zero, mul_one, Nat.cast_zero, sub_zero]
  rw [hRead, value_zeros, hValue, significantDigits_mul_ten_pow, significantDigits_mul_ten_pow, value,
    hValue, Nat.cast_mul, mul_assoc, ten_pow_mul_zpow, add_comm (zeros : ℤ)]
  exact ⟨rfl, rfl⟩

/-- **The shortest literals of a number**: decimals that round to it, and none with fewer significant
digits does. -/
structure ShortestLiteral (literal : List Char) (x : Binary64) : Prop where
  /-- It is the literal of a number: `IsNumber literal`. -/
  isNumber : IsNumber literal
  /-- It has no sign. -/
  unsigned : literal.head? ≠ some '-'
  /-- The decimal `ofLiteral literal` rounds to the number. -/
  roundsTo : RoundsTo (Decimal.ofLiteral literal).value x
  /-- No decimal with fewer significant digits rounds to it. -/
  shortest : ∀ d : Decimal, RoundsTo d.value x →
    significantDigits (Decimal.ofLiteral literal).digits ≤ significantDigits d.digits

/-- `writeMagnitude` has no sign. -/
theorem head?_writeMagnitude_ne (layout : Layout) (x : Magnitude) :
    (layout.writeMagnitude x).head? ≠ some '-' := by
  obtain ⟨whole, fraction, power, hWhole, -, -, hText⟩ := writeMagnitude_eq layout x
  obtain ⟨first, rest, rfl⟩ := List.exists_cons_of_ne_nil hWhole.1.1
  have hFirst := hWhole.1.2 first List.mem_cons_self
  rw [hText]
  rintro ⟨⟩
  cases hFirst

/-- **Finite numbers are written in a `ShortestLiteral`.** -/
theorem shortestLiteral_write (x : Magnitude) :
    ShortestLiteral (jsonLayout.write (.finite false x)).toList (.finite false x) := by
  have hLiteral := JsonText.isNumber_write_finite false x
  rw [Layout.write, String.toList_ofList, if_neg (by decide), List.nil_append] at hLiteral ⊢
  by_cases hZero : x = .zero
  · -- zero is the value of its literal, in which no digit is significant
    subst hZero
    have hRead : Decimal.ofLiteral (jsonLayout.writeMagnitude .zero) = ⟨0, -1⟩ := by decide +kernel
    have hValue : (⟨0, -1⟩ : Decimal).value = Magnitude.zero.value := by simp [Decimal.value]
    have hNone : significantDigits 0 = 0 := rfl
    refine ⟨hLiteral, head?_writeMagnitude_ne _ _, ?_, fun d _ => ?_⟩
    · rw [hRead, hValue]
      exact Magnitude.zero.roundsTo_self
    · rw [hRead, hNone]
      exact Nat.zero_le _
  · obtain ⟨hRounds, hShortest⟩ := Decimal.shortest_spec hZero
    obtain ⟨hValue, hDigits⟩ := Decimal.ofLiteral_writeMagnitude jsonLayout hZero
    rw [← hValue] at hRounds
    rw [← hDigits] at hShortest
    exact ⟨hLiteral, head?_writeMagnitude_ne _ _, hRounds, hShortest⟩

/-- What a fraction `RoundsTo` is written in a `ShortestLiteral`, if it is finite. -/
theorem RoundsTo.shortestLiteral {q : ℚ} {x : Binary64} (h : RoundsTo q x) (hFinite : x.IsFinite) :
    ShortestLiteral (jsonLayout.write x).toList x := by
  cases h with
  | finite _ _ _ => exact shortestLiteral_write _
  | infinite _ => obtain ⟨_, _, hOther⟩ := hFinite; cases hOther

/-- A numeral `RoundsTo` the number that it is read as. -/
theorem roundsTo_ofDigits (whole fraction : List Char) :
    RoundsTo (digitsValue (whole ++ fraction) / 10 ^ fraction.length)
      (.ofDigits false whole fraction) := by
  have hTen : 0 < 10 ^ fraction.length := Nat.pow_pos (by decide)
  have hRounds := roundsTo_nearest (digitsValue (whole ++ fraction)) hTen
  rwa [Nat.cast_pow, Nat.cast_ofNat] at hRounds

end Number

/-! ### Numbers of a text -/

open Number (RoundsTo ShortestLiteral exactValue)

/-- **Faithful numbers.** Every number of a text carries the double-precision number that the exact
value of its numeral rounds to, and no other: zero exactly up to `2 ^ -1075`, and infinity exactly from
`2 ^ 1024 - 2 ^ 970` on. The dump is a JSON text with one object for each token, and where the number
is finite, what stands there as the value is a literal of a decimal that rounds to the same number,
while no decimal with fewer significant digits does. -/
theorem numbers_faithful (source : String) :
    Document .extended (dumpJson (scan source).tokens).toList
        (.array ((scan source).tokens.map Token.dumped)) ∧
      ∀ t ∈ (scan source).tokens, t.category = .number → ∃ x, t.value = .number x ∧
        (∀ y, RoundsTo (exactValue t.text.toList) y ↔ y = x) ∧
        (x = .finite false .zero ↔ exactValue t.text.toList ≤ 1 / 2 ^ 1075) ∧
        (x = .infinite false ↔ 2 ^ 1024 - 2 ^ 970 ≤ exactValue t.text.toList) ∧
        (x.IsFinite → ∃ members literal, t.dumped = .object members ∧
          members.lookup "value" = some (.number literal) ∧ ShortestLiteral literal.toList x) := by
  refine ⟨document_dumpJson _, fun t ht hCategory => ?_⟩
  rcases (reading_scanChars source.toList).token_cases ht with rfl | ⟨a, b, lexeme, hFits, rfl⟩
  · cases hCategory
  rcases hFits.number_cases with ⟨-, whole, fraction, hValue, hExact⟩ | ⟨hOther, -⟩
  · have hRounds := Number.roundsTo_ofDigits whole fraction
    rw [← hExact] at hRounds
    -- the value of the token is what its numeral rounds to, and nothing else is; the bounds are
    -- those of rounding
    have hUnique : ∀ y, RoundsTo (exactValue lexeme.text.toList) y
        ↔ y = .ofDigits false whole fraction :=
      fun y => ⟨fun h => h.unique hRounds, fun h => h ▸ hRounds⟩
    have hNonneg : 0 ≤ exactValue lexeme.text.toList := by
      unfold exactValue
      positivity
    refine ⟨_, hValue, hUnique, ?_, ?_, fun hFinite => ?_⟩
    · rw [eq_comm, ← hUnique, Number.roundsTo_zero_iff hNonneg]
      rfl
    · rw [eq_comm, ← hUnique, Number.roundsTo_infinite_iff]
      rfl
    · refine ⟨_, _, rfl, ?_, hRounds.shortestLiteral hFinite⟩
      simp [Lexeme.tokenAt, hValue, Payload.dumped, List.lookup_cons]
  · exact absurd hCategory hOther

/-- A numeral in the middle between two numbers, the lesser of which is a power of two: it rounds to
that one, whose significand is even, and sixteen digits are needed to write it. -/
theorem numbers_faithful_tie :
    ∃ t ∈ (scan "9007199254740993").tokens, t.category = .number ∧
      t.value = .number (.finite false ⟨2 ^ 52, 1075, by decide⟩) ∧
      exactValue t.text.toList = 9007199254740993 ∧
      RoundsTo 9007199254740993 (.finite false ⟨2 ^ 52, 1075, by decide⟩) ∧
      ShortestLiteral "9007199254740992.0".toList (.finite false ⟨2 ^ 52, 1075, by decide⟩) := by
  let t : Token :=
    ⟨.number, .number (.finite false ⟨2 ^ 52, 1075, by decide⟩), "9007199254740993", ⟨⟨1, 1, 0⟩, ⟨1, 17, 16⟩⟩⟩
  have ht : t ∈ (scan "9007199254740993").tokens := by decide +kernel
  have hDigits : Number.digitsValue (t.text.toList.filter Number.isDigit) = 9007199254740993 ∧
      (t.text.toList.dropWhile Number.isDigit).tail.length = 0 := by decide +kernel
  have hValue : exactValue t.text.toList = 9007199254740993 := by
    rw [exactValue, hDigits.1, hDigits.2, pow_zero, div_one, Nat.cast_ofNat]
  obtain ⟨x, hx, hRounds, -, -, hWritten⟩ := (numbers_faithful "9007199254740993").2 t ht rfl
  obtain rfl : .finite false ⟨2 ^ 52, 1075, by decide⟩ = x := Payload.number.inj hx
  obtain ⟨members, literal, hMembers, hLiteral, hShortest⟩ := hWritten ⟨_, _, rfl⟩
  cases hMembers
  have hText : Number.jsonLayout.write (.finite false ⟨2 ^ 52, 1075, by decide⟩) = "9007199254740992.0" := by
    decide +kernel
  have hWrite : Number.jsonLayout.write (.finite false ⟨2 ^ 52, 1075, by decide⟩) = literal := by
    simpa [t, List.lookup_cons, Payload.dumped] using hLiteral
  rw [← hWrite, hText] at hShortest
  have hSelf := (hRounds _).mpr rfl
  rw [hValue] at hSelf
  exact ⟨t, ht, rfl, rfl, hValue, hSelf, hShortest⟩

end MarkupScan
