import MarkupScan.Proofs.GapGrammar
import MarkupScan.Proofs.NumeralValue

/-! # Lexemes are read as the grammar says

The lexeme read at the front of a text fits in front of the text after it, and it is the only one
that does.

Main statements.
* **`Lexeme.fits_read`**: what is read fits.
* **`Lexeme.read_of_fits`**: what fits is read.
* **`Lexeme.Fits.not_beginsGap`**: no lexeme could be taken for a gap. -/

namespace MarkupScan

open Number (Binary64 isDigit)

/-! ### Signs -/

/-- A sign is one character or an operator with `=` behind it, and the vocabulary of the scanner
has it. -/
theorem mem_signs_cases {raw : List Char} {category : Category} (h : (raw, category) ∈ signs) :
    (∃ c, raw = [c] ∧
        ((operatorCategories? c).map Prod.fst).or (signCategory? c) = some category) ∨
      ∃ c, raw = [c, '='] ∧ (operatorCategories? c).map Prod.snd = some category := by
  have hAll : signs.all (fun sign => sign.1.head?.any fun c =>
      sign.1 == [c] &&
          ((operatorCategories? c).map Prod.fst).or (signCategory? c) == some sign.2 ||
        sign.1 == [c, '='] && (operatorCategories? c).map Prod.snd == some sign.2) = true := by
    decide
  have hSign := List.all_eq_true.mp hAll _ h
  obtain ⟨c, -, hCases⟩ := (Option.any_eq_true _ _).mp hSign
  simp only [Bool.or_eq_true, Bool.and_eq_true, beq_iff_eq] at hCases
  rcases hCases with hAlone | hWith
  · exact Or.inl ⟨c, hAlone⟩
  · exact Or.inr ⟨c, hWith⟩

/-- The operators of the scanner are signs, alone and with `=`. -/
theorem mem_signs_of_operatorCategories? {c : Char} {alone withEquals : Category}
    (h : operatorCategories? c = some (alone, withEquals)) :
    ([c], alone) ∈ signs ∧ ([c, '='], withEquals) ∈ signs := by
  unfold operatorCategories? at h
  split at h <;> cases h <;> decide

/-- The characters of `signCategory?` are `signs`, with the same category. -/
theorem mem_signs_of_signCategory? {c : Char} {category : Category}
    (h : signCategory? c = some category) : ([c], category) ∈ signs := by
  unfold signCategory? at h
  split at h <;> cases h <;> decide

/-- No sign begins like a gap, a word, a number or a string. -/
theorem marks_of_mem_signs {sign : List Char × Category} (hSign : sign ∈ signs) {c : Char}
    (hc : sign.1.head? = some c) :
    isBlank c = false ∧ c ≠ '/' ∧ isWordStart c = false ∧ isDigit c = false ∧ c ≠ '"' := by
  have hAll : signs.all (fun sign => sign.1.head?.all fun c =>
      !isBlank c && c != '/' && !isWordStart c && !isDigit c && c != '"') = true := by
    decide +kernel
  have h := List.all_eq_true.mp hAll sign hSign
  rw [hc] at h
  simpa [and_assoc] using h

/-- No sign is `endOfInput`, a `stringLiteral` or `illegal`. -/
theorem category_ne_of_mem_signs {raw : List Char} {category : Category}
    (h : (raw, category) ∈ signs) :
    category ≠ .endOfInput ∧ category ≠ .stringLiteral ∧ category ≠ .illegal := by
  have hAll : signs.all (fun sign => sign.2 != .endOfInput && sign.2 != .stringLiteral &&
      sign.2 != .illegal) = true := by decide
  simpa [and_assoc] using List.all_eq_true.mp hAll _ h

namespace Lexeme

/-! ### What is read fits -/

/-- `Lexeme.word` fits: it is read up to the first character that does not continue it. -/
theorem fits_word {first : Char} (hFirst : isWordStart first = true) (tail : List Char) :
    (word first tail).1.Fits (word first tail).2 := by
  refine .word hFirst ?_ ?_
  · intro c hc
    exact List.mem_takeWhile_imp hc
  · intro c hc
    exact stop_of_head?_dropWhile hc

/-- `Lexeme.ofNumber` fits: digits with a point among them, or without one, are what a number
consists of. -/
theorem fits_ofNumber {first : Char} {digits point fraction after : List Char}
    (hFirst : isDigit first = true) (hDigits : ∀ c ∈ digits, isDigit c = true)
    (hFraction : ∀ c ∈ fraction, isDigit c = true)
    (hPoint : point = ['.'] ∨ point = [] ∧ fraction = [] ∧ after.head? ≠ some '.')
    (hStop : ∀ c ∈ after.head?, isDigit c = false) :
    (ofNumber (first :: digits) fraction point).Fits after := by
  have hDot : ∀ {run : List Char}, (∀ c ∈ run, isDigit c = true) → '.' ∉ run := by
    intro run hRun hMem
    exact absurd (hRun '.' hMem) (by decide)
  have hValue := Binary64.ofText?_numeral hFirst hDigits hFraction
    (hPoint.imp_right fun h => ⟨h.1, h.2.1⟩)
  -- the parts in one are digits and at most one point
  have hMore : ∀ c ∈ digits ++ point ++ fraction, isDigit c = true ∨ c = '.' := by
    intro c hc
    rcases hPoint with rfl | ⟨rfl, rfl, -⟩ <;> grind
  have hPoints : (digits ++ point ++ fraction).count '.' ≤ 1 := by
    have hWholeCount := List.count_eq_zero.mpr (hDot hDigits)
    have hFractionCount := List.count_eq_zero.mpr (hDot hFraction)
    rw [List.count_append, List.count_append, hWholeCount, hFractionCount]
    rcases hPoint with rfl | ⟨rfl, -, -⟩ <;> decide
  refine .number hFirst hMore hPoints hStop ?_ hValue
  intro hNone
  rcases hPoint with rfl | ⟨-, -, hAfter⟩
  · simp at hNone
  · exact hAfter

/-- `Lexeme.number` fits: it is read up to the first character that is no digit, or to the second
point. -/
theorem fits_number {first : Char} (hFirst : isDigit first = true) (tail : List Char) :
    (number first tail).1.Fits (number first tail).2 := by
  have hWhole : ∀ c ∈ tail.takeWhile isDigit, isDigit c = true := fun c hc =>
    List.mem_takeWhile_imp hc
  unfold number
  split
  · rename_i rest hRest
    exact fits_ofNumber hFirst hWhole (fun c hc => List.mem_takeWhile_imp hc) (Or.inl rfl)
      (fun c hc => stop_of_head?_dropWhile hc)
  · rename_i hRest
    refine fits_ofNumber hFirst hWhole (by simp) (Or.inr ⟨rfl, rfl, ?_⟩)
      (fun c hc => stop_of_head?_dropWhile hc)
    intro hHead
    obtain ⟨rest, hDrop⟩ := List.head?_eq_some_iff.mp hHead
    exact hRest rest hDrop

/-- `Lexeme.string` fits: it is read up to its closing quote, or to the end of the text. -/
theorem fits_string (tail : List Char) : (string tail).1.Fits (string tail).2 := by
  have hContent : '"' ∉ tail.takeWhile (· != '"') := by
    intro hMem
    have h := List.mem_takeWhile_imp hMem
    simp at h
  unfold string
  split
  · rename_i hDrop
    simp only [ofString, List.append_nil]
    exact .openString hContent
  · rename_i quote rest hDrop
    have hQuote : quote = '"' := by
      have hHead : quote ∈ (tail.dropWhile (· != '"')).head? := by
        rw [hDrop]
        rfl
      simpa using stop_of_head?_dropWhile hHead
    subst hQuote
    exact .closedString hContent

/-- An operator is read with the `=` that follows it, if one does. -/
theorem fits_operator {first : Char} {alone withEquals : Category}
    (h : operatorCategories? first = some (alone, withEquals)) (tail : List Char) :
    (operator first alone withEquals tail).1.Fits (operator first alone withEquals tail).2 := by
  obtain ⟨hAlone, hWith⟩ := mem_signs_of_operatorCategories? h
  unfold operator
  split
  · -- no sign has more than two characters
    refine .sign hWith ?_
    intro sign hSign _
    rcases mem_signs_cases hSign with ⟨c, hRaw, -⟩ | ⟨c, hRaw, -⟩ <;> simp [hRaw]
  · rename_i hNotEquals
    refine .sign hAlone ?_
    intro sign hSign hPrefix
    rcases mem_signs_cases hSign with ⟨c, hRaw, -⟩ | ⟨c, hRaw, -⟩
    · simp [hRaw]
    · -- a longer sign would need an `=` after the first character
      rw [hRaw, List.singleton_append, List.cons_prefix_cons,
        List.singleton_prefix_iff_head?_eq_some] at hPrefix
      obtain ⟨rest, hTail⟩ := List.head?_eq_some_iff.mp hPrefix.2
      exact absurd hTail (hNotEquals rest)

/-- `Lexeme.single` fits: it is punctuation, or begins nothing that the grammar has. -/
theorem fits_single {c : Char} {tail : List Char} (hGap : ¬ BeginsGap (c :: tail))
    (hWord : isWordStart c = false) (hDigit : isDigit c = false) (hQuote : c ≠ '"')
    (hOperator : operatorCategories? c = none) : (single c).Fits tail := by
  unfold single
  split
  · rename_i category hCategory
    refine .sign (mem_signs_of_signCategory? hCategory) ?_
    intro sign hSign hPrefix
    rcases mem_signs_cases hSign with ⟨d, hRaw, -⟩ | ⟨d, hRaw, hSome⟩
    · simp [hRaw]
    · -- a longer sign would begin with an operator
      rw [hRaw, List.singleton_append, List.cons_prefix_cons] at hPrefix
      rw [hPrefix.1, hOperator] at hSome
      cases hSome
  · rename_i hCategory
    refine .illegal hGap hWord hDigit hQuote ?_
    intro sign hSign hHead
    rcases mem_signs_cases hSign with ⟨d, hRaw, hSome⟩ | ⟨d, hRaw, hSome⟩
    · rw [hRaw] at hHead
      cases hHead
      rw [hOperator, hCategory] at hSome
      cases hSome
    · rw [hRaw] at hHead
      cases hHead
      rw [hOperator] at hSome
      cases hSome

/-- **What is read fits.** Where no gap begins, the lexeme `(read first tail).1` fits in front of
the text after it. -/
theorem fits_read {first : Char} {tail : List Char} (hGap : ¬ BeginsGap (first :: tail)) :
    (read first tail).1.Fits (read first tail).2 := by
  unfold read
  by_cases hWord : isWordStart first = true
  · rw [if_pos hWord]
    exact fits_word hWord tail
  rw [if_neg hWord]
  by_cases hDigit : isDigit first = true
  · rw [if_pos hDigit]
    exact fits_number hDigit tail
  rw [if_neg hDigit]
  by_cases hQuote : first = '"'
  · rw [if_pos hQuote]
    exact fits_string tail
  rw [if_neg hQuote]
  split
  · rename_i alone withEquals hOperator
    exact fits_operator hOperator tail
  · rename_i hOperator
    exact fits_single hGap (by simpa using hWord) (by simpa using hDigit) hQuote hOperator

/-! ### What fits is read -/

/-- `read` is `operator` where `operatorCategories?` has categories. -/
theorem read_operator {c : Char} {alone withEquals : Category}
    (h : operatorCategories? c = some (alone, withEquals)) (tail : List Char) :
    read c tail = operator c alone withEquals tail := by
  obtain ⟨-, -, hWord, hDigit, hQuote⟩ :=
    marks_of_mem_signs (mem_signs_of_operatorCategories? h).1 rfl
  simp [read, hWord, hDigit, hQuote, h]

/-- `read` is `single` for a character that begins neither a word, a number, a string nor an
operator. -/
theorem read_single {c : Char} (hWord : isWordStart c = false) (hDigit : isDigit c = false)
    (hQuote : c ≠ '"') (hOperator : operatorCategories? c = none) (tail : List Char) :
    read c tail = (single c, tail) := by
  simp [read, hWord, hDigit, hQuote, hOperator]

/-- Where a word fits, `read` gives it. -/
theorem read_word {first : Char} {parts after : List Char} (hStart : isWordStart first = true)
    (hParts : ∀ c ∈ parts, isWordPart c = true) (hStop : ∀ c ∈ after.head?, isWordPart c = false) :
    read first (parts ++ after)
      = (⟨if String.ofList (first :: parts) ∈ reservedWords then .keyword else .identifier,
          .text (String.ofList (first :: parts)), String.ofList (first :: parts), first :: parts,
          true⟩, after) := by
  obtain ⟨hTake, hDrop⟩ := takeWhile_append_stop hParts hStop
  simp only [read, if_pos hStart, word, hTake, hDrop]

/-- The characters of a number are `digits`, a `point` at most, and a `fraction`. -/
theorem exists_numeral {more : List Char} (hMore : ∀ c ∈ more, isDigit c = true ∨ c = '.')
    (hPoints : more.count '.' ≤ 1) :
    ∃ digits point fraction, more = digits ++ point ++ fraction ∧
      (∀ c ∈ digits, isDigit c = true) ∧ (∀ c ∈ fraction, isDigit c = true) ∧
      (point = ['.'] ∨ point = [] ∧ fraction = [] ∧ '.' ∉ more) := by
  -- what has no point is digits
  have hNoPoint : ∀ {run : List Char}, (∀ c ∈ run, c ∈ more) → '.' ∉ run →
      ∀ c ∈ run, isDigit c = true := by
    intro run hRun hNone c hc
    rcases hMore c (hRun c hc) with h | rfl
    · exact h
    · exact absurd hc hNone
  by_cases hPoint : '.' ∈ more
  -- the first point is the only one
  · obtain ⟨digits, fraction, rfl, hDigits⟩ := List.eq_append_cons_of_mem hPoint
    have hFraction : '.' ∉ fraction := by
      rw [List.count_append, List.count_cons_self] at hPoints
      exact List.count_eq_zero.mp (by omega)
    refine ⟨digits, ['.'], fraction, by simp, ?_, ?_, Or.inl rfl⟩
    · exact hNoPoint (fun c hc => by simp [hc]) hDigits
    · exact hNoPoint (fun c hc => by simp [hc]) hFraction
  · exact ⟨more, [], [], by simp, hNoPoint (fun c hc => hc) hPoint, by simp,
      Or.inr ⟨rfl, rfl, hPoint⟩⟩

/-- Where a number fits, `read` gives it. -/
theorem read_number {first : Char} {more after : List Char} {value : Binary64}
    (hFirst : isDigit first = true) (hMore : ∀ c ∈ more, isDigit c = true ∨ c = '.')
    (hPoints : more.count '.' ≤ 1) (hDigit : ∀ c ∈ after.head?, isDigit c = false)
    (hPoint : '.' ∉ more → after.head? ≠ some '.')
    (hValue : Binary64.ofText? (String.ofList (first :: more)) = some value) :
    read first (more ++ after)
      = (⟨.number, .number value, String.ofList (first :: more), first :: more, true⟩, after) := by
  have hRead : ∀ tail, read first tail = number first tail := by
    intro tail
    rw [read, if_neg (by rw [isWordStart_eq_false_of_isDigit hFirst]; decide), if_pos hFirst]
  -- the text is cut into digits, point and fraction, as `number` cuts it
  obtain ⟨digits, point, fraction, rfl, hDigits, hFraction, hCases⟩ := exists_numeral hMore hPoints
  have hNumeral := Binary64.ofText?_numeral hFirst hDigits hFraction
    (hCases.imp_right fun h => ⟨h.1, h.2.1⟩)
  rw [List.cons_append, List.cons_append, hValue] at hNumeral
  obtain rfl := Option.some.inj hNumeral
  rw [hRead, number]
  rcases hCases with rfl | ⟨rfl, rfl, hNone⟩
  -- with a point the digits stop at it, and the fraction where the numeral does
  · have hDot : ∀ c ∈ (['.'] ++ fraction ++ after).head?, isDigit c = false := by
      rintro c ⟨⟩
      decide
    obtain ⟨hTake, hDrop⟩ := takeWhile_append_stop hDigits hDot
    obtain ⟨hTakeFraction, hDropFraction⟩ := takeWhile_append_stop hFraction hDigit
    rw [List.append_assoc, List.append_assoc, ← List.append_assoc ['.'], hTake, hDrop]
    simp only [List.cons_append, List.nil_append, hTakeFraction, hDropFraction, ofNumber]
  -- without one they stop where the numeral does, which no point follows
  · obtain ⟨hTake, hDrop⟩ := takeWhile_append_stop hDigits hDigit
    rw [List.append_nil, List.append_nil, hTake, hDrop]
    split
    · rename_i rest
      exact absurd rfl (hPoint hNone)
    · simp only [ofNumber, List.append_nil]

/-- No character of `content` is a quote. -/
theorem bne_quote_of_not_mem {content : List Char} (hContent : '"' ∉ content) :
    ∀ c ∈ content, (c != '"') = true := by
  intro c hc
  exact bne_iff_ne.mpr fun hEqual => hContent (hEqual ▸ hc)

/-- Where a closed string fits, `read` gives it. -/
theorem read_closedString {content : List Char} (hContent : '"' ∉ content) (after : List Char) :
    read '"' (content ++ ['"'] ++ after)
      = (⟨.stringLiteral, .text (String.ofList content), String.ofList content,
          '"' :: (content ++ ['"']), true⟩, after) := by
  have hQuote : ∀ c ∈ (['"'] ++ after).head?, (c != '"') = false := by
    rintro c ⟨⟩
    decide
  obtain ⟨hTake, hDrop⟩ := takeWhile_append_stop (bne_quote_of_not_mem hContent) hQuote
  rw [read, if_neg (by decide +kernel), if_neg (by decide), if_pos rfl, string, List.append_assoc,
    hTake, hDrop]
  rfl

/-- Where an open string fits, `read` gives it. -/
theorem read_openString {content : List Char} (hContent : '"' ∉ content) :
    read '"' content
      = (⟨.stringLiteral, .text (String.ofList content), String.ofList content,
          '"' :: content, false⟩, []) := by
  have hEnd : ∀ c ∈ ([] : List Char).head?, (c != '"') = false := by simp
  obtain ⟨hTake, hDrop⟩ := takeWhile_append_stop (bne_quote_of_not_mem hContent) hEnd
  rw [List.append_nil] at hTake hDrop
  rw [read, if_neg (by decide +kernel), if_neg (by decide), if_pos rfl, string, hTake, hDrop]
  simp only [ofString, List.append_nil]

/-- Where a sign fits, `read` gives it: a longer one would have to be taken otherwise. -/
theorem read_sign {raw after : List Char} {category : Category}
    (hSign : (raw, category) ∈ signs)
    (hLongest : ∀ sign ∈ signs, sign.1 <+: raw ++ after → sign.1.length ≤ raw.length) :
    ∃ first more, raw = first :: more ∧ read first (more ++ after)
      = (⟨category, .none, String.ofList raw, raw, true⟩, after) := by
  rcases mem_signs_cases hSign with ⟨c, rfl, hSome⟩ | ⟨c, rfl, hSome⟩
  -- a sign of one character, which is punctuation or an operator without an equals sign behind it
  · refine ⟨c, [], rfl, ?_⟩
    rw [List.nil_append]
    cases hOperator : operatorCategories? c with
    | none =>
        obtain ⟨-, -, hWord, hDigit, hQuote⟩ := marks_of_mem_signs hSign rfl
        rw [hOperator] at hSome
        have hSingle : signCategory? c = some category := hSome
        simp only [read_single hWord hDigit hQuote hOperator, single, hSingle, ofSign]
    | some pair =>
        obtain ⟨alone, withEquals⟩ := pair
        rw [hOperator] at hSome
        cases hSome
        have hNotEquals : ∀ rest, after ≠ '=' :: rest := by
          rintro rest rfl
          have hTwo := (mem_signs_of_operatorCategories? hOperator).2
          have hTooLong := hLongest _ hTwo ⟨rest, rfl⟩
          simp at hTooLong
        rw [read_operator hOperator, operator]
        · rfl
        · exact hNotEquals
  -- an operator with an equals sign
  · refine ⟨c, ['='], rfl, ?_⟩
    obtain ⟨⟨alone, withEquals⟩, hOperator, hEqual⟩ := Option.map_eq_some_iff.mp hSome
    cases hEqual
    rw [read_operator hOperator]
    rfl

/-- Where an illegal character fits, `read` gives it alone. -/
theorem read_illegal {c : Char} (hWord : isWordStart c = false) (hDigit : isDigit c = false)
    (hQuote : c ≠ '"') (hSign : ∀ sign ∈ signs, sign.1.head? ≠ some c) (after : List Char) :
    read c after
      = (⟨.illegal, .text (String.singleton c), String.singleton c, [c], true⟩, after) := by
  have hOperator : operatorCategories? c = none := by
    cases h : operatorCategories? c with
    | none => rfl
    | some pair => exact absurd rfl (hSign _ (mem_signs_of_operatorCategories? h).1)
  have hSingle : signCategory? c = none := by
    cases h : signCategory? c with
    | none => rfl
    | some category => exact absurd rfl (hSign _ (mem_signs_of_signCategory? h))
  simp only [read_single hWord hDigit hQuote hOperator, single, hSingle]

/-- **What fits is read.** A `lexeme` that fits in front of `after` is the one read in front of it,
and `after` is what is left. -/
theorem read_of_fits {lexeme : Lexeme} {after : List Char} (h : lexeme.Fits after) :
    ∃ first more, lexeme.raw = first :: more ∧ read first (more ++ after) = (lexeme, after) := by
  cases h with
  | word hStart hParts hStop => exact ⟨_, _, rfl, read_word hStart hParts hStop⟩
  | number hFirst hMore hPoints hDigit hPoint hValue =>
      exact ⟨_, _, rfl, read_number hFirst hMore hPoints hDigit hPoint hValue⟩
  | closedString hContent => exact ⟨_, _, rfl, read_closedString hContent after⟩
  | openString hContent =>
      refine ⟨_, _, rfl, ?_⟩
      rw [List.append_nil]
      exact read_openString hContent
  | sign hSign hLongest => exact read_sign hSign hLongest
  | illegal _ hWord hDigit hQuote hSign =>
      exact ⟨_, [], rfl, read_illegal hWord hDigit hQuote hSign after⟩

/-! ### Lexemes and gaps -/

/-- **No lexeme begins like a gap.** -/
theorem Fits.not_beginsGap {lexeme : Lexeme} {after : List Char} (h : lexeme.Fits after) :
    ¬ BeginsGap (lexeme.raw ++ after) := by
  cases h with
  -- a word and a number begin with a character of a class without blanks and slashes
  | @word first parts _ hStart _ _ =>
      rw [List.cons_append, beginsGap_cons]
      rintro (hBlank | ⟨rfl, -⟩)
      · rw [isWordStart_eq_false_of_isBlank hBlank] at hStart
        cases hStart
      · exact absurd hStart (by decide +kernel)
  | @number first more _ _ hFirst _ _ _ _ _ =>
      rw [List.cons_append, beginsGap_cons]
      rintro (hBlank | ⟨rfl, -⟩)
      · rw [isBlank_eq_false_of_isDigit hFirst] at hBlank
        cases hBlank
      · exact absurd hFirst (by decide)
  -- a string begins with its quote
  | closedString _ =>
      rw [List.cons_append, beginsGap_cons]
      rintro (hBlank | ⟨hSlash, -⟩)
      · exact absurd hBlank (by decide +kernel)
      · cases hSlash
  | openString _ =>
      rw [List.cons_append, beginsGap_cons]
      rintro (hBlank | ⟨hSlash, -⟩)
      · exact absurd hBlank (by decide +kernel)
      · cases hSlash
  -- no sign begins with a slash
  | @sign raw _ category hSign _ =>
      obtain ⟨c, more, rfl⟩ : ∃ c more, raw = c :: more := by
        rcases mem_signs_cases hSign with ⟨c, rfl, -⟩ | ⟨c, rfl, -⟩ <;> exact ⟨_, _, rfl⟩
      obtain ⟨hBlank, hSlash, -⟩ := marks_of_mem_signs hSign rfl
      rw [List.cons_append, beginsGap_cons, hBlank]
      rintro (hFalse | ⟨rfl, -⟩)
      · cases hFalse
      · exact hSlash rfl
  | illegal hGap _ _ _ _ => exact hGap

/-- `lexeme.raw ≠ []` for a lexeme that fits. -/
theorem Fits.raw_ne_nil {lexeme : Lexeme} {after : List Char} (h : lexeme.Fits after) :
    lexeme.raw ≠ [] := by
  obtain ⟨first, more, hRaw, -⟩ := read_of_fits h
  rw [hRaw]
  exact List.cons_ne_nil first more

/-- No lexeme that fits is `endOfInput`. -/
theorem Fits.category_ne {lexeme : Lexeme} {after : List Char} (h : lexeme.Fits after) :
    lexeme.category ≠ .endOfInput := by
  cases h with
  | word _ _ _ => simp only; split <;> simp
  | sign hSign _ => exact (category_ne_of_mem_signs hSign).1
  | _ => simp

/-- An `illegal` lexeme is one character that is no white space. -/
theorem Fits.illegal_cases {lexeme : Lexeme} {after : List Char} (h : lexeme.Fits after)
    (hIllegal : lexeme.category = .illegal) :
    ∃ c, lexeme.raw = [c] ∧ lexeme.text = String.singleton c ∧ isBlank c = false := by
  cases h with
  | word _ _ _ =>
      simp only at hIllegal
      split at hIllegal <;> cases hIllegal
  | sign hSign _ => exact absurd hIllegal (category_ne_of_mem_signs hSign).2.2
  | @illegal c _ hGap _ _ _ _ =>
      rw [beginsGap_cons, not_or] at hGap
      exact ⟨c, rfl, rfl, by simpa using hGap.1⟩
  | _ => cases hIllegal

/-- An `illegal` lexeme of a text is the character at its offset, which ends no line. -/
theorem Fits.illegal_char {lexeme : Lexeme} {source : List Char} {a b : ℕ}
    (h : lexeme.Fits (source.drop b)) (hb : b ≤ source.length)
    (hRaw : source.extract a b = lexeme.raw) (hIllegal : lexeme.category = .illegal) :
    b = a + 1 ∧ ∃ c, source[a]? = some c ∧ c ≠ '\n' ∧ lexeme.text = String.singleton c := by
  obtain ⟨c, hChar, hText, hBlank⟩ := h.illegal_cases hIllegal
  rw [hChar] at hRaw
  have hLength := length_extract (m := a) hb
  rw [hRaw, List.length_singleton] at hLength
  refine ⟨by omega, c, ?_, ?_, hText⟩
  · have hHead := congrArg List.head? hRaw
    rwa [List.extract, List.head?_take, if_neg (by omega), List.head?_drop] at hHead
  · -- a line feed is white space
    rintro rfl
    rw [isBlank_feed] at hBlank
    cases hBlank

/-- A `stringLiteral` has its two quotes, or it runs to the end of the text with one. -/
theorem Fits.string_cases {lexeme : Lexeme} {after : List Char} (h : lexeme.Fits after)
    (hCategory : lexeme.category = .stringLiteral) :
    ∃ content, '"' ∉ content ∧
      (lexeme = ⟨.stringLiteral, .text (String.ofList content), String.ofList content,
          '"' :: (content ++ ['"']), true⟩ ∨
        lexeme = ⟨.stringLiteral, .text (String.ofList content), String.ofList content,
          '"' :: content, false⟩ ∧ after = []) := by
  cases h with
  | closedString hContent => exact ⟨_, hContent, Or.inl rfl⟩
  | openString hContent => exact ⟨_, hContent, Or.inr ⟨rfl, rfl⟩⟩
  | word _ _ _ =>
      dsimp only at hCategory
      split at hCategory <;> cases hCategory
  | number _ _ _ _ _ _ => cases hCategory
  | sign hSign _ => exact absurd hCategory (category_ne_of_mem_signs hSign).2.1
  | illegal _ _ _ _ _ => cases hCategory

/-- **Only a `stringLiteral` can hold white space.** -/
theorem Fits.blank_notMem {lexeme : Lexeme} {after : List Char} (h : lexeme.Fits after)
    (hCategory : lexeme.category ≠ .stringLiteral) {blank : Char} (hBlank : isBlank blank = true) :
    blank ∉ lexeme.raw := by
  have hPart := isWordPart_eq_false_of_isBlank hBlank
  have hDigit := (marks_of_isBlank hBlank).1
  cases h with
  -- the characters of words and numbers are of classes without white space
  | word hStart hParts _ =>
      intro hMem
      rcases List.mem_cons.mp hMem with rfl | hMem
      · rw [isWordPart_of_isWordStart hStart] at hPart
        cases hPart
      · rw [hParts _ hMem] at hPart
        cases hPart
  | number hFirst hMore _ _ _ _ =>
      intro hMem
      rcases List.mem_cons.mp hMem with rfl | hMem
      · rw [hFirst] at hDigit
        cases hDigit
      · rcases hMore _ hMem with hOther | rfl
        · rw [hOther] at hDigit
          cases hDigit
        · exact absurd hBlank (by decide +kernel)
  | closedString _ => exact absurd rfl hCategory
  | openString _ => exact absurd rfl hCategory
  -- the signs are finitely many
  | @sign raw _ category hMember _ =>
      have hAll : signs.all (fun sign => sign.1.all fun c => !isBlank c) = true := by decide +kernel
      have hRaw := List.all_eq_true.mp (List.all_eq_true.mp hAll _ hMember)
      intro hMem
      simpa [hBlank] using hRaw _ hMem
  | illegal hGap _ _ _ _ =>
      intro hMem
      cases List.mem_singleton.mp hMem
      exact hGap (beginsGap_cons.mpr (Or.inl hBlank))

/-- `lexeme.text.toList = lexeme.raw` for everything but a string. -/
theorem Fits.toList_text {lexeme : Lexeme} {after : List Char} (h : lexeme.Fits after)
    (hCategory : lexeme.category ≠ .stringLiteral) : lexeme.text.toList = lexeme.raw := by
  cases h with
  | closedString _ => exact absurd rfl hCategory
  | openString _ => exact absurd rfl hCategory
  | _ => exact String.toList_ofList

/-- `lexeme.closed` for everything but a string. -/
theorem Fits.closed_of_ne {lexeme : Lexeme} {after : List Char} (h : lexeme.Fits after)
    (hCategory : lexeme.category ≠ .stringLiteral) : lexeme.closed = true := by
  cases h with
  | openString _ => exact absurd rfl hCategory
  | _ => rfl

/-- Only a `stringLiteral` can be open, and then it has only its opening quote. -/
theorem Fits.open_cases {lexeme : Lexeme} {after : List Char} (h : lexeme.Fits after)
    (hOpen : lexeme.closed = false) :
    lexeme.category = .stringLiteral ∧ ∃ content, lexeme.raw = '"' :: content ∧ '"' ∉ content := by
  cases h with
  | openString hContent => exact ⟨rfl, _, rfl, hContent⟩
  | _ => cases hOpen

/-- `after = []` behind an open lexeme: only the end of the text follows it. -/
theorem Fits.after_eq_nil {lexeme : Lexeme} {after : List Char} (h : lexeme.Fits after)
    (hOpen : lexeme.closed = false) : after = [] := by
  cases h with
  | openString _ => rfl
  | _ => cases hOpen

end Lexeme

end MarkupScan
