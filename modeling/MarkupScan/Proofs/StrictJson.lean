import MarkupScan.Proofs.JsonDump
import MarkupScan.Proofs.Reading
import MarkupScan.Proofs.Rounding

/-! # Which dumps are strict JSON

A dump has words for the numbers that are not finite. Readers that take only the literals of finite
numbers accept it where no such word occurs, that is, where every numeral of the text denotes less
than what rounds to infinity.

Main definitions.
* **`JsonText.Value.numbers`**: the number literals of a value.
* **`JsonText.Restricts`**: a way to spell values is another one with a condition on the value.

Main statements.
* **`JsonText.restricts_spells`**: dialects differ in the number literals of values only.
* **`Lexeme.Fits.number_cases`**: what a number of a text carries.
* **`JsonText.document_strict_iff`**, **`JsonText.isNumber_write_iff`**: which texts are strict
  JSON, and which numbers are written in it.
* **`dumpJson_strict_iff`**: which dumps of scans are strict JSON. -/

namespace MarkupScan

open JsonText (Document IsNumber Value)

namespace JsonText

/-! ### Number literals -/

mutual

/-- The number literals of a value. -/
def Value.numbers : Value → List String
  | .null => []
  | .boolean _ => []
  | .number literal => [literal]
  | .string _ => []
  | .array items => itemNumbers items
  | .object members => memberNumbers members

/-- The number literals of items. -/
def itemNumbers : List Value → List String
  | [] => []
  | item :: items => item.numbers ++ itemNumbers items

/-- The number literals of members. -/
def memberNumbers : List (String × Value) → List String
  | [] => []
  | (_, value) :: members => value.numbers ++ memberNumbers members

end

/-- A condition on `itemNumbers items` is one on the literals of every item. -/
theorem forall_itemNumbers {p : String → Prop} {items : List Value} :
    (∀ literal ∈ itemNumbers items, p literal) ↔
      ∀ item ∈ items, ∀ literal ∈ item.numbers, p literal := by
  induction items with
  | nil => simp [itemNumbers]
  | cons item items ih => rw [itemNumbers, List.forall_mem_append, ih, List.forall_mem_cons]

/-- A condition on `memberNumbers members` is one on the literals of every value. -/
theorem forall_memberNumbers {p : String → Prop} {members : List (String × Value)} :
    (∀ literal ∈ memberNumbers members, p literal) ↔
      ∀ member ∈ members, ∀ literal ∈ member.2.numbers, p literal := by
  induction members with
  | nil => simp [memberNumbers]
  | cons member members ih =>
      rw [memberNumbers, List.forall_mem_append, ih, List.forall_mem_cons]

/-! ### Dialects -/

variable {α : Type}

/-- **Among texts of at most `n` characters, `P` is `Q` with a condition on what is said.** -/
def Restricts (n : ℕ) (P Q : List Char → α → Prop) (R : α → Prop) : Prop :=
  ∀ raw a, raw.length ≤ n → (P raw a ↔ Q raw a ∧ R a)

section Restricts

variable {n : ℕ}

/-- `Padded` keeps `Restricts`: white space around something has no conditions. -/
theorem Restricts.padded {P Q : List Char → α → Prop} {R : α → Prop} (h : Restricts n P Q R) :
    Restricts n (Padded P) (Padded Q) R := by
  intro text a hLength
  constructor
  · rintro ⟨hFront, hRaw, hBack⟩
    simp only [List.length_append] at hLength
    obtain ⟨hOther, hCondition⟩ := (h _ a (by omega)).mp hRaw
    exact ⟨.intro hFront hOther hBack, hCondition⟩
  · rintro ⟨⟨hFront, hRaw, hBack⟩, hCondition⟩
    simp only [List.length_append] at hLength
    exact .intro hFront ((h _ a (by omega)).mpr ⟨hRaw, hCondition⟩) hBack

/-- `Member` keeps `Restricts`: names have no conditions. -/
theorem Restricts.member {P Q : List Char → Value → Prop} {R : Value → Prop}
    (h : Restricts n P Q R) : Restricts n (Member P) (Member Q) fun member => R member.2 := by
  intro text a hLength
  constructor
  · rintro ⟨hName, hValue⟩
    simp only [List.length_append, List.length_cons] at hLength
    obtain ⟨hOther, hCondition⟩ := (h.padded _ _ (by omega)).mp hValue
    exact ⟨.intro hName hOther, hCondition⟩
  · rintro ⟨⟨hName, hValue⟩, hCondition⟩
    simp only [List.length_append, List.length_cons] at hLength
    exact .intro hName ((h.padded _ _ (by omega)).mpr ⟨hValue, hCondition⟩)

/-- `Separated` keeps `Restricts`: a condition on a list is one on every member. -/
theorem Restricts.separated {P Q : List Char → α → Prop} {R : α → Prop} (h : Restricts n P Q R) :
    Restricts n (Separated P) (Separated Q) fun as => ∀ a ∈ as, R a := by
  intro text as hLength
  constructor
  · intro hText
    -- each part is shorter than the whole, so that the condition is known for it
    induction hText with
    | last hRaw =>
        obtain ⟨hOther, hCondition⟩ := (h _ _ hLength).mp hRaw
        exact ⟨.last hOther, List.forall_mem_singleton.mpr hCondition⟩
    | more hRaw _ ih =>
        simp only [List.length_append, List.length_cons] at hLength
        obtain ⟨hOther, hCondition⟩ := (h _ _ (by omega)).mp hRaw
        obtain ⟨hRest, hConditions⟩ := ih (by omega)
        exact ⟨.more hOther hRest, List.forall_mem_cons.mpr ⟨hCondition, hConditions⟩⟩
  · rintro ⟨hText, hConditions⟩
    induction hText with
    | last hRaw =>
        exact .last ((h _ _ hLength).mpr ⟨hRaw, List.forall_mem_singleton.mp hConditions⟩)
    | more hRaw _ ih =>
        simp only [List.length_append, List.length_cons] at hLength
        obtain ⟨hCondition, hRest⟩ := List.forall_mem_cons.mp hConditions
        exact .more ((h _ _ (by omega)).mpr ⟨hRaw, hCondition⟩) (ih (by omega) hRest)

end Restricts

/-- What is a literal in some dialect is one in `Dialect.extended`. -/
theorem Dialect.IsLiteral.extended {d : Dialect} {literal : String} (h : d.IsLiteral literal) :
    Dialect.extended.IsLiteral literal := by
  cases d with
  | strict => exact Or.inl (h.resolve_right List.not_mem_nil)
  | extended => exact h

section Spells

variable {d : Dialect} {n : ℕ} {raw : List Char}

/-- Items of a dialect are items of the `extended` one with a condition on their literals, if values
are. -/
theorem Restricts.items
    (h : Restricts n (Spells d) (Spells .extended) fun value =>
      ∀ literal ∈ value.numbers, d.IsLiteral literal)
    (hLength : raw.length ≤ n) {items : List Value} :
    Separated (Padded (Spells d)) raw items ↔
      Separated (Padded (Spells .extended)) raw items ∧
        ∀ literal ∈ itemNumbers items, d.IsLiteral literal := by
  rw [forall_itemNumbers]
  exact h.padded.separated raw items hLength

/-- Members of a dialect are members of the `extended` one with a condition on their literals, if
values are. -/
theorem Restricts.members
    (h : Restricts n (Spells d) (Spells .extended) fun value =>
      ∀ literal ∈ value.numbers, d.IsLiteral literal)
    (hLength : raw.length ≤ n) {members : List (String × Value)} :
    Separated (Member (Spells d)) raw members ↔
      Separated (Member (Spells .extended)) raw members ∧
        ∀ literal ∈ memberNumbers members, d.IsLiteral literal := by
  rw [forall_memberNumbers]
  exact h.member.separated raw members hLength

end Spells

/-- **Dialects differ in the number literals of values only:** `Spells d` is `Spells .extended` with
a condition on `value.numbers`. -/
theorem restricts_spells (d : Dialect) (n : ℕ) :
    Restricts n (Spells d) (Spells .extended) fun value =>
      ∀ literal ∈ value.numbers, d.IsLiteral literal := by
  -- what stands in brackets is shorter than the whole
  induction n using Nat.strongRecOn with
  | ind n ih =>
      intro text value hLength
      constructor
      · intro h
        cases h with
        | null => exact ⟨.null, by simp [Value.numbers]⟩
        | yes => exact ⟨.yes, by simp [Value.numbers]⟩
        | no => exact ⟨.no, by simp [Value.numbers]⟩
        | number h => exact ⟨.number h.extended, by simpa [Value.numbers] using h⟩
        | string h => exact ⟨.string h, by simp [Value.numbers]⟩
        | noItems h => exact ⟨.noItems h, by simp [Value.numbers, itemNumbers]⟩
        | items h =>
            simp only [List.length_append, List.length_cons] at hLength
            obtain ⟨hOther, hNumbers⟩ := ((ih _ (by omega)).items (Nat.le_refl _)).mp h
            exact ⟨.items hOther, by simpa only [Value.numbers] using hNumbers⟩
        | noMembers h => exact ⟨.noMembers h, by simp [Value.numbers, memberNumbers]⟩
        | members h =>
            simp only [List.length_append, List.length_cons] at hLength
            obtain ⟨hOther, hNumbers⟩ := ((ih _ (by omega)).members (Nat.le_refl _)).mp h
            exact ⟨.members hOther, by simpa only [Value.numbers] using hNumbers⟩
      · rintro ⟨h, hNumbers⟩
        cases h with
        | null => exact .null
        | yes => exact .yes
        | no => exact .no
        | number _ => exact .number (by simpa [Value.numbers] using hNumbers)
        | string h => exact .string h
        | noItems h => exact .noItems h
        | items h =>
            simp only [List.length_append, List.length_cons] at hLength
            rw [Value.numbers] at hNumbers
            exact .items (((ih _ (by omega)).items (Nat.le_refl _)).mpr ⟨h, hNumbers⟩)
        | noMembers h => exact .noMembers h
        | members h =>
            simp only [List.length_append, List.length_cons] at hLength
            rw [Value.numbers] at hNumbers
            exact .members (((ih _ (by omega)).members (Nat.le_refl _)).mpr ⟨h, hNumbers⟩)

/-- **A text is a `strict` document** exactly if it is an `extended` one and its number literals
satisfy `IsNumber`. -/
theorem document_strict_iff {text : List Char} {value : Value} :
    Document .strict text value ↔
      Document .extended text value ∧ ∀ literal ∈ value.numbers, IsNumber literal.toList := by
  have hLiteral : ∀ literal, Dialect.strict.IsLiteral literal ↔ IsNumber literal.toList :=
    fun literal => or_iff_left List.not_mem_nil
  simp only [← hLiteral]
  exact (restricts_spells .strict text.length).padded text value (Nat.le_refl _)

/-- **Exactly the finite numbers are written as the literals of numbers:** `IsNumber` of what is
written is `x.IsFinite`. -/
theorem isNumber_write_iff (x : Number.Binary64) :
    IsNumber (Number.jsonLayout.write x).toList ↔ x.IsFinite := by
  have hWords : ∀ word ∈ ["Infinity", "-Infinity", "NaN"], ¬ IsNumber word.toList := by
    simp only [← isNumber_iff]
    decide
  cases x with
  | finite negative x => exact iff_of_true (isNumber_write_finite negative x) ⟨_, _, rfl⟩
  | infinite negative =>
      refine iff_of_false (hWords _ ?_) (by rintro ⟨_, _, _, ⟨⟩⟩)
      cases negative <;> decide
  | nan => exact iff_of_false (hWords _ (by decide)) (by rintro ⟨_, _, _, ⟨⟩⟩)

end JsonText

/-! ### Numbers of a text -/

/-- A `number` of a text carries what its numeral rounds to, and nothing else carries a number. -/
theorem Lexeme.Fits.number_cases {lexeme : Lexeme} {after : List Char} (h : lexeme.Fits after) :
    (lexeme.category = .number ∧ ∃ whole fraction : List Char,
        lexeme.value = .number (.ofDigits false whole fraction) ∧
          Number.exactValue lexeme.text.toList
            = Number.digitsValue (whole ++ fraction) / 10 ^ fraction.length) ∨
      lexeme.category ≠ .number ∧ ∀ x, lexeme.value ≠ .number x := by
  cases h with
  -- the value of a number is that of its numeral, by digits and fraction
  | @number first more after value hFirst hMore hPoints _ _ hValue =>
      obtain ⟨digits, point, fraction, rfl, hDigits, hFraction, hCases⟩ :=
        Lexeme.exists_numeral hMore hPoints
      have hPoint : point = ['.'] ∨ point = [] ∧ fraction = [] :=
        hCases.imp_right fun h => ⟨h.1, h.2.1⟩
      have hNumeral := Number.Binary64.ofText?_numeral hFirst hDigits hFraction hPoint
      rw [List.cons_append, List.cons_append, hValue] at hNumeral
      refine Or.inl ⟨rfl, first :: digits, fraction, by rw [Option.some.inj hNumeral], ?_⟩
      rw [String.toList_ofList, ← List.cons_append, ← List.cons_append]
      exact Number.exactValue_append (List.forall_mem_cons.mpr ⟨hFirst, hDigits⟩) hFraction hPoint
  | word _ _ _ =>
      refine Or.inr ⟨?_, nofun⟩
      dsimp only
      split <;> decide
  | sign hSign _ =>
      have hAll : signs.all (fun sign => sign.2 != .number) = true := by decide
      exact Or.inr ⟨by simpa using List.all_eq_true.mp hAll _ hSign, nofun⟩
  | _ => exact Or.inr ⟨nofun, nofun⟩

/-! ### Dumps -/

/-- The literals of `payload.dumped` satisfy `IsNumber` unless it is a number that is not finite. -/
theorem Payload.forall_numbers_dumped (payload : Payload) :
    (∀ literal ∈ payload.dumped.numbers, IsNumber literal.toList) ↔
      ∀ x, payload = .number x → x.IsFinite := by
  cases payload with
  | none => simp [dumped, Value.numbers]
  | text content => simp [dumped, Value.numbers]
  | number x => simp [dumped, Value.numbers, JsonText.isNumber_write_iff]

/-- The number literals of `t.dumped` are that of what it carries, if any, and those of its place.
-/
theorem Token.numbers_dumped (t : Token) :
    t.dumped.numbers = t.value.dumped.numbers ++ [toString t.line, toString t.column] := by
  simp [dumped, Value.numbers, JsonText.memberNumbers]

/-- **A dump is `strict` JSON** exactly if all numbers that its tokens carry are finite. -/
theorem document_dumpJson_strict_iff (tokens : List Token) (value : Value) :
    Document .strict (dumpJson tokens).toList value ↔
      value = .array (tokens.map Token.dumped) ∧
        ∀ t ∈ tokens, ∀ x, t.value = .number x → x.IsFinite := by
  have hExtended : Document .extended (dumpJson tokens).toList value ↔
      value = .array (tokens.map Token.dumped) := by
    have hRead := JsonText.read?_eq_some_iff.mpr (document_dumpJson tokens)
    rw [← JsonText.read?_eq_some_iff, hRead, Option.some.injEq, eq_comm]
  rw [JsonText.document_strict_iff, hExtended]
  refine and_congr_right ?_
  rintro rfl
  rw [Value.numbers, JsonText.forall_itemNumbers, List.forall_mem_map]
  refine forall₂_congr fun t _ => ?_
  rw [t.numbers_dumped, List.forall_mem_append, t.value.forall_numbers_dumped]
  refine and_iff_left (List.forall_mem_cons.mpr ⟨?_, List.forall_mem_singleton.mpr ?_⟩)
  · exact JsonText.isNumber_toString t.line
  · exact JsonText.isNumber_toString t.column

/-- The number that a token of a text carries is finite exactly if its numeral denotes less than
`2 ^ 1024 - 2 ^ 970`. -/
theorem finite_value_iff {source : List Char} {t : Token} (ht : t ∈ (scanChars source).tokens) :
    (∀ x, t.value = .number x → x.IsFinite) ↔
      (t.category = .number → Number.exactValue t.text.toList < 2 ^ 1024 - 2 ^ 970) := by
  rcases (reading_scanChars source).token_cases ht with rfl | ⟨a, b, lexeme, hFits, rfl⟩
  · -- the end of input is no number and carries none
    exact iff_of_true nofun nofun
  rcases hFits.number_cases with
    ⟨hCategory, whole, fraction, hValue, hExact⟩ | ⟨hCategory, hValue⟩
  · have hFinite := Number.Binary64.ofDigits_finite_iff false whole fraction
    simp only [Lexeme.tokenAt, hCategory, hValue, hExact, Payload.number.injEq, forall_eq',
      true_imp_iff, hFinite]
  · exact iff_of_true (fun x hx => absurd hx (hValue x)) fun h => absurd h hCategory

/-- **Which dumps of scans are strict JSON.** What the dump of the tokens of a text says in strict
JSON is what it says at all, and it says it exactly if every numeral of the text denotes less than
`2 ^ 1024 - 2 ^ 970`. From there on numbers are infinite, and the dump is no strict JSON text of
any value. -/
theorem dumpJson_strict_iff (source : String) (value : Value) :
    Document .strict (dumpJson (scan source).tokens).toList value ↔
      value = .array ((scan source).tokens.map Token.dumped) ∧
        ∀ t ∈ (scan source).tokens, t.category = .number →
          Number.exactValue t.text.toList < 2 ^ 1024 - 2 ^ 970 := by
  rw [document_dumpJson_strict_iff]
  exact and_congr_right fun _ => forall₂_congr fun t ht => finite_value_iff ht

/-- A two with 308 zeros behind it is too great. -/
theorem dumpJson_strict_iff_overflow :
    let source := String.ofList ('2' :: List.replicate 308 '0')
    ¬ ∃ value, Document .strict (dumpJson (scan source).tokens).toList value := by
  intro source
  rintro ⟨value, hDocument⟩
  have hScan : scan source = scanChars ('2' :: List.replicate 308 '0') :=
    congrArg scanChars String.toList_ofList
  obtain ⟨t, ht, hCategory, hText⟩ : ∃ t ∈ (scanChars ('2' :: List.replicate 308 '0')).tokens,
      t.category = .number ∧ t.text = String.ofList ('2' :: List.replicate 308 '0') := by
    decide +kernel
  have hBelow := ((dumpJson_strict_iff source value).mp hDocument).2 t (by rwa [hScan]) hCategory
  have hDigits :
      2 ^ 1024 ≤ Number.digitsValue (('2' :: List.replicate 308 '0').filter Number.isDigit) ∧
        (('2' :: List.replicate 308 '0').dropWhile Number.isDigit).tail = [] := by
    decide +kernel
  have hLarge : (2 : ℚ) ^ 1024 ≤ Number.exactValue t.text.toList := by
    rw [hText, String.toList_ofList, Number.exactValue, hDigits.2, List.length_nil, pow_zero,
      div_one]
    exact_mod_cast hDigits.1
  have hHalf : (0 : ℚ) ≤ 2 ^ 970 := pow_nonneg (by decide) 970
  exact absurd (hBelow.trans_le (sub_le_self _ hHalf)) (not_lt.mpr hLarge)

end MarkupScan
