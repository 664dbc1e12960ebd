import Mathlib.Data.List.Basic
import MarkupScan.Proofs.CharacterClasses
import MarkupScan.Proofs.JsonGrammar

/-! # Reading the numbers and strings of JSON texts

The literals of numbers are recognized part by part. Strings are read as code units, some of which are
halves of pairs, and the text is put together from them.

Main definitions.
* **`isNumber`**: recognizes the literals of numbers.
* **`readBody`**: the code units up to the closing quote.
* **`textOf?`**: the text that code units are of.

Main statements.
* **`isNumber_iff`**: exactly the literals of numbers are recognized.
* **`textOf?_unitsOf`**, **`eq_unitsOf_of_textOf?`**: a text and its code units determine each other.
* **`readBody_of_spelled`**, **`spelled_of_readBody`**: what is read is what is spelled. -/

namespace MarkupScan.JsonText

open Number (isDigit)

/-! ### Recognizing numbers -/

/-- Whether the text is `Digits`: at least one, and only digits. -/
def areDigits (text : List Char) : Bool := !text.isEmpty && text.all isDigit

/-- Whether the text is digits, the first of which is zero only if it is alone. -/
def isWhole (text : List Char) : Bool := areDigits text && (text.head? != some '0' || text == ['0'])

/-- The text without `-` in front. -/
def dropMinus : List Char → List Char
  | '-' :: rest => rest
  | text => text

/-- The text without `+` or `-` in front. -/
def dropSign : List Char → List Char
  | '+' :: rest => rest
  | text => dropMinus text

/-- Whether the text is a power of ten, or nothing. -/
def isPower : List Char → Bool
  | [] => true
  | mark :: rest => (mark == 'e' || mark == 'E') && areDigits (dropSign rest)

/-- Whether the text is a fraction and a power of ten, each of which may be nothing. -/
def isTail : List Char → Bool
  | '.' :: rest => areDigits (rest.takeWhile isDigit) && isPower (rest.dropWhile isDigit)
  | text => isPower text

/-- Whether the text is the literal of a number. -/
def isNumber (text : List Char) : Bool :=
  isWhole ((dropMinus text).takeWhile isDigit) && isTail ((dropMinus text).dropWhile isDigit)

/-- `areDigits` recognizes `Digits`. -/
theorem areDigits_iff {text : List Char} : areDigits text = true ↔ Digits text := by
  simp [areDigits, Digits]

/-- `isWhole` recognizes `IsWhole`. -/
theorem isWhole_iff {text : List Char} : isWhole text = true ↔ IsWhole text := by
  simp [isWhole, IsWhole, areDigits_iff, imp_iff_not_or]

/-- A text is `dropMinus text`, with a minus sign in front or not. -/
theorem exists_minus (text : List Char) : ∃ sign ∈ [[], ['-']], text = sign ++ dropMinus text := by
  unfold dropMinus
  split
  · exact ⟨['-'], by simp⟩
  · exact ⟨[], by simp⟩

/-- A text is `dropSign text`, with a sign in front or not. -/
theorem exists_sign (text : List Char) :
    ∃ sign ∈ [[], ['+'], ['-']], text = sign ++ dropSign text := by
  unfold dropSign
  split
  · exact ⟨['+'], by simp⟩
  · obtain ⟨sign, hSign, hText⟩ := exists_minus text
    exact ⟨sign, by simp at hSign ⊢; tauto, hText⟩

/-- `dropMinus` drops `sign` only: digits begin with no sign. -/
theorem dropMinus_append {sign digits rest : List Char} (hSign : sign ∈ [[], ['-']])
    (hDigits : Digits digits) : dropMinus (sign ++ digits ++ rest) = digits ++ rest := by
  obtain ⟨c, more, rfl⟩ := List.exists_cons_of_ne_nil hDigits.1
  have hc : isDigit c = true := hDigits.2 c List.mem_cons_self
  have hMinus : c ≠ '-' := by
    rintro rfl
    cases hc
  simp only [List.mem_cons, List.not_mem_nil, or_false] at hSign
  rcases hSign with rfl | rfl
  · simp [dropMinus, hMinus]
  · rfl

/-- `dropSign` drops `sign` only: digits begin with no sign of either kind. -/
theorem dropSign_append {sign digits : List Char} (hSign : sign ∈ [[], ['+'], ['-']])
    (hDigits : Digits digits) : dropSign (sign ++ digits) = digits := by
  have hMinus : dropMinus ([] ++ digits ++ []) = digits ++ [] :=
    dropMinus_append List.mem_cons_self hDigits
  obtain ⟨c, more, rfl⟩ := List.exists_cons_of_ne_nil hDigits.1
  have hc : isDigit c = true := hDigits.2 c List.mem_cons_self
  have hPlus : c ≠ '+' := by
    rintro rfl
    cases hc
  simp only [List.mem_cons, List.not_mem_nil, or_false] at hSign
  rcases hSign with rfl | rfl | rfl
  · simpa [dropSign, hPlus] using hMinus
  · rfl
  · rfl

/-- `isPower` recognizes `IsPower`. -/
theorem isPower_iff {text : List Char} : isPower text = true ↔ IsPower text := by
  constructor
  · intro h
    cases text with
    | nil => exact Or.inl rfl
    | cons mark rest =>
        obtain ⟨sign, hSign, hRest⟩ := exists_sign rest
        simp only [isPower, Bool.and_eq_true, Bool.or_eq_true, beq_iff_eq, areDigits_iff] at h
        refine Or.inr ⟨mark, sign, dropSign rest, by simpa using h.1, hSign, h.2, ?_⟩
        rw [List.cons_append, ← hRest]
  · rintro (rfl | ⟨mark, sign, digits, hMark, hSign, hDigits, rfl⟩)
    · rfl
    · simp only [List.cons_append, isPower, dropSign_append hSign hDigits,
        areDigits_iff.mpr hDigits]
      simpa using hMark

/-- A power of ten begins with its mark `e` or `E`. -/
theorem IsPower.head?_cases {power : List Char} (h : IsPower power) :
    ∀ c ∈ power.head?, c = 'e' ∨ c = 'E' := by
  rcases h with rfl | ⟨mark, sign, digits, hMark, -, -, rfl⟩
  · simp
  · simpa using hMark

/-- `isTail` recognizes what follows the whole part of a number. -/
theorem isTail_iff {text : List Char} :
    isTail text = true ↔ ∃ fraction power, IsFraction fraction ∧ IsPower power ∧
      text = fraction ++ power := by
  constructor
  · intro h
    unfold isTail at h
    split at h
    · rename_i rest
      simp only [Bool.and_eq_true, areDigits_iff, isPower_iff] at h
      refine ⟨_, _, Or.inr ⟨_, h.1, rfl⟩, h.2, ?_⟩
      rw [List.cons_append, List.takeWhile_append_dropWhile]
    · exact ⟨[], text, Or.inl rfl, isPower_iff.mp h, rfl⟩
  · rintro ⟨fraction, power, hFraction, hPower, rfl⟩
    -- a power of ten begins with its mark, so that a point belongs to a fraction
    have hHead := hPower.head?_cases
    rcases hFraction with rfl | ⟨digits, hDigits, rfl⟩
    · unfold isTail
      split
      · rename_i rest hPoint
        rw [List.nil_append] at hPoint
        rw [hPoint] at hHead
        simp at hHead
      · exact isPower_iff.mpr hPower
    · have hStop : ∀ c ∈ power.head?, isDigit c = false := by
        intro c hc
        rcases hHead c hc with rfl | rfl
        · rfl
        · rfl
      obtain ⟨hTake, hDrop⟩ := takeWhile_append_stop hDigits.2 hStop
      simp only [List.cons_append, isTail, hTake, hDrop, areDigits_iff.mpr hDigits,
        isPower_iff.mpr hPower, Bool.and_self]

/-- **The literals of numbers are recognized:** `isNumber` by `IsNumber`. -/
theorem isNumber_iff {text : List Char} : isNumber text = true ↔ IsNumber text := by
  constructor
  · intro h
    simp only [isNumber, Bool.and_eq_true, isWhole_iff, isTail_iff] at h
    obtain ⟨hWhole, fraction, power, hFraction, hPower, hTail⟩ := h
    obtain ⟨sign, hSign, hText⟩ := exists_minus text
    refine ⟨sign, _, fraction, power, hSign, hWhole, hFraction, hPower, ?_⟩
    rw [List.append_assoc, List.append_assoc, ← hTail, List.takeWhile_append_dropWhile]
    exact hText
  · rintro ⟨sign, whole, fraction, power, hSign, hWhole, hFraction, hPower, rfl⟩
    -- the whole part ends where the tail begins: with a point or with the mark of a power
    have hStop : ∀ c ∈ (fraction ++ power).head?, isDigit c = false := by
      intro c hc
      rcases hFraction with rfl | ⟨digits, -, rfl⟩
      · rcases hPower.head?_cases c hc with rfl | rfl
        · rfl
        · rfl
      · cases hc
        rfl
    obtain ⟨hTake, hDrop⟩ := takeWhile_append_stop hWhole.1.2 hStop
    rw [isNumber, List.append_assoc (sign ++ whole), dropMinus_append hSign hWhole.1, hTake, hDrop,
      isWhole_iff.mpr hWhole, isTail_iff.mpr ⟨fraction, power, hFraction, hPower, rfl⟩]
    rfl

/-! ### Reading strings -/

/-- Whether `unit` is a character of its own, and not half of a pair. -/
def isWholeUnit (unit : Nat) : Bool := unit < 0xD800 || (0xE000 ≤ unit && unit < 0x10000)

/-- The text with the given code units; `none` if half of a pair stands alone. -/
def textOf? : List Nat → Option (List Char)
  | [] => some []
  | unit :: rest =>
      if isWholeUnit unit then (textOf? rest).map (Char.ofNat unit :: ·)
      else
        match rest with
        | [] => none
        | low :: rest =>
            if 0xD800 ≤ unit ∧ unit < 0xDC00 ∧ 0xDC00 ≤ low ∧ low < 0xE000 then
              (textOf? rest).map
                (Char.ofNat (0x10000 + 0x400 * (unit - 0xD800) + (low - 0xDC00)) :: ·)
            else none

/-- `(Char.ofNat n).toNat = n` for a valid code point. -/
theorem toNat_ofNat {n : Nat} (h : n.isValidChar) : (Char.ofNat n).toNat = n := by
  rw [Char.ofNat, dif_pos h]
  rfl

/-- `codeUnits (Char.ofNat unit) = [unit]` for a unit that is a character of its own. -/
theorem codeUnits_of_isWholeUnit {unit : Nat} (h : isWholeUnit unit = true) :
    Text.codeUnits (Char.ofNat unit) = [unit] := by
  simp only [isWholeUnit, Bool.or_eq_true, Bool.and_eq_true, decide_eq_true_eq] at h
  have hValid : unit.isValidChar := by
    unfold Nat.isValidChar
    omega
  rw [Text.codeUnits, toNat_ofNat hValid, if_pos (by omega)]

/-- The halves `high` and `low` of a pair are the `codeUnits` of the character that they make up. -/
theorem codeUnits_of_pair {high low : Nat} (hHigh : 0xD800 ≤ high) (hHigh' : high < 0xDC00)
    (hLow : 0xDC00 ≤ low) (hLow' : low < 0xE000) :
    Text.codeUnits (Char.ofNat (0x10000 + 0x400 * (high - 0xD800) + (low - 0xDC00)))
      = [high, low] := by
  have hValid : (0x10000 + 0x400 * (high - 0xD800) + (low - 0xDC00)).isValidChar := by
    unfold Nat.isValidChar
    omega
  rw [Text.codeUnits, toNat_ofNat hValid, if_neg (by omega)]
  simp only [List.cons.injEq, and_true]
  omega

/-- `textOf?` reads a unit that is a character of its own as that character. -/
theorem textOf?_cons {unit : Nat} (h : isWholeUnit unit = true) (rest : List Nat) :
    textOf? (unit :: rest) = (textOf? rest).map (Char.ofNat unit :: ·) := by
  cases rest with
  | nil => simp [textOf?, h]
  | cons low rest => rw [textOf?, if_pos h]

/-- **A text is read back from its units:** `textOf? (unitsOf text) = some text`. -/
theorem textOf?_unitsOf (text : List Char) : textOf? (unitsOf text) = some text := by
  induction text with
  | nil => rfl
  | cons c text ih =>
      have hBack : Char.ofNat c.toNat = c := Char.ofNat_toNat c
      have hValid : c.toNat < 0xD800 ∨ 0xDFFF < c.toNat ∧ c.toNat < 0x110000 := c.valid
      have hUnits : unitsOf (c :: text) = Text.codeUnits c ++ unitsOf text := rfl
      rw [hUnits, Text.codeUnits]
      split
      · have hWhole : isWholeUnit c.toNat = true := by
          simp [isWholeUnit]
          omega
        rw [List.singleton_append, textOf?_cons hWhole, ih, hBack]
        rfl
      · -- the two halves of a pair
        have hHalf : ¬ isWholeUnit (0xD800 + (c.toNat - 0x10000) / 0x400) = true := by
          simp [isWholeUnit]
          omega
        have hSum : 0x10000 + 0x400 * (0xD800 + (c.toNat - 0x10000) / 0x400 - 0xD800)
            + (0xDC00 + (c.toNat - 0x10000) % 0x400 - 0xDC00) = c.toNat := by omega
        simp only [List.cons_append, List.nil_append]
        rw [textOf?, if_neg hHalf, if_pos (by omega), ih, hSum, hBack]
        rfl

/-- Only `unitsOf text` are read as `text`. -/
theorem eq_unitsOf_of_textOf? {units : List Nat} {text : List Char}
    (h : textOf? units = some text) : units = unitsOf text := by
  fun_induction textOf? units generalizing text with
  | case1 =>
      cases h
      rfl
  | case2 unit rest hWhole ih =>
      obtain ⟨tail, hTail, rfl⟩ := Option.map_eq_some_iff.mp h
      rw [unitsOf, List.flatMap_cons, codeUnits_of_isWholeUnit hWhole, ih hTail]
      rfl
  | case3 unit hHalf => cases h
  | case4 unit hHalf low rest hPair ih =>
      obtain ⟨tail, hTail, rfl⟩ := Option.map_eq_some_iff.mp h
      obtain ⟨hHigh, hHigh', hLow, hLow'⟩ := hPair
      rw [unitsOf, List.flatMap_cons, codeUnits_of_pair hHigh hHigh' hLow hLow', ih hTail]
      rfl
  | case5 => cases h

/-- The code units up to the closing quote, and what follows it; `none` without that quote. -/
def readBody : List Char → Option (List Nat × List Char)
  | [] => none
  | '"' :: rest => some ([], rest)
  | '\\' :: 'u' :: a :: b :: c :: d :: rest =>
      if [a, b, c, d].all Text.isHexDigit then
        (readBody rest).map fun (units, rest) => (unitOf [a, b, c, d] :: units, rest)
      else none
  | '\\' :: letter :: rest =>
      (shortEscapes.lookup letter).bind fun c =>
        (readBody rest).map fun (units, rest) => (Text.codeUnits c ++ units, rest)
  | c :: rest =>
      if ' ' ≤ c ∧ c ≠ '\\' then
        (readBody rest).map fun (units, rest) => (Text.codeUnits c ++ units, rest)
      else none

/-- `shortEscapes.lookup` gives the character that is listed with the letter. -/
theorem lookup_shortEscapes_iff {letter c : Char} :
    shortEscapes.lookup letter = some c ↔ (letter, c) ∈ shortEscapes := by
  constructor
  · intro h
    obtain ⟨before, after, hList, -⟩ := List.lookup_eq_some_iff.mp h
    rw [hList]
    simp
  · intro h
    simp only [shortEscapes, List.mem_cons, Prod.mk.injEq, List.not_mem_nil, or_false] at h
    rcases h with ⟨rfl, rfl⟩ | ⟨rfl, rfl⟩ | ⟨rfl, rfl⟩ | ⟨rfl, rfl⟩ | ⟨rfl, rfl⟩ | ⟨rfl, rfl⟩ |
      ⟨rfl, rfl⟩ | ⟨rfl, rfl⟩ <;> rfl

/-- **The units between two quotes are read:** `readBody` gives what is `Spelled`. -/
theorem readBody_of_spelled {body : List Char} {units : List Nat} (h : Spelled body units)
    (rest : List Char) : readBody (body ++ '"' :: rest) = some (units, rest) := by
  induction h with
  | nil => rfl
  | plain hControl hQuote hBackslash h ih => 
      simp [readBody, hControl, hBackslash, ih]
  | @short letter c body units hLetter h ih =>
      have hu : letter ≠ 'u' := by
        rintro rfl
        revert hLetter
        simp [shortEscapes]
      have hFound := lookup_shortEscapes_iff.mpr hLetter
      simp [readBody, hu, hFound, ih]
  | @unit digits body units hLength hDigits h ih =>
      obtain ⟨a, b, c, d, rfl⟩ := List.length_eq_four.mp hLength
      have hAll : [a, b, c, d].all Text.isHexDigit = true := List.all_eq_true.mpr hDigits
      simp only [List.cons_append, List.nil_append, readBody, if_pos hAll, ih, Option.map_some]

/-- **What `readBody` reads up to the closing quote is `Spelled` there.** -/
theorem spelled_of_readBody {text rest : List Char} {units : List Nat}
    (h : readBody text = some (units, rest)) :
    ∃ body, text = body ++ '"' :: rest ∧ Spelled body units := by
  fun_induction readBody text generalizing units rest with
  | case1 => cases h
  | case2 rest =>
      cases h
      exact ⟨[], rfl, .nil⟩
  -- a unit by its digits
  | case3 a b c d text hAll ih =>
      obtain ⟨⟨tail, _⟩, hRead, hEq⟩ := Option.map_eq_some_iff.mp h
      cases hEq
      obtain ⟨body, rfl, hBody⟩ := ih hRead
      exact ⟨'\\' :: 'u' :: [a, b, c, d] ++ body, rfl, .unit rfl (List.all_eq_true.mp hAll) hBody⟩
  | case4 => cases h
  -- a character by its letter
  | case5 letter text hNotUnit ih =>
      obtain ⟨c, hLetter, hMap⟩ := Option.bind_eq_some_iff.mp h
      obtain ⟨⟨tail, _⟩, hRead, hEq⟩ := Option.map_eq_some_iff.mp hMap
      cases hEq
      obtain ⟨body, rfl, hBody⟩ := ih hRead
      exact ⟨'\\' :: letter :: body, rfl, .short (lookup_shortEscapes_iff.mp hLetter) hBody⟩
  -- a character that stands for itself
  | case6 c text hQuote _ _ hPlain ih =>
      obtain ⟨⟨tail, _⟩, hRead, hEq⟩ := Option.map_eq_some_iff.mp h
      cases hEq
      obtain ⟨body, rfl, hBody⟩ := ih hRead
      exact ⟨c :: body, rfl, .plain hPlain.1 hQuote hPlain.2 hBody⟩
  | case7 => cases h

end MarkupScan.JsonText
