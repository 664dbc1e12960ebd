import MarkupScan.Proofs.Requests

/-! # One character of lookahead

Where a lexeme ends is decided by its own characters and by the one behind them. So a lexeme stays
what it is when the text behind it is replaced by one that begins with the same character, or by
one that begins like a gap; and a change to a text leaves the tokens alone that ended before it.

Main definition.
* **`endingBefore`**: the tokens that end before an offset.

Main statements.
* **`Lexeme.Fits.of_next`**: a complete lexeme fits in front of every text that begins like the one
  behind it or like a gap.
* **`Reading.endingBefore_prefix`**: tokens that end before texts part are the first ones of both.
* **`endingBefore_tokens_eq`**: texts that agree up to an offset have the same tokens before it. -/

namespace MarkupScan

open Number (isDigit)

/-! ### The character behind a lexeme -/

/-- A blank or `/` continues neither a word nor a number nor a sign, and opens no comment behind a
slash. -/
theorem marks_of_gap {c : Char} (hc : isBlank c = true ∨ c = '/') :
    isWordPart c = false ∧ isDigit c = false ∧ c ≠ '.' ∧ c ≠ '=' ∧ c ≠ '*' := by
  have hMarks : (!isWordPart c && !isDigit c && c != '.' && c != '=' && c != '*') = true := by
    rcases hc with hBlank | rfl
    · exact forall_of_isBlank
        (p := fun c => !isWordPart c && !isDigit c && c != '.' && c != '=' && c != '*')
        (by decide +kernel) hBlank
    · decide +kernel
  simpa [and_assoc] using hMarks

namespace Lexeme

/-- A sign stays the longest one in front of a text that begins with no new `=`. -/
theorem longest_of_next {raw after other : List Char} {category : Category}
    (hSign : (raw, category) ∈ signs)
    (hLongest : ∀ sign ∈ signs, sign.1 <+: raw ++ after → sign.1.length ≤ raw.length)
    (hEquals : other.head? = some '=' → after.head? = some '=') :
    ∀ sign ∈ signs, sign.1 <+: raw ++ other → sign.1.length ≤ raw.length := by
  intro sign hOther hPrefix
  rcases mem_signs_cases hSign with ⟨c, rfl, -⟩ | ⟨c, rfl, -⟩
  · rcases mem_signs_cases hOther with ⟨d, hRaw, -⟩ | ⟨d, hRaw, -⟩
    · simp [hRaw]
    · -- the longer sign needs an `=` behind the character, and there is none
      refine hLongest sign hOther ?_
      rw [hRaw, List.singleton_append, List.cons_prefix_cons,
        List.singleton_prefix_iff_head?_eq_some] at hPrefix ⊢
      exact ⟨hPrefix.1, hEquals hPrefix.2⟩
  · -- no sign has more than two characters
    rcases mem_signs_cases hOther with ⟨d, hRaw, -⟩ | ⟨d, hRaw, -⟩ <;> simp [hRaw]

/-- **The next character decides.** A complete lexeme that fits in front of `after` fits in front of
every text that is empty, begins with the same character, or begins like a gap. -/
theorem Fits.of_next {lexeme : Lexeme} {after other : List Char} (h : lexeme.Fits after)
    (hClosed : lexeme.closed = true)
    (hNext : ∀ c ∈ other.head?, c ∈ after.head? ∨ isBlank c = true ∨ c = '/') :
    lexeme.Fits other := by
  cases h with
  | word hStart hParts hStop =>
      refine .word hStart hParts ?_
      intro c hc
      rcases hNext c hc with hSame | hGap
      · exact hStop c hSame
      · exact (marks_of_gap hGap).1
  | number hFirst hMore hPoints hDigit hPoint hValue =>
      refine .number hFirst hMore hPoints ?_ ?_ hValue
      · intro c hc
        rcases hNext c hc with hSame | hGap
        · exact hDigit c hSame
        · exact (marks_of_gap hGap).2.1
      · intro hNone hHead
        rcases hNext '.' hHead with hSame | hGap
        · exact hPoint hNone hSame
        · exact (marks_of_gap hGap).2.2.1 rfl
  | closedString hContent => exact .closedString hContent
  | openString _ => cases hClosed
  | sign hSign hLongest =>
      refine .sign hSign (longest_of_next hSign hLongest ?_)
      intro hHead
      rcases hNext '=' hHead with hSame | hGap
      · exact hSame
      · exact absurd rfl (marks_of_gap hGap).2.2.2.1
  | illegal hGap hWord hDigit hQuote hSign =>
      refine .illegal ?_ hWord hDigit hQuote hSign
      -- a slash becomes a comment only by the star behind it
      rw [beginsGap_cons] at hGap ⊢
      rintro (hBlank | ⟨rfl, hStar⟩)
      · exact hGap (Or.inl hBlank)
      · rcases hNext '*' hStar with hSame | hNew
        · exact hGap (Or.inr ⟨rfl, hSame⟩)
        · exact (marks_of_gap hNew).2.2.2.2 rfl

end Lexeme

/-! ### Texts with the same beginning -/

/-- `lexeme.tokenAt` is the same in two texts that agree up to `k`, for `b ≤ k`. -/
theorem Lexeme.tokenAt_eq_of_take_eq {source other : List Char} {k a b : ℕ}
    (hSame : source.take k = other.take k) (hab : a ≤ b) (hb : b ≤ k) (lexeme : Lexeme) :
    lexeme.tokenAt source a b = lexeme.tokenAt other a b := by
  rw [Lexeme.tokenAt, Lexeme.tokenAt,
    Position.ofOffset_eq_of_take_eq (take_eq_of_le hSame (hab.trans hb)),
    Position.ofOffset_eq_of_take_eq (take_eq_of_le hSame hb)]

/-- **A token is carried over.** Where two texts have the same first `k` characters, a gap and a
lexeme of one that end there or earlier are read in the other, if the lexeme fits in it. -/
theorem Reading.token_of_take_eq {source other : List Char} {k n a b : ℕ} {lexeme : Lexeme}
    {rest : Scan} (hSame : source.take k = other.take k) (hk : k ≤ other.length) (hna : n ≤ a)
    (hab : a ≤ b) (hb : b ≤ k) (hGap : Spacing (source.extract n a))
    (hRaw : source.extract a b = lexeme.raw) (hFits : lexeme.Fits (other.drop b))
    (hRest : Reading other b rest) :
    Reading other n ⟨lexeme.tokenAt source a b :: rest.tokens,
      Scanner.stringWarnings lexeme (lexeme.tokenAt source a b).span ++ rest.warnings⟩ := by
  rw [extract_eq_of_take_eq hSame n (hab.trans hb)] at hGap
  rw [extract_eq_of_take_eq hSame a hb] at hRaw
  rw [lexeme.tokenAt_eq_of_take_eq hSame hab hb]
  exact .token hna hab (hb.trans hk) hGap hRaw hFits hRest

/-! ### Tokens that end before an offset -/

/-- The tokens that end before the offset `k`. -/
def endingBefore (k : ℕ) (tokens : List Token) : List Token :=
  tokens.filter fun t => t.span.stop.offset < k

/-- A token that ends before `k` is kept in front of the others. -/
theorem endingBefore_cons_of_lt {k : ℕ} {t : Token} (ht : t.span.stop.offset < k)
    (tokens : List Token) : endingBefore k (t :: tokens) = t :: endingBefore k tokens := by
  rw [endingBefore, List.filter_cons_of_pos (by simpa using ht), endingBefore]

/-- `endingBefore k tokens = []` where no token ends before `k`. -/
theorem endingBefore_eq_nil {k : ℕ} {tokens : List Token}
    (hTokens : ∀ t ∈ tokens, (k : ℤ) ≤ t.span.stop.offset) : endingBefore k tokens = [] := by
  rw [endingBefore, List.filter_eq_nil_iff]
  intro t ht
  simpa using hTokens t ht

/-- The tokens of a `Reading` from `n` begin at `n` or later. -/
theorem Reading.le_start {source : List Char} {n : ℕ} {scan : Scan} (h : Reading source n scan) :
    ∀ t ∈ scan.tokens, (n : ℤ) ≤ t.span.start.offset := by
  intro t ht
  obtain ⟨a, b, hna, -, -, hSpan⟩ := h.advances.span_of_mem ht
  rw [hSpan]
  exact Int.ofNat_le.mpr hna

/-- The tokens of a `Reading` from `n` end at `n` or later. -/
theorem Reading.le_stop {source : List Char} {n : ℕ} {scan : Scan} (h : Reading source n scan) :
    ∀ t ∈ scan.tokens, (n : ℤ) ≤ t.span.stop.offset := by
  intro t ht
  obtain ⟨a, b, hna, hab, -, hSpan⟩ := h.advances.span_of_mem ht
  rw [hSpan]
  exact Int.ofNat_le.mpr (hna.trans hab)

/-- **What ended before texts part is read in both.** Where two texts have the same first `k`
characters, the tokens of one that end before the offset `k` are the first tokens of the other. -/
theorem Reading.endingBefore_prefix {source other : List Char} {k n : ℕ} {scan found : Scan}
    (hk : k ≤ source.length) (hkOther : k ≤ other.length)
    (hSame : source.take k = other.take k) (h : Reading source n scan)
    (hFound : Reading other n found) : endingBefore k scan.tokens <+: found.tokens := by
  have hNone : endingBefore k [endToken source] = [] := by
    refine endingBefore_eq_nil fun t ht => ?_
    rw [List.mem_singleton.mp ht]
    exact Int.ofNat_le.mpr hk
  induction h generalizing found with
  | closed _ _ =>
      rw [hNone]
      exact List.nil_prefix
  | openComment _ _ _ _ =>
      rw [hNone]
      exact List.nil_prefix
  | @token n a b lexeme scan hna hab hb hGap hRaw hFits hRest ih =>
      by_cases hbk : b < k
      · -- the other text has the same gap, the same lexeme and the same character behind it
        have hClosed : lexeme.closed = true := by
          by_contra hOpen
          have hNil := hFits.after_eq_nil (by simpa using hOpen)
          have hEnd := List.drop_eq_nil_iff.mp hNil
          omega
        have hFitsOther : lexeme.Fits (other.drop b) := by
          refine hFits.of_next hClosed fun c hc => Or.inl ?_
          rwa [head?_drop_eq_of_take_eq hSame hbk]
        obtain ⟨rest, hRestOther⟩ : ∃ rest, Reading other b rest :=
          exists_reading (hbk.le.trans hkOther)
        have hOther := Reading.token_of_take_eq hSame hkOther hna hab hbk.le hGap hRaw hFitsOther
          hRestOther
        have hStop : (lexeme.tokenAt source a b).span.stop.offset < k := Int.ofNat_lt.mpr hbk
        rw [hFound.unique hOther, endingBefore_cons_of_lt hStop, List.prefix_cons_inj]
        exact ih hRestOther
      · -- this token ends too late, and so do those behind it
        rw [endingBefore_eq_nil]
        · exact List.nil_prefix
        · intro t ht
          have hLate : (k : ℤ) ≤ b := by omega
          rcases List.mem_cons.mp ht with rfl | ht
          · exact hLate
          · exact Int.le_trans hLate (hRest.le_stop t ht)

/-- `endingBefore k tokens <+: more` implies that it is a prefix of `endingBefore k more`. -/
theorem prefix_endingBefore {k : ℕ} {tokens more : List Token}
    (h : endingBefore k tokens <+: more) : endingBefore k tokens <+: endingBefore k more := by
  have hFilter := h.filter fun t : Token => t.span.stop.offset < (k : ℤ)
  simp only [endingBefore, List.filter_filter, Bool.and_self] at hFilter ⊢
  exact hFilter

/-- **A change leaves alone what ended before it.** Where two texts have the same first `k`
characters, their tokens that end before the offset `k` are the same, in the same order and in the
same places, and they are the first tokens of both texts. -/
theorem endingBefore_tokens_eq {source other : List Char} {k : ℕ} (hk : k ≤ source.length)
    (hkOther : k ≤ other.length) (hSame : source.take k = other.take k) :
    endingBefore k (scanChars source).tokens = endingBefore k (scanChars other).tokens ∧
      endingBefore k (scanChars source).tokens <+: (scanChars source).tokens ∧
      endingBefore k (scanChars other).tokens <+: (scanChars other).tokens := by
  have h := reading_scanChars source
  have hOther := reading_scanChars other
  have hThere := h.endingBefore_prefix hk hkOther hSame hOther
  have hBack := hOther.endingBefore_prefix hkOther hk hSame.symm h
  refine ⟨?_, h.endingBefore_prefix hk hk rfl h,
    hOther.endingBefore_prefix hkOther hkOther rfl hOther⟩
  -- each of the two lists is a first part of the other
  have hForth := prefix_endingBefore hThere
  exact hForth.eq_of_length_le (prefix_endingBefore hBack).length_le

/-- In `a== 1 "` and in `a== 1./*` the last character in common is part of a longer number, and the
rest of the texts is left open in different ways; the word and the operator before it are the
same. -/
theorem endingBefore_tokens_number :
    5 ≤ "a== 1 \"".toList.length ∧ 5 ≤ "a== 1./*".toList.length ∧
      "a== 1 \"".toList.take 5 = "a== 1./*".toList.take 5 ∧
      (endingBefore 5 (scanChars "a== 1 \"".toList).tokens).map Token.text = ["a", "=="] ∧
      endingBefore 5 (scanChars "a== 1 \"".toList).tokens
        = endingBefore 5 (scanChars "a== 1./*".toList).tokens :=
  ⟨by decide, by decide, by decide, by decide +kernel,
    (endingBefore_tokens_eq (by decide) (by decide) (by decide)).1⟩

end MarkupScan
