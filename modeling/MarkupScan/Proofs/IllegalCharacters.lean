import MarkupScan.Notice
import MarkupScan.Proofs.Moving

/-! # Illegal characters stand alone

An illegal character is a token of its own, and no other token depends on which one it is: a lexeme
in front of it ends there because a blank would end it too, and one behind it begins anew. So any of
the illegal characters of a text can be blanked out, and only their tokens disappear.

Main definitions.
* **`Token.covers`**: the offsets of the characters that belong to a token.
* **`blankOut`**: a text with blanks in place of the characters of some of its tokens.

Main statements.
* **`Position.ofOffset_blankOut`**: blanking out what is no line feed moves nothing.
* **`Reading.blanked`**: a text is read as before, without the illegal tokens that are blanked out.
* **`scanChars_blankOut`**: blanking out illegal characters removes their tokens and changes nothing
  else. -/

namespace MarkupScan

open Position (ofOffset)

/-! ### Blanks in place of tokens -/

/-- The character at the offset `i` belongs to the token. -/
def Token.covers (t : Token) (i : ℕ) : Bool := t.span.start.offset ≤ i && i < t.span.stop.offset

/-- A token covers the offsets from `start` to before `stop`. -/
theorem Token.covers_iff {t : Token} {i : ℕ} :
    t.covers i = true ↔ t.span.start.offset ≤ i ∧ (i : ℤ) < t.span.stop.offset := by
  simp [covers]

/-- The text `source` with blanks in place of the characters that the tokens cover. -/
def blankOut (tokens : List Token) (source : List Char) : List Char :=
  source.mapIdx fun i c => if tokens.any (·.covers i) then ' ' else c

section BlankOut

variable (tokens : List Token) (source : List Char)

/-- `blankOut` keeps the length: every character stays in its place. -/
@[simp] theorem length_blankOut : (blankOut tokens source).length = source.length :=
  List.length_mapIdx

/-- `(blankOut tokens source)[i]?` is a blank where a token covers `i`, and `source[i]?` elsewhere.
-/
theorem getElem?_blankOut (i : ℕ) :
    (blankOut tokens source)[i]?
      = source[i]?.map fun c => if tokens.any (·.covers i) then ' ' else c :=
  List.getElem?_mapIdx

/-- What stands at `n` stood there before, or it is a blank. -/
theorem head?_drop_blankOut (n : ℕ) :
    ∀ c ∈ ((blankOut tokens source).drop n).head?, c ∈ (source.drop n).head? ∨ c = ' ' := by
  intro c hc
  rw [List.head?_drop, getElem?_blankOut] at hc
  rw [List.head?_drop]
  obtain ⟨d, hd, rfl⟩ := Option.map_eq_some_iff.mp hc
  split
  · exact Or.inr rfl
  · exact Or.inl hd

variable {tokens source}

/-- **What lies between the tokens stays:** `extract m n` is the same where no token reaches between
`m` and `n`. -/
theorem extract_blankOut {m n : ℕ}
    (hApart : ∀ t ∈ tokens, t.span.stop.offset ≤ m ∨ (n : ℤ) ≤ t.span.start.offset) :
    (blankOut tokens source).extract m n = source.extract m n := by
  apply List.ext_getElem?
  intro i
  rw [List.extract, List.extract, List.getElem?_take, List.getElem?_take]
  split
  · rename_i hi
    have hNone : tokens.any (·.covers (m + i)) = false := by
      rw [List.any_eq_false]
      intro t ht
      have hSide := hApart t ht
      rw [Token.covers_iff]
      omega
    rw [List.getElem?_drop, List.getElem?_drop, getElem?_blankOut, hNone]
    simp
  · rfl

/-- What stands behind the tokens stays: `drop n` is the same. -/
theorem drop_blankOut {n : ℕ} (hBefore : ∀ t ∈ tokens, t.span.stop.offset ≤ n) :
    (blankOut tokens source).drop n = source.drop n := by
  rw [← extract_length, ← extract_length, length_blankOut]
  exact extract_blankOut fun t ht => Or.inl (hBefore t ht)

/-- A token of one character becomes one blank. -/
theorem extract_blankOut_of_mem {t : Token} {a : ℕ} (ht : t ∈ tokens) (ha : a < source.length)
    (hSpan : t.span = ⟨ofOffset source a, ofOffset source (a + 1)⟩) :
    (blankOut tokens source).extract a (a + 1) = [' '] := by
  have hCovers : tokens.any (·.covers a) = true := by
    rw [List.any_eq_true]
    refine ⟨t, ht, Token.covers_iff.mpr ?_⟩
    rw [hSpan]
    exact ⟨Int.le_refl _, Int.lt_succ _⟩
  rw [List.extract, Nat.add_sub_cancel_left, List.take_one, List.head?_drop, getElem?_blankOut,
    hCovers, List.getElem?_eq_getElem ha]
  rfl

end BlankOut

/-! ### Places in a text with blanks -/

namespace Position

/-- `p.after` is the same for texts with line feeds in the same places. -/
theorem after_eq_of_map_eq (p : Position) {text other : List Char}
    (hFeeds : text.map (· == '\n') = other.map (· == '\n')) : p.after text = p.after other := by
  induction text generalizing p other with
  | nil =>
      rw [List.map_nil, eq_comm, List.map_eq_nil_iff] at hFeeds
      rw [hFeeds]
  | cons c text ih =>
      obtain ⟨d, other, rfl, hHead, hTail⟩ := List.map_eq_cons_iff.mp hFeeds.symm
      have hNext : p.next c = p.next d := by
        have hSame : c = '\n' ↔ d = '\n' := by
          rw [← beq_iff_eq, ← beq_iff_eq (a := d), hHead]
        simp only [next, hSame]
      rw [after_cons, after_cons, hNext, ih _ hTail.symm]

/-- **Blanking out what is no line feed moves nothing:** `ofOffset` is the same. -/
theorem ofOffset_blankOut {tokens : List Token} {source : List Char}
    (hFeeds : ∀ i, tokens.any (·.covers i) = true → source[i]? ≠ some '\n') {n : ℕ}
    (hn : n ≤ source.length) : ofOffset (blankOut tokens source) n = ofOffset source n := by
  have hMap : (blankOut tokens source).map (· == '\n') = source.map (· == '\n') := by
    apply List.ext_getElem?
    intro i
    rw [List.getElem?_map, List.getElem?_map, getElem?_blankOut]
    cases hChar : source[i]? with
    | none => rfl
    | some c =>
        by_cases hCovers : tokens.any (·.covers i) = true
        · have hFeed : c ≠ '\n' := fun h => hFeeds i hCovers (by rw [hChar, h])
          rw [hCovers, Option.map_some, Option.map_some, Option.map_some, beq_false_of_ne hFeed]
          rfl
        · rw [Bool.not_eq_true] at hCovers
          rw [hCovers]
          rfl
  -- so the two texts have the same line feeds before the offset
  rw [← after_take hn, ← after_take (by rwa [length_blankOut])]
  apply after_eq_of_map_eq
  rw [List.map_take, List.map_take, hMap]

end Position

/-! ### Readings of a text with blanks -/

/-- An `illegal` token covers no line feed. -/
theorem Reading.ne_feed_of_covers {source : List Char} {n : ℕ} {scan : Scan}
    (h : Reading source n scan) {t : Token} (ht : t ∈ scan.tokens)
    (hIllegal : t.category = .illegal) {i : ℕ} (hCovers : t.covers i = true) :
    source[i]? ≠ some '\n' := by
  have hMore : t.category ≠ .endOfInput := by
    rw [hIllegal]
    decide
  obtain ⟨a, b, lexeme, -, hb, hRaw, hFits, rfl⟩ := h.exists_lexeme ht hMore
  obtain ⟨rfl, c, hc, hFeed, -⟩ := hFits.illegal_char hb hRaw hIllegal
  -- the token covers no other offset than its own
  obtain ⟨hai, hib⟩ := Token.covers_iff.mp hCovers
  have hSame : i = a :=
    Nat.le_antisymm (Nat.lt_succ_iff.mp (Int.ofNat_lt.mp hib)) (Int.ofNat_le.mp hai)
  rw [hSame, hc]
  intro hEqual
  exact hFeed (Option.some.inj hEqual)

section Removed

variable {source : List Char} {removed : List Token}
  (hPlaces : ∀ m ≤ source.length, ofOffset (blankOut removed source) m = ofOffset source m)

include hPlaces

/-- `endToken (blankOut removed source) = endToken source`. -/
theorem endToken_blankOut : endToken (blankOut removed source) = endToken source := by
  rw [endToken, length_blankOut, hPlaces _ (Nat.le_refl _), endToken]

/-- **A token that is not blanked out is read as before**: what follows it begins as it did, or with
a blank. -/
theorem Reading.token_blanked {n a b : ℕ} {lexeme : Lexeme} {rest : Scan} (hna : n ≤ a)
    (hab : a ≤ b) (hb : b ≤ source.length) (hGap : Spacing (source.extract n a))
    (hRaw : source.extract a b = lexeme.raw) (hFits : lexeme.Fits (source.drop b))
    (hApart : ∀ t ∈ removed, t.span.stop.offset ≤ n ∨ (b : ℤ) ≤ t.span.start.offset)
    (hRest : Reading (blankOut removed source) b rest) :
    Reading (blankOut removed source) n ⟨lexeme.tokenAt source a b :: rest.tokens,
      Scanner.stringWarnings lexeme (lexeme.tokenAt source a b).span ++ rest.warnings⟩ := by
  have hLength := length_blankOut removed source
  have hSame : lexeme.tokenAt source a b = lexeme.tokenAt (blankOut removed source) a b := by
    rw [Lexeme.tokenAt, Lexeme.tokenAt, hPlaces a (hab.trans hb), hPlaces b hb]
  have hFitsBlank : lexeme.Fits ((blankOut removed source).drop b) := by
    cases hClosed : lexeme.closed with
    | true =>
        refine hFits.of_next hClosed ?_
        intro c hc
        rcases head?_drop_blankOut removed source b c hc with hSame | rfl
        · exact Or.inl hSame
        · exact Or.inr (Or.inl isBlank_space)
    | false =>
        -- behind an open string nothing is left that could be blanked out
        have hNil := hFits.after_eq_nil hClosed
        have hNilBlank : (blankOut removed source).drop b = [] := by
          rw [List.drop_eq_nil_iff] at hNil ⊢
          rwa [hLength]
        rwa [hNilBlank, ← hNil]
  rw [hSame]
  refine .token hna hab (hLength ▸ hb) ?_ ?_ hFitsBlank hRest
  · rwa [extract_blankOut]
    intro t ht
    rcases hApart t ht with hBefore | hBehind
    · exact Or.inl hBefore
    · exact Or.inr (Int.le_trans (Int.ofNat_le.mpr hab) hBehind)
  · rwa [extract_blankOut]
    intro t ht
    rcases hApart t ht with hBefore | hBehind
    · exact Or.inl (Int.le_trans hBefore (Int.ofNat_le.mpr hna))
    · exact Or.inr hBehind

omit hPlaces in
/-- **An illegal token that is blanked out is part of the gap** in front of `rest`. -/
theorem Reading.of_removed {n a : ℕ} {t : Token} {rest : Scan} (hna : n ≤ a)
    (ha : a < source.length) (hGap : Spacing (source.extract n a)) (ht : t ∈ removed)
    (hSpan : t.span = ⟨ofOffset source a, ofOffset source (a + 1)⟩)
    (hApart : ∀ t ∈ removed, t.span.stop.offset ≤ n ∨ (a : ℤ) ≤ t.span.start.offset)
    (hRest : Reading (blankOut removed source) (a + 1) rest) :
    Reading (blankOut removed source) n rest := by
  refine hRest.of_spacing (hna.trans (Nat.le_succ a)) ?_
  rw [← extract_append_extract hna (Nat.le_succ a), extract_blankOut hApart,
    extract_blankOut_of_mem ht ha hSpan]
  exact hGap.append (.blank isBlank_space .nil)

/-- **A text is read as before, without the illegal tokens that are blanked out:** the tokens are
filtered by `· ∉ removed`. -/
theorem Reading.blanked {n : ℕ} {scan : Scan} (h : Reading source n scan)
    (hIllegal : ∀ t ∈ removed, t.category = .illegal)
    (hAhead : ∀ t ∈ removed, (n : ℤ) < t.span.stop.offset → t ∈ scan.tokens) :
    Reading (blankOut removed source) n
      ⟨scan.tokens.filter (· ∉ removed), scan.warnings⟩ := by
  have hLength := length_blankOut removed source
  have hEnd : [endToken source].filter (· ∉ removed) = [endToken (blankOut removed source)] := by
    have hKept : endToken source ∉ removed := by
      intro hMem
      cases hIllegal _ hMem
    rw [endToken_blankOut hPlaces, List.filter_cons_of_pos (by simpa using hKept), List.filter_nil]
  -- where only the end of input is left, everything that is blanked out has been passed
  have hPassed : ∀ {n : ℕ}, (∀ t ∈ removed, (n : ℤ) < t.span.stop.offset → t ∈ [endToken source]) →
      ∀ t ∈ removed, t.span.stop.offset ≤ n := by
    intro n hAhead t ht
    by_contra hBehind
    have hLast := List.mem_singleton.mp (hAhead t ht (Int.not_le.mp hBehind))
    rw [hLast] at ht
    cases hIllegal _ ht
  -- on the way, what is blanked out has been passed or is still to be read (`hAhead`)
  induction h with
  | closed hn hGap =>
      rw [hEnd]
      refine .closed (hLength ▸ hn) ?_
      rwa [drop_blankOut (hPassed hAhead)]
  | @openComment n a hna ha hGap hOpen =>
      have hBefore := hPassed hAhead
      have hBeforeComment : ∀ t ∈ removed, t.span.stop.offset ≤ a := fun t ht =>
        Int.le_trans (hBefore t ht) (Int.ofNat_le.mpr hna)
      have hComment : Reading (blankOut removed source) n _ :=
        .openComment hna (hLength ▸ ha)
          (by rwa [extract_blankOut fun t ht => Or.inl (hBefore t ht)])
          (by rwa [drop_blankOut hBeforeComment])
      rw [hLength, hPlaces a ha, hPlaces _ (Nat.le_refl _)] at hComment
      rwa [hEnd]
  | @token n a b lexeme scan hna hab hb hGap hRaw hFits hRest ih =>
      have hnb : (n : ℤ) ≤ b := Int.ofNat_le.mpr (hna.trans hab)
      -- what is blanked out and was not passed before is this token or a later one
      have hCases : ∀ t ∈ removed, t.span.stop.offset ≤ n ∨ t = lexeme.tokenAt source a b ∨
          t ∈ scan.tokens := by
        intro t ht
        by_cases hPast : t.span.stop.offset ≤ n
        · exact Or.inl hPast
        · exact Or.inr (List.mem_cons.mp (hAhead t ht (Int.not_le.mp hPast)))
      have hReading := ih (by
        intro t ht hBehind
        rcases hCases t ht with hPast | rfl | hMem
        · omega
        · exact absurd hBehind (Int.lt_irrefl _)
        · exact hMem)
      by_cases hRemoved : lexeme.tokenAt source a b ∈ removed
      · -- the blank joins the gap in front of it to the one behind it
        have hCategory : lexeme.category = .illegal := hIllegal _ hRemoved
        have hClosed : lexeme.closed = true := hFits.closed_of_ne (by rw [hCategory]; decide)
        obtain ⟨rfl, -⟩ := hFits.illegal_char hb hRaw hCategory
        rw [List.filter_cons_of_neg (by simpa using hRemoved), Scanner.stringWarnings,
          if_pos hClosed, List.nil_append]
        refine Reading.of_removed hna hb hGap hRemoved rfl ?_ hReading
        intro t ht
        rcases hCases t ht with hPast | rfl | hMem
        · exact Or.inl hPast
        · exact Or.inr (Int.le_refl _)
        · have hStart := hRest.le_start t hMem
          omega
      · rw [List.filter_cons_of_pos (by simpa using hRemoved)]
        refine Reading.token_blanked hPlaces hna hab hb hGap hRaw hFits ?_ hReading
        intro t ht
        rcases hCases t ht with hPast | rfl | hMem
        · exact Or.inl hPast
        · exact absurd ht hRemoved
        · exact Or.inr (hRest.le_start t hMem)

end Removed

/-! ### Scans of a text with blanks -/

/-- **Illegal characters stand alone.** A text in which any of the illegal characters are blanks has
the same tokens in the same places without those of the blanked characters, and the same warnings.
If all of them are blanks, then there is no fault left. -/
theorem scanChars_blankOut {source : List Char} {removed : List Token}
    (hRemoved : ∀ t ∈ removed, t ∈ (scanChars source).tokens ∧ t.category = .illegal) :
    (scanChars (blankOut removed source)).tokens
        = (scanChars source).tokens.filter (· ∉ removed) ∧
      (scanChars (blankOut removed source)).warnings = (scanChars source).warnings ∧
      ((∀ t ∈ (scanChars source).tokens, t.category = .illegal → t ∈ removed) →
        firstFault? (scanChars (blankOut removed source)).tokens = none) := by
  have hReading := reading_scanChars source
  -- no line feed is blanked out, so that all places stay
  have hFeeds : ∀ i, removed.any (·.covers i) = true → source[i]? ≠ some '\n' := by
    intro i hCovers
    obtain ⟨t, ht, hi⟩ := List.any_eq_true.mp hCovers
    exact hReading.ne_feed_of_covers (hRemoved t ht).1 (hRemoved t ht).2 hi
  have hBlank := hReading.blanked (fun m hm => Position.ofOffset_blankOut hFeeds hm)
    (fun t ht => (hRemoved t ht).2) (fun t ht _ => (hRemoved t ht).1)
  rw [(scanChars_eq_iff_reading _ _).mpr hBlank]
  refine ⟨rfl, rfl, ?_⟩
  -- with all illegal tokens blanked out, those that are kept are none
  intro hAll
  rw [firstFault?_eq_none_iff]
  intro t ht hIllegal
  obtain ⟨hMem, hKept⟩ := List.mem_filter.mp ht
  exact of_decide_eq_true hKept (hAll t hMem hIllegal)

/-- The first slash of `//**/*1..2` would be part of a comment if it stood elsewhere, and so would
the star behind the comment; the second point would be part of a number. Blanking out the slash and
the point keeps the star and both numbers as they are, and blanking out all three leaves no fault.
-/
theorem scanChars_blankOut_marks :
    let source := "//**/*1..2".toList
    let slash : Token := ⟨.illegal, .text "/", "/", ⟨⟨1, 1, 0⟩, ⟨1, 2, 1⟩⟩⟩
    let star : Token := ⟨.illegal, .text "*", "*", ⟨⟨1, 6, 5⟩, ⟨1, 7, 6⟩⟩⟩
    let point : Token := ⟨.illegal, .text ".", ".", ⟨⟨1, 9, 8⟩, ⟨1, 10, 9⟩⟩⟩
    (∀ t ∈ [slash, point], t ∈ (scanChars source).tokens ∧ t.category = .illegal) ∧
      blankOut [slash, point] source = " /**/*1. 2".toList ∧
      (scanChars " /**/*1. 2".toList).tokens
        = (scanChars source).tokens.filter (· ∉ [slash, point]) ∧
      (scanChars " /**/*1. 2".toList).warnings = (scanChars source).warnings ∧
      firstFault? (scanChars source).tokens ≠ none ∧
      firstFault? (scanChars (blankOut [slash, star, point] source)).tokens = none := by
  intro source slash star point
  have hSome : ∀ t ∈ [slash, point], t ∈ (scanChars source).tokens ∧ t.category = .illegal := by
    decide +kernel
  have hEvery : ∀ t ∈ [slash, star, point],
      t ∈ (scanChars source).tokens ∧ t.category = .illegal := by decide +kernel
  have hAll : ∀ t ∈ (scanChars source).tokens,
      t.category = .illegal → t ∈ [slash, star, point] := by decide +kernel
  have hBlank : blankOut [slash, point] source = " /**/*1. 2".toList := by decide +kernel
  obtain ⟨hTokens, hWarnings, -⟩ := scanChars_blankOut hSome
  rw [hBlank] at hTokens hWarnings
  exact ⟨hSome, hBlank, hTokens, hWarnings, by decide +kernel,
    (scanChars_blankOut hEvery).2.2 hAll⟩

end MarkupScan
