import MarkupScan.Proofs.LexemeGrammar

/-! # The scanner finds the only reading

Every text has exactly one reading, and the scanner finds it. One call of the scanner does one of
two things, and both are determined by the grammar; a scan is a sequence of such calls.

Main definitions.
* **`Scanner.placed`**: the scanner that has read a text up to an offset.
* **`Scanner.Step`**: what one call does there, in the words of the grammar.

Main statements.
* **`Scanner.step_next`**, **`Scanner.next_eq_of_step`**: a call does what the grammar says and
  nothing else.
* **`exists_reading`**, **`Reading.unique`**: from every offset on there is exactly one reading.
* **`scanChars_eq_iff_reading`**: the tokens and warnings of a scan are those of the reading.
* **`Reading.exists_lexeme`**, **`Reading.token_cases`**: every token but the last is a lexeme that
  fits where it stands.
* **`tokens_scanChars_eq_iff`**: the tokens of a scan are the only ones that a text can be divided
  into, and they end in the only end of input. -/

namespace MarkupScan

open Position (ofOffset)

namespace Scanner

/-! ### One call -/

/-- The scanner that has read a text up to the offset `n` and recorded the given warnings. -/
def placed (source : List Char) (n : ℕ) (warnings : List Warning) : Scanner :=
  ⟨ofOffset source n, source.drop n, warnings⟩

/-- A fresh scanner has read nothing: it is `placed source 0 []`. -/
theorem start_eq_placed (source : List Char) : start source = placed source 0 [] := by
  rw [placed, Position.ofOffset_zero, List.drop_zero, start]

/-- The warning about the open comment that stands at the end of a text; `[]` if none does. -/
def endWarnings (source : List Char) (a : ℕ) : List Warning :=
  commentWarnings (source.drop a) (ofOffset source a) (ofOffset source source.length)

/-- **What one call does** to a scanner that has read a text up to the offset `n`. -/
inductive Step (source : List Char) (n : ℕ) (warnings : List Warning) : Token × Scanner → Prop
  /-- Only spacing is left, with an open comment from the offset `a` on or without one. -/
  | finish {a : ℕ} (hna : n ≤ a) (ha : a ≤ source.length) (hGap : Spacing (source.extract n a))
      (hEnd : a = source.length ∨ OpenComment (source.drop a)) :
      Step source n warnings
        (endToken source, placed source source.length (warnings ++ endWarnings source a))
  /-- Spacing up to the offset `a` is followed by a lexeme up to the offset `b`. -/
  | take {a b : ℕ} {lexeme : Lexeme} (hna : n ≤ a) (hab : a ≤ b) (hb : b ≤ source.length)
      (hGap : Spacing (source.extract n a)) (hRaw : source.extract a b = lexeme.raw)
      (hFits : lexeme.Fits (source.drop b)) :
      Step source n warnings
        (lexeme.tokenAt source a b,
          placed source b (warnings ++ stringWarnings lexeme (lexeme.tokenAt source a b).span))

/-- Where the gap in front runs to the end, `next` gives the `endToken`. -/
theorem next_of_finish {source : List Char} {n a : ℕ} (hna : n ≤ a) (ha : a ≤ source.length)
    (hRead : Gap.read (source.drop n) = ⟨source.extract n a, source.drop a, []⟩)
    (warnings : List Warning) :
    (placed source n warnings).next
      = (endToken source, placed source source.length (warnings ++ endWarnings source a)) := by
  have hRest : (Gap.read (placed source n warnings).rest).rest = [] := by rw [placed, hRead]
  have hStop : (ofOffset source a).after (source.drop a) = ofOffset source source.length := by
    rw [Position.after_ofOffset ha (List.append_nil _).symm, List.length_drop,
      Nat.add_sub_of_le ha]
  rw [next_of_nil hRest, finish]
  simp only [placed, hRead, Position.after_extract hna ha, hStop, List.drop_length]
  rfl

/-- Where a lexeme follows the gap in front, `next` gives it as a token. -/
theorem next_of_take {source : List Char} {n a b : ℕ} {lexeme : Lexeme} {first : Char}
    {tail : List Char} (hna : n ≤ a) (hab : a ≤ b) (hb : b ≤ source.length)
    (hRead : Gap.read (source.drop n) = ⟨source.extract n a, [], first :: tail⟩)
    (hRaw : source.extract a b = lexeme.raw)
    (hLexeme : Lexeme.read first tail = (lexeme, source.drop b)) (warnings : List Warning) :
    (placed source n warnings).next
      = (lexeme.tokenAt source a b,
        placed source b (warnings ++ stringWarnings lexeme (lexeme.tokenAt source a b).span)) := by
  have hRest : (Gap.read (placed source n warnings).rest).rest = first :: tail := by
    rw [placed, hRead]
  rw [next_of_cons hRest, take]
  simp only [placed, hRead, hLexeme, Position.after_extract hna (hab.trans hb), ← hRaw,
    Position.after_extract hab hb]
  rfl

/-- **A call does what the grammar says:** `next` is a `Step`. -/
theorem step_next {source : List Char} {n : ℕ} (hn : n ≤ source.length)
    (warnings : List Warning) :
    Step source n warnings (placed source n warnings).next := by
  have hWhole := Gap.read_append (source.drop n)
  rw [List.append_assoc] at hWhole
  have hSpacing := Gap.spacing_read (source.drop n)
  have hCases := Gap.read_cases (source.drop n)
  cases hGap : Gap.read (source.drop n) with
  | mk skipped unclosed rest =>
    rw [hGap] at hWhole hSpacing hCases
    obtain ⟨ha, hSkipped, hAfter⟩ := extract_of_drop_eq hn hWhole.symm
    simp only at ha hSkipped hAfter hSpacing hCases
    -- the gap ends at `a`, and what is left of the text decides between the two cases
    set a := n + skipped.length with haDef
    have hna : n ≤ a := by omega
    rw [← hSkipped] at hSpacing hGap
    cases rest with
    | nil =>
        rw [List.append_nil] at hAfter
        rw [← hAfter] at hGap hCases
        rw [next_of_finish hna ha hGap]
        refine .finish hna ha hSpacing ?_
        rcases hCases with ⟨hOpen, -⟩ | ⟨hNil, -⟩
        · exact Or.inr hOpen
        · exact Or.inl (le_antisymm ha (List.drop_eq_nil_iff.mp hNil))
    | cons first tail =>
        rcases hCases with ⟨-, hNil⟩ | ⟨rfl, hBegins⟩
        · cases hNil
        rw [List.nil_append, ← Lexeme.raw_append_read first tail] at hAfter
        obtain ⟨hb, hRaw, hDrop⟩ := extract_of_drop_eq ha hAfter
        have hFits := Lexeme.fits_read hBegins
        rw [← hDrop] at hFits
        rw [next_of_take hna (Nat.le_add_right _ _) hb hGap hRaw (Prod.ext rfl hDrop.symm)]
        exact .take hna (Nat.le_add_right _ _) hb hSpacing hRaw hFits

/-- **A call does nothing but what the grammar says:** a `Step` is `next`. -/
theorem next_eq_of_step {source : List Char} {n : ℕ} {warnings : List Warning}
    {result : Token × Scanner} (hStep : Step source n warnings result) :
    (placed source n warnings).next = result := by
  cases hStep with
  -- spacing runs to the end, or an open comment stands behind it
  | @finish a hna ha hGap hEnd =>
      refine next_of_finish hna ha ?_ warnings
      rw [drop_eq_extract_append hna, Gap.read_spacing_append hGap]
      rcases hEnd with rfl | hOpen
      · rw [List.drop_length, Gap.read]
        simp [Gap.skip]
      · rw [Gap.read_openComment hOpen]
        simp [Gap.skip]
  -- a lexeme begins no gap, so that the gap in front is the spacing
  | @take a b lexeme hna hab hb hGap hRaw hFits =>
      obtain ⟨first, more, hFirst, hRead⟩ := Lexeme.read_of_fits hFits
      refine next_of_take hna hab hb ?_ hRaw hRead warnings
      have hAfter : source.drop a = lexeme.raw ++ source.drop b := by
        rw [← hRaw]
        exact drop_eq_extract_append hab
      rw [drop_eq_extract_append hna, Gap.read_spacing_append hGap, hAfter,
        Gap.read_of_not_beginsGap hFits.not_beginsGap, hFirst]
      simp [Gap.skip]

/-! ### All calls up to the end of input -/

/-- `drain` stops at `endOfInput`. -/
theorem drain_of_endOfInput {s : Scanner} (h : s.next.1.category = .endOfInput) :
    s.drain = ([s.next.1], s.next.2) := by
  rw [drain, if_pos h]

/-- Where the `endToken` is next, `drain` gives nothing else. -/
theorem drain_of_endToken {source : List Char} {s : Scanner} (h : s.next.1 = endToken source) :
    s.drain = ([endToken source], s.next.2) := by
  have hEnd : s.next.1.category = .endOfInput := by rw [h, category_endToken]
  rw [drain_of_endOfInput hEnd, h]

/-- `drain` goes on after every token other than `endOfInput`. -/
theorem drain_of_ne {s : Scanner} (h : s.next.1.category ≠ .endOfInput) :
    s.drain = (s.next.1 :: s.next.2.drain.1, s.next.2.drain.2) := by
  rw [drain, if_neg h]

/-- **Draining follows the reading:** `drain` gives `scan.tokens` and adds `scan.warnings`. -/
theorem drain_of_reading {source : List Char} {n : ℕ} {scan : Scan} (h : Reading source n scan)
    (warnings : List Warning) :
    (placed source n warnings).drain
      = (scan.tokens, placed source source.length (warnings ++ scan.warnings)) := by
  -- on the reading: each of its steps is one call, by `next_eq_of_step`
  induction h generalizing warnings with
  | @closed n hn hGap =>
      rw [← extract_length] at hGap
      have hStep : Step source n warnings _ := .finish hn (Nat.le_refl _) hGap (Or.inl rfl)
      have hNext := next_eq_of_step hStep
      rw [drain_of_endToken (congrArg Prod.fst hNext), hNext]
      simp [endWarnings, commentWarnings]
  | @openComment n a hna ha hGap hOpen =>
      have hStep : Step source n warnings _ := .finish hna ha hGap (Or.inr hOpen)
      have hNext := next_eq_of_step hStep
      rw [drain_of_endToken (congrArg Prod.fst hNext), hNext]
      obtain ⟨body, hBody, -⟩ := hOpen
      simp [endWarnings, commentWarnings, hBody]
  | @token n a b lexeme scan hna hab hb hGap hRaw hFits _ ih =>
      have hStep : Step source n warnings _ := .take hna hab hb hGap hRaw hFits
      have hNext := next_eq_of_step hStep
      rw [drain_of_ne (by rw [hNext]; exact hFits.category_ne), hNext]
      simp only [ih, List.append_assoc]

end Scanner

/-! ### Readings -/

/-- **Every text has a `Reading`** from every offset on. A lexeme is not empty, so that less is left
behind it. -/
theorem exists_reading {source : List Char} {n : ℕ} (hn : n ≤ source.length) :
    ∃ scan, Reading source n scan := by
  -- by induction on what is left of the text
  induction hLeft : source.length - n using Nat.strong_induction_on generalizing n with
  | _ left ih =>
    have hStep := Scanner.step_next hn []
    generalize (Scanner.placed source n []).next = result at hStep
    cases hStep with
    | @finish a hna ha hGap hEnd =>
        rcases hEnd with rfl | hOpen
        · rw [extract_length] at hGap
          exact ⟨_, .closed hn hGap⟩
        · exact ⟨_, .openComment hna ha hGap hOpen⟩
    | @take a b lexeme hna hab hb hGap hRaw hFits =>
        have hPos := List.length_pos_iff.mpr hFits.raw_ne_nil
        rw [← hRaw, length_extract hb] at hPos
        obtain ⟨scan, hScan⟩ := ih (source.length - b) (by omega) hb rfl
        exact ⟨_, .token hna hab hb hGap hRaw hFits hScan⟩

/-- **There is only one `Reading`** from an offset on: draining follows both. -/
theorem Reading.unique {source : List Char} {n : ℕ} {scan other : Scan}
    (h : Reading source n scan) (hOther : Reading source n other) : scan = other := by
  have hDrain := (Scanner.drain_of_reading h []).symm.trans (Scanner.drain_of_reading hOther [])
  obtain ⟨hTokens, hLast⟩ := Prod.mk.inj hDrain
  have hWarnings := congrArg Scanner.warnings hLast
  cases scan
  cases other
  simp only [Scanner.placed, List.nil_append] at hTokens hWarnings
  rw [hTokens, hWarnings]

/-- **A scan is the only `Reading` of its text.** -/
theorem scanChars_eq_iff_reading (source : List Char) (scan : Scan) :
    scanChars source = scan ↔ Reading source 0 scan := by
  -- draining follows any reading, so that two readings cannot differ
  have hScan : ∀ {scan : Scan}, Reading source 0 scan → scanChars source = scan := by
    intro scan hReading
    rw [scanChars, Scanner.start_eq_placed, Scanner.drain_of_reading hReading]
    simp [Scanner.placed]
  constructor
  · rintro rfl
    obtain ⟨scan, hReading⟩ := exists_reading (Nat.zero_le source.length)
    rwa [hScan hReading]
  · exact hScan

/-- `scanChars source` is a `Reading` from `0`. -/
theorem reading_scanChars (source : List Char) : Reading source 0 (scanChars source) :=
  (scanChars_eq_iff_reading source _).mp rfl

/-- A `Reading` ends in the `endToken` and has no other `endOfInput`. -/
theorem Reading.tokens_eq {source : List Char} {n : ℕ} {scan : Scan} (h : Reading source n scan) :
    ∃ front, scan.tokens = front ++ [endToken source] ∧
      ∀ t ∈ front, t.category ≠ .endOfInput := by
  induction h with
  | closed _ _ => exact ⟨[], rfl, by simp⟩
  | openComment _ _ _ _ => exact ⟨[], rfl, by simp⟩
  | @token n a b lexeme scan _ _ _ _ _ hFits _ ih =>
      obtain ⟨front, hTokens, hFront⟩ := ih
      exact ⟨lexeme.tokenAt source a b :: front, by simp [hTokens],
        List.forall_mem_cons.mpr ⟨hFits.category_ne, hFront⟩⟩

/-- Every token of a `Reading` other than `endOfInput` is a lexeme that fits where it stands. -/
theorem Reading.exists_lexeme {source : List Char} {n : ℕ} {scan : Scan}
    (h : Reading source n scan) {t : Token} (ht : t ∈ scan.tokens)
    (hMore : t.category ≠ .endOfInput) :
    ∃ a b, ∃ lexeme : Lexeme, a ≤ b ∧ b ≤ source.length ∧ source.extract a b = lexeme.raw ∧
      lexeme.Fits (source.drop b) ∧ t = lexeme.tokenAt source a b := by
  induction h with
  | closed _ _ =>
      rw [List.mem_singleton.mp ht] at hMore
      exact absurd rfl hMore
  | openComment _ _ _ _ =>
      rw [List.mem_singleton.mp ht] at hMore
      exact absurd rfl hMore
  | @token n a b lexeme scan _ hab hb _ hRaw hFits _ ih =>
      rcases List.mem_cons.mp ht with rfl | ht
      · exact ⟨a, b, lexeme, hab, hb, hRaw, hFits, rfl⟩
      · exact ih ht

/-- A token of a `Reading` is the `endToken`, or a lexeme that fits where it stands. -/
theorem Reading.token_cases {source : List Char} {n : ℕ} {scan : Scan} (h : Reading source n scan)
    {t : Token} (ht : t ∈ scan.tokens) :
    t = endToken source ∨ ∃ a b, ∃ lexeme : Lexeme,
      lexeme.Fits (source.drop b) ∧ t = lexeme.tokenAt source a b := by
  by_cases hEnd : t.category = .endOfInput
  · obtain ⟨front, hTokens, hFront⟩ := h.tokens_eq
    rw [hTokens] at ht
    rcases List.mem_append.mp ht with ht | ht
    · exact absurd hEnd (hFront t ht)
    · exact Or.inl (List.mem_singleton.mp ht)
  · obtain ⟨a, b, lexeme, -, -, -, hFits, hToken⟩ := h.exists_lexeme ht hEnd
    exact Or.inr ⟨a, b, lexeme, hFits, hToken⟩

/-- **The tokens of a text are its only division by the grammar.** The scanner gives a list of
tokens exactly when gaps and fitting lexemes, set one after another, make up the text and are these
tokens; the last token is the end of input behind the whole text, and no other one is. -/
theorem tokens_scanChars_eq_iff (source : List Char) (tokens : List Token) :
    ((scanChars source).tokens = tokens ↔ ∃ warnings, Reading source 0 ⟨tokens, warnings⟩) ∧
      ∃ front, (scanChars source).tokens = front ++ [endToken source] ∧
        ∀ t ∈ front, t.category ≠ .endOfInput := by
  refine ⟨?_, (reading_scanChars source).tokens_eq⟩
  constructor
  · rintro rfl
    exact ⟨(scanChars source).warnings, reading_scanChars source⟩
  · rintro ⟨warnings, hReading⟩
    rw [(scanChars_eq_iff_reading source _).mpr hReading]

end MarkupScan
