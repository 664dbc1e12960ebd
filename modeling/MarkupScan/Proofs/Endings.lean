import MarkupScan.Proofs.Lookahead

/-! # How a text ends

A text is complete lexemes with gaps before them, and then one of three endings: spacing, an open
comment, or an open string. What was read of the complete lexemes stays as it is when the text goes
on, if only the character behind them does not change.

Main definitions.
* **`Leads`**: complete lexemes that lead from one offset of a text to another.
* **`Tail`**: the three ways in which a text can end.

Main statements.
* **`Reading.exists_tail`**: every reading is complete lexemes and an ending.
* **`Leads.reading`**: complete lexemes in front of a reading belong to it.
* **`Leads.append`**: complete lexemes are the same in a longer text. -/

namespace MarkupScan

open Position (ofOffset)

/-! ### Complete lexemes -/

/-- **Complete lexemes lead from the offset `n` to the offset `m`**, each with a gap before it. -/
inductive Leads (source : List Char) : ℕ → List Token → ℕ → Prop
  /-- Without lexemes the offset stays the same. -/
  | stay {n : ℕ} (hn : n ≤ source.length) : Leads source n [] n
  /-- Spacing up to the offset `a`, a complete lexeme up to the offset `b`, and more from there on.
  -/
  | token {n a b m : ℕ} {lexeme : Lexeme} {tokens : List Token} (hna : n ≤ a) (hab : a ≤ b)
      (hb : b ≤ source.length) (hGap : Spacing (source.extract n a))
      (hRaw : source.extract a b = lexeme.raw) (hFits : lexeme.Fits (source.drop b))
      (hClosed : lexeme.closed = true) (hRest : Leads source b tokens m) :
      Leads source n (lexeme.tokenAt source a b :: tokens) m

/-- `source` is a prefix of `source ++ more`, by `take`. -/
theorem take_length_append (source more : List Char) :
    source.take source.length = (source ++ more).take source.length := by
  rw [List.take_length, List.take_left]

namespace Leads

variable {source : List Char} {n m : ℕ} {tokens : List Token}

/-- `m ≤ source.length`: lexemes do not lead out of the text. -/
theorem le_length (h : Leads source n tokens m) : m ≤ source.length := by
  induction h with
  | stay hn => exact hn
  | token _ _ _ _ _ _ _ _ ih => exact ih

/-- `n ≤ m`: lexemes never lead back. -/
theorem le (h : Leads source n tokens m) : n ≤ m := by
  induction h with
  | stay _ => exact Nat.le_refl _
  | token hna hab _ _ _ _ _ _ ih => exact hna.trans (hab.trans ih)

/-- No complete lexeme has the category `endOfInput`. -/
theorem category_ne (h : Leads source n tokens m) : ∀ t ∈ tokens, t.category ≠ .endOfInput := by
  induction h with
  | stay _ => simp
  | token _ _ _ _ _ hFits _ _ ih => exact List.forall_mem_cons.mpr ⟨hFits.category_ne, ih⟩

/-- **Complete lexemes in front of a `Reading` belong to it**, and they give no warnings. -/
theorem reading (h : Leads source n tokens m) {later : Scan} (hLater : Reading source m later) :
    Reading source n ⟨tokens ++ later.tokens, later.warnings⟩ := by
  induction h with
  | stay _ => exact hLater
  | token hna hab hb hGap hRaw hFits hClosed _ ih =>
      have hReading := Reading.token hna hab hb hGap hRaw hFits (ih hLater)
      rwa [Scanner.stringWarnings, if_pos hClosed] at hReading

/-- **Complete lexemes are the same in a longer text** `source ++ more`, if the text did not end
right behind them or goes on like a gap. -/
theorem append (h : Leads source n tokens m) {more : List Char}
    (hNext : m < source.length ∨ ∀ c ∈ more.head?, isBlank c = true ∨ c = '/') :
    Leads (source ++ more) n tokens m := by
  have hLength : source.length ≤ (source ++ more).length := by simp
  have hSame := take_length_append source more
  induction h with
  | stay hn => exact .stay (hn.trans hLength)
  | @token n a b m lexeme tokens hna hab hb hGap hRaw hFits hClosed hRest ih =>
      have hFitsMore : lexeme.Fits ((source ++ more).drop b) := by
        refine hFits.of_next hClosed ?_
        rw [List.drop_append_of_le_length hb]
        intro c hc
        -- behind the lexeme stands what stood there before, or the beginning of the new text
        by_cases hEnd : b < source.length
        · rw [List.head?_append_of_ne_nil _ (by simpa using hEnd)] at hc
          exact Or.inl hc
        · rw [List.drop_eq_nil_of_le (Nat.le_of_not_lt hEnd), List.nil_append] at hc
          have hbm := hRest.le
          rcases hNext with hInside | hGapLike
          · omega
          · exact Or.inr (hGapLike c hc)
      rw [extract_eq_of_take_eq hSame n (hab.trans hb)] at hGap
      rw [extract_eq_of_take_eq hSame a hb] at hRaw
      rw [lexeme.tokenAt_eq_of_take_eq hSame hab hb]
      exact .token hna hab (hb.trans hLength) hGap hRaw hFitsMore hClosed (ih hNext)

end Leads

/-! ### Endings -/

/-- **The three ways in which a text can end** behind its complete lexemes, with the tokens and the
warnings that they give. -/
inductive Tail (source : List Char) (m : ℕ) : Scan → Prop
  /-- Only `Spacing` is left. -/
  | spacing (hGap : Spacing (source.drop m)) : Tail source m ⟨[endToken source], []⟩
  /-- Spacing and an open comment from the offset `a` on are left. -/
  | comment {a : ℕ} (hma : m ≤ a) (ha : a ≤ source.length) (hGap : Spacing (source.extract m a))
      (hOpen : OpenComment (source.drop a)) :
      Tail source m ⟨[endToken source],
        [⟨.comment, ⟨ofOffset source a, ofOffset source source.length⟩⟩]⟩
  /-- Spacing and an open string from the offset `a` on are left. -/
  | string {a : ℕ} {lexeme : Lexeme} (hma : m ≤ a) (ha : a ≤ source.length)
      (hGap : Spacing (source.extract m a)) (hRaw : source.drop a = lexeme.raw)
      (hFits : lexeme.Fits []) (hOpen : lexeme.closed = false) :
      Tail source m ⟨[lexeme.tokenAt source a source.length, endToken source],
        [⟨.string, (lexeme.tokenAt source a source.length).span⟩]⟩

/-- At `source.length` there is nothing left to read but the `endToken`. -/
theorem reading_length (source : List Char) :
    Reading source source.length ⟨[endToken source], []⟩ := by
  refine .closed (Nat.le_refl _) ?_
  rw [List.drop_length]
  exact .nil

/-- **Every `Reading` is complete lexemes and a `Tail`.** -/
theorem Reading.exists_tail {source : List Char} {n : ℕ} {scan : Scan} (h : Reading source n scan) :
    ∃ (front : List Token) (m : ℕ) (tail : Scan), Leads source n front m ∧ Tail source m tail ∧
      scan = ⟨front ++ tail.tokens, tail.warnings⟩ := by
  induction h with
  | closed hn hGap => exact ⟨[], _, _, .stay hn, .spacing hGap, rfl⟩
  | openComment hna ha hGap hOpen =>
      exact ⟨[], _, _, .stay (hna.trans ha), .comment hna ha hGap hOpen, rfl⟩
  | @token n a b lexeme scan hna hab hb hGap hRaw hFits hRest ih =>
      cases hClosed : lexeme.closed with
      | true =>
          obtain ⟨front, m, tail, hLeads, hTail, rfl⟩ := ih
          refine ⟨lexeme.tokenAt source a b :: front, m, tail,
            .token hna hab hb hGap hRaw hFits hClosed hLeads, hTail, ?_⟩
          rw [Scanner.stringWarnings, if_pos hClosed]
          rfl
      | false =>
          -- an open string reaches to the end, so that nothing is read behind it
          have hNil := hFits.after_eq_nil hClosed
          have hEnd : b = source.length := le_antisymm hb (List.drop_eq_nil_iff.mp hNil)
          subst hEnd
          rw [hRest.unique (reading_length source)]
          rw [extract_length] at hRaw
          rw [hNil] at hFits
          refine ⟨[], n, _, .stay (hna.trans hab), .string hna hab hGap hRaw hFits hClosed, ?_⟩
          rw [Scanner.stringWarnings, if_neg (by simp [hClosed])]
          rfl

end MarkupScan
