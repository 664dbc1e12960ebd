import MarkupScan.Proofs.CursorLoops

/-! # The cursor stays in range and goes on

The machine that reads by index does what the scanner does. As it can only move by taking a
character, this says that every character is taken in range, and that the machine comes to an end.

Main definition: **`Cursor.ofScanner`**, the cursor in the place of a scanner.

Main statements.
* **`Cursor.next_of_reached`**, **`Cursor.drainWithin_of_reached`**: one call and all remaining
  calls agree with the scanner.
* **`Cursor.answers_of_reached`**: whole runs of requests agree too.
* **`next_in_range`**: no call fails, every call goes on, and few calls are enough. -/

namespace MarkupScan

open Position (ofOffset)

namespace Cursor

variable {source : List Char} {n : ℕ} {warnings : List Warning}

/-- The cursor in the place of the scanner `s`. -/
def ofScanner (source : List Char) (s : Scanner) : Cursor :=
  ⟨source, s.position.offset.toNat, s.position.line, s.position.column, s.warnings⟩

/-- A fresh scanner stands where a fresh cursor does: `ofScanner` takes `Scanner.start` to `start`.
-/
theorem ofScanner_start (source : List Char) :
    ofScanner source (Scanner.start source) = start source := rfl

/-- `ofScanner` takes `Scanner.placed source n` to `placed source n`. -/
theorem ofScanner_placed (source : List Char) (n : ℕ) (warnings : List Warning) :
    ofScanner source (Scanner.placed source n warnings) = placed source n warnings := by
  simp [ofScanner, Scanner.placed, placed]

/-- The cursor stands at the offset `n` that the scanner has reached. -/
theorem offset_of_reached {s : Scanner} (h : Scanner.Reached source n s) :
    (ofScanner source s).offset = n := by
  rw [h.eq, ofScanner_placed]
  rfl

/-- Cursor and scanner are `atEnd` at the same time. -/
theorem atEnd_of_reached {s : Scanner} (h : Scanner.Reached source n s) :
    (ofScanner source s).atEnd = s.atEnd := by
  rw [h.eq, ofScanner_placed, Bool.eq_iff_iff, atEnd_placed]
  exact List.isEmpty_iff.symm

/-! ### Calls -/

/-- Where the gap ends at `source.length`, `next` gives the `endToken`. -/
theorem next_of_end {later : List Warning}
    (hGap : (placed source n warnings).skipGap = some (placed source source.length later)) :
    (placed source n warnings).next
      = some (endToken source, placed source source.length later) := by
  have hPeek : (placed source source.length later).peek 0 = none := by
    rw [peek_placed, List.drop_length]
    rfl
  simp only [next, hGap, Option.bind_eq_bind, Option.bind_some, hPeek]
  rfl

/-- **One call does what the scanner does** at `placed source n`, and no character is taken out of
range on the way. -/
theorem next_placed (hn : n ≤ source.length) (warnings : List Warning) :
    (placed source n warnings).next
      = some ((Scanner.placed source n warnings).next.1,
          ofScanner source (Scanner.placed source n warnings).next.2) := by
  have hStep := Scanner.step_next hn warnings
  generalize (Scanner.placed source n warnings).next = result at hStep ⊢
  cases hStep with
  | @finish a hna ha hGap hEnd =>
      have hSkip := skipGap_spacing hGap (drop_eq_extract_append hna) warnings
      rw [length_extract ha, Nat.add_sub_of_le hna] at hSkip
      rw [ofScanner_placed]
      refine next_of_end ?_
      rcases hEnd with rfl | hOpen
      · rw [hSkip, skipGap_length]
        simp [Scanner.endWarnings, Scanner.commentWarnings]
      · rw [hSkip, skipGap_open hOpen]
  | @take a b lexeme hna hab hb hGap hRaw hFits =>
      have hSkip := skipGap_spacing hGap (drop_eq_extract_append hna) warnings
      rw [length_extract (hab.trans hb), Nat.add_sub_of_le hna] at hSkip
      have hAfter : source.drop a = lexeme.raw ++ source.drop b := by
        rw [← hRaw]
        exact drop_eq_extract_append hab
      have hLength : a + lexeme.raw.length = b := by
        rw [← hRaw, length_extract hb, Nat.add_sub_of_le hab]
      -- the gap ends here, for a lexeme never begins like a gap
      have hStop := hFits.not_beginsGap
      rw [← hAfter] at hStop
      obtain ⟨first, more, hFirst, hRead⟩ := Lexeme.read_of_fits hFits
      rw [hFirst, List.cons_append] at hAfter
      have hLexeme := lexeme_placed (hab.trans hb) hAfter warnings
      rw [hRead, afterLexeme, hLength] at hLexeme
      have hPeek : (placed source a warnings).peek 0 = some first := by
        rw [peek_placed, hAfter]
        rfl
      simp only [next, hSkip, skipGap_stop hStop, Option.bind_eq_bind, Option.bind_some, hPeek]
      rw [hLexeme, ofScanner_placed]

/-- `Cursor.next` agrees with `Scanner.next` wherever that has come to. -/
theorem next_of_reached {s : Scanner} (h : Scanner.Reached source n s) :
    (ofScanner source s).next = some (s.next.1, ofScanner source s.next.2) := by
  rw [h.eq, ofScanner_placed]
  exact next_placed h.le s.warnings

/-- **All remaining calls agree with `Scanner.drain`**, and one more call than characters are left
is enough of them: every call but the last goes on by a character at least. -/
theorem drainWithin_of_reached {s : Scanner} (h : Scanner.Reached source n s) {calls : ℕ}
    (hCalls : source.length - n < calls) :
    (ofScanner source s).drainWithin calls = some (s.drain.1, ofScanner source s.drain.2) := by
  induction calls generalizing n s with
  | zero => exact absurd hCalls (Nat.not_lt_zero _)
  | succ calls ih =>
      obtain ⟨m, hReached, -, -, hCases⟩ := h.next
      simp only [drainWithin, next_of_reached h, Option.bind_eq_bind, Option.bind_some]
      rcases hCases with ⟨hMore, hnm⟩ | ⟨hToken, -⟩
      · have hLe := hReached.le
        -- the call has read a character at least, so that the calls left are enough
        have hFewer : source.length - m < calls := by omega
        rw [if_neg hMore, ih hReached hFewer, Scanner.drain_of_ne hMore]
        rfl
      · have hEnd : s.next.1.category = .endOfInput := by rw [hToken, category_endToken]
        rw [if_pos hEnd, Scanner.drain_of_endOfInput hEnd]

/-- `Cursor.answer` agrees with `Scanner.answer`. -/
theorem answer_of_reached {s : Scanner} (h : Scanner.Reached source n s)
    (request : Scanner.Request) :
    (ofScanner source s).answer request
      = some ((s.answer request).1, ofScanner source (s.answer request).2) := by
  cases request with
  | next =>
      simp only [answer, next_of_reached h]
      rfl
  | drain =>
      have hCalls : source.length - n < source.length - (ofScanner source s).offset + 1 := by
        rw [offset_of_reached h]
        exact Nat.lt_succ_self _
      have hDrain := drainWithin_of_reached h hCalls
      simp only [answer]
      rw [show (ofScanner source s).source = source from rfl, hDrain]
      rfl
  | atEnd => rw [answer, atEnd_of_reached h, Scanner.answer]
  | warnings => rfl

/-- **A run of requests is answered alike:** `Cursor.answers` agrees with `Scanner.answers`. -/
theorem answers_of_reached {s : Scanner} (h : Scanner.Reached source n s)
    (requests : List Scanner.Request) :
    (ofScanner source s).answers requests
      = some ((s.answers requests).1, ofScanner source (s.answers requests).2) := by
  induction requests generalizing n s with
  | nil => rfl
  | cons request requests ih =>
      obtain ⟨m, hReached, -⟩ := h.answer request
      simp only [answers, answer_of_reached h, Option.bind_eq_bind, Option.bind_some, ih hReached]
      rfl

end Cursor

/-- **No call fails and every call goes on.** Whatever is asked of the machine that reads by index,
it answers as the scanner does, so that every character is taken in range. After that, the next call
ends in the text; it gives a token and goes on, or it gives the end of input at the end of the text.
One more call than characters are left gives all tokens, the last of them the only end of input.
That words go on rests on their first characters being among those that continue them. -/
theorem next_in_range (source : List Char) (requests : List Scanner.Request) :
    let s := ((Scanner.start source).answers requests).2
    let c := Cursor.ofScanner source s
    let moved := Cursor.ofScanner source s.next.2
    (Cursor.start source).answers requests
        = some (((Scanner.start source).answers requests).1, c) ∧
      c.next = some (s.next.1, moved) ∧
      moved.offset ≤ source.length ∧
      (s.next.1.category ≠ .endOfInput ∧ c.offset < moved.offset ∨
        s.next.1.category = .endOfInput ∧ moved.offset = source.length) ∧
      c.drainWithin (source.length - c.offset + 1)
        = some (s.drain.1, Cursor.ofScanner source s.drain.2) ∧
      (∃ front last, s.drain.1 = front ++ [last] ∧ last.category = .endOfInput ∧
        ∀ t ∈ front, t.category ≠ .endOfInput) ∧
      ∀ first : Char, isWordStart first = true → Cursor.continuesWord first = true := by
  intro s c moved
  have hStart := Scanner.reached_start source
  -- everything is known of the scanner; `ofScanner` takes it over to the cursor
  obtain ⟨n, hReached, -⟩ := hStart.answers requests
  obtain ⟨m, hNext, -, -, hCases⟩ := hReached.next
  obtain ⟨-, -, -, front, hFront, hOnly, -⟩ := hReached.drain
  have hRun := Cursor.answers_of_reached hStart requests
  rw [Cursor.ofScanner_start] at hRun
  have hFrom : c.offset = n := Cursor.offset_of_reached hReached
  have hTo : moved.offset = m := Cursor.offset_of_reached hNext
  rw [hFrom, hTo]
  refine ⟨hRun, Cursor.next_of_reached hReached, hNext.le, ?_,
    Cursor.drainWithin_of_reached hReached (Nat.lt_succ_self _),
    ⟨front, endToken source, hFront, rfl, hOnly⟩, ?_⟩
  · rcases hCases with hMore | ⟨hToken, hEnd⟩
    · exact Or.inl hMore
    · refine Or.inr ⟨?_, hEnd⟩
      rw [hToken, category_endToken]
  · intro first hFirst
    rw [Cursor.continuesWord_eq_isWordPart]
    exact isWordPart_of_isWordStart hFirst

end MarkupScan
