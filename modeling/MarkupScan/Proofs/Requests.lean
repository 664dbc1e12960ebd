import MarkupScan.Proofs.Reading

/-! # Runs of requests

A scanner may be asked for tokens one at a time or all at once, for its warnings, and whether it is
at the end, in any order and any number of times. Whatever was asked, it stands at some offset of
its text, and the tokens that it gave out lead there one after another.

Main definitions.
* **`Scanner.Reached`**: what holds of a scanner after any requests.
* **`Advances`**: tokens that lead from one offset to another.
* **`taken`**, **`handedOut`**: the tokens given out by a run, and all positions that it made known.

Main statements.
* **`Scanner.Reached.next`**, **`Scanner.Reached.drain`**, **`Scanner.Reached.answers`**: one call,
  all remaining calls and a whole run keep this up.
* **`places_of_handedOut`**: every position made known is the true place of its offset. -/

namespace MarkupScan

open Position (ofOffset)

/-! ### Tokens in a row -/

/-- **Tokens lead from the offset `n` to the offset `m`**: each begins where the one before it ends
or later, and the end of input is at the end of the text. -/
inductive Advances (source : List Char) : ℕ → List Token → ℕ → Prop
  /-- Without tokens the offset stays the same. -/
  | stay (n : ℕ) : Advances source n [] n
  /-- The first token leads to its end, the others go on from there. -/
  | token {n a b m : ℕ} {t : Token} {tokens : List Token} (hna : n ≤ a) (hab : a ≤ b)
      (hb : b ≤ source.length) (hSpan : t.span = ⟨ofOffset source a, ofOffset source b⟩)
      (hEnd : t.category = .endOfInput → b = source.length) (hRest : Advances source b tokens m) :
      Advances source n (t :: tokens) m

namespace Advances

variable {source : List Char} {n m k : ℕ} {tokens more : List Token}

/-- `Advances` from `n` to `m` and from there to `k` is `Advances` from `n` to `k`. -/
theorem append (h : Advances source n tokens m) (hMore : Advances source m more k) :
    Advances source n (tokens ++ more) k := by
  induction h with
  | stay n => exact hMore
  | token hna hab hb hSpan hEnd _ ih => exact .token hna hab hb hSpan hEnd (ih hMore)

/-- `n ≤ m`: tokens never lead back. -/
theorem le (h : Advances source n tokens m) : n ≤ m := by
  induction h with
  | stay n => exact Nat.le_refl n
  | token hna hab _ _ _ _ ih => omega

/-- `m = source.length` behind an `endOfInput`. -/
theorem eq_length (h : Advances source n tokens m) (hm : m ≤ source.length)
    (hEnd : ∃ t ∈ tokens, t.category = .endOfInput) : m = source.length := by
  induction h with
  | stay n =>
      obtain ⟨t, ht, -⟩ := hEnd
      cases ht
  | token _ _ _ _ hLast hRest ih =>
      obtain ⟨t, ht, hCategory⟩ := hEnd
      rcases List.mem_cons.mp ht with rfl | ht
      · have hb := hLast hCategory
        have hle := hRest.le
        omega
      · exact ih hm ⟨t, ht, hCategory⟩

/-- The offset reached is `stop` of the last token, or the first offset where there is none. -/
theorem eq_stop (h : Advances source n tokens m) :
    (tokens.getLast?.map fun t => t.span.stop.offset).getD (n : ℤ) = m := by
  induction h with
  | stay n => rfl
  | @token n a b m t tokens _ _ _ hSpan _ _ ih =>
      rw [← ih, List.getLast?_cons]
      cases tokens.getLast? with
      | none => simp [hSpan]
      | some last => simp

/-- The span of every token goes from one `ofOffset` to a later one, between the first and the last.
-/
theorem span_of_mem (h : Advances source n tokens m) {t : Token} (ht : t ∈ tokens) :
    ∃ a b, n ≤ a ∧ a ≤ b ∧ b ≤ source.length ∧
      t.span = ⟨ofOffset source a, ofOffset source b⟩ := by
  induction h with
  | stay n => cases ht
  | @token n a b _ u _ hna hab hb hSpan _ _ ih =>
      rcases List.mem_cons.mp ht with rfl | ht
      · exact ⟨a, b, hna, hab, hb, hSpan⟩
      · obtain ⟨c, d, hbc, hcd, hd, hSpan'⟩ := ih ht
        exact ⟨c, d, by omega, hcd, hd, hSpan'⟩

/-- **Tokens in a row do not overlap:** each `stop` is at most every later `start`. -/
theorem pairwise (h : Advances source n tokens m) :
    tokens.Pairwise fun t u => t.span.stop.offset ≤ u.span.start.offset := by
  induction h with
  | stay n => exact .nil
  | token _ _ _ hSpan _ hRest ih =>
      refine .cons ?_ ih
      intro u hu
      obtain ⟨c, d, hbc, -, -, hSpan'⟩ := hRest.span_of_mem hu
      rw [hSpan, hSpan']
      simpa using hbc

end Advances

/-- The tokens of a `Reading` lead on to the end of the text. -/
theorem Reading.advances {source : List Char} {n : ℕ} {scan : Scan} (h : Reading source n scan) :
    Advances source n scan.tokens source.length := by
  have hEnd : ∀ {n : ℕ}, n ≤ source.length → Advances source n [endToken source] source.length :=
    fun hn => .token hn (Nat.le_refl _) (Nat.le_refl _) rfl (fun _ => rfl) (.stay _)
  induction h with
  | closed hn _ => exact hEnd hn
  | openComment hna ha _ _ => exact hEnd (hna.trans ha)
  | token hna hab hb _ _ hFits _ ih =>
      exact .token hna hab hb rfl (fun hLast => absurd hLast hFits.category_ne) ih

/-! ### One request -/

namespace Scanner

/-- **What holds of a scanner after any requests**: it stands at an offset of its text, and warnings
were recorded only about constructs that run to the end, which it then has reached. -/
structure Reached (source : List Char) (n : ℕ) (s : Scanner) : Prop where
  /-- The offset lies in the text: `n ≤ source.length`. -/
  le : n ≤ source.length
  /-- The scanner stands at the offset, with some warnings: it is `placed source n`. -/
  eq : s = placed source n s.warnings
  /-- With a warning the end is reached: `n = source.length`. -/
  ended : s.warnings ≠ [] → n = source.length
  /-- Every warning is about the text from some offset to `source.length`. -/
  spans : ∀ w ∈ s.warnings, ∃ a ≤ source.length,
    w.span = ⟨ofOffset source a, ofOffset source source.length⟩

/-- `Scanner.start source` stands at `0`. -/
theorem reached_start (source : List Char) : Reached source 0 (start source) :=
  ⟨Nat.zero_le _, start_eq_placed source, fun h => absurd rfl h, fun _ hw => by cases hw⟩

namespace Reached

variable {source : List Char} {n : ℕ} {s : Scanner}

/-- At `source.length`, `next` gives the `endToken` and changes nothing. -/
theorem next_of_length (h : Reached source source.length s) : s.next = (endToken source, s) := by
  have hStep : Step source source.length s.warnings _ :=
    .finish (Nat.le_refl _) (Nat.le_refl _) (by rw [extract_length, List.drop_length]; exact .nil)
      (Or.inl rfl)
  have hNext := next_eq_of_step hStep
  rw [← h.eq] at hNext
  rw [hNext, endWarnings, List.drop_length, commentWarnings, if_pos List.isEmpty_nil,
    List.append_nil, ← h.eq]

/-- **What one call gives**: a token that is no `endOfInput` and leads on, or the `endToken` at the
end of the text. -/
theorem next (h : Reached source n s) :
    ∃ m, Reached source m s.next.2 ∧ Advances source n [s.next.1] m ∧
      s.warnings <+: s.next.2.warnings ∧
      (s.next.1.category ≠ .endOfInput ∧ n < m ∨
        s.next.1 = endToken source ∧ m = source.length) := by
  by_cases hEnd : n = source.length
  · subst hEnd
    rw [h.next_of_length]
    refine ⟨source.length, h, ?_, List.prefix_rfl, Or.inr ⟨rfl, rfl⟩⟩
    exact .token (Nat.le_refl _) (Nat.le_refl _) (Nat.le_refl _) rfl (fun _ => rfl) (.stay _)
  -- before the end there is no warning yet, so that only the new one counts
  have hNone : s.warnings = [] := by
    by_contra hSome
    exact hEnd (h.ended hSome)
  have hStep := step_next h.le s.warnings
  rw [← h.eq, hNone] at hStep
  rw [hNone]
  generalize s.next = result at hStep ⊢
  cases hStep with
  | @finish a hna ha hGap _ =>
      refine ⟨source.length, ⟨Nat.le_refl _, rfl, fun _ => rfl, ?_⟩, ?_, List.nil_prefix,
        Or.inr ⟨rfl, rfl⟩⟩
      · intro w hw
        simp only [placed, List.nil_append, endWarnings, commentWarnings] at hw
        split at hw
        · cases hw
        · rw [List.mem_singleton.mp hw]
          exact ⟨a, ha, rfl⟩
      · exact .token h.le (Nat.le_refl _) (Nat.le_refl _) rfl (fun _ => rfl) (.stay _)
  | @take a b lexeme hna hab hb hGap hRaw hFits =>
      have hPos := List.length_pos_iff.mpr hFits.raw_ne_nil
      rw [← hRaw, length_extract hb] at hPos
      -- a string is open only at the end of the text
      have hWarnings : ∀ w ∈ stringWarnings lexeme (lexeme.tokenAt source a b).span,
          b = source.length ∧ w.span = ⟨ofOffset source a, ofOffset source b⟩ := by
        intro w hw
        unfold stringWarnings at hw
        split at hw
        · cases hw
        · rename_i hOpen
          have hNil := hFits.after_eq_nil (by simpa using hOpen)
          rw [List.mem_singleton.mp hw]
          exact ⟨le_antisymm hb (List.drop_eq_nil_iff.mp hNil), rfl⟩
      refine ⟨b, ⟨hb, rfl, ?_, ?_⟩, ?_, List.nil_prefix, Or.inl ⟨hFits.category_ne, by omega⟩⟩
      · intro hSome
        obtain ⟨w, hw⟩ := List.exists_mem_of_ne_nil _ hSome
        exact (hWarnings w hw).1
      · intro w hw
        obtain ⟨hLast, hSpan⟩ := hWarnings w hw
        exact ⟨a, by omega, by rw [hSpan, hLast]⟩
      · exact .token hna hab hb rfl (fun hEnd => absurd hEnd hFits.category_ne) (.stay _)

/-- **What draining gives**: tokens that lead to the end of the text, the last of them the only
`endOfInput`. Every other token has at least one character, which bounds their number. -/
theorem drain (h : Reached source n s) :
    Reached source source.length s.drain.2 ∧ Advances source n s.drain.1 source.length ∧
      s.warnings <+: s.drain.2.warnings ∧
      ∃ front, s.drain.1 = front ++ [endToken source] ∧
        (∀ t ∈ front, t.category ≠ .endOfInput) ∧ n + front.length ≤ source.length := by
  -- by induction on what is left of the text
  induction hLeft : source.length - n using Nat.strong_induction_on generalizing n s with
  | _ left ih =>
    obtain ⟨m, hReached, hAdvances, hPrefix, ⟨hMore, hnm⟩ | ⟨hToken, rfl⟩⟩ := h.next
    · have hm := hReached.le
      obtain ⟨hEnd, hRest, hWarnings, front, hFront, hOnly, hCount⟩ :=
        ih (source.length - m) (by omega) hReached rfl
      rw [drain_of_ne hMore]
      refine ⟨hEnd, hAdvances.append hRest, hPrefix.trans hWarnings, s.next.1 :: front, ?_,
        List.forall_mem_cons.mpr ⟨hMore, hOnly⟩, ?_⟩
      · rw [hFront, List.cons_append]
      · rw [List.length_cons]
        omega
    · rw [hToken] at hAdvances
      rw [drain_of_endToken hToken]
      exact ⟨hReached, hAdvances, hPrefix, [], rfl, by simp, by simpa using h.le⟩

end Reached

/-! ### Runs -/

/-- The tokens in an answer. -/
def Answer.taken : Answer → List Token
  | .token t => [t]
  | .tokens ts => ts
  | .atEnd _ => []
  | .warnings _ => []

/-- The tokens given out in a run of requests, one after another: `Answer.taken` of each answer. -/
def taken (replies : List Answer) : List Token := replies.flatMap Answer.taken

/-- The positions made known by a run: both ends of every token given out and of every warning
recorded. -/
def handedOut (run : List Answer × Scanner) : List Position :=
  ((taken run.1).map (·.span) ++ run.2.warnings.map (·.span)).flatMap fun span =>
    [span.start, span.stop]

/-- `answers` of `request :: requests` is `answer` of `request`, then `answers` of `requests` by the
scanner that it leaves. -/
theorem answers_cons (s : Scanner) (request : Request) (requests : List Request) :
    s.answers (request :: requests)
      = ((s.answer request).1 :: ((s.answer request).2.answers requests).1,
        ((s.answer request).2.answers requests).2) := rfl

namespace Reached

variable {source : List Char} {n : ℕ} {s : Scanner}

/-- One request leads to some offset `m`, and the tokens given out lead there too. -/
theorem answer (h : Reached source n s) (request : Request) :
    ∃ m, Reached source m (s.answer request).2 ∧
      Advances source n (s.answer request).1.taken m := by
  cases request with
  | next =>
      obtain ⟨m, hReached, hAdvances, -⟩ := h.next
      exact ⟨m, hReached, hAdvances⟩
  | drain =>
      obtain ⟨hReached, hAdvances, -⟩ := h.drain
      exact ⟨source.length, hReached, hAdvances⟩
  | atEnd => exact ⟨n, h, .stay n⟩
  | warnings => exact ⟨n, h, .stay n⟩

/-- **A run leads to some offset `m`**, and the tokens that it gives out lead there one after
another. -/
theorem answers (h : Reached source n s) (requests : List Request) :
    ∃ m, Reached source m (s.answers requests).2 ∧
      Advances source n (taken (s.answers requests).1) m := by
  induction requests generalizing n s with
  | nil => exact ⟨n, h, .stay n⟩
  | cons request requests ih =>
      obtain ⟨k, hReached, hAdvances⟩ := h.answer request
      obtain ⟨m, hLast, hRest⟩ := ih hReached
      rw [answers_cons]
      exact ⟨m, hLast, hAdvances.append hRest⟩

end Reached

end Scanner

/-! ### The places of tokens and warnings -/

/-- Every position in `handedOut` of a run is `ofOffset source n` for some `n` in the text. -/
theorem exists_offset_of_handedOut {source : List Char} {requests : List Scanner.Request}
    {p : Position} (hp : p ∈ Scanner.handedOut ((Scanner.start source).answers requests)) :
    ∃ n ≤ source.length, p = ofOffset source n := by
  obtain ⟨m, hReached, hAdvances⟩ := (Scanner.reached_start source).answers requests
  obtain ⟨span, hSpan, hEnds⟩ := List.mem_flatMap.mp hp
  have hOffsets : ∃ a b, a ≤ b ∧ b ≤ source.length ∧
      span = ⟨ofOffset source a, ofOffset source b⟩ := by
    rcases List.mem_append.mp hSpan with hToken | hWarning
    · obtain ⟨t, ht, rfl⟩ := List.mem_map.mp hToken
      obtain ⟨a, b, -, hab, hb, hSpan⟩ := hAdvances.span_of_mem ht
      exact ⟨a, b, hab, hb, hSpan⟩
    · obtain ⟨w, hw, rfl⟩ := List.mem_map.mp hWarning
      obtain ⟨a, ha, hSpan⟩ := hReached.spans w hw
      exact ⟨a, source.length, ha, Nat.le_refl _, hSpan⟩
  obtain ⟨a, b, hab, hb, rfl⟩ := hOffsets
  rcases List.mem_cons.mp hEnds with rfl | hStop
  · exact ⟨a, by omega, rfl⟩
  · rw [List.mem_singleton.mp hStop]
    exact ⟨b, hb, rfl⟩

/-- **Every position made known is true.** Whatever is asked of a fresh scanner, each position at an
end of a token given out or of a warning recorded is the place of its offset in the text. So tokens
follow each other without overlap, and positions are ordered by line and column as they are by
offset. -/
theorem places_of_handedOut (source : List Char) (requests : List Scanner.Request) :
    (∀ p ∈ Scanner.handedOut ((Scanner.start source).answers requests),
      ∃ n ≤ source.length, p = ofOffset source n) ∧
    (∀ t ∈ Scanner.taken ((Scanner.start source).answers requests).1,
      t.span.start.offset ≤ t.span.stop.offset) ∧
    ((Scanner.taken ((Scanner.start source).answers requests).1).Pairwise fun t u =>
      t.span.stop.offset ≤ u.span.start.offset) ∧
    ∀ p ∈ Scanner.handedOut ((Scanner.start source).answers requests),
      ∀ q ∈ Scanner.handedOut ((Scanner.start source).answers requests),
        (p.Precedes q ↔ p.offset < q.offset) := by
  -- the tokens lead from offset to offset, and places are ordered as offsets are
  obtain ⟨m, -, hAdvances⟩ := (Scanner.reached_start source).answers requests
  refine ⟨fun p hp => exists_offset_of_handedOut hp, ?_, hAdvances.pairwise, ?_⟩
  · intro t ht
    obtain ⟨a, b, -, hab, -, hSpan⟩ := hAdvances.span_of_mem ht
    rw [hSpan]
    simpa using hab
  · intro p hp q hq
    obtain ⟨a, ha, rfl⟩ := exists_offset_of_handedOut hp
    obtain ⟨b, hb, rfl⟩ := exists_offset_of_handedOut hq
    rw [Position.ofOffset_precedes_iff ha hb]
    simp

end MarkupScan
