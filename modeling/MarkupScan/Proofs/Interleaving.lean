import Mathlib.Data.Stream.Init
import MarkupScan.Proofs.Requests

/-! # Pulling and draining agree

However requests for single tokens and for all remaining tokens are mixed, the tokens given out are
those of one scan of the whole text, in their order, and after them the end of input as often as it
is asked for.

Main definitions.
* **`Scanner.stream`**: everything that a scanner will ever give out.
* **`tokenStream`**: the tokens of a text and then the end of input for ever.
* **`Scanner.Agrees`**: a moment of a run, compared with the scan of the whole text.

Main statements.
* **`Scanner.Reached.stream_answers`**: a run takes from the stream what it gives out.
* **`agrees_answers`**: every moment of every run agrees with the scan. -/

namespace MarkupScan

open Stream'

namespace Scanner

/-! ### At the end of the text -/

namespace Reached

variable {source : List Char} {n : ℕ} {s : Scanner}

/-- At `source.length`, `drain` gives the `endToken` alone and changes nothing. -/
theorem drain_of_length (h : Reached source source.length s) :
    s.drain = ([endToken source], s) := by
  have hNext := h.next_of_length
  rw [drain_of_endToken (congrArg Prod.fst hNext), hNext]

/-- At `source.length` no request changes the scanner. -/
theorem answers_of_length (h : Reached source source.length s) (requests : List Request) :
    (s.answers requests).2 = s := by
  induction requests with
  | nil => rfl
  | cons request requests ih =>
      have hAnswer : (s.answer request).2 = s := by
        cases request with
        | next => exact congrArg Prod.snd h.next_of_length
        | drain => exact congrArg Prod.snd h.drain_of_length
        | atEnd => rfl
        | warnings => rfl
      rw [answers_cons, hAnswer]
      exact ih

/-- `s.atEnd` holds exactly for a scanner that has reached `source.length`. -/
theorem atEnd_iff (h : Reached source n s) : s.atEnd = true ↔ n = source.length := by
  have hn := h.le
  rw [h.eq, atEnd, placed, List.isEmpty_iff, List.drop_eq_nil_iff]
  omega

end Reached

/-! ### The stream of a scanner -/

/-- Everything that a scanner will ever give out: the tokens of `drain`, and the `endToken` again
and again. -/
def stream (source : List Char) (s : Scanner) : Stream' Token :=
  s.drain.1 ++ₛ const (endToken source)

namespace Reached

variable {source : List Char} {n : ℕ} {s : Scanner}

/-- At `source.length` the stream is `const (endToken source)`. -/
theorem stream_of_length (h : Reached source source.length s) :
    s.stream source = const (endToken source) := by
  rw [stream, h.drain_of_length, cons_append_stream, nil_append_stream, ← const_eq]

/-- `next` takes the first token of the stream. -/
theorem stream_next (h : Reached source n s) :
    s.stream source = [s.next.1] ++ₛ s.next.2.stream source := by
  obtain ⟨m, hReached, -, -, ⟨hMore, -⟩ | ⟨hToken, rfl⟩⟩ := h.next
  · rw [stream, drain_of_ne hMore]
    rfl
  · rw [stream, drain_of_endToken hToken, hToken, hReached.stream_of_length]

/-- `drain` takes the tokens up to the first end of input. -/
theorem stream_drain (h : Reached source n s) :
    s.stream source = s.drain.1 ++ₛ s.drain.2.stream source := by
  rw [stream, h.drain.1.stream_of_length]

/-- `drain` gives the stream up to its first `endOfInput`. -/
theorem drain_eq_take (h : Reached source n s) :
    ∃ k, s.drain.1 = (s.stream source).take (k + 1) ∧
      ((s.stream source).get k).category = .endOfInput ∧
      ∀ i < k, ((s.stream source).get i).category ≠ .endOfInput := by
  obtain ⟨-, -, -, front, hFront, hOnly, -⟩ := h.drain
  have hStream : s.stream source = front ++ₛ ([endToken source] ++ₛ const (endToken source)) := by
    rw [stream, hFront, append_append_stream]
  refine ⟨front.length, ?_, ?_, ?_⟩
  · have hCount : front.length + 1 = s.drain.1.length := by
      rw [hFront, List.length_append]
      rfl
    rw [hCount, stream, take_append_of_le_length _ _ _ (Nat.le_refl _), List.take_length]
  · rw [hStream, get_append_length]
    rfl
  · intro i hi
    rw [hStream, get_append_left _ _ _ hi]
    exact hOnly _ (List.getElem_mem hi)

/-- A request takes from the stream the tokens of its answer (`taken`). -/
theorem stream_answer (h : Reached source n s) (request : Request) :
    s.stream source = (s.answer request).1.taken ++ₛ (s.answer request).2.stream source := by
  cases request with
  | next => exact h.stream_next
  | drain => exact h.stream_drain
  | atEnd => rfl
  | warnings => rfl

/-- **A run takes from the stream what it gives out:** `taken` of its answers. -/
theorem stream_answers (h : Reached source n s) (requests : List Request) :
    s.stream source = taken (s.answers requests).1 ++ₛ (s.answers requests).2.stream source := by
  induction requests generalizing n s with
  | nil => rfl
  | cons request requests ih =>
      obtain ⟨m, hReached, -⟩ := h.answer request
      rw [answers_cons, taken, List.flatMap_cons, append_append_stream, h.stream_answer request]
      exact congrArg _ (ih hReached)

/-- A request does not change how the scanner will end: `drain` leaves the same scanner. -/
theorem drain_snd_answer (h : Reached source n s) (request : Request) :
    (s.answer request).2.drain.2 = s.drain.2 := by
  cases request with
  | next =>
      obtain ⟨m, hReached, -, -, ⟨hMore, -⟩ | ⟨hToken, rfl⟩⟩ := h.next
      · rw [drain_of_ne hMore]
        rfl
      · -- behind the end of input, draining changes nothing any more
        rw [drain_of_endToken hToken]
        show s.next.2.drain.2 = s.next.2
        rw [hReached.drain_of_length]
  | drain =>
      show s.drain.2.drain.2 = s.drain.2
      rw [h.drain.1.drain_of_length]
  | atEnd => rfl
  | warnings => rfl

/-- No run changes how the scanner will end: `drain` leaves the same scanner. -/
theorem drain_snd_answers (h : Reached source n s) (requests : List Request) :
    (s.answers requests).2.drain.2 = s.drain.2 := by
  induction requests generalizing n s with
  | nil => rfl
  | cons request requests ih =>
      obtain ⟨m, hReached, -⟩ := h.answer request
      rw [answers_cons, ← h.drain_snd_answer request]
      exact ih hReached

end Reached

end Scanner

/-! ### Every moment of every run -/

/-- The tokens of `source`, and after them its `endToken` again and again. -/
def tokenStream (source : List Char) : Stream' Token :=
  (scanChars source).tokens ++ₛ const (endToken source)

/-- `Scanner.start source` will give out the `tokenStream`. -/
theorem stream_start (source : List Char) :
    (Scanner.start source).stream source = tokenStream source := rfl

/-- **A moment of a run agrees with the scan of the whole text**: `given` are the tokens given out
before it, and `s` is the scanner as it is then. -/
structure Scanner.Agrees (source : List Char) (given : List Token) (s : Scanner) : Prop where
  /-- The tokens given out are the first ones of the `tokenStream`. -/
  given_eq : given = (tokenStream source).take given.length
  /-- The token of `next` is the one after them. -/
  next_eq : s.next.1 = (tokenStream source).get given.length
  /-- `drain` gives those after them up to the first `endOfInput`. -/
  drain_eq : ∃ k, s.drain.1 = ((tokenStream source).drop given.length).take (k + 1) ∧
    ((tokenStream source).get (given.length + k)).category = .endOfInput ∧
    ∀ i < k, ((tokenStream source).get (given.length + i)).category ≠ .endOfInput
  /-- The scanner is at the end exactly if the last token given out ends at `source.length`, or
  nothing was given out of an empty text. -/
  atEnd_iff : s.atEnd = true ↔
    (given.getLast?.map fun t => t.span.stop.offset).getD 0 = (source.length : ℤ)
  /-- After an `endOfInput` no request changes the scanner. -/
  unchanged : (∃ t ∈ given, t.category = .endOfInput) →
    ∀ requests, (s.answers requests).2 = s
  /-- The warnings so far are a prefix (`<+:`) of those of the scan. -/
  warnings_prefix : s.warnings <+: (scanChars source).warnings
  /-- There are warnings only if `s.atEnd`. -/
  warnings_atEnd : s.warnings ≠ [] → s.atEnd = true
  /-- After an `endOfInput` the warnings are those of the scan. -/
  warnings_eq : (∃ t ∈ given, t.category = .endOfInput) →
    s.warnings = (scanChars source).warnings

/-- **Every moment of every run agrees with the scan of the whole text** (`Scanner.Agrees`),
whatever was asked before, and the stream that it is compared with repeats the last token of the
scan. -/
theorem agrees_answers (source : List Char) (requests : List Scanner.Request) :
    (scanChars source).tokens.getLast? = some (endToken source) ∧
      Scanner.Agrees source (Scanner.taken ((Scanner.start source).answers requests).1)
        ((Scanner.start source).answers requests).2 := by
  have hStart := Scanner.reached_start source
  obtain ⟨m, hReached, hAdvances⟩ := hStart.answers requests
  have hStream := hStart.stream_answers requests
  have hFinal := hStart.drain_snd_answers requests
  rw [stream_start] at hStream
  generalize Scanner.taken ((Scanner.start source).answers requests).1 = given at *
  generalize ((Scanner.start source).answers requests).2 = s at *
  have hLast : (∃ t ∈ given, t.category = .endOfInput) → m = source.length :=
    hAdvances.eq_length hReached.le
  -- the stream of the whole text goes on from here as the stream of the scanner
  have hDrop : (tokenStream source).drop given.length = s.stream source := by
    rw [hStream, drop_append_stream]
  have hGet : ∀ i, (tokenStream source).get (given.length + i) = (s.stream source).get i := by
    intro i
    rw [← hDrop, get_drop]
  have hWhole : (scanChars source).warnings = s.drain.2.warnings := by
    rw [hFinal]
    rfl
  refine ⟨?_, ?_, ?_, ?_, ?_, ?_, ?_, ?_, ?_⟩
  · obtain ⟨first, hTokens, -⟩ := hStart.drain.2.2.2
    have hScan : (scanChars source).tokens = first ++ [endToken source] := hTokens
    rw [hScan, List.getLast?_concat]
  · rw [hStream, take_append_of_le_length _ _ _ (Nat.le_refl _), List.take_length]
  · have hFirst := hGet 0
    rw [Nat.add_zero] at hFirst
    rw [hFirst, hReached.stream_next]
    rfl
  · obtain ⟨k, hTake, hEnd, hBefore⟩ := hReached.drain_eq_take
    refine ⟨k, ?_, ?_, ?_⟩
    · rw [hDrop, hTake]
    · rw [hGet]
      exact hEnd
    · intro i hi
      rw [hGet]
      exact hBefore i hi
  · have hStop : (given.getLast?.map fun t => t.span.stop.offset).getD 0 = (m : ℤ) :=
      hAdvances.eq_stop
    rw [hReached.atEnd_iff, hStop]
    omega
  · intro hEnd
    rw [hLast hEnd] at hReached
    exact hReached.answers_of_length
  · rw [hWhole]
    exact hReached.drain.2.2.1
  · intro hSome
    rw [hReached.atEnd_iff]
    exact hReached.ended hSome
  · intro hEnd
    rw [hLast hEnd] at hReached
    rw [hWhole, hReached.drain_of_length]

end MarkupScan
