import MarkupScan.Editor.Session
import MarkupScan.Proofs.LineOfPlace
import MarkupScan.Proofs.Requests

/-! # Ranges denote spans

What an editor is shown covers the same characters as the span that the scanner found, though it
counts them differently: by lines from zero and by UTF-16 units within a line.

Main definitions.
* **`Editor.unitsOfLines`**: the units of whole lines with their line feeds.
* **`Editor.Place.Denotes`**: a place in an editor is the place of a position of the text.
* **`Editor.Place.Before`**, **`Editor.Place.AtMost`**: the order of places in an editor.

Main statements.
* **`Editor.denotes_ofOffset`**: the place computed for a true position denotes it.
* **`Editor.before_of_lt`**: places are in the order of their offsets.
* **`Editor.rangeOf_notices`**: the ranges of all that is reported denote its spans; ranges of errors
  are one character wide and follow each other without overlap. -/

namespace MarkupScan

/-! ### Units -/

namespace Text

/-- `0 < unitWidth c`: every character has a unit. -/
theorem unitWidth_pos (c : Char) : 0 < unitWidth c := by
  unfold unitWidth
  split <;> decide

/-- `0 < unitLength text` for a text that is not empty. -/
theorem unitLength_pos {text : List Char} (hText : text ≠ []) : 0 < unitLength text := by
  obtain ⟨c, rest, rfl⟩ := List.exists_cons_of_ne_nil hText
  have hc := unitWidth_pos c
  rw [unitLength_cons]
  omega

/-- `unitLength (source.take m) < unitLength (source.take n)` for `m < n` in the text. -/
theorem unitLength_take_lt {source : List Char} {m n : ℕ} (hmn : m < n) (hn : n ≤ source.length) :
    unitLength (source.take m) < unitLength (source.take n) := by
  have hSplit : source.take n = source.take m ++ source.extract m n := by
    conv_lhs => rw [← Nat.add_sub_of_le hmn.le, List.take_add]
  have hLength := length_extract (m := m) hn
  have hSome : source.extract m n ≠ [] := List.length_pos_iff.mp (by omega)
  have hPos := unitLength_pos hSome
  rw [hSplit, unitLength_append]
  omega

end Text

namespace Editor

open Position (ofOffset)

/-- The UTF-16 units of whole lines, each with its line feed. -/
def unitsOfLines : List (List Char) → ℕ
  | [] => 0
  | line :: lines => Text.unitLength line + 1 + unitsOfLines lines

/-- `unitsOfLines lines` are the units of the text that the lines make up. -/
theorem unitLength_flatMap (lines : List (List Char)) :
    Text.unitLength (lines.flatMap (· ++ ['\n'])) = unitsOfLines lines := by
  have hFeed : Text.unitLength ['\n'] = 1 := by decide
  induction lines with
  | nil => rfl
  | cons line lines ih =>
      rw [List.flatMap_cons, Text.unitLength_append, Text.unitLength_append, hFeed, ih,
        unitsOfLines]

/-! ### Places -/

/-- **A place denotes a position of a text.** -/
structure Place.Denotes (text : List Char) (p : Position) (place : Place) : Prop where
  /-- The position lies in the text: `0 ≤ p.offset ≤ text.length`. -/
  offset_mem : 0 ≤ p.offset ∧ p.offset ≤ text.length
  /-- Lines are counted from zero: `place.line = p.line - 1`. -/
  line_eq : (place.line : ℤ) = p.line - 1
  /-- The line is one of the text. -/
  line_lt : place.line < (Text.lines text).length
  /-- The place is on the line or at its end: `place.character` is at most its `unitLength`. -/
  character_le : ∀ line ∈ (Text.lines text)[place.line]?, place.character ≤ Text.unitLength line
  /-- As many characters as the column says stand before the place on its line, so that nothing had
  to be cut off or made up. -/
  column_eq : ∃ front rest, (Text.lines text)[place.line]? = some (front ++ rest) ∧
    (front.length : ℤ) = p.column - 1 ∧ place.character = Text.unitLength front
  /-- The lines before and the characters before the place are the units before the position. -/
  units_eq : unitsOfLines ((Text.lines text).take place.line) + place.character
    = Text.unitLength (text.take p.offset.toNat)

/-- **The place computed for a true position denotes it:** `placeOf` of `ofOffset source n` for
`n ≤ source.length`. -/
theorem denotes_ofOffset {source : List Char} {n : ℕ} (hn : n ≤ source.length) :
    (placeOf (Text.lines source) (ofOffset source n)).Denotes source (ofOffset source n) := by
  obtain ⟨earlier, front, rest, later, hLines, hTake, hPlace⟩ := exists_line_ofOffset source n
  -- the line is found, and the part of it before the column is taken whole
  have hIndex : ((1 + earlier.length : ℤ) - 1).toNat = earlier.length := by omega
  have hLine : (Text.lines source)[earlier.length]? = some (front ++ rest) := by
    rw [hLines]
    simp
  have hFront : unitsBefore (front ++ rest) (1 + front.length) = Text.unitLength front := by
    have hColumn : (1 + front.length : ℤ) - 1 = front.length := by omega
    rw [unitsBefore, hColumn, Text.takeSigned, if_pos (Int.natCast_nonneg _), Int.toNat_natCast,
      List.take_left]
  have hComputed : placeOf (Text.lines source) (ofOffset source n)
      = ⟨earlier.length, Text.unitLength front⟩ := by
    rw [placeOf, hPlace]
    simp only [hIndex, hLine, Option.getD_some, hFront]
  rw [hComputed]
  refine ⟨⟨Int.natCast_nonneg n, Int.ofNat_le.mpr hn⟩, ?_, ?_, ?_,
    ⟨front, rest, hLine, ?_, rfl⟩, ?_⟩
  · rw [hPlace]
    show (earlier.length : ℤ) = 1 + earlier.length - 1
    omega
  · exact (List.getElem?_eq_some_iff.mp hLine).1
  · intro line hMem
    cases hLine.symm.trans hMem
    rw [Text.unitLength_append]
    exact Nat.le_add_right _ _
  · rw [hPlace]
    show (front.length : ℤ) = 1 + front.length - 1
    omega
  · show unitsOfLines ((Text.lines source).take earlier.length) + Text.unitLength front
      = Text.unitLength (source.take n)
    rw [hLines, List.take_left, hTake, Text.unitLength_append, unitLength_flatMap]

/-! ### The order of places -/

/-- One place comes before another: on an earlier line, or earlier on the same line. -/
def Place.Before (p q : Place) : Prop :=
  p.line < q.line ∨ p.line = q.line ∧ p.character < q.character

/-- The place `p` comes before `q` or is the same. -/
def Place.AtMost (p q : Place) : Prop :=
  p.line < q.line ∨ p.line = q.line ∧ p.character ≤ q.character

/-- **Places are in the order of their offsets:** `Before` for `m < n`. -/
theorem before_of_lt {source : List Char} {m n : ℕ} (hmn : m < n) (hn : n ≤ source.length) :
    (placeOf (Text.lines source) (ofOffset source m)).Before
      (placeOf (Text.lines source) (ofOffset source n)) := by
  have hFirst := denotes_ofOffset (hmn.le.trans hn)
  have hSecond := denotes_ofOffset hn
  have hLine := hFirst.line_eq
  have hLineLater := hSecond.line_eq
  rcases Position.ofOffset_precedes hmn hn with hEarlier | ⟨hSame, -⟩
  · exact Or.inl (by omega)
  · -- on the same line the units before the line are the same
    have hIndex : (placeOf (Text.lines source) (ofOffset source m)).line
        = (placeOf (Text.lines source) (ofOffset source n)).line := by omega
    have hUnits := hFirst.units_eq
    have hUnitsLater := hSecond.units_eq
    have hMore := Text.unitLength_take_lt hmn hn
    rw [Position.offset_ofOffset, Int.toNat_natCast] at hUnits hUnitsLater
    rw [hIndex] at hUnits
    exact Or.inr ⟨hIndex, by omega⟩

/-- `AtMost` for offsets `m ≤ n`. -/
theorem atMost_of_le {source : List Char} {m n : ℕ} (hmn : m ≤ n) (hn : n ≤ source.length) :
    (placeOf (Text.lines source) (ofOffset source m)).AtMost
      (placeOf (Text.lines source) (ofOffset source n)) := by
  rcases Nat.lt_or_eq_of_le hmn with hLess | rfl
  · exact (before_of_lt hLess hn).imp_right fun h => ⟨h.1, h.2.le⟩
  · exact Or.inr ⟨rfl, Nat.le_refl _⟩

/-- A character that ends no line moves `character` by its `unitWidth` and keeps `line`. -/
theorem placeOf_succ {source : List Char} {n : ℕ} {c : Char} (hn : n < source.length)
    (hc : source[n]? = some c) (hFeed : c ≠ '\n') :
    (placeOf (Text.lines source) (ofOffset source (n + 1))).line
        = (placeOf (Text.lines source) (ofOffset source n)).line ∧
      (placeOf (Text.lines source) (ofOffset source (n + 1))).character
        = (placeOf (Text.lines source) (ofOffset source n)).character + Text.unitWidth c := by
  have hFirst := denotes_ofOffset hn.le
  have hSecond := denotes_ofOffset (n := n + 1) hn
  have hTake : source.take (n + 1) = source.take n ++ [c] := by
    rw [List.take_add_one, hc]
    rfl
  have hSame : (ofOffset source (n + 1)).line = (ofOffset source n).line := by
    simp [ofOffset, hTake, hFeed]
  have hLine := hFirst.line_eq
  have hLineNext := hSecond.line_eq
  have hIndex : (placeOf (Text.lines source) (ofOffset source (n + 1))).line
      = (placeOf (Text.lines source) (ofOffset source n)).line := by omega
  refine ⟨hIndex, ?_⟩
  -- the lines before are the same, so that all the new units are on this line
  have hUnits := hFirst.units_eq
  have hUnitsNext := hSecond.units_eq
  rw [Position.offset_ofOffset, Int.toNat_natCast] at hUnits hUnitsNext
  rw [hIndex, hTake, Text.unitLength_append, Text.unitLength_cons, Text.unitLength_nil]
    at hUnitsNext
  omega

/-! ### What is reported -/

/-- `rangeOf?` agrees with `rangeOf` on the spans of a text with at most `lastLine` lines. -/
theorem rangeOf?_eq_ok {source : List Char} {m n : ℕ} (hm : m ≤ source.length)
    (hn : n ≤ source.length) (hLines : (Text.lines source).length ≤ lastLine) :
    rangeOf? (Text.lines source) ⟨ofOffset source m, ofOffset source n⟩
      = .ok (rangeOf (Text.lines source) ⟨ofOffset source m, ofOffset source n⟩) := by
  have hFits : ∀ {k : ℕ}, k ≤ source.length →
      fitting (Text.lines source) (ofOffset source k) = .ok (ofOffset source k) := by
    intro k hk
    have hDenotes := denotes_ofOffset hk
    have hLine := hDenotes.line_eq
    have hLess := hDenotes.line_lt
    rw [fitting, if_neg (by omega), if_neg (by omega)]
  rw [rangeOf?, hFits hm, hFits hn]
  rfl

/-- Everything reported is about the text between two offsets: `notice.span` is `ofOffset` of both.
-/
theorem exists_span_of_notice {text : String} {notice : Notice}
    (h : notice ∈ (scan text).notices) :
    ∃ a b, a ≤ b ∧ b ≤ text.toList.length ∧
      notice.span = ⟨ofOffset text.toList a, ofOffset text.toList b⟩ := by
  obtain ⟨hReached, hAdvances, -⟩ := (Scanner.reached_start text.toList).drain
  -- faults are where their tokens are, and warnings reach to the end of the text
  rcases List.mem_append.mp h with hFault | hWarning
  · obtain ⟨fault, hMem, rfl⟩ := List.mem_map.mp hFault
    obtain ⟨t, ht, hSome⟩ := List.mem_filterMap.mp hMem
    obtain ⟨a, b, -, hab, hb, hSpan⟩ := hAdvances.span_of_mem ht
    obtain ⟨-, rfl⟩ := Token.fault?_eq_some_iff.mp hSome
    exact ⟨a, b, hab, hb, hSpan⟩
  · obtain ⟨w, hMem, rfl⟩ := List.mem_map.mp hWarning
    obtain ⟨a, ha, hSpan⟩ := hReached.spans w hMem
    exact ⟨a, _, ha, Nat.le_refl _, hSpan⟩

/-- A fault is about one character `c ≠ '\n'` of the text. -/
theorem exists_char_of_fault {text : String} {fault : Fault}
    (h : fault ∈ faults (scan text).tokens) :
    ∃ (a : ℕ) (c : Char), a < text.toList.length ∧ text.toList[a]? = some c ∧ c ≠ '\n' ∧
      fault = ⟨String.singleton c, ⟨ofOffset text.toList a, ofOffset text.toList (a + 1)⟩⟩ := by
  obtain ⟨t, ht, hSome⟩ := List.mem_filterMap.mp h
  obtain ⟨hIllegal, rfl⟩ := Token.fault?_eq_some_iff.mp hSome
  have hReading := reading_scanChars text.toList
  obtain ⟨a, b, lexeme, hab, hb, hRaw, hFits, rfl⟩ :=
    hReading.exists_lexeme ht (by rw [hIllegal]; decide)
  obtain ⟨rfl, c, hc, hFeed, hText⟩ := hFits.illegal_char hb hRaw hIllegal
  refine ⟨a, c, hb, hc, hFeed, ?_⟩
  rw [Lexeme.tokenAt, ← hText]

/-- Faults follow each other without overlap: each stops at an offset not behind the `start` of the
next. -/
theorem pairwise_faults (text : String) :
    (faults (scan text).tokens).Pairwise fun f g =>
      f.span.stop.offset ≤ g.span.start.offset := by
  -- the tokens of the text are in order, and the faults are some of them
  have hTokens := (Scanner.reached_start text.toList).drain.2.1.pairwise
  refine List.Pairwise.filterMap _ ?_ hTokens
  intro t u htu f hf g hg
  obtain ⟨-, rfl⟩ := Token.fault?_eq_some_iff.mp hf
  obtain ⟨-, rfl⟩ := Token.fault?_eq_some_iff.mp hg
  exact htu

/-- The published diagnostics of severity `error` are the `faults`, in their order. -/
theorem filter_error_diagnostics (text : String) :
    (diagnostics text).filter (·.severity = .error)
      = (faults (scan text).tokens).map fun fault =>
          Diagnostic.ofNotice (Text.lines text.toList) fault.notice := by
  rw [diagnostics, Scan.notices, List.map_append, List.filter_append, List.map_map, List.map_map,
    List.filter_eq_self.mpr, List.filter_eq_nil_iff.mpr, List.append_nil]
  · rfl
  · intro d hd
    obtain ⟨w, -, rfl⟩ := List.mem_map.mp hd
    simp [Diagnostic.ofNotice, Warning.notice]
  · intro d hd
    obtain ⟨fault, -, rfl⟩ := List.mem_map.mp hd
    simp [Diagnostic.ofNotice, Fault.notice]

/-- **Ranges denote spans.** Both ends of everything reported are shown in the places that they have
in the text, the first not behind the second, and an editor that can number the lines of the text is
given this range. An error is shown on one line and is as wide as its character, two units if that is
above `U+FFFF` and one unit otherwise. Published errors come one after another without overlap. -/
theorem rangeOf_notices (text : String) :
    (∀ notice ∈ (scan text).notices,
      let range := rangeOf (Text.lines text.toList) notice.span
      range.start.Denotes text.toList notice.span.start ∧
        range.stop.Denotes text.toList notice.span.stop ∧ range.start.AtMost range.stop ∧
        ((Text.lines text.toList).length ≤ lastLine →
          rangeOf? (Text.lines text.toList) notice.span = .ok range)) ∧
    (∀ fault ∈ faults (scan text).tokens,
      let range := rangeOf (Text.lines text.toList) fault.span
      ∃ c, text.toList[fault.span.start.offset.toNat]? = some c ∧
        fault.text = String.singleton c ∧ range.stop.line = range.start.line ∧
        range.stop.character = range.start.character + if 0xFFFF < c.toNat then 2 else 1) ∧
    (((diagnostics text).filter (·.severity = .error)).map (·.range)).Pairwise fun r q =>
      r.start.Before q.start ∧ r.stop.AtMost q.start := by
  refine ⟨?_, ?_, ?_⟩
  · intro notice hNotice
    obtain ⟨a, b, hab, hb, hSpan⟩ := exists_span_of_notice hNotice
    rw [hSpan]
    exact ⟨denotes_ofOffset (hab.trans hb), denotes_ofOffset hb, atMost_of_le hab hb,
      rangeOf?_eq_ok (hab.trans hb) hb⟩
  · intro fault hFault
    obtain ⟨a, c, ha, hc, hFeed, rfl⟩ := exists_char_of_fault hFault
    obtain ⟨hLine, hCharacter⟩ := placeOf_succ ha hc hFeed
    refine ⟨c, hc, rfl, hLine, hCharacter.trans ?_⟩
    have hWidth : Text.unitWidth c = if 0xFFFF < c.toNat then 2 else 1 := by
      unfold Text.unitWidth
      split <;> split <;> omega
    rw [hWidth]
    rfl
  · rw [filter_error_diagnostics, List.map_map, List.pairwise_map]
    refine (pairwise_faults text).imp_of_mem ?_
    intro f g hf hg hfg
    -- each fault is one character, so that a later one begins behind it
    obtain ⟨a, c, ha, -, -, rfl⟩ := exists_char_of_fault hf
    obtain ⟨b, d, hb, -, -, rfl⟩ := exists_char_of_fault hg
    have hab : a + 1 ≤ b := Int.ofNat_le.mp hfg
    exact ⟨before_of_lt hab hb.le, atMost_of_le hab hb.le⟩

end Editor

end MarkupScan
