import MarkupScan.Proofs.Endings

/-! # Texts set one behind another

A text that stands behind another one is read as it would be alone, with its positions moved: its
first line goes on where the other text ends, its other lines are lines further down. Behind white
space nothing of the first text reaches into the second, so that a scan of both is a scan of each.

Main definitions.
* **`Position.moved`**: where a position of a text is when the text begins somewhere else.
* **`Scan.moved`**: a scan with all its positions moved.
* **`withoutEnd`**: the tokens of a text without its end of input.

Main statements.
* **`Position.ofOffset_append`**: places behind a text are moved places.
* **`Reading.moved`**: a reading behind a text is a moved reading.
* **`Reading.append_gap`**: nothing of a text reaches across a gap behind it.
* **`scanChars_append_blank`**: at white space, scanning a text is scanning its two parts. -/

namespace MarkupScan

/-! ### Moved positions -/

namespace Position

/-- Where the position is when its text begins at `base`: columns are moved on the first line, lines
below it. -/
def moved (p base : Position) : Position :=
  if p.line = 1 then ⟨base.line, base.column + p.column - 1, base.offset + p.offset⟩
  else ⟨base.line + p.line - 1, p.column, base.offset + p.offset⟩

/-- `origin.moved base = base`: a text begins at its base. -/
@[simp] theorem moved_origin (base : Position) : origin.moved base = base := by
  simp [moved, origin]

/-- `1 ≤ (p.next c).line`: reading a character never leads before the first line. -/
theorem one_le_line_next {p : Position} (hp : 1 ≤ p.line) (c : Char) : 1 ≤ (p.next c).line := by
  unfold next
  split
  · exact Int.le_add_one hp
  · exact hp

/-- `(p.moved base).next c = (p.next c).moved base`. -/
theorem next_moved {p : Position} (hp : 1 ≤ p.line) (base : Position) (c : Char) :
    (p.moved base).next c = (p.next c).moved base := by
  by_cases hc : c = '\n'
  · -- a line feed leads to the first column, and from the first line to the second
    have hSecond : p.line + 1 ≠ 1 := by omega
    by_cases hFirst : p.line = 1
    · simp [moved, next, hc, hFirst]
      omega
    · simp [moved, next, hc, hFirst, hSecond]
      omega
  · -- any other character stays on the line, which is the first one in both texts or in neither
    by_cases hFirst : p.line = 1
    · simp [moved, next, hc, hFirst]
      omega
    · simp [moved, next, hc, hFirst]
      omega

/-- **Reading moves a moved position as it moves the position:** `after` and `moved` commute. -/
theorem after_moved {p : Position} (hp : 1 ≤ p.line) (base : Position) (text : List Char) :
    (p.moved base).after text = (p.after text).moved base := by
  induction text generalizing p with
  | nil => rfl
  | cons c text ih =>
      rw [after_cons, after_cons, next_moved hp]
      exact ih (one_le_line_next hp c)

/-- **Places behind a text are moved places:** `ofOffset` behind `front` is `moved` by the end of
`front`. -/
theorem ofOffset_append (front text : List Char) {n : ℕ} (hn : n ≤ text.length) :
    ofOffset (front ++ text) (front.length + n)
      = (ofOffset text n).moved (ofOffset front front.length) := by
  have hLength : front.length + n ≤ (front ++ text).length := by
    rw [List.length_append]
    exact Nat.add_le_add_left hn _
  have hFront : origin.after front = ofOffset front front.length := by
    rw [← after_take (Nat.le_refl _), List.take_length]
  have hOrigin : 1 ≤ origin.line := Int.le_refl 1
  -- reading `front` leads to the base, and from there reading goes on as from the origin
  calc ofOffset (front ++ text) (front.length + n)
      = origin.after (front ++ text.take n) := by
        rw [← after_take hLength, List.take_length_add_append]
    _ = (origin.moved (ofOffset front front.length)).after (text.take n) := by
        rw [after_append, hFront, moved_origin]
    _ = (ofOffset text n).moved (ofOffset front front.length) := by
        rw [after_moved hOrigin, after_take hn]

end Position

/-- The span with both its ends moved. -/
def Span.moved (span : Span) (base : Position) : Span :=
  ⟨span.start.moved base, span.stop.moved base⟩

/-- The token in its moved place. -/
def Token.moved (t : Token) (base : Position) : Token := { t with span := t.span.moved base }

/-- The warning in its moved place. -/
def Warning.moved (w : Warning) (base : Position) : Warning := { w with span := w.span.moved base }

/-- The scan with all its tokens and warnings moved. -/
def Scan.moved (scan : Scan) (base : Position) : Scan :=
  ⟨scan.tokens.map (·.moved base), scan.warnings.map (·.moved base)⟩

/-! ### Moved readings -/

section Moved

variable (front text : List Char)

/-- `endToken (front ++ text)` is the end of input of `text`, moved. -/
theorem endToken_append :
    endToken (front ++ text) = (endToken text).moved (.ofOffset front front.length) := by
  rw [endToken, List.length_append, Position.ofOffset_append front text (Nat.le_refl _)]
  rfl

/-- `extract` between two offsets of `text` gives the same behind `front`. -/
theorem extract_append (m n : ℕ) :
    (front ++ text).extract (front.length + m) (front.length + n) = text.extract m n := by
  rw [List.extract, List.drop_length_add_append, Nat.add_sub_add_left]

/-- `lexeme.tokenAt` behind `front` is a moved token. -/
theorem Lexeme.tokenAt_append (lexeme : Lexeme) {a b : ℕ} (hab : a ≤ b) (hb : b ≤ text.length) :
    lexeme.tokenAt (front ++ text) (front.length + a) (front.length + b)
      = (lexeme.tokenAt text a b).moved (.ofOffset front front.length) := by
  rw [Lexeme.tokenAt, Position.ofOffset_append front text (hab.trans hb),
    Position.ofOffset_append front text hb]
  rfl

/-- The warning about an open string is `moved` with the string. -/
theorem stringWarnings_moved (lexeme : Lexeme) (span : Span) (base : Position) :
    Scanner.stringWarnings lexeme (span.moved base)
      = (Scanner.stringWarnings lexeme span).map (·.moved base) := by
  unfold Scanner.stringWarnings
  split <;> rfl

/-- **A `Reading` behind a text is a moved one.** -/
theorem Reading.moved {text : List Char} {n : ℕ} {scan : Scan} (h : Reading text n scan) :
    Reading (front ++ text) (front.length + n) (scan.moved (.ofOffset front front.length)) := by
  have hLength : ∀ {m : ℕ}, m ≤ text.length → front.length + m ≤ (front ++ text).length := by
    intro m hm
    rw [List.length_append]
    exact Nat.add_le_add_left hm _
  -- every case keeps its characters and what follows them; only the places change
  induction h with
  | closed hn hGap =>
      simp only [Scan.moved, List.map_cons, List.map_nil, ← endToken_append]
      refine .closed (hLength hn) ?_
      rwa [List.drop_length_add_append]
  | @openComment n a hna ha hGap hOpen =>
      have hComment : Reading (front ++ text) (front.length + n) _ :=
        .openComment (Nat.add_le_add_left hna _) (hLength ha) (by rwa [extract_append])
          (by rwa [List.drop_length_add_append])
      rw [endToken_append, List.length_append, Position.ofOffset_append front text ha,
        Position.ofOffset_append front text (Nat.le_refl _)] at hComment
      exact hComment
  | @token n a b lexeme scan hna hab hb hGap hRaw hFits _ ih =>
      have hToken : Reading (front ++ text) (front.length + n) _ :=
        .token (Nat.add_le_add_left hna _) (Nat.add_le_add_left hab _) (hLength hb)
          (by rwa [extract_append]) (by rwa [extract_append])
          (by rwa [List.drop_length_add_append]) ih
      have hWarnings := stringWarnings_moved lexeme (lexeme.tokenAt text a b).span
        (.ofOffset front front.length)
      rw [Lexeme.tokenAt_append front text lexeme hab hb] at hToken
      simp only [Scan.moved, List.map_cons, List.map_append, ← hWarnings]
      exact hToken

end Moved

/-! ### Two texts with white space between them -/

/-- The tokens of another category than `endOfInput`. -/
def withoutEnd (tokens : List Token) : List Token := tokens.filter (·.category != .endOfInput)

/-- `withoutEnd` leaves out the `endToken` only. -/
theorem withoutEnd_append_endToken {front : List Token}
    (hFront : ∀ t ∈ front, t.category ≠ .endOfInput) (source : List Char) :
    withoutEnd (front ++ [endToken source]) = front := by
  have hKept : front.filter (·.category != .endOfInput) = front :=
    List.filter_eq_self.mpr fun t ht => by simpa using hFront t ht
  rw [withoutEnd, List.filter_append, hKept]
  exact List.append_nil front

/-- `Spacing` in front of what is read belongs to its first gap. -/
theorem Reading.of_spacing {source : List Char} {m n : ℕ} {scan : Scan} (h : Reading source n scan)
    (hmn : m ≤ n) (hGap : Spacing (source.extract m n)) : Reading source m scan := by
  cases h with
  | closed hn hRest =>
      refine .closed (hmn.trans hn) ?_
      rw [drop_eq_extract_append hmn]
      exact hGap.append hRest
  | @openComment _ a hna ha hRest hOpen =>
      refine .openComment (hmn.trans hna) ha ?_ hOpen
      rw [← extract_append_extract hmn hna]
      exact hGap.append hRest
  | @token _ a b lexeme scan hna hab hb hRest hRaw hFits hLater =>
      refine .token (hmn.trans hna) hab hb ?_ hRaw hFits hLater
      rw [← extract_append_extract hmn hna]
      exact hGap.append hRest

/-- **Nothing reaches across a gap.** Where a text leaves nothing open and what follows it begins
like a gap, its tokens come first (`withoutEnd`) and then whatever is read behind it. -/
theorem Reading.append_gap {text more : List Char} {n : ℕ} {scan later : Scan}
    (h : Reading text n scan) (hClosed : scan.warnings = [])
    (hMore : ∀ c ∈ more.head?, isBlank c = true ∨ c = '/')
    (hLater : Reading (text ++ more) text.length later) :
    Reading (text ++ more) n ⟨withoutEnd scan.tokens ++ later.tokens, later.warnings⟩ := by
  obtain ⟨front, m, tail, hLeads, hTail, rfl⟩ := h.exists_tail
  cases hTail with
  | spacing hGap =>
      rw [withoutEnd_append_endToken hLeads.category_ne]
      -- the last gap of the text becomes the first one of what is read later
      refine (hLeads.append (Or.inr hMore)).reading (hLater.of_spacing hLeads.le_length ?_)
      rwa [← extract_length, extract_eq_of_take_eq (take_length_append text more) m (Nat.le_refl _)]
        at hGap
  | comment _ _ _ _ => cases hClosed
  | string _ _ _ _ _ _ => cases hClosed

/-- Nothing reaches across a blank `c`. -/
theorem Reading.append_blank {text more : List Char} {c : Char} {n : ℕ} {scan later : Scan}
    (hc : isBlank c = true) (h : Reading text n scan) (hClosed : scan.warnings = [])
    (hLater : Reading (text ++ c :: more) (text.length + 1) later) :
    Reading (text ++ c :: more) n ⟨withoutEnd scan.tokens ++ later.tokens, later.warnings⟩ := by
  -- the white space itself is a gap in front of the second part
  have hGap : Spacing ((text ++ c :: more).extract text.length (text.length + 1)) := by
    have hBlank : (text ++ c :: more).extract text.length (text.length + 1) = [c] := by simp
    rw [hBlank]
    exact .blank hc .nil
  refine h.append_gap hClosed ?_ (hLater.of_spacing (Nat.le_succ _) hGap)
  rintro d ⟨⟩
  exact Or.inl hc

/-- **At white space a text falls into two.** Where the first part leaves nothing open, the tokens
of the whole are those of the first part without its end of input and then those of the second part,
which begin where the first part and the white space end; and the warnings are those of the second
part. -/
theorem scanChars_append_blank {text : List Char} {c : Char} (more : List Char)
    (hc : isBlank c = true) (hClosed : (scanChars text).warnings = []) :
    let base := Position.ofOffset (text ++ [c]) (text.length + 1)
    (scanChars (text ++ c :: more)).tokens
        = withoutEnd (scanChars text).tokens ++ (scanChars more).tokens.map (·.moved base) ∧
      (scanChars (text ++ c :: more)).warnings = (scanChars more).warnings.map (·.moved base) := by
  intro base
  have hText := reading_scanChars text
  have hMore := (reading_scanChars more).moved (text ++ [c])
  rw [List.append_assoc, List.singleton_append, List.length_append, List.length_singleton] at hMore
  have hWhole := hText.append_blank hc hClosed hMore
  rw [(scanChars_eq_iff_reading _ _).mpr hWhole]
  exact ⟨rfl, rfl⟩

/-- Neither the number `1.` nor the operator `=` reaches across the line feed between them, and the
comment that stays open is on the lines that it has in the whole text. -/
theorem scanChars_append_line :
    isBlank '\n' = true ∧ (scanChars "b 1.".toList).warnings = [] ∧
      (scanChars ("b 1.".toList ++ '\n' :: "= /*\n".toList)).tokens
        = withoutEnd (scanChars "b 1.".toList).tokens
          ++ (scanChars "= /*\n".toList).tokens.map (·.moved ⟨2, 1, 5⟩) ∧
      (scanChars ("b 1.".toList ++ '\n' :: "= /*\n".toList)).warnings
        = [⟨.comment, ⟨⟨2, 3, 7⟩, ⟨3, 1, 10⟩⟩⟩] := by
  have hBlank : isBlank '\n' = true := by decide +kernel
  have hClosed : (scanChars "b 1.".toList).warnings = [] := by decide +kernel
  have hBase : Position.ofOffset ("b 1.".toList ++ ['\n']) ("b 1.".toList.length + 1)
      = ⟨2, 1, 5⟩ := by decide +kernel
  have hMoved : (scanChars "= /*\n".toList).warnings.map (·.moved ⟨2, 1, 5⟩)
      = [⟨.comment, ⟨⟨2, 3, 7⟩, ⟨3, 1, 10⟩⟩⟩] := by decide +kernel
  obtain ⟨hTokens, hWarnings⟩ := scanChars_append_blank "= /*\n".toList hBlank hClosed
  rw [hBase] at hTokens hWarnings
  exact ⟨hBlank, hClosed, hTokens, hWarnings.trans hMoved⟩

end MarkupScan
