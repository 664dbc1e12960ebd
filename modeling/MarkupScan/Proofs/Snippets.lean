import MarkupScan.Proofs.EditorRanges
import MarkupScan.Proofs.NumberLiterals
import MarkupScan.Proofs.OpenConstructs
import MarkupScan.Proofs.PrintedPlaces
import MarkupScan.Snippet

/-! # Snippets point at what they are about

A snippet is built from the place of a notice alone, line by line. Since every place that is
reported is a true one, the line that is shown is the line of the place, and the carets stand under
the characters of the span.

Main definition: **`Notice.Pictured`**, a snippet that shows a line of the text and points at the
span of its notice.

Main statements.
* **`Text.lines_intercalate`**: lines that are joined by line feeds are found again.
* **`Text.exists_trimReturns_append`**: a shown line loses nothing but its carriage returns.
* **`exists_first_of_notice`**: everything reported begins with a character that ends no line.
* **`exists_shownLine`**: the shown line of a place, and the character in its column.
* **`caretCount_one_line`**: carets are as many as the characters of a span on one line.
* **`snippet?_of_notice`**: everything reported about a text that is not too long has a snippet.
* **`snippet_pictured`**: the snippet of everything reported points at it. -/

namespace MarkupScan

open Position (ofOffset)

/-! ### The lines of a snippet -/

namespace Text

/-- **Lines that are joined by line feeds are found again:** `lines` undoes `intercalate`. -/
theorem lines_intercalate {parts : List (List Char)} (hSome : parts ≠ [])
    (hParts : ∀ part ∈ parts, '\n' ∉ part) : lines (['\n'].intercalate parts) = parts := by
  induction parts with
  | nil => exact absurd rfl hSome
  | cons part parts ih =>
      obtain ⟨hPart, hRest⟩ := List.forall_mem_cons.mp hParts
      cases parts with
      | nil =>
          rw [List.intercalate_singleton]
          exact lines_of_notMem hPart
      | cons next parts =>
          rw [List.intercalate_cons_cons, List.append_assoc, List.singleton_append,
            lines_append_feed hPart, ih (by simp) hRest]

/-- `spaces count` has no character but `' '`. -/
theorem notMem_spaces {c : Char} (hc : c ≠ ' ') (count : ℤ) : c ∉ (spaces count).toList := by
  rw [spaces, String.toList_ofList]
  intro hMem
  exact hc (List.mem_replicate.mp hMem).2

/-- **A shown line loses nothing but its carriage returns**, and all of those:
`line = trimReturns line ++ returns`. -/
theorem exists_trimReturns_append (line : List Char) :
    ∃ returns, line = trimReturns line ++ returns ∧ (∀ c ∈ returns, c = '\r') ∧
      (trimReturns line).getLast? ≠ some '\r' := by
  refine ⟨line.rtakeWhile (· == '\r'), List.rdropWhile_append_rtakeWhile.symm, ?_, ?_⟩
  · intro c hc
    simpa using List.mem_rtakeWhile_imp hc
  · intro hLast
    rw [trimReturns, List.getLast?_reverse] at hLast
    cases stop_of_head?_dropWhile hLast

/-- `trimReturns` keeps every character other than `\r` in its column. -/
theorem getElem?_trimReturns {text : List Char} {n : ℕ} {c : Char} (h : text[n]? = some c)
    (hc : c ≠ '\r') : (trimReturns text)[n]? = some c := by
  obtain ⟨returns, hLine, hReturns, -⟩ := exists_trimReturns_append text
  rw [hLine] at h
  rcases Nat.lt_or_ge n (trimReturns text).length with hLess | hBehind
  · rwa [List.getElem?_append_left hLess] at h
  · rw [List.getElem?_append_right hBehind] at h
    exact absurd (hReturns c (List.mem_of_getElem? h)) hc

end Text

/-- `(Text.lines text)[n]?` is not longer than `text`. -/
theorem Text.length_le_of_mem_lines {text line : List Char} (hLine : line ∈ lines text) :
    line.length ≤ text.length := by
  induction text generalizing line with
  | nil => rw [List.mem_singleton.mp hLine]
  | cons c text ih =>
      by_cases hc : c = '\n'
      · subst hc
        rw [lines_cons_feed] at hLine
        rcases List.mem_cons.mp hLine with rfl | hLine
        · exact Nat.zero_le _
        · exact Nat.le_succ_of_le (ih hLine)
      · obtain ⟨first, later, hText⟩ := List.exists_cons_of_ne_nil (lines_ne_nil text)
        rw [lines_cons_of_ne hc hText] at hLine
        rw [hText] at ih
        rcases List.mem_cons.mp hLine with rfl | hLine
        · exact Nat.succ_le_succ (ih List.mem_cons_self)
        · exact Nat.le_succ_of_le (ih (List.mem_cons_of_mem _ hLine))

/-- `shownLine source line` is not longer than `source`. -/
theorem length_shownLine_le (source : List Char) (line : ℤ) :
    (shownLine source line).length ≤ source.length := by
  unfold shownLine
  split
  · exact Nat.zero_le _
  · cases hLine : (Text.lines source)[(line - 1).toNat]? with
    | none => exact Nat.zero_le _
    | some found =>
        obtain ⟨returns, hFound, -, -⟩ := Text.exists_trimReturns_append found
        have hTrimmed := congrArg List.length hFound
        have hLength := Text.length_le_of_mem_lines (List.mem_of_getElem? hLine)
        rw [List.length_append] at hTrimmed
        rw [Option.getD_some]
        omega

/-- `shownLine` has no line feed: it is one line. -/
theorem feed_notMem_shownLine (source : List Char) (line : ℤ) : '\n' ∉ shownLine source line := by
  unfold shownLine
  split
  · exact List.not_mem_nil
  · cases hLine : (Text.lines source)[(line - 1).toNat]? with
    | none => exact List.not_mem_nil
    | some found =>
        obtain ⟨returns, hFound, -, -⟩ := Text.exists_trimReturns_append found
        intro hMem
        have hFeed : '\n' ∈ found := by
          rw [hFound]
          exact List.mem_append_left _ hMem
        exact (Text.mem_of_mem_lines (List.mem_of_getElem? hLine) _ hFeed).2 rfl

/-- **A snippet has the lines `snippetLines`**, where its message and the name of the file are one
line each. -/
theorem lines_snippet {n : Notice} (source : String) {fileName : String}
    (hMessage : '\n' ∉ n.message.toList) (hName : '\n' ∉ fileName.toList) :
    Text.lines (n.snippet source fileName).toList
      = (n.snippetLines source fileName).map String.toList := by
  have hFeed : ∀ k : ℤ, '\n' ∉ k.repr.toList := fun k =>
    JsonText.notMem_toString k (by decide) (by decide)
  have hSpaces : ∀ count : ℤ, '\n' ∉ (Text.spaces count).toList :=
    Text.notMem_spaces (by decide)
  have hShown := feed_notMem_shownLine source.toList n.span.start.line
  have hLabel : '\n' ∉ n.severity.label.toList := by
    cases n.severity <;> decide
  rw [Notice.snippet, String.toList_intercalate]
  refine Text.lines_intercalate (by simp [Notice.snippetLines]) ?_
  simp [Notice.snippetLines, hFeed, hSpaces, hShown, hLabel, hMessage, hName]

/-! ### What a notice is about -/

/-- `a < b` and `source[a]? = some c` where `source.extract a b` begins with `c`. -/
theorem getElem?_of_extract {source more : List Char} {a b : ℕ} {c : Char}
    (h : source.extract a b = c :: more) : a < b ∧ source[a]? = some c := by
  have hHead := congrArg List.head? h
  have hLess : a < b := by
    by_contra hNot
    rw [List.extract, Nat.sub_eq_zero_of_le (Nat.le_of_not_lt hNot), List.take_zero] at hHead
    cases hHead
  rw [List.extract, List.head?_take, if_neg (by omega), List.head?_drop] at hHead
  exact ⟨hLess, hHead⟩

/-- What is left open runs from its `/` or its quote to `source.length`. -/
theorem exists_mark_of_warning {source : List Char} {w : Warning}
    (h : w ∈ (scanChars source).warnings) :
    ∃ a c more, w.span = ⟨ofOffset source a, ofOffset source source.length⟩ ∧
      source.extract a source.length = c :: more ∧ (c = '/' ∨ c = '"') := by
  obtain ⟨a, -, hSpan⟩ := (Scanner.reached_start source).drain.1.spans w h
  obtain ⟨-, -, hNone⟩ | ⟨-, p, hOpens, hOne⟩ | ⟨t, -, ⟨-, content, hSlice, -⟩, -, hOne⟩ :=
    scanChars_ending_cases source
  · rw [hNone] at h
    cases h
  · rw [hOne, List.mem_singleton] at h
    obtain ⟨body, hDrop, -⟩ := hOpens.openComment
    exact ⟨p, '/', _, by rw [h], (extract_length source p).trans hDrop, Or.inl rfl⟩
  · rw [hOne, List.mem_singleton] at h
    have hToken : t.span = ⟨ofOffset source a, ofOffset source source.length⟩ := by
      rw [← hSpan, h]
    rw [Token.slice, hToken] at hSlice
    exact ⟨a, '"', content, hSpan, hSlice, Or.inr rfl⟩

/-- **Everything reported begins with a character that ends no line**, neither as a line feed nor as
a carriage return, and is said in one line. -/
theorem exists_first_of_notice {text : String} {notice : Notice}
    (h : notice ∈ (scan text).notices) :
    ∃ (a b : ℕ) (c : Char), a < b ∧ b ≤ text.toList.length ∧
      notice.span = ⟨ofOffset text.toList a, ofOffset text.toList b⟩ ∧
      text.toList[a]? = some c ∧ c ≠ '\n' ∧ c ≠ '\r' ∧ '\n' ∉ notice.message.toList := by
  rcases List.mem_append.mp h with hFault | hWarning
  · -- an illegal character is no white space
    obtain ⟨fault, hMem, rfl⟩ := List.mem_map.mp hFault
    obtain ⟨t, ht, hSome⟩ := List.mem_filterMap.mp hMem
    obtain ⟨hIllegal, rfl⟩ := Token.fault?_eq_some_iff.mp hSome
    have hReading := reading_scanChars text.toList
    obtain ⟨a, b, lexeme, -, hb, hRaw, hFits, rfl⟩ :=
      hReading.exists_lexeme ht (by rw [hIllegal]; decide)
    obtain ⟨c, hChar, hText, hBlank⟩ := hFits.illegal_cases hIllegal
    obtain ⟨hab, hc⟩ := getElem?_of_extract (hRaw.trans hChar)
    have hNotBlank : ∀ blank, isBlank blank = true → c ≠ blank := by
      rintro blank hOther rfl
      rw [hOther] at hBlank
      cases hBlank
    have hFeed := hNotBlank '\n' isBlank_feed
    refine ⟨a, b, c, hab, hb, rfl, hc, hFeed, hNotBlank '\r' isBlank_return, ?_⟩
    show '\n' ∉ ("illegal character '" ++ lexeme.text ++ "'").toList
    rw [hText]
    simp [hFeed.symm]
  · obtain ⟨w, hMem, rfl⟩ := List.mem_map.mp hWarning
    obtain ⟨a, c, more, hSpan, hStretch, hMark⟩ := exists_mark_of_warning hMem
    obtain ⟨hLess, hc⟩ := getElem?_of_extract hStretch
    have hEnds : c ≠ '\n' ∧ c ≠ '\r' := by
      rcases hMark with rfl | rfl <;> decide
    have hMessage : '\n' ∉ w.construct.message.toList := by
      cases w.construct <;> decide
    exact ⟨a, _, c, hLess, Nat.le_refl _, hSpan, hc, hEnds.1, hEnds.2, hMessage⟩

/-! ### Carets -/

section Carets

variable {source : List Char} {a b : ℕ}

/-- `1 ≤ (ofOffset source n).line`. -/
theorem one_le_line (source : List Char) (n : ℕ) : 1 ≤ (ofOffset source n).line := by
  show 1 ≤ 1 + ((source.take n).count '\n' : ℤ)
  omega

/-- `1 ≤ (ofOffset source n).column`. -/
theorem one_le_column (source : List Char) (n : ℕ) : 1 ≤ (ofOffset source n).column := by
  show 1 ≤ 1 + (((source.take n).rtakeWhile (· != '\n')).length : ℤ)
  omega

/-- On one line, columns are as far apart as offsets: `b - a`. -/
theorem column_eq_of_line_eq (hab : a ≤ b) (hb : b ≤ source.length)
    (hLine : (ofOffset source b).line = (ofOffset source a).line) :
    (ofOffset source b).column = (ofOffset source a).column + (b - a) := by
  have hMoved := Position.line_after (ofOffset source a) (source.extract a b)
  rw [Position.after_extract hab hb, length_extract hb] at hMoved
  rcases hMoved with hLater | ⟨-, hColumn⟩
  · omega
  · omega

/-- **Carets are as many as the characters of a span on one line:** `caretCount` is `b - a`. -/
theorem caretCount_one_line (hab : a < b) (hb : b ≤ source.length)
    (hLine : (ofOffset source b).line = (ofOffset source a).line) (shown : List Char) :
    caretCount ⟨ofOffset source a, ofOffset source b⟩ shown = b - a := by
  have hColumn := column_eq_of_line_eq hab.le hb hLine
  simp only [caretCount, if_pos hLine]
  omega

/-- Carets under a span that goes on reach to `shown.length`, the end of the shown line. -/
theorem caretCount_more_lines (hLine : (ofOffset source b).line ≠ (ofOffset source a).line)
    {shown : List Char} (hColumn : (ofOffset source a).column ≤ shown.length) :
    (ofOffset source a).column - 1 + caretCount ⟨ofOffset source a, ofOffset source b⟩ shown
      = shown.length := by
  simp only [caretCount, if_neg hLine]
  omega

/-- **The shown line of a place** is its line without the carriage returns at the end, and has the
character at the place in its column, unless that ends the line. -/
theorem exists_shownLine {c : Char} (hc : source[a]? = some c) (hFeed : c ≠ '\n')
    (hReturn : c ≠ '\r') :
    let shown := shownLine source (ofOffset source a).line
    (∃ returns, (Text.lines source)[((ofOffset source a).line - 1).toNat]?
        = some (shown ++ returns) ∧ (∀ c ∈ returns, c = '\r') ∧ shown.getLast? ≠ some '\r') ∧
      shown[((ofOffset source a).column - 1).toNat]? = some c := by
  obtain ⟨front, rest, hLine, hColumn, hFirst⟩ := exists_getElem?_lines source a
  obtain ⟨returns, hTrim, hReturns, hLast⟩ := Text.exists_trimReturns_append (front ++ rest)
  have hIndex : ((ofOffset source a).column - 1).toNat = front.length := by omega
  have hNumber := one_le_line source a
  have hShown : shownLine source (ofOffset source a).line = Text.trimReturns (front ++ rest) := by
    rw [shownLine, if_neg (by omega), hLine, Option.getD_some]
  rw [hShown, hIndex, hLine]
  refine ⟨⟨returns, by rw [← hTrim], hReturns, hLast⟩, Text.getElem?_trimReturns ?_ hReturn⟩
  rw [List.getElem?_append_right (Nat.le_refl _), Nat.sub_self, ← List.head?_eq_getElem?]
  exact hFirst c hc hFeed

/-- In a text without carriage returns, no place is farther right than its `shownLine` goes. -/
theorem column_le_shownLine (hPlain : '\r' ∉ source) (n : ℕ) :
    (ofOffset source n).column - 1 ≤ (shownLine source (ofOffset source n).line).length := by
  obtain ⟨front, rest, hLine, hColumn, -⟩ := exists_getElem?_lines source n
  obtain ⟨returns, hTrim, hReturns, -⟩ := Text.exists_trimReturns_append (front ++ rest)
  have hNumber := one_le_line source n
  have hShown : shownLine source (ofOffset source n).line = Text.trimReturns (front ++ rest) := by
    rw [shownLine, if_neg (by omega), hLine, Option.getD_some]
  -- nothing is trimmed, since the line is a part of the text
  have hNone : returns = [] := by
    refine List.eq_nil_iff_forall_not_mem.mpr fun c hc => hPlain ?_
    rw [← hReturns c hc]
    refine (Text.mem_of_mem_lines (List.mem_of_getElem? hLine) c ?_).1
    rw [hTrim]
    exact List.mem_append_right _ hc
  rw [hNone, List.append_nil] at hTrim
  rw [hShown, ← hTrim, List.length_append, hColumn]
  push_cast
  omega

end Carets

/-! ### Snippets -/

/-- **A snippet that shows a line of the text and points at the span of its notice.** -/
structure Notice.Pictured (n : Notice) (source fileName : String) (shown : List Char)
    (carets : ℕ) : Prop where
  /-- There are five lines. Bars stand in one column of the last three; the shown line is behind the
  second bar, and the carets are behind the third one, from the column of the notice on. -/
  lines_eq : ∃ first second margin number, Text.lines (n.snippet source fileName).toList
      = [first, second, margin ++ ['|'], number ++ '|' :: ' ' :: shown,
        margin ++ '|' :: ' ' :: (List.replicate (n.span.start.column - 1).toNat ' '
          ++ List.replicate carets '^')] ∧
    number.length = margin.length ∧ '|' ∉ margin ∧ '|' ∉ number
  /-- The shown line is the line of the notice without the carriage returns at its end. -/
  shown_eq : 1 ≤ n.span.start.line ∧ ∃ returns,
    (Text.lines source.toList)[(n.span.start.line - 1).toNat]? = some (shown ++ returns) ∧
      (∀ c ∈ returns, c = '\r') ∧ shown.getLast? ≠ some '\r'
  /-- In the column of the notice, the shown line has the first character of the span. -/
  first_eq : 1 ≤ n.span.start.column ∧ 0 ≤ n.span.start.offset ∧
    ∃ c, shown[(n.span.start.column - 1).toNat]? = some c ∧
      source.toList[n.span.start.offset.toNat]? = some c
  /-- There is a caret: `0 < carets`. -/
  carets_pos : 0 < carets
  /-- On one line, carets are as many as the characters of the span. -/
  one_line : n.span.stop.line = n.span.start.line →
    (carets : ℤ) = n.span.stop.offset - n.span.start.offset
  /-- If the span goes on, they reach to the end of the shown line. -/
  more_lines : n.span.stop.line ≠ n.span.start.line →
    n.span.start.column - 1 + carets = shown.length
  /-- Without carriage returns, they never reach farther. -/
  within_line : '\r' ∉ source.toList → n.span.start.column - 1 + carets ≤ shown.length

/-- The last three of `snippetLines` have their bars in one column. -/
theorem exists_bars (n : Notice) (source fileName : String) :
    let shown := shownLine source.toList n.span.start.line
    ∃ first second margin number, (n.snippetLines source fileName).map String.toList
      = [first, second, margin ++ ['|'], number ++ '|' :: ' ' :: shown,
        margin ++ '|' :: ' ' :: (List.replicate (n.span.start.column - 1).toNat ' '
          ++ List.replicate (caretCount n.span shown).toNat '^')] ∧
      number.length = margin.length ∧ '|' ∉ margin ∧ '|' ∉ number := by
  intro shown
  let number := toString n.span.start.line
  let gutter := Text.spaces (number.length + 1)
  -- a number has no bar, and the margins have as many blanks as it has characters and one
  have hBar : '|' ∉ number.toList :=
    JsonText.notMem_toString _ (by decide) (by decide)
  have hWidth : gutter.toList = List.replicate (number.length + 1) ' ' := String.toList_ofList
  refine ⟨(n.severity.label ++ ": " ++ n.message).toList,
    (gutter ++ "--> " ++ fileName ++ ":" ++ number ++ ":" ++ toString n.span.start.column).toList,
    gutter.toList, number.toList ++ [' '], ?_, ?_, ?_, ?_⟩
  · have hThird : (gutter ++ "|").toList = gutter.toList ++ ['|'] := String.toList_append
    have hFourth : (number ++ " | " ++ String.ofList shown).toList
        = number.toList ++ [' '] ++ '|' :: ' ' :: shown := by
      simp
    have hFifth : ∀ carets, (gutter ++ "| " ++ Text.spaces (n.span.start.column - 1)
          ++ String.ofList carets).toList
        = gutter.toList ++ '|' :: ' ' :: (List.replicate (n.span.start.column - 1).toNat ' '
          ++ carets) := by
      simp [Text.spaces]
    rw [← hThird, ← hFourth, ← hFifth]
    rfl
  · simp [hWidth, String.length_toList]
  · exact Text.notMem_spaces (by decide) _
  · simpa using hBar

/-- **`notice.snippet? text fileName = .ok (notice.snippet text fileName)`** for everything reported
about a text with fewer than `widthLimit` characters. -/
theorem snippet?_of_notice {text : String} (hShort : text.toList.length < widthLimit)
    {notice : Notice} (hNotice : notice ∈ (scan text).notices) (fileName : String) :
    notice.snippet? text fileName = .ok (notice.snippet text fileName) := by
  obtain ⟨a, b, -, -, hSpan⟩ := Editor.exists_span_of_notice hNotice
  have hLine := one_le_line text.toList a
  have hColumn := one_le_column text.toList a
  have hStart := Position.ofOffset_le text.toList a
  have hStop := Position.ofOffset_le text.toList b
  have hShown := length_shownLine_le text.toList (ofOffset text.toList a).line
  -- every width is counted by places of the text, which are below the limit
  have hFits : ∀ {width : ℤ}, 0 ≤ width → width ≤ widthLimit → checkWidth width = .ok () := by
    intro width hLow hHigh
    unfold widthLimit at hHigh
    rw [checkWidth, if_neg (by omega), if_neg (by unfold widthLimit; omega)]
  have hCarets : 0 ≤ caretCount notice.span (shownLine text.toList notice.span.start.line) ∧
      caretCount notice.span (shownLine text.toList notice.span.start.line) ≤ widthLimit := by
    rw [hSpan, caretCount]
    unfold widthLimit at hShort ⊢
    dsimp only
    split <;> omega
  -- a line of a text that short has few digits
  obtain ⟨number, hNumber⟩ : ∃ number, Number.integerText? notice.span.start.line = some number := by
    have hBound : 0x100000001 < Nat.pow 10 Number.maxIntegerDigits := by decide +kernel
    refine ⟨_, Number.integerText?_eq_some_iff.mpr ⟨lt_of_le_of_lt ?_ hBound, rfl⟩⟩
    unfold widthLimit at hShort
    rw [hSpan]
    exact hStart.1.trans (by omega)
  have hBefore : checkWidth (notice.span.start.column - 1) = .ok () := by
    rw [hSpan]
    exact hFits (Int.sub_nonneg_of_le hColumn) (by dsimp only; omega)
  rw [Notice.snippet?, hBefore, hFits hCarets.1 hCarets.2, hNumber]
  rfl

/-- **Snippets point at what they are about.** The snippet of every error and every warning of a
text, under the name of a file that is one line, shows the line of the notice and points at its
span. -/
theorem snippet_pictured (text : String) {fileName : String} (hName : '\n' ∉ fileName.toList)
    {notice : Notice} (hNotice : notice ∈ (scan text).notices) :
    ∃ shown carets, notice.Pictured text fileName shown carets := by
  obtain ⟨a, b, c, hab, hb, hSpan, hc, hFeed, hReturn, hMessage⟩ := exists_first_of_notice hNotice
  obtain ⟨hShown, hFirst⟩ := exists_shownLine hc hFeed hReturn
  obtain ⟨first, second, margin, number, hLines, hBars⟩ := exists_bars notice text fileName
  rw [← lines_snippet text hMessage hName] at hLines
  rw [hSpan] at hLines
  set shown := shownLine text.toList (ofOffset text.toList a).line with hShownLine
  set carets := caretCount ⟨ofOffset text.toList a, ofOffset text.toList b⟩ shown with hCarets
  have hColumn := one_le_column text.toList a
  have hInside := (List.getElem?_eq_some_iff.mp hFirst).1
  have hOne : (ofOffset text.toList b).line = (ofOffset text.toList a).line → carets = b - a :=
    fun hSame => caretCount_one_line hab hb hSame shown
  have hMore : (ofOffset text.toList b).line ≠ (ofOffset text.toList a).line →
      (ofOffset text.toList a).column - 1 + carets = shown.length :=
    fun hOther => caretCount_more_lines hOther (by omega)
  have hPos : 1 ≤ carets := by
    by_cases hSame : (ofOffset text.toList b).line = (ofOffset text.toList a).line
    · have hWidth := hOne hSame
      omega
    · have hWidth := hMore hSame
      omega
  have hCast : (carets.toNat : ℤ) = carets := Int.toNat_of_nonneg (by omega)
  refine ⟨shown, carets.toNat, ⟨first, second, margin, number, ?_, hBars⟩, ?_, ?_, by omega, ?_, ?_,
    ?_⟩
  all_goals rw [hSpan]
  · exact hLines
  · exact ⟨one_le_line text.toList a, hShown⟩
  · exact ⟨hColumn, Int.natCast_nonneg a, c, hFirst, hc⟩
  · rw [hCast]
    exact hOne
  · rw [hCast]
    exact hMore
  · intro hPlain
    rw [hCast]
    show (ofOffset text.toList a).column - 1 + carets ≤ shown.length
    by_cases hSame : (ofOffset text.toList b).line = (ofOffset text.toList a).line
    · -- the carets end before the place behind the span, which is on the line
      have hEnd := column_le_shownLine hPlain b
      have hWidth := hOne hSame
      have hBehind := column_eq_of_line_eq hab.le hb hSame
      rw [hSame, ← hShownLine] at hEnd
      omega
    · exact Int.le_of_eq (hMore hSame)

/-- A string is opened in the last column of the shown line, in front of two carriage returns, and
is left open on the next line. -/
theorem snippet_pictured_last_column :
    let text := "ab \"\r\r\nc"
    let notice : Notice := ⟨.warning, "unterminated string literal", ⟨⟨1, 4, 3⟩, ⟨2, 2, 8⟩⟩⟩
    '\n' ∉ "a.wn".toList ∧ notice ∈ (scan text).notices ∧
      notice.snippet text "a.wn" = "warning: unterminated string literal\n" ++
        "  --> a.wn:1:4\n  |\n1 | ab \"\n  |    ^" ∧
      ∃ shown carets, notice.Pictured text "a.wn" shown carets := by
  intro text notice
  have hName : '\n' ∉ "a.wn".toList := by decide
  have hNotice : notice ∈ (scan text).notices := by decide +kernel
  exact ⟨hName, hNotice, by decide +kernel, snippet_pictured text hName hNotice⟩

end MarkupScan
