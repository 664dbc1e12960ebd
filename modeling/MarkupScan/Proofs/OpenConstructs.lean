import MarkupScan.Proofs.Moving

/-! # What is left open

A warning is about the one thing that the end of a text leaves open: a string without its closing
quote, or a comment without its end mark. Nothing else is warned of, and whatever is warned of is
left open. Writing the missing mark takes the warning away and changes no token but those that it
moves.

Main definitions.
* **`Token.IsOpenString`**: a string token that has only its opening quote in the text.
* **`CommentOpensAt`**: spacing from an offset on, and then a comment that stays open.
* **`lastStop`**: where the last token before the end of input ends.
* **`Position.right`**, **`Token.later`**, **`Token.longer`**: places some columns further on.

Main statements.
* **`scanChars_ending_cases`**: how the last token and what follows it decide about the warnings.
* **`warnings_iff_open`**: there is a warning exactly for what is left open.
* **`scanChars_closed`**: the end of a text closes what is open as the missing mark would, and a new
  comment is opened behind any text that leaves nothing open. -/

namespace MarkupScan

open Position (ofOffset)

/-! ### Open strings -/

/-- The characters of `source` that a token covers. -/
def Token.slice (t : Token) (source : List Char) : List Char :=
  source.extract t.span.start.offset.toNat t.span.stop.offset.toNat

/-- **A string token that has only its opening quote** in `source`. -/
def Token.IsOpenString (t : Token) (source : List Char) : Prop :=
  t.category = .stringLiteral ∧ ∃ content, t.slice source = '"' :: content ∧ '"' ∉ content

/-- `lexeme.tokenAt source a b` covers `source.extract a b`. -/
theorem Lexeme.slice_tokenAt (lexeme : Lexeme) (source : List Char) (a b : ℕ) :
    (lexeme.tokenAt source a b).slice source = source.extract a b := rfl

/-- No complete lexeme satisfies `IsOpenString`. -/
theorem Leads.not_isOpenString {source : List Char} {n m : ℕ} {tokens : List Token}
    (h : Leads source n tokens m) : ∀ t ∈ tokens, ¬ t.IsOpenString source := by
  induction h with
  | stay _ => simp
  | @token n a b m lexeme tokens _ _ _ _ hRaw hFits hClosed _ ih =>
      refine List.forall_mem_cons.mpr ⟨?_, ih⟩
      rintro ⟨hCategory, content, hSlice, hContent⟩
      rw [Lexeme.slice_tokenAt, hRaw] at hSlice
      obtain ⟨inner, -, rfl | ⟨rfl, -⟩⟩ := hFits.string_cases hCategory
      · -- the closing quote is among the characters behind the first one
        obtain rfl := (List.cons.inj hSlice).2
        simp at hContent
      · cases hClosed

/-! ### Open comments -/

/-- **Spacing from the offset `n` on, and then a comment that stays open** from the offset `p` on.
-/
structure CommentOpensAt (source : List Char) (n p : ℕ) : Prop where
  /-- The comment is not in front of the offset. -/
  le : n ≤ p
  /-- The comment is in the text. -/
  le_length : p ≤ source.length
  /-- Only `Spacing` is in front of it. -/
  spacing : Spacing (source.extract n p)
  /-- It has no end mark. -/
  openComment : OpenComment (source.drop p)

/-- The gap at `n` ends in the open comment at `p`. -/
theorem CommentOpensAt.read_eq {source : List Char} {n p : ℕ} (h : CommentOpensAt source n p) :
    Gap.read (source.drop n) = ⟨source.extract n p, source.drop p, []⟩ := by
  rw [drop_eq_extract_append h.le, Gap.read_spacing_append h.spacing,
    Gap.read_openComment h.openComment]
  simp [Gap.skip]

/-- A comment opens at one offset only: `p = q`. -/
theorem CommentOpensAt.unique {source : List Char} {n p q : ℕ} (h : CommentOpensAt source n p)
    (hOther : CommentOpensAt source n q) : p = q := by
  have hDrop := congrArg (List.length ∘ Gap.unclosed) (h.read_eq.symm.trans hOther.read_eq)
  simp only [Function.comp_apply, List.length_drop] at hDrop
  have hp := h.le_length
  have hq := hOther.le_length
  omega

/-- `p < source.length` where a comment opens at `p`. -/
theorem CommentOpensAt.lt_length {source : List Char} {n p : ℕ} (h : CommentOpensAt source n p) :
    p < source.length := by
  obtain ⟨body, hBody, -⟩ := h.openComment
  by_contra hEnd
  rw [List.drop_eq_nil_of_le (Nat.le_of_not_lt hEnd)] at hBody
  cases hBody

/-- No comment opens where only `Spacing` is left. -/
theorem not_commentOpensAt {source : List Char} {n : ℕ} (hGap : Spacing (source.drop n)) (p : ℕ) :
    ¬ CommentOpensAt source n p := by
  intro h
  have hRead := Gap.read_spacing_append hGap []
  rw [List.append_nil, h.read_eq, Gap.read] at hRead
  have hUnclosed : source.drop p = [] := congrArg Gap.unclosed hRead
  exact absurd (List.drop_eq_nil_iff.mp hUnclosed) (Nat.not_le_of_lt h.lt_length)

/-! ### The last token -/

/-- Where the last token before `endOfInput` ends; `0` if there is none. -/
def lastStop (tokens : List Token) : ℕ :=
  (((withoutEnd tokens).getLast?.map fun t : Token => t.span.stop.offset).getD 0).toNat

/-- Complete lexemes lead on as tokens do: `Leads` implies `Advances`. -/
theorem Leads.advances {source : List Char} {n m : ℕ} {tokens : List Token}
    (h : Leads source n tokens m) : Advances source n tokens m := by
  induction h with
  | stay _ => exact .stay _
  | token hna hab hb _ _ hFits _ _ ih =>
      exact .token hna hab hb rfl (fun hEnd => absurd hEnd hFits.category_ne) ih

/-- `lastStop` of complete lexemes and the `endToken` is where they lead to. -/
theorem Leads.lastStop_eq {source : List Char} {m : ℕ} {front : List Token}
    (h : Leads source 0 front m) : lastStop (front ++ [endToken source]) = m := by
  have hStop := h.advances.eq_stop
  rw [lastStop, withoutEnd_append_endToken h.category_ne, ← Int.toNat_natCast m, ← hStop]
  rfl

/-- **How a text ends.** Its last token is no open string and only spacing follows it, or spacing
and an open comment; or its last token is an open string that runs to the end. -/
theorem scanChars_ending_cases (source : List Char) :
    let scan := scanChars source
    let last := (withoutEnd scan.tokens).getLast?
    let stop := lastStop scan.tokens
    ((∀ t ∈ last, ¬ t.IsOpenString source) ∧ Spacing (source.drop stop) ∧ scan.warnings = []) ∨
      ((∀ t ∈ last, ¬ t.IsOpenString source) ∧ ∃ p, CommentOpensAt source stop p ∧
        scan.warnings = [⟨.comment, ⟨ofOffset source p, ofOffset source source.length⟩⟩]) ∨
      ∃ t, last = some t ∧ t.IsOpenString source ∧ stop = source.length ∧
        scan.warnings = [⟨.string, t.span⟩] := by
  intro scan last stop
  obtain ⟨front, m, tail, hLeads, hTail, hScan⟩ :=
    (reading_scanChars source).exists_tail
  have hFront : ∀ t ∈ front.getLast?, ¬ t.IsOpenString source := fun t ht =>
    hLeads.not_isOpenString t (List.mem_of_getLast? ht)
  have hWithout := withoutEnd_append_endToken hLeads.category_ne source
  simp only [scan, last, stop, hScan]
  cases hTail with
  | spacing hGap =>
      rw [hWithout, hLeads.lastStop_eq]
      exact Or.inl ⟨hFront, hGap, rfl⟩
  | comment hma ha hGap hOpen =>
      rw [hWithout, hLeads.lastStop_eq]
      exact Or.inr (Or.inl ⟨hFront, _, ⟨hma, ha, hGap, hOpen⟩, rfl⟩)
  | @string a lexeme hma ha hGap hRaw hFits hOpen =>
      -- the string itself is the last token
      set string := lexeme.tokenAt source a source.length with hString
      have hTokens : front ++ [string, endToken source]
          = (front ++ [string]) ++ [endToken source] := by simp
      have hMore : ∀ t ∈ front ++ [string], t.category ≠ .endOfInput := by
        intro t ht
        rcases List.mem_append.mp ht with ht | ht
        · exact hLeads.category_ne t ht
        · rw [List.mem_singleton.mp ht]
          exact hFits.category_ne
      have hLast : (withoutEnd (front ++ [string, endToken source])).getLast? = some string := by
        rw [hTokens, withoutEnd_append_endToken hMore, List.getLast?_concat]
      obtain ⟨hCategory, content, hQuote, hContent⟩ := hFits.open_cases hOpen
      refine Or.inr (Or.inr ⟨string, hLast, ⟨hCategory, content, ?_, hContent⟩, ?_, rfl⟩)
      · rw [hString, Lexeme.slice_tokenAt, extract_length, hRaw, hQuote]
      · rw [lastStop, hLast]
        rfl

/-! ### Warnings -/

section Warnings

variable (source : List Char)

/-- `(scanChars source).warnings` has at most one member. -/
theorem length_warnings_le_one : (scanChars source).warnings.length ≤ 1 := by
  obtain ⟨-, -, hNone⟩ | ⟨-, p, -, hOne⟩ | ⟨t, -, -, -, hOne⟩ := scanChars_ending_cases source
  · rw [hNone]
    exact Nat.zero_le 1
  · rw [hOne, List.length_singleton]
  · rw [hOne, List.length_singleton]

/-- A text whose last token is an open string has the one warning `string`, in its place. -/
theorem warnings_of_isOpenString {t : Token}
    (ht : t ∈ (withoutEnd (scanChars source).tokens).getLast?) (hOpen : t.IsOpenString source) :
    (scanChars source).warnings = [⟨.string, t.span⟩] := by
  obtain ⟨hNone, -⟩ | ⟨hNone, -⟩ | ⟨u, hLast, -, -, hWarnings⟩ := scanChars_ending_cases source
  · exact absurd hOpen (hNone t ht)
  · exact absurd hOpen (hNone t ht)
  · cases hLast.symm.trans ht
    exact hWarnings

/-- A text in which a comment opens behind the last token has the one warning `comment`, up to the
end of the text. -/
theorem warnings_of_commentOpensAt {p : ℕ}
    (hOpen : CommentOpensAt source (lastStop (scanChars source).tokens) p) :
    (scanChars source).warnings
      = [⟨.comment, ⟨ofOffset source p, ofOffset source source.length⟩⟩] := by
  obtain ⟨-, hGap, -⟩ | ⟨-, q, hOther, hWarnings⟩ | ⟨u, -, -, hStop, -⟩ :=
    scanChars_ending_cases source
  · exact absurd hOpen (not_commentOpensAt hGap p)
  · rwa [hOpen.unique hOther]
  · -- behind an open string there is no text left to open a comment in
    have hle := hOpen.le
    have hlt := hOpen.lt_length
    omega

/-- `(scanChars source).warnings = []` for a text that leaves nothing open. -/
theorem warnings_eq_nil
    (hString : ∀ t ∈ (withoutEnd (scanChars source).tokens).getLast?, ¬ t.IsOpenString source)
    (hComment : ∀ p, ¬ CommentOpensAt source (lastStop (scanChars source).tokens) p) :
    (scanChars source).warnings = [] := by
  obtain ⟨-, -, hWarnings⟩ | ⟨-, p, hOpen, -⟩ | ⟨u, hLast, hOpen, -⟩ :=
    scanChars_ending_cases source
  · exact hWarnings
  · exact absurd hOpen (hComment p)
  · exact absurd hOpen (hString u hLast)

/-- **There is a warning exactly for what is left open.** A scan has at most one warning, which ends
at the end of input. It is about a string exactly if the last token is an open string, and then it
is in the place of that token. It is about a comment exactly if a comment opens behind the last
token, and then it begins where the comment does. Otherwise there is none. -/
theorem warnings_iff_open :
    let scan := scanChars source
    let last := (withoutEnd scan.tokens).getLast?
    let stop := lastStop scan.tokens
    (scan.warnings.length ≤ 1 ∧ scan.tokens.getLast? = some (endToken source) ∧
        ∀ w ∈ scan.warnings, w.span.stop = (endToken source).span.start) ∧
      ((∃ w, scan.warnings = [w] ∧ w.message = "unterminated string literal")
        ↔ ∃ t ∈ last, t.IsOpenString source) ∧
      (∀ t ∈ last, t.IsOpenString source → ∀ w ∈ scan.warnings, w.span = t.span) ∧
      ((∃ w, scan.warnings = [w] ∧ w.message = "unterminated block comment")
        ↔ ∃ p, CommentOpensAt source stop p) ∧
      (∀ p, CommentOpensAt source stop p → ∀ w ∈ scan.warnings, w.span.start.offset = p) ∧
      ((∀ t ∈ last, ¬ t.IsOpenString source) → (∀ p, ¬ CommentOpensAt source stop p) →
        scan.warnings = []) := by
  intro scan last stop
  have hString : ∀ t ∈ last, t.IsOpenString source → scan.warnings = [⟨.string, t.span⟩] :=
    fun t ht => warnings_of_isOpenString source ht
  have hComment : ∀ p, CommentOpensAt source stop p →
      scan.warnings = [⟨.comment, ⟨ofOffset source p, ofOffset source source.length⟩⟩] :=
    fun p => warnings_of_commentOpensAt source
  have hNone := warnings_eq_nil source
  -- a warning says what it is about, so that the three cases tell the other directions too
  have hCases : (∃ t ∈ last, t.IsOpenString source) ∨ (∃ p, CommentOpensAt source stop p) ∨
      scan.warnings = [] := by
    obtain ⟨-, -, hNil⟩ | ⟨-, p, hOpen, -⟩ | ⟨t, hLast, hOpen, -⟩ := scanChars_ending_cases source
    · exact Or.inr (Or.inr hNil)
    · exact Or.inr (Or.inl ⟨p, hOpen⟩)
    · exact Or.inl ⟨t, hLast, hOpen⟩
  have hDiffer : OpenConstruct.comment.message ≠ OpenConstruct.string.message := by decide
  refine ⟨⟨length_warnings_le_one source, ?_, ?_⟩, ⟨?_, ?_⟩, ?_, ⟨?_, ?_⟩, ?_, hNone⟩
  · obtain ⟨front, hTokens, -⟩ := (reading_scanChars source).tokens_eq
    rw [hTokens, List.getLast?_concat]
  · intro w hw
    obtain ⟨a, -, hSpan⟩ := (Scanner.reached_start source).drain.1.spans w hw
    rw [hSpan]
    rfl
  · rintro ⟨w, hw, hMessage⟩
    rcases hCases with hOpen | ⟨p, hOpen⟩ | hNil
    · exact hOpen
    · cases hw.symm.trans (hComment p hOpen)
      exact absurd hMessage hDiffer
    · cases hw.symm.trans hNil
  · rintro ⟨t, ht, hOpen⟩
    exact ⟨_, hString t ht hOpen, rfl⟩
  · intro t ht hOpen w hw
    rw [hString t ht hOpen] at hw
    rw [List.mem_singleton.mp hw]
  · rintro ⟨w, hw, hMessage⟩
    rcases hCases with ⟨t, ht, hOpen⟩ | hOpen | hNil
    · cases hw.symm.trans (hString t ht hOpen)
      exact absurd hMessage.symm hDiffer
    · exact hOpen
    · cases hw.symm.trans hNil
  · rintro ⟨p, hOpen⟩
    exact ⟨_, hComment p hOpen, rfl⟩
  · intro p hOpen w hw
    rw [hComment p hOpen] at hw
    rw [List.mem_singleton.mp hw]
    rfl

end Warnings

/-- In the first text the marks of a comment stand in a string, and the comment behind it is not
closed by its own star. In the second one a quote stands in a comment, and the end mark behind it
stands in a string that is left open. -/
theorem warnings_iff_open_nested :
    let first := "a\"/*\" /*/ \"".toList
    let second := "/* \" */\"x*/".toList
    CommentOpensAt first (lastStop (scanChars first).tokens) 6 ∧
      (∃ w, (scanChars first).warnings = [w] ∧ w.message = "unterminated block comment" ∧
        w.span.start.offset = 6) ∧
      ∃ t ∈ (withoutEnd (scanChars second).tokens).getLast?, t.IsOpenString second ∧
        ∃ w, (scanChars second).warnings = [w] ∧ w.message = "unterminated string literal" ∧
          w.span = t.span := by
  intro first second
  have hStop : lastStop (scanChars first).tokens = 5 := by decide +kernel
  have hOpens : CommentOpensAt first (lastStop (scanChars first).tokens) 6 := by
    rw [hStop]
    refine ⟨by decide, by decide, .blank (by decide +kernel) .nil, "/ \"".toList, rfl, ?_⟩
    unfold NoClose
    decide
  have hLast : (withoutEnd (scanChars second).tokens).getLast?
      = some ⟨.stringLiteral, .text "x*/", "x*/", ⟨⟨1, 8, 7⟩, ⟨1, 12, 11⟩⟩⟩ := by decide +kernel
  have hOpen : Token.IsOpenString ⟨.stringLiteral, .text "x*/", "x*/", ⟨⟨1, 8, 7⟩, ⟨1, 12, 11⟩⟩⟩
      second := ⟨rfl, "x*/".toList, rfl, by decide⟩
  obtain ⟨-, -, -, hComment, hStart, -⟩ := warnings_iff_open first
  obtain ⟨-, hString, hSpan, -⟩ := warnings_iff_open second
  obtain ⟨w, hw, hMessage⟩ := hComment.mpr ⟨6, hOpens⟩
  obtain ⟨v, hv, hMessage'⟩ := hString.mpr ⟨_, hLast, hOpen⟩
  refine ⟨hOpens, ⟨w, hw, hMessage, hStart 6 hOpens w ?_⟩, _, hLast, hOpen, v, hv, hMessage',
    hSpan _ hLast hOpen v ?_⟩
  · rw [hw]
    exact List.mem_singleton_self w
  · rw [hv]
    exact List.mem_singleton_self v

/-! ### Closing what is open -/

/-- The place `k` columns further to the right. -/
def Position.right (p : Position) (k : ℕ) : Position := ⟨p.line, p.column + k, p.offset + k⟩

/-- Text without line feeds moves the end of `source` to the right, by `more.length`. -/
theorem Position.ofOffset_append_right (source : List Char) {more : List Char}
    (hMore : '\n' ∉ more) :
    ofOffset (source ++ more) (source ++ more).length
      = (ofOffset source source.length).right more.length := by
  have hPlain : ofOffset more more.length = ⟨1, 1 + more.length, more.length⟩ := by
    have hAll : more.rtakeWhile (· != '\n') = more :=
      List.rtakeWhile_eq_self_iff.mpr fun c hc => bne_iff_ne.mpr fun h => hMore (h ▸ hc)
    rw [ofOffset, List.take_length, List.count_eq_zero.mpr hMore, hAll]
    rfl
  rw [List.length_append, ofOffset_append source more (Nat.le_refl _), hPlain, moved, if_pos rfl,
    right]
  simp only [Position.mk.injEq, true_and, and_true]
  omega

/-- The token with its end `k` columns further to the right. -/
def Token.longer (t : Token) (k : ℕ) : Token :=
  { t with span := ⟨t.span.start, t.span.stop.right k⟩ }

/-- The token `k` columns further to the right. -/
def Token.later (t : Token) (k : ℕ) : Token :=
  { t with span := ⟨t.span.start.right k, t.span.stop.right k⟩ }

/-- Text without line feeds moves the `endToken` to the right, by `more.length`. -/
theorem endToken_append_right (source : List Char) {more : List Char} (hMore : '\n' ∉ more) :
    endToken (source ++ more) = (endToken source).later more.length := by
  rw [endToken, Position.ofOffset_append_right source hMore]
  rfl

section Closing

variable {source : List Char}

/-- **A closing quote closes an open string.** The string is `longer` by one column, and the text
ends one column `later`. -/
theorem reading_closed_string {m a : ℕ} {front : List Token} {lexeme : Lexeme}
    (hLeads : Leads source 0 front m) (hma : m ≤ a) (ha : a ≤ source.length)
    (hGap : Spacing (source.extract m a)) (hRaw : source.drop a = lexeme.raw)
    (hFits : lexeme.Fits []) (hOpen : lexeme.closed = false) :
    Reading (source ++ ['"']) 0
      ⟨front ++ [(lexeme.tokenAt source a source.length).longer 1, (endToken source).later 1],
        []⟩ := by
  have hSame := take_length_append source ['"']
  -- something is left of the text where the string begins
  have hInside : a < source.length := by
    have hPos := List.length_pos_iff.mpr hFits.raw_ne_nil
    rw [← hRaw, List.length_drop] at hPos
    omega
  cases hFits with
  | @openString content hContent =>
      set closed : Lexeme := ⟨.stringLiteral, .text (String.ofList content), String.ofList content,
        '"' :: (content ++ ['"']), true⟩ with hDef
      have hClosed : closed.Fits ((source ++ ['"']).drop (source ++ ['"']).length) := by
        rw [List.drop_length]
        exact .closedString hContent
      have hRawClosed : (source ++ ['"']).extract a (source ++ ['"']).length = closed.raw := by
        rw [extract_length, List.drop_append_of_le_length ha, hRaw]
        rfl
      rw [extract_eq_of_take_eq hSame m ha] at hGap
      have hString := Reading.token hma (by simp; omega) (Nat.le_refl _) hGap hRawClosed hClosed
        (reading_length (source ++ ['"']))
      have hWhole := (hLeads.append (Or.inl (hma.trans_lt hInside))).reading hString
      rw [endToken_append_right source (by decide), Lexeme.tokenAt,
        Position.ofOffset_append_right source (by decide),
        ← Position.ofOffset_eq_of_take_eq (take_eq_of_le hSame ha)] at hWhole
      exact hWhole
  | _ => cases hOpen

/-- **An end mark closes an open comment.** No token is changed by it, and the text ends two columns
`later`. -/
theorem reading_closed_comment {m a : ℕ} {front : List Token} (hLeads : Leads source 0 front m)
    (hma : m ≤ a) (ha : a ≤ source.length) (hGap : Spacing (source.extract m a))
    (hOpen : OpenComment (source.drop a)) :
    Reading (source ++ ['*', '/']) 0 ⟨front ++ [(endToken source).later 2], []⟩ := by
  obtain ⟨body, hBody, hNoClose⟩ := hOpen
  have hInside : a < source.length :=
    CommentOpensAt.lt_length ⟨hma, ha, hGap, body, hBody, hNoClose⟩
  -- the comment is now one more closed comment of the last gap
  have hRest : Reading (source ++ ['*', '/']) m ⟨[endToken (source ++ ['*', '/'])], []⟩ := by
    refine .closed ((hma.trans ha).trans (by simp)) ?_
    rw [List.drop_append_of_le_length (hma.trans ha), drop_eq_extract_append hma, hBody,
      List.append_assoc]
    exact hGap.append (.comment hNoClose .nil)
  have hWhole := (hLeads.append (Or.inl (hma.trans_lt hInside))).reading hRest
  rwa [endToken_append_right source (by decide)] at hWhole

/-- **A comment can be opened behind any text that leaves nothing open**, whatever its last
character is: `/*` gives the one warning `comment`. -/
theorem reading_opened_comment {scan : Scan} (h : Reading source 0 scan)
    (hClosed : scan.warnings = []) :
    Reading (source ++ ['/', '*']) 0
      ⟨withoutEnd scan.tokens ++ [endToken (source ++ ['/', '*'])],
        [⟨.comment, ⟨ofOffset (source ++ ['/', '*']) source.length,
          ofOffset (source ++ ['/', '*']) (source ++ ['/', '*']).length⟩⟩]⟩ := by
  have hNone : (source ++ ['/', '*']).extract source.length source.length = [] := by simp
  have hOpen : OpenComment ((source ++ ['/', '*']).drop source.length) := by
    rw [List.drop_left]
    exact ⟨[], rfl, noClose_nil⟩
  have hLater : Reading (source ++ ['/', '*']) source.length _ :=
    .openComment (Nat.le_refl _) (by simp) (by rw [hNone]; exact .nil) hOpen
  exact h.append_gap hClosed (by rintro c ⟨⟩; exact Or.inr rfl) hLater

end Closing

/-- **The end of a text closes what is open as the missing mark would.** Behind an open string a
closing quote changes nothing but where the string and the text end, one column later; behind an
open comment an end mark changes nothing but where the text ends, two columns later; and nothing is
left open then. Behind a text that leaves nothing open, the beginning of a comment changes no token
and is all that is warned of. -/
theorem scanChars_closed (source : List Char) :
    let scan := scanChars source
    (∀ w ∈ scan.warnings, w.message = "unterminated string literal" →
      ∃ front t, scan.tokens = front ++ [t, endToken source] ∧ t.category = .stringLiteral ∧
        t.span = w.span ∧ scanChars (source ++ ['"'])
          = ⟨front ++ [t.longer 1, (endToken source).later 1], []⟩) ∧
    (∀ w ∈ scan.warnings, w.message = "unterminated block comment" →
      ∃ front, scan.tokens = front ++ [endToken source] ∧
        scanChars (source ++ ['*', '/']) = ⟨front ++ [(endToken source).later 2], []⟩) ∧
    (scan.warnings = [] →
      withoutEnd (scanChars (source ++ ['/', '*'])).tokens = withoutEnd scan.tokens ∧
        ∃ w, (scanChars (source ++ ['/', '*'])).warnings = [w] ∧
          w.message = "unterminated block comment" ∧ w.span.start.offset = source.length) := by
  intro scan
  have hReading : Reading source 0 scan := reading_scanChars source
  have hDiffer : OpenConstruct.comment.message ≠ OpenConstruct.string.message := by decide
  obtain ⟨front, m, tail, hLeads, hTail, hScan⟩ := hReading.exists_tail
  -- each half of the claim fits one way in which the text can end; the others give another warning
  -- or none
  refine ⟨?_, ?_, ?_⟩
  · intro w hw hMessage
    rw [hScan] at hw ⊢
    cases hTail with
    | spacing _ => cases hw
    | comment _ _ _ _ =>
        rw [List.mem_singleton.mp hw] at hMessage
        exact absurd hMessage hDiffer
    | @string a lexeme hma ha hGap hRaw hFits hOpen =>
        have hClosed := reading_closed_string hLeads hma ha hGap hRaw hFits hOpen
        refine ⟨front, _, rfl, (hFits.open_cases hOpen).1, ?_,
          (scanChars_eq_iff_reading _ _).mpr hClosed⟩
        rw [List.mem_singleton.mp hw]
  · intro w hw hMessage
    rw [hScan] at hw ⊢
    cases hTail with
    | spacing _ => cases hw
    | comment hma ha hGap hOpen =>
        exact ⟨front, rfl, (scanChars_eq_iff_reading _ _).mpr
          (reading_closed_comment hLeads hma ha hGap hOpen)⟩
    | string _ _ _ _ _ _ =>
        rw [List.mem_singleton.mp hw] at hMessage
        exact absurd hMessage.symm hDiffer
  · intro hClosed
    rw [(scanChars_eq_iff_reading _ _).mpr (reading_opened_comment hReading hClosed)]
    refine ⟨withoutEnd_append_endToken ?_ _, _, rfl, rfl, rfl⟩
    intro t ht
    simpa using (List.mem_filter.mp ht).2

/-- An empty string is left open behind a line feed, a comment is left open that already ends in a
star, and a text ends in the two marks that would close a comment, were one open. -/
theorem scanChars_closed_half :
    let string := "1\n\"".toList
    let comment := "1 /**".toList
    let marks := "1*/".toList
    (scanChars string).warnings = [⟨.string, ⟨⟨2, 1, 2⟩, ⟨2, 2, 3⟩⟩⟩] ∧
      (∃ front t, (scanChars string).tokens = front ++ [t, endToken string] ∧
        t.category = .stringLiteral ∧ t.span = ⟨⟨2, 1, 2⟩, ⟨2, 2, 3⟩⟩ ∧
        scanChars "1\n\"\"".toList
          = ⟨front ++ [t.longer 1, (endToken string).later 1], []⟩) ∧
      (scanChars comment).warnings = [⟨.comment, ⟨⟨1, 3, 2⟩, ⟨1, 6, 5⟩⟩⟩] ∧
      (∃ front, (scanChars comment).tokens = front ++ [endToken comment] ∧
        scanChars "1 /***/".toList = ⟨front ++ [(endToken comment).later 2], []⟩) ∧
      (scanChars marks).warnings = [] ∧
      withoutEnd (scanChars "1*//*".toList).tokens = withoutEnd (scanChars marks).tokens ∧
      ∃ w, (scanChars "1*//*".toList).warnings = [w] ∧
        w.message = "unterminated block comment" ∧ w.span.start.offset = 3 := by
  intro string comment marks
  have hString : (scanChars string).warnings = [⟨.string, ⟨⟨2, 1, 2⟩, ⟨2, 2, 3⟩⟩⟩] := by
    decide +kernel
  have hComment : (scanChars comment).warnings = [⟨.comment, ⟨⟨1, 3, 2⟩, ⟨1, 6, 5⟩⟩⟩] := by
    decide +kernel
  have hMarks : (scanChars marks).warnings = [] := by decide +kernel
  refine ⟨hString, ?_, hComment, ?_, hMarks, (scanChars_closed marks).2.2 hMarks⟩
  · exact (scanChars_closed string).1 _ (by rw [hString]; exact List.mem_singleton_self _) rfl
  · exact (scanChars_closed comment).2.1 _ (by rw [hComment]; exact List.mem_singleton_self _) rfl

end MarkupScan
