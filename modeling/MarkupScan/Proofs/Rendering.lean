import MarkupScan.Proofs.Moving

/-! # Tokens written out

Tokens can be written out as a text again, with any white space and comments around them. Scanning
that text gives the tokens back, whatever stands between them, as long as something does: no lexeme
is changed by the separator behind it, and a string that was left open is closed in writing.

Main definitions.
* **`Token.content`**: a token without its place.
* **`spell`**: the characters that are written for a token.
* **`rendering`**: tokens written out with given gaps before, between and behind them.

Main statements.
* **`Lexeme.Fits.exists_spelled`**: what is written for a lexeme fits in front of every gap.
* **`exists_reading_rendering`**: a rendering is read as its tokens, without a warning.
* **`scanChars_rendering`**: scanning undoes rendering. -/

namespace MarkupScan

/-! ### What is written for a token -/

/-- What a token says apart from its place: its category, its value and its text. -/
def Token.content (t : Token) : Category × Payload × String := (t.category, t.value, t.text)

/-- What a lexeme says: its category, its value and its text. -/
def Lexeme.content (lexeme : Lexeme) : Category × Payload × String :=
  (lexeme.category, lexeme.value, lexeme.text)

/-- `Token.moved` does not change `Token.content`. -/
@[simp] theorem map_content_moved (tokens : List Token) (base : Position) :
    (tokens.map (·.moved base)).map Token.content = tokens.map Token.content := by
  rw [List.map_map]
  rfl

/-- The characters that are written for a token: its `text`, in quotes if it is a string. -/
def spell (category : Category) (text : String) : List Char :=
  if category = .stringLiteral then '"' :: (text.toList ++ ['"']) else text.toList

/-- `spell` of a string is its content between two quotes. -/
theorem spell_stringLiteral (content : List Char) :
    spell .stringLiteral (String.ofList content) = '"' :: (content ++ ['"']) := by
  rw [spell, if_pos rfl, String.toList_ofList]

/-- `spell` of everything else is its text as it is. -/
theorem spell_of_ne {category : Category} (h : category ≠ .stringLiteral) (raw : List Char) :
    spell category (String.ofList raw) = raw := by
  rw [spell, if_neg h, String.toList_ofList]

namespace Lexeme

/-- `lexeme.raw = spell lexeme.category lexeme.text` for a complete lexeme that fits. -/
theorem Fits.raw_eq_spell {lexeme : Lexeme} {after : List Char} (h : lexeme.Fits after)
    (hClosed : lexeme.closed = true) : lexeme.raw = spell lexeme.category lexeme.text := by
  cases h with
  | word _ _ _ =>
      refine (spell_of_ne ?_ _).symm
      dsimp only
      split <;> simp
  | number _ _ _ _ _ _ => exact (spell_of_ne (by simp) _).symm
  | closedString _ => exact (spell_stringLiteral _).symm
  | openString _ => cases hClosed
  | sign hSign _ => exact (spell_of_ne (category_ne_of_mem_signs hSign).2.1 _).symm
  | @illegal c _ _ _ _ _ _ => exact (spell_of_ne (by simp) [c]).symm

/-- **What is written for a lexeme is read again** in front of every gap: `spell` gives a lexeme
that fits, is closed and has the same `content`. -/
theorem Fits.exists_spelled {lexeme : Lexeme} {after : List Char} (h : lexeme.Fits after)
    {rest : List Char} (hRest : ∀ c ∈ rest.head?, isBlank c = true ∨ c = '/') :
    ∃ spelled : Lexeme, spelled.Fits rest ∧ spelled.closed = true ∧
      spelled.raw = spell lexeme.category lexeme.text ∧ spelled.content = lexeme.content := by
  by_cases hClosed : lexeme.closed = true
  · have hFits := h.of_next hClosed fun c hc => Or.inr (hRest c hc)
    exact ⟨lexeme, hFits, hClosed, h.raw_eq_spell hClosed, rfl⟩
  · -- only a string can be left open, and with its closing quote it fits everywhere
    cases h with
    | openString hContent =>
        exact ⟨_, .closedString hContent, rfl, (spell_stringLiteral _).symm, rfl⟩
    | _ => exact absurd rfl hClosed

end Lexeme

/-! ### Renderings -/

/-- Tokens written out with gaps: `gaps 0` in front of the first token, `gaps i` behind the `i`-th
one. -/
def rendering (gaps : ℕ → List Char) : List Token → List Char
  | [] => gaps 0
  | t :: tokens => gaps 0 ++ spell t.category t.text ++ rendering (fun i => gaps (i + 1)) tokens

/-- Behind spacing at the beginning of a text, a lexeme is read and then what follows it, `moved`.
-/
theorem Reading.of_append {gap rest : List Char} {lexeme : Lexeme} {scan : Scan}
    (hGap : Spacing gap) (hFits : lexeme.Fits rest) (hRest : Reading rest 0 scan) :
    ∃ (t : Token) (base : Position), t.content = lexeme.content ∧
      Reading (gap ++ lexeme.raw ++ rest) 0 ⟨t :: (scan.moved base).tokens,
        Scanner.stringWarnings lexeme t.span ++ (scan.moved base).warnings⟩ := by
  have hMoved := hRest.moved (gap ++ lexeme.raw)
  have hLength : (gap ++ lexeme.raw).length ≤ (gap ++ lexeme.raw ++ rest).length := by simp
  -- the gap and the lexeme are the characters up to their lengths
  have hFront : (gap ++ lexeme.raw ++ rest).extract 0 gap.length = gap := by simp
  have hRaw : (gap ++ lexeme.raw ++ rest).extract gap.length (gap ++ lexeme.raw).length
      = lexeme.raw := by simp
  have hDrop : (gap ++ lexeme.raw ++ rest).drop (gap ++ lexeme.raw).length = rest :=
    List.drop_left
  refine ⟨_, _, rfl, .token (Nat.zero_le _) (by simp) hLength ?_ hRaw ?_ hMoved⟩
  · rwa [hFront]
  · rwa [hDrop]

/-- A gap that must not be empty begins the `rendering` behind a token like a gap. -/
theorem head?_rendering {gaps : ℕ → List Char} {tokens : List Token} (hGap : Spacing (gaps 0))
    (hApart : tokens ≠ [] → gaps 0 ≠ []) :
    ∀ c ∈ (rendering gaps tokens).head?, isBlank c = true ∨ c = '/' := by
  cases tokens with
  | nil => exact hGap.head?_cases
  | cons t tokens =>
      have hSome : gaps 0 ≠ [] := hApart (List.cons_ne_nil t tokens)
      intro c hc
      rw [rendering, List.append_assoc, List.head?_append_of_ne_nil _ hSome] at hc
      exact hGap.head?_cases c hc

/-- **A rendering is read as its tokens.** Tokens of any texts, written out by `rendering` with gaps
that are empty at most at the two ends, are read one after another, without a warning. -/
theorem exists_reading_rendering {gaps : ℕ → List Char} {tokens : List Token}
    (hTokens : ∀ t ∈ tokens, ∃ (lexeme : Lexeme) (after : List Char),
      lexeme.Fits after ∧ t.content = lexeme.content)
    (hGaps : ∀ i ≤ tokens.length, Spacing (gaps i))
    (hApart : ∀ i, 0 < i → i < tokens.length → gaps i ≠ []) :
    ∃ found, Reading (rendering gaps tokens) 0 ⟨found, []⟩ ∧
      found.map Token.content = tokens.map Token.content ++ [(.endOfInput, .none, "")] := by
  induction tokens generalizing gaps with
  | nil => exact ⟨_, .closed (Nat.zero_le _) (hGaps 0 (Nat.le_refl 0)), rfl⟩
  | cons t tokens ih =>
      -- the gaps behind the first token are those of the other tokens
      have hGapsLater : ∀ i ≤ tokens.length, Spacing (gaps (i + 1)) := fun i hi =>
        hGaps (i + 1) (Nat.succ_le_succ hi)
      have hApartLater : ∀ i, 0 < i → i < tokens.length → gaps (i + 1) ≠ [] := fun i _ hi =>
        hApart (i + 1) (Nat.succ_pos i) (Nat.succ_lt_succ hi)
      obtain ⟨found, hFound, hContents⟩ :=
        ih (fun u hu => hTokens u (List.mem_cons_of_mem t hu)) hGapsLater hApartLater
      -- behind the last token the gap may be empty, and then the text ends there
      have hFirst : tokens ≠ [] → gaps 1 ≠ [] := by
        intro hSome
        exact hApart 1 Nat.one_pos (Nat.succ_lt_succ (List.length_pos_iff.mpr hSome))
      obtain ⟨lexeme, after, hFits, hContent⟩ := hTokens t List.mem_cons_self
      have hBehind : ∀ c ∈ (rendering (fun i => gaps (i + 1)) tokens).head?,
          isBlank c = true ∨ c = '/' := head?_rendering (hGapsLater 0 (Nat.zero_le _)) hFirst
      obtain ⟨spelled, hSpelled, hClosed, hRaw, hSame⟩ := hFits.exists_spelled hBehind
      obtain ⟨u, base, hu, hReading⟩ := Reading.of_append (hGaps 0 (Nat.zero_le _)) hSpelled hFound
      have hCategory : t.category = lexeme.category := congrArg Prod.fst hContent
      have hText : t.text = lexeme.text := congrArg (fun content => content.2.2) hContent
      refine ⟨u :: found.map (·.moved base), ?_, ?_⟩
      · rw [hRaw, ← hCategory, ← hText, Scanner.stringWarnings, if_pos hClosed] at hReading
        exact hReading
      · rw [List.map_cons, hu, hSame, ← hContent, map_content_moved, hContents]
        rfl

/-- **Scanning undoes rendering.** The tokens of any text, written out with any spacing around them
that keeps neighbours apart, are scanned as tokens that say the same, in the same order, and then
the end of input; nothing is left open. -/
theorem scanChars_rendering (source : List Char) (gaps : ℕ → List Char)
    (hGaps : ∀ i ≤ (withoutEnd (scanChars source).tokens).length, Spacing (gaps i))
    (hApart : ∀ i, 0 < i → i < (withoutEnd (scanChars source).tokens).length → gaps i ≠ []) :
    (scanChars (rendering gaps (withoutEnd (scanChars source).tokens))).tokens.map Token.content
        = (withoutEnd (scanChars source).tokens).map Token.content
          ++ [(.endOfInput, .none, "")] ∧
      (scanChars (rendering gaps (withoutEnd (scanChars source).tokens))).warnings = [] := by
  have hReading := reading_scanChars source
  have hTokens : ∀ t ∈ withoutEnd (scanChars source).tokens,
      ∃ (lexeme : Lexeme) (after : List Char),
        lexeme.Fits after ∧ t.content = lexeme.content := by
    intro t ht
    obtain ⟨ht, hMore⟩ := List.mem_filter.mp ht
    obtain ⟨a, b, lexeme, -, -, -, hFits, rfl⟩ := hReading.exists_lexeme ht (by simpa using hMore)
    exact ⟨lexeme, _, hFits, rfl⟩
  obtain ⟨found, hFound, hContents⟩ := exists_reading_rendering hTokens hGaps hApart
  rw [(scanChars_eq_iff_reading _ _).mpr hFound]
  exact ⟨hContents, rfl⟩

/-- The slash, the mark and the string of `1/\u0301"x` are what they are only because of what stands
around them. They are found again behind a comment and at the end, where the string is closed. -/
theorem scanChars_rendering_open :
    (∀ i ≤ 4, Spacing (if i = 2 then "/*1*/".toList else [' '])) ∧
      (scanChars "1/\u0301\"x".toList).warnings ≠ [] ∧
      (scanChars " 1 //*1*/\u0301 \"x\" ".toList).tokens.map Token.content
        = (withoutEnd (scanChars "1/\u0301\"x".toList).tokens).map Token.content
          ++ [(.endOfInput, .none, "")] ∧
      (scanChars " 1 //*1*/\u0301 \"x\" ".toList).warnings = [] := by
  have hSpacing : ∀ i ≤ 4, Spacing (if i = 2 then "/*1*/".toList else [' ']) := by
    intro i _
    split
    · have hBody : NoClose ['1'] := by unfold NoClose; decide
      exact .comment hBody .nil
    · exact .blank (by decide +kernel) .nil
  have hCount : (withoutEnd (scanChars "1/\u0301\"x".toList).tokens).length = 4 := by
    decide +kernel
  have hText : rendering (fun i => if i = 2 then "/*1*/".toList else [' '])
      (withoutEnd (scanChars "1/\u0301\"x".toList).tokens)
        = " 1 //*1*/\u0301 \"x\" ".toList := by decide +kernel
  have hScan := scanChars_rendering "1/\u0301\"x".toList
    (fun i => if i = 2 then "/*1*/".toList else [' ']) (by rw [hCount]; exact hSpacing)
    (by intro i _ _; split <;> decide)
  rw [hText] at hScan
  exact ⟨hSpacing, by decide +kernel, hScan⟩

end MarkupScan
