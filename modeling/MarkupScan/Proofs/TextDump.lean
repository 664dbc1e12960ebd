import Mathlib.Data.List.Forall2
import MarkupScan.Dump
import MarkupScan.Proofs.LineOfPlace
import MarkupScan.Proofs.NumberLiterals
import MarkupScan.Proofs.Reading

/-! # Text dumps can be read back line by line

A text dump has a line for every token, in which the text stands as it is, without escapes. A text
may look like the words around it and even like the end of a line of the dump; still a line says one
thing only, because the name of the category is found from its front and the numbers from its end.
What cannot be told is where a line ends, if texts have line feeds; only strings have.

Main definitions.
* **`Token.SameDisplay`**: tokens that are displayed alike.
* **`feedsInStrings`**: how many line feeds the strings of a token list have.

Main statements.
* **`append_first_mark_inj`**, **`append_last_mark_inj`**: a text is cut in one way at the first and
  at the last place of a mark.
* **`Token.display_eq_iff`**: a display says category, text, line and column.
* **`lines_dumpLines`**: the lines of a dump are the displays of its tokens.
* **`count_dumpLines`**: how many line feeds a dump has.
* **`dumpLines_decodable`**: what a dump of a scan looks like, and what any dump tells. -/

namespace MarkupScan

/-! ### Cutting at a mark -/

section Marks

variable {mark : Char} {first second front back : List Char}

/-- **At its first `mark` a text is cut in one way.** -/
theorem append_first_mark_inj (hFirst : mark ∉ first) (hSecond : mark ∉ second)
    (h : first ++ mark :: front = second ++ mark :: back) : first = second ∧ front = back := by
  have hRun : ∀ {run : List Char}, mark ∉ run → ∀ rest,
      (run ++ mark :: rest).takeWhile (· != mark) = run := by
    intro run hRun rest
    refine (takeWhile_append_stop ?_ ?_).1
    · intro c hc
      have hOther : c ≠ mark := fun hSame => hRun (hSame ▸ hc)
      simpa using hOther
    · rintro c ⟨⟩
      simp
  have hSame := congrArg (List.takeWhile (· != mark)) h
  rw [hRun hFirst, hRun hSecond] at hSame
  subst hSame
  exact ⟨rfl, (List.cons.inj (List.append_cancel_left h)).2⟩

/-- **At its last `mark` a text is cut in one way.** -/
theorem append_last_mark_inj (hFirst : mark ∉ first) (hSecond : mark ∉ second)
    (h : front ++ mark :: first = back ++ mark :: second) : front = back ∧ first = second := by
  have hReverse := congrArg List.reverse h
  simp only [List.reverse_append, List.reverse_cons, List.append_assoc, List.singleton_append]
    at hReverse
  obtain ⟨hLast, hRest⟩ := append_first_mark_inj (by simpa using hFirst) (by simpa using hSecond)
    hReverse
  exact ⟨List.reverse_injective hRest, List.reverse_injective hLast⟩

end Marks

/-! ### Displays -/

namespace Token

/-- **Tokens that are displayed alike**: they may carry different values and end in different
places. -/
structure SameDisplay (t u : Token) : Prop where
  /-- They are of the same category. -/
  category_eq : u.category = t.category
  /-- They have the same text. -/
  text_eq : u.text = t.text
  /-- They start on the same line. -/
  line_eq : u.line = t.line
  /-- They start in the same column. -/
  column_eq : u.column = t.column

/-- The characters of `t.display`. It can be cut at the `]` behind the name of the category, and
from the end at the blanks in front of the two numbers. -/
theorem toList_display (t : Token) :
    t.display.toList = '[' :: (t.category.name.toList ++ ']' ::
      (" '".toList ++ t.text.toList ++ "' at line".toList ++ ' ' :: (toString t.line).toList
        ++ ", column".toList ++ ' ' :: (toString t.column).toList)) := by
  simp [display, displayAt]

/-- The names of categories have neither `]` nor line feeds. -/
theorem marks_notMem_name (k : Category) : ']' ∉ k.name.toList ∧ '\n' ∉ k.name.toList := by
  cases k <;> decide

/-- **A display says category, text, line and column**, whatever the text looks like: `display` is
equal exactly for `SameDisplay`. -/
theorem display_eq_iff {t u : Token} : t.display = u.display ↔ t.SameDisplay u := by
  constructor
  · intro h
    have hBlank : ∀ n : ℤ, ' ' ∉ (toString n).toList := fun n =>
      JsonText.notMem_toString n (by decide) (by decide)
    have hChars := congrArg String.toList h
    rw [toList_display, toList_display, List.cons.injEq] at hChars
    -- the name is in front, and behind it the numbers are taken off from the end
    obtain ⟨hName, hRest⟩ :=
      append_first_mark_inj (marks_notMem_name _).1 (marks_notMem_name _).1 hChars.2
    obtain ⟨hFront, hColumn⟩ := append_last_mark_inj (hBlank _) (hBlank _) hRest
    obtain ⟨hText, hLine⟩ :=
      append_last_mark_inj (hBlank _) (hBlank _) (List.append_cancel_right hFront)
    have hTexts := List.append_cancel_left (List.append_cancel_right hText)
    have hCategory := Category.ofName?_name t.category
    rw [String.toList_injective hName, Category.ofName?_name] at hCategory
    exact ⟨Option.some.inj hCategory, (String.toList_injective hTexts).symm,
      (JsonText.toString_injective (String.toList_injective hLine)).symm,
      (JsonText.toString_injective (String.toList_injective hColumn)).symm⟩
  · intro h
    rw [display, display, displayAt, displayAt, h.category_eq, h.text_eq, h.line_eq, h.column_eq]

/-- `t.display` has the line feeds of `t.text`, and no others. -/
theorem count_display (t : Token) : t.display.toList.count '\n' = t.text.toList.count '\n' := by
  have hNumber : ∀ n : ℤ, (toString n).toList.count '\n' = 0 := fun n =>
    List.count_eq_zero.mpr (JsonText.notMem_toString n (by decide) (by decide))
  have hName := List.count_eq_zero.mpr (marks_notMem_name t.category).2
  have hMiddle : "' at line".toList.count '\n' = 0 ∧ ", column".toList.count '\n' = 0
      ∧ " '".toList.count '\n' = 0 := by decide
  rw [toList_display]
  simp only [List.count_cons, List.count_append, hNumber, hName, hMiddle]
  simp

end Token

/-! ### Dumps -/

/-- `dumpLines (t :: tokens)` is `t.display`, a line feed, and `dumpLines tokens`. -/
theorem toList_dumpLines_cons (t : Token) (tokens : List Token) :
    (dumpLines (t :: tokens)).toList
      = t.display.toList ++ '\n' :: (dumpLines tokens).toList := by
  simp [dumpLines, joinLines, String.join_cons]

/-- **A dump has a line feed for every token**, and those of the texts: `tokens.length` and their
count. -/
theorem count_dumpLines (tokens : List Token) :
    (dumpLines tokens).toList.count '\n'
      = tokens.length + (tokens.flatMap (·.text.toList)).count '\n' := by
  induction tokens with
  | nil => rfl
  | cons t tokens ih =>
      rw [toList_dumpLines_cons, List.count_append, List.count_cons_self, ih, t.count_display,
        List.flatMap_cons, List.count_append, List.length_cons]
      omega

/-- **The lines of `dumpLines` are the displays of its tokens**, where no text has a line feed. -/
theorem lines_dumpLines {tokens : List Token} (hTexts : ∀ t ∈ tokens, '\n' ∉ t.text.toList) :
    Text.lines (dumpLines tokens).toList = tokens.map (·.display.toList) ++ [[]] := by
  induction tokens with
  | nil => rfl
  | cons t tokens ih =>
      obtain ⟨hText, hRest⟩ := List.forall_mem_cons.mp hTexts
      have hDisplay : '\n' ∉ t.display.toList := by
        rw [← List.count_eq_zero, t.count_display]
        exact List.count_eq_zero.mpr hText
      rw [toList_dumpLines_cons, Text.lines_append_feed hDisplay, ih hRest]
      rfl

/-- **A dump tells its tokens**, as far as they are displayed, where no text has a line feed: it is
equal exactly for tokens with `SameDisplay`. -/
theorem dumpLines_eq_iff {tokens others : List Token}
    (hTexts : ∀ t ∈ tokens, '\n' ∉ t.text.toList) (hOthers : ∀ t ∈ others, '\n' ∉ t.text.toList) :
    dumpLines tokens = dumpLines others ↔ List.Forall₂ Token.SameDisplay tokens others := by
  constructor
  · intro h
    have hLines := lines_dumpLines hTexts
    rw [h, lines_dumpLines hOthers] at hLines
    have hDisplays := List.append_cancel_right hLines
    rw [← List.forall₂_eq_eq_eq, List.forall₂_map_left_iff, List.forall₂_map_right_iff]
      at hDisplays
    refine hDisplays.flip.imp fun t u hSame => ?_
    exact Token.display_eq_iff.mp (String.toList_injective hSame.symm)
  · intro h
    have hDisplays : tokens.map Token.display = others.map Token.display := by
      rw [← List.forall₂_eq_eq_eq, List.forall₂_map_left_iff, List.forall₂_map_right_iff]
      exact h.imp fun _ _ => Token.display_eq_iff.mpr
    exact congrArg joinLines hDisplays

/-! ### Dumps of scans -/

/-- How many line feeds the strings among tokens have. -/
def feedsInStrings (tokens : List Token) : ℕ :=
  ((tokens.filter (·.category = .stringLiteral)).flatMap (·.text.toList)).count '\n'

/-- Only a `stringLiteral` of a text has line feeds. -/
theorem feed_notMem_text {source : List Char} {t : Token} (ht : t ∈ (scanChars source).tokens)
    (hCategory : t.category ≠ .stringLiteral) : '\n' ∉ t.text.toList := by
  rcases (reading_scanChars source).token_cases ht with rfl | ⟨a, b, lexeme, hFits, rfl⟩
  · -- the end of input has no text
    exact List.not_mem_nil
  · show '\n' ∉ lexeme.text.toList
    rw [hFits.toList_text hCategory]
    exact hFits.blank_notMem hCategory isBlank_feed

/-- Where only strings have line feeds, those of all texts are `feedsInStrings`. -/
theorem count_flatMap_text {tokens : List Token}
    (hTokens : ∀ t ∈ tokens, t.category ≠ .stringLiteral → '\n' ∉ t.text.toList) :
    (tokens.flatMap (·.text.toList)).count '\n' = feedsInStrings tokens := by
  unfold feedsInStrings
  induction tokens with
  | nil => rfl
  | cons t tokens ih =>
      obtain ⟨hToken, hRest⟩ := List.forall_mem_cons.mp hTokens
      by_cases hString : t.category = .stringLiteral
      · rw [List.filter_cons_of_pos (by simpa using hString), List.flatMap_cons, List.flatMap_cons,
          List.count_append, List.count_append, ih hRest]
      · rw [List.filter_cons_of_neg (by simpa using hString), List.flatMap_cons, List.count_append,
          List.count_eq_zero.mpr (hToken hString), ih hRest, Nat.zero_add]

/-- **Text dumps can be read back line by line.** The dump of a scan has as many line feeds as there
are tokens and line feeds in strings together, so that it has one line for every token exactly if no
string has a line feed. And the dumps of any two lists of tokens none of whose texts has a line feed
are equal exactly if the lists are equally long and their tokens agree one by one in category, text,
line and column. -/
theorem dumpLines_decodable :
    (∀ source : String,
      let tokens := (scan source).tokens
      (dumpLines tokens).toList.count '\n' = tokens.length + feedsInStrings tokens ∧
        ((dumpLines tokens).toList.count '\n' = tokens.length ↔
          ∀ t ∈ tokens, t.category = .stringLiteral → '\n' ∉ t.text.toList)) ∧
    ∀ tokens others : List Token, (∀ t ∈ tokens, '\n' ∉ t.text.toList) →
      (∀ t ∈ others, '\n' ∉ t.text.toList) →
      (dumpLines tokens = dumpLines others ↔ List.Forall₂ Token.SameDisplay tokens others) := by
  refine ⟨?_, fun tokens others => dumpLines_eq_iff⟩
  intro source tokens
  have hTexts : ∀ t ∈ tokens, t.category ≠ .stringLiteral → '\n' ∉ t.text.toList :=
    fun t ht => feed_notMem_text (show t ∈ (scanChars source.toList).tokens from ht)
  have hCount : (dumpLines tokens).toList.count '\n' = tokens.length + feedsInStrings tokens := by
    rw [count_dumpLines, count_flatMap_text hTexts]
  refine ⟨hCount, ?_⟩
  rw [hCount, Nat.add_eq_left, feedsInStrings, List.count_eq_zero]
  simp [List.mem_flatMap]

/-- A text that looks like the end of its own line is told from the shorter text that it starts
with. -/
theorem dumpLines_decodable_imitation :
    let imitating : Token :=
      ⟨.illegal, .none, "\"] 'x' at line 1, column 1", ⟨⟨1, 1, 0⟩, ⟨1, 26, 25⟩⟩⟩
    let imitated : Token := ⟨.illegal, .none, "\"] 'x", ⟨⟨1, 1, 0⟩, ⟨1, 7, 6⟩⟩⟩
    '\n' ∉ imitating.text.toList ∧ '\n' ∉ imitated.text.toList ∧
      dumpLines [imitating] ≠ dumpLines [imitated] := by
  intro imitating imitated
  have hImitating : '\n' ∉ imitating.text.toList := by decide +kernel
  have hImitated : '\n' ∉ imitated.text.toList := by decide +kernel
  refine ⟨hImitating, hImitated, fun hSame => ?_⟩
  have hAlike := (dumpLines_decodable.2 [imitating] [imitated] (by simpa using hImitating)
    (by simpa using hImitated)).mp hSame
  have hText := (List.forall₂_cons.mp hAlike).1.text_eq
  exact absurd hText (by decide +kernel)

/-- With a line feed in it, one text may look like two tokens. -/
example :
    let span : Span := ⟨⟨1, 1, 0⟩, ⟨1, 1, 0⟩⟩
    dumpLines [⟨.stringLiteral, .none, "a' at line 1, column 1\n[Number] '2", span⟩]
      = dumpLines [⟨.stringLiteral, .none, "a", span⟩, ⟨.number, .none, "2", span⟩] := by
  decide +kernel

end MarkupScan
