import MarkupScan.Proofs.Cursor

/-! # The loops of the cursor

What each loop of the machine that reads by index passes, given the text that lies ahead. Every
lemma says that the loop succeeds, so that on the way no character is taken out of range.

Main definitions.
* **`Cursor.placed`**: the cursor that has read a text up to an offset.
* **`Cursor.afterLexeme`**: what a cursor gives for a lexeme.

Main statements.
* **`Cursor.advanceWhile_class`**, **`Cursor.advanceWhile_noClose`**: the loops over a class of
  characters and over the body of a comment.
* **`Cursor.skipGap_spacing`**, **`Cursor.skipGap_open`**, **`Cursor.skipGap_stop`**: a gap is
  passed as the grammar says.
* **`Cursor.lexeme_placed`**: a lexeme is read as the scanner reads it. -/

namespace MarkupScan

open Number (Binary64 isDigit)
open Position (ofOffset)

namespace Cursor

variable {source : List Char} {n : ℕ} {warnings : List Warning}

/-! ### Looking ahead and moving -/

/-- The cursor that has read a text up to the offset `n` and recorded the given warnings. -/
def placed (source : List Char) (n : ℕ) (warnings : List Warning) : Cursor :=
  ⟨source, n, (ofOffset source n).line, (ofOffset source n).column, warnings⟩

/-- The cursor `placed source n` stands at `ofOffset source n`. -/
@[simp] theorem position_placed : (placed source n warnings).position = ofOffset source n := rfl

/-- A warning is recorded up to `ofOffset source n`. -/
theorem warn_placed (construct : OpenConstruct) (start : Position) :
    (placed source n warnings).warn construct start
      = placed source n (warnings ++ [⟨construct, ⟨start, ofOffset source n⟩⟩]) := rfl

/-- What lies ahead of `placed source n` is `source.drop n`. -/
theorem peek_placed (ahead : ℕ) :
    (placed source n warnings).peek ahead = (source.drop n)[ahead]? := by
  rw [List.getElem?_drop]
  rfl

/-- `atEnd` holds exactly where `source.drop n = []`. -/
theorem atEnd_placed : (placed source n warnings).atEnd = true ↔ source.drop n = [] := by
  rw [atEnd, decide_eq_true_iff, List.drop_eq_nil_iff]
  rfl

/-- `atEnd` fails where a character lies ahead. -/
theorem not_atEnd_placed {first : Char} {tail : List Char} (hRest : source.drop n = first :: tail) :
    ¬ (placed source n warnings).atEnd = true := by
  rw [atEnd_placed, hRest]
  exact List.cons_ne_nil _ _

/-- Where a character lies ahead, `advance` takes it and reaches `n + 1`. -/
theorem advance_placed {first : Char} {tail : List Char} (hRest : source.drop n = first :: tail) :
    (placed source n warnings).advance = some (placed source (n + 1) warnings) := by
  have hFirst : source[n]? = some first := by
    have h : (placed source n warnings).peek 0 = (source.drop n)[0]? := peek_placed 0
    rw [hRest] at h
    exact h
  have hRange : n ≤ source.length := (List.getElem?_eq_some_iff.mp hFirst).1.le
  have hRest' : source.drop n = [first] ++ tail := hRest
  have hNext : (ofOffset source n).next first = ofOffset source (n + 1) :=
    Position.after_ofOffset hRange hRest'
  simp only [advance, placed, hFirst]
  rw [← hNext]
  rfl

/-- `source.drop (n + 1) = tail` behind the character taken. -/
theorem drop_succ {first : Char} {tail : List Char} (hRest : source.drop n = first :: tail) :
    source.drop (n + 1) = tail := by
  rw [← List.drop_drop, hRest]
  rfl

/-! ### Moving while a test holds -/

/-- `advanceWhile` stops at the end, and where the test fails. -/
theorem advanceWhile_stop {test : Cursor → Bool}
    (h : source.drop n = [] ∨ test (placed source n warnings) = false) :
    (placed source n warnings).advanceWhile test = some (placed source n warnings) := by
  rw [advanceWhile_eq, if_pos]
  rcases h with hEnd | hTest
  · rw [atEnd_placed.mpr hEnd, Bool.true_or]
  · rw [hTest, Bool.not_false, Bool.or_true]

/-- `advanceWhile` goes on at `n + 1` where the test holds of a character ahead. -/
theorem advanceWhile_step {test : Cursor → Bool} {first : Char} {tail : List Char}
    (hRest : source.drop n = first :: tail) (hTest : test (placed source n warnings) = true) :
    (placed source n warnings).advanceWhile test
      = (placed source (n + 1) warnings).advanceWhile test := by
  -- the move cannot fail, for a character lies ahead
  rw [advanceWhile_eq, if_neg (by simp [not_atEnd_placed hRest, hTest]), advance_placed hRest,
    Option.bind_some]

/-- **A loop over a class passes a run of that class**, to `n + run.length`. -/
theorem advanceWhile_class {p : Char → Bool} {run after : List Char}
    (hRest : source.drop n = run ++ after) (hRun : ∀ c ∈ run, p c = true)
    (hStop : ∀ c ∈ after.head?, p c = false) (warnings : List Warning) :
    (placed source n warnings).advanceWhile (fun c => (c.peek 0).any p)
      = some (placed source (n + run.length) warnings) := by
  induction run generalizing n with
  | nil =>
      refine advanceWhile_stop ?_
      rw [peek_placed, hRest]
      cases after with
      | nil => exact Or.inl rfl
      | cons c after => exact Or.inr (hStop c rfl)
  | cons c run ih =>
      have hTest : ((placed source n warnings).peek 0).any p = true := by
        rw [peek_placed, hRest]
        exact hRun c (List.mem_cons_self ..)
      rw [advanceWhile_step hRest hTest,
        ih (drop_succ hRest) fun d hd => hRun d (List.mem_cons_of_mem _ hd), List.length_cons]
      congr 2
      omega

/-- **The loop over a comment passes what has no end mark** (`NoClose`), up to the mark or to the
end. -/
theorem advanceWhile_noClose {body after : List Char} (hRest : source.drop n = body ++ after)
    (hBody : NoClose body) (hAfter : after = [] ∨ ∃ rest, after = '*' :: '/' :: rest)
    (warnings : List Warning) :
    (placed source n warnings).advanceWhile (fun c => !c.seesPair '*' '/')
      = some (placed source (n + body.length) warnings) := by
  induction body generalizing n with
  | nil =>
      refine advanceWhile_stop ?_
      rw [List.nil_append] at hRest
      rcases hAfter with rfl | ⟨rest, rfl⟩
      · exact Or.inl hRest
      · refine Or.inr ?_
        rw [seesPair, peek_placed, peek_placed, hRest]
        rfl
  | cons c body ih =>
      obtain ⟨hFirst, hTail⟩ := noClose_cons.mp hBody
      have hTest : (!(placed source n warnings).seesPair '*' '/') = true := by
        rw [seesPair, peek_placed, peek_placed, hRest]
        by_cases hStar : c = '*'
        · -- the character behind it is not a slash, whether it is in the body or behind it
          have hNext : (body ++ after)[0]? ≠ some '/' := by
            cases body with
            | nil => rcases hAfter with rfl | ⟨rest, rfl⟩ <;> simp
            | cons d body => exact fun hSlash => hFirst ⟨hStar, hSlash⟩
          simp [hNext]
        · simp [hStar]
      rw [advanceWhile_step hRest hTest, ih (drop_succ hRest) hTail, List.length_cons]
      congr 2
      omega

/-! ### Gaps -/

/-- `skipComment` passes a comment with an end mark and both of its marks. -/
theorem skipComment_closed {body rest : List Char} (hBody : NoClose body)
    (hRest : source.drop n = '/' :: '*' :: (body ++ '*' :: '/' :: rest)) :
    (placed source n warnings).skipComment
      = some (placed source (n + (body.length + 4)) warnings) := by
  have hStar := drop_succ hRest
  have hInside := drop_succ hStar
  have hLoop := advanceWhile_noClose hInside hBody (Or.inr ⟨rest, rfl⟩) warnings
  -- the loop stops before the end mark, which is still ahead in full
  have hMark : source.drop (n + 1 + 1 + body.length) = '*' :: '/' :: rest := by
    rw [← List.drop_drop, hInside, List.drop_left]
  simp only [skipComment, advance_placed hRest, advance_placed hStar, Option.bind_eq_bind,
    Option.bind_some, hLoop, if_neg (not_atEnd_placed hMark), advance_placed hMark,
    advance_placed (drop_succ hMark)]
  congr 2
  omega

/-- `skipComment` passes a comment without an end mark to `source.length`, with a warning. -/
theorem skipComment_open (hOpen : OpenComment (source.drop n)) (warnings : List Warning) :
    (placed source n warnings).skipComment
      = some (placed source source.length (warnings ++ Scanner.endWarnings source n)) := by
  obtain ⟨body, hRest, hBody⟩ := hOpen
  have hStar := drop_succ hRest
  have hInside := drop_succ hStar
  have hStop : n + 1 + 1 + body.length = source.length := by
    have hLength := congrArg List.length hRest
    simp only [List.length_drop, List.length_cons] at hLength
    omega
  rw [← List.append_nil body] at hInside
  have hLoop := advanceWhile_noClose hInside hBody (Or.inl rfl) warnings
  rw [hStop] at hLoop
  simp only [skipComment, advance_placed hRest, advance_placed hStar, Option.bind_eq_bind,
    Option.bind_some, hLoop, if_pos (atEnd_placed.mpr List.drop_length), position_placed,
    warn_placed]
  simp [Scanner.endWarnings, Scanner.commentWarnings, hRest]

/-- Before a blank, `skipGap` goes on behind it. -/
theorem skipGap_blank {c : Char} {tail : List Char} (hRest : source.drop n = c :: tail)
    (hc : isBlank c = true) :
    (placed source n warnings).skipGap = (placed source (n + 1) warnings).skipGap := by
  have hPeek : ((placed source n warnings).peek 0).any isBlank = true := by
    rw [peek_placed, hRest]
    exact hc
  rw [skipGap_eq, if_neg (not_atEnd_placed hRest), if_pos hPeek, advance_placed hRest,
    Option.bind_some]

/-- Before a comment, `skipGap` goes on where `skipComment` leaves off. -/
theorem skipGap_comment {tail : List Char} {passed : Cursor}
    (hRest : source.drop n = '/' :: '*' :: tail)
    (hPassed : (placed source n warnings).skipComment = some passed) :
    (placed source n warnings).skipGap = passed.skipGap := by
  -- a slash is no white space, so the loop comes to its second test
  have hPeek : ¬ ((placed source n warnings).peek 0).any isBlank = true := by
    rw [peek_placed, hRest]
    show ¬ isBlank '/' = true
    decide +kernel
  have hPair : (placed source n warnings).seesPair '/' '*' = true := by
    rw [seesPair, peek_placed, peek_placed, hRest]
    rfl
  rw [skipGap_eq, if_neg (not_atEnd_placed hRest), if_neg hPeek, if_pos hPair, hPassed,
    Option.bind_some]

/-- `skipGap` passes nothing where no gap begins. -/
theorem skipGap_stop (h : ¬ BeginsGap (source.drop n)) :
    (placed source n warnings).skipGap = some (placed source n warnings) := by
  rw [skipGap_eq]
  cases hRest : source.drop n with
  | nil => rw [if_pos (atEnd_placed.mpr hRest)]
  | cons c tail =>
      rw [hRest, beginsGap_cons, not_or] at h
      have hPeek : ¬ ((placed source n warnings).peek 0).any isBlank = true := by
        rw [peek_placed, hRest]
        exact h.1
      have hPair : ¬ (placed source n warnings).seesPair '/' '*' = true := by
        rw [seesPair, peek_placed, peek_placed, hRest]
        simpa [List.head?_eq_getElem?] using h.2
      rw [if_neg hPeek, if_neg hPair, ite_self]

/-- `skipGap` passes nothing at `source.length`. -/
theorem skipGap_length :
    (placed source source.length warnings).skipGap
      = some (placed source source.length warnings) := by
  apply skipGap_stop
  rw [List.drop_length]
  simp [BeginsGap]

/-- `skipGap` passes an open comment to `source.length`, with a warning. -/
theorem skipGap_open (hOpen : OpenComment (source.drop n)) :
    (placed source n warnings).skipGap
      = some (placed source source.length (warnings ++ Scanner.endWarnings source n)) := by
  have hPassed := skipComment_open hOpen warnings
  obtain ⟨body, hRest, -⟩ := hOpen
  rw [skipGap_comment hRest hPassed, skipGap_length]

/-- **Spacing is passed:** `skipGap` at `n` is `skipGap` at `n + gap.length`. -/
theorem skipGap_spacing {gap rest : List Char} (hGap : Spacing gap)
    (hRest : source.drop n = gap ++ rest) (warnings : List Warning) :
    (placed source n warnings).skipGap = (placed source (n + gap.length) warnings).skipGap := by
  induction hGap generalizing n with
  | nil => rfl
  | @blank c gap hc _ ih =>
      rw [skipGap_blank hRest hc, ih (drop_succ hRest), List.length_cons]
      congr 2
      omega
  | @comment body gap hBody _ ih =>
      have hRest' : source.drop n = '/' :: '*' :: (body ++ '*' :: '/' :: (gap ++ rest)) := by
        rw [hRest]
        simp
      have hAfter : source.drop (n + (body.length + 4)) = gap ++ rest := by
        rw [← List.drop_drop, hRest']
        simp [← List.drop_drop]
      rw [skipGap_comment hRest' (skipComment_closed hBody hRest'), ih hAfter]
      congr 2
      simp only [List.length_cons, List.length_append]
      omega

/-! ### Lexemes -/

/-- What a cursor at the offset `a` gives for a lexeme: the token, and the cursor behind it. -/
def afterLexeme (source : List Char) (a : ℕ) (warnings : List Warning) (lexeme : Lexeme) :
    Token × Cursor :=
  let t := lexeme.tokenAt source a (a + lexeme.raw.length)
  (t, placed source (a + lexeme.raw.length) (warnings ++ Scanner.stringWarnings lexeme t.span))

/-- A `closed` lexeme gives no warning: `afterLexeme` keeps the warnings. -/
theorem afterLexeme_of_closed {a : ℕ} {lexeme : Lexeme} (h : lexeme.closed = true) :
    afterLexeme source a warnings lexeme
      = (lexeme.tokenAt source a (a + lexeme.raw.length),
        placed source (a + lexeme.raw.length) warnings) := by
  simp only [afterLexeme, Scanner.stringWarnings, if_pos h, List.append_nil]

/-- The text between the cursors at `n` and `n + run.length` is `run`. -/
theorem textTo_placed {run after : List Char} {later : List Warning} (hn : n ≤ source.length)
    (hRest : source.drop n = run ++ after) :
    (placed source n warnings).textTo (placed source (n + run.length) later)
      = String.ofList run := by
  obtain ⟨-, hRun, -⟩ := extract_of_drop_eq hn hRest
  exact congrArg String.ofList hRun

/-- `Cursor.word` reads `Lexeme.word`. -/
theorem word_placed {first : Char} {tail : List Char} (hn : n ≤ source.length)
    (hRest : source.drop n = first :: tail) (hFirst : isWordStart first = true) :
    (placed source n warnings).word
      = some (afterLexeme source n warnings (Lexeme.word first tail).1) := by
  have hSame : continuesWord = isWordPart := by
    funext c
    exact continuesWord_eq_isWordPart c
  have hWhole : source.drop n
      = (first :: tail.takeWhile isWordPart) ++ tail.dropWhile isWordPart := by
    rw [hRest, List.cons_append, List.takeWhile_append_dropWhile]
  -- the loop asks for more of a word also at its first character, which begins one
  have hParts : ∀ c ∈ first :: tail.takeWhile isWordPart, isWordPart c = true := by
    intro c hc
    rcases List.mem_cons.mp hc with rfl | hc
    · exact isWordPart_of_isWordStart hFirst
    · exact List.mem_takeWhile_imp hc
  have hLoop := advanceWhile_class hWhole hParts (fun c hc => stop_of_head?_dropWhile hc) warnings
  rw [afterLexeme_of_closed rfl]
  simp only [word, hSame, hLoop, Option.bind_eq_bind, Option.bind_some, textTo_placed hn hWhole]
  rfl

/-- `passNumber` passes the digits of a number. -/
theorem passNumber_digits {digits rest : List Char} (hRest : source.drop n = digits ++ rest)
    (hDigits : ∀ c ∈ digits, isDigit c = true) (seen : Bool) :
    (placed source n warnings).passNumber seen
      = (placed source (n + digits.length) warnings).passNumber seen := by
  induction digits generalizing n with
  | nil => rfl
  | cons c digits ih =>
      have hPeek : ((placed source n warnings).peek 0).any isDigit = true := by
        rw [peek_placed, hRest]
        exact hDigits c (List.mem_cons_self ..)
      rw [passNumber_eq, if_neg (not_atEnd_placed hRest), if_pos hPeek, advance_placed hRest,
        Option.bind_some, ih (drop_succ hRest) fun d hd => hDigits d (List.mem_cons_of_mem _ hd),
        List.length_cons]
      congr 2
      omega

/-- `passNumber false` passes the first point of a number and becomes `passNumber true`. -/
theorem passNumber_point {tail : List Char} (hRest : source.drop n = '.' :: tail) :
    (placed source n warnings).passNumber false
      = (placed source (n + 1) warnings).passNumber true := by
  have hPeek : ¬ ((placed source n warnings).peek 0).any isDigit = true := by
    rw [peek_placed, hRest]
    show ¬ isDigit '.' = true
    decide
  have hPoint : ((placed source n warnings).sees '.' && !false) = true := by
    rw [sees, peek_placed, hRest]
    rfl
  rw [passNumber_eq, if_neg (not_atEnd_placed hRest), if_neg hPeek, if_pos hPoint,
    advance_placed hRest, Option.bind_some]

/-- `passNumber` stops where neither a digit nor a first point lies ahead. -/
theorem passNumber_stop {seen : Bool} (hDigit : ∀ c ∈ (source.drop n).head?, isDigit c = false)
    (hPoint : seen = true ∨ (source.drop n).head? ≠ some '.') :
    (placed source n warnings).passNumber seen = some (placed source n warnings) := by
  have hPeek : ¬ ((placed source n warnings).peek 0).any isDigit = true := by
    rw [peek_placed, ← List.head?_eq_getElem?]
    cases hHead : (source.drop n).head? with
    | none => simp
    | some c => simp [hDigit c hHead]
  have hSees : ¬ ((placed source n warnings).sees '.' && !seen) = true := by
    rw [sees, peek_placed, ← List.head?_eq_getElem?]
    rcases hPoint with rfl | hPoint
    · simp
    · rw [beq_eq_false_iff_ne.mpr hPoint]
      exact Bool.false_ne_true
  rw [passNumber_eq, if_neg hPeek, if_neg hSees, ite_self]

/-- `passNumber` passes the characters of a numeral: digits, and a point with more digits if there
is one. -/
theorem passNumber_numeral {whole point fraction after : List Char}
    (hRest : source.drop n = whole ++ point ++ fraction ++ after)
    (hWhole : ∀ c ∈ whole, isDigit c = true) (hFraction : ∀ c ∈ fraction, isDigit c = true)
    (hPoint : point = ['.'] ∨ point = [] ∧ fraction = [] ∧ after.head? ≠ some '.')
    (hStop : ∀ c ∈ after.head?, isDigit c = false) (warnings : List Warning) :
    (placed source n warnings).passNumber false
      = some (placed source (n + (whole ++ point ++ fraction).length) warnings) := by
  have hEnd : source.drop (n + (whole ++ point ++ fraction).length) = after := by
    rw [← List.drop_drop, hRest, List.drop_left]
  rw [← hEnd] at hStop
  rw [List.append_assoc, List.append_assoc] at hRest
  -- the digits before the point are passed in either case, then the point decides
  rw [passNumber_digits hRest hWhole]
  rcases hPoint with rfl | ⟨rfl, rfl, hAfter⟩
  · have hDot : source.drop (n + whole.length) = '.' :: (fraction ++ after) := by
      rw [← List.drop_drop, hRest, List.drop_left]
      rfl
    have hLength : n + whole.length + 1 + fraction.length
        = n + (whole ++ ['.'] ++ fraction).length := by
      simp only [List.length_append, List.length_singleton]
      omega
    rw [passNumber_point hDot, passNumber_digits (drop_succ hDot) hFraction, hLength,
      passNumber_stop hStop (Or.inl rfl)]
  · rw [List.append_nil, List.append_nil] at hStop hEnd ⊢
    rw [← hEnd] at hAfter
    exact passNumber_stop hStop (Or.inr hAfter)

/-- `Cursor.number` reads a numeral with its value, as `Lexeme.ofNumber`. -/
theorem number_ofNumber {first : Char} {digits point fraction after : List Char}
    (hn : n ≤ source.length)
    (hRest : source.drop n = first :: digits ++ point ++ fraction ++ after)
    (hFirst : isDigit first = true) (hDigits : ∀ c ∈ digits, isDigit c = true)
    (hFraction : ∀ c ∈ fraction, isDigit c = true)
    (hPoint : point = ['.'] ∨ point = [] ∧ fraction = [] ∧ after.head? ≠ some '.')
    (hStop : ∀ c ∈ after.head?, isDigit c = false) :
    (placed source n warnings).number
      = some (afterLexeme source n warnings
          (Lexeme.ofNumber (first :: digits) fraction point)) := by
  have hWhole : ∀ c ∈ first :: digits, isDigit c = true :=
    List.forall_mem_cons.mpr ⟨hFirst, hDigits⟩
  have hLoop := passNumber_numeral hRest hWhole hFraction hPoint hStop warnings
  have hValue := Binary64.ofText?_numeral hFirst hDigits hFraction
    (hPoint.imp_right fun h => ⟨h.1, h.2.1⟩)
  rw [afterLexeme_of_closed rfl, number, hLoop]
  simp only [Option.bind_eq_bind, Option.bind_some, textTo_placed hn hRest]
  rw [hValue, Option.getD_some]
  rfl

/-- `Cursor.number` reads `Lexeme.number`. -/
theorem number_placed {first : Char} {tail : List Char} (hn : n ≤ source.length)
    (hRest : source.drop n = first :: tail) (hFirst : isDigit first = true) :
    (placed source n warnings).number
      = some (afterLexeme source n warnings (Lexeme.number first tail).1) := by
  have hDigits : ∀ c ∈ tail.takeWhile isDigit, isDigit c = true := fun c hc =>
    List.mem_takeWhile_imp hc
  have hTail := List.takeWhile_append_dropWhile (p := isDigit) (l := tail)
  unfold Lexeme.number
  split
  -- a point follows the digits, and the fraction follows it
  · rename_i rest hDrop
    have hFraction := List.takeWhile_append_dropWhile (p := isDigit) (l := rest)
    have hWhole : source.drop n = first :: tail.takeWhile isDigit ++ ['.']
        ++ rest.takeWhile isDigit ++ rest.dropWhile isDigit := by
      rw [List.append_assoc, hFraction, List.append_assoc, List.singleton_append, ← hDrop,
        List.cons_append, hTail, hRest]
    exact number_ofNumber hn hWhole hFirst hDigits (fun c hc => List.mem_takeWhile_imp hc)
      (Or.inl rfl) (fun c hc => stop_of_head?_dropWhile hc)
  -- no point follows
  · rename_i hNotPoint
    have hWhole : source.drop n
        = first :: tail.takeWhile isDigit ++ [] ++ [] ++ tail.dropWhile isDigit := by
      rw [List.append_nil, List.append_nil, List.cons_append, hTail, hRest]
    refine number_ofNumber hn hWhole hFirst hDigits (by simp) (Or.inr ⟨rfl, rfl, ?_⟩)
      (fun c hc => stop_of_head?_dropWhile hc)
    intro hHead
    obtain ⟨rest, hDrop⟩ := List.head?_eq_some_iff.mp hHead
    exact hNotPoint rest hDrop

/-- `Cursor.string` reads `Lexeme.string`, with its closing quote or to the end. -/
theorem string_placed {tail : List Char}
    (hRest : source.drop n = '"' :: tail) :
    (placed source n warnings).string
      = some (afterLexeme source n warnings (Lexeme.string tail).1) := by
  -- behind the opening quote stand the content and what begins with the next quote, if one does
  have hInside : source.drop (n + 1)
      = tail.takeWhile (· != '"') ++ tail.dropWhile (· != '"') := by
    rw [drop_succ hRest, List.takeWhile_append_dropWhile]
  have hRange : n + 1 ≤ source.length := by
    have hLength := congrArg List.length hRest
    rw [List.length_drop, List.length_cons] at hLength
    omega
  have hContent : ∀ c ∈ tail.takeWhile (· != '"'), (c != '"') = true := by
    intro c hc
    exact List.mem_takeWhile_imp (p := (· != '"')) hc
  have hQuote : ∀ c ∈ (tail.dropWhile (· != '"')).head?, (c != '"') = false := by
    intro c hc
    exact stop_of_head?_dropWhile (p := (· != '"')) hc
  have hLoop := advanceWhile_class (p := (· != '"')) hInside hContent hQuote warnings
  have hStop := (extract_of_drop_eq hRange hInside).2.2
  simp only [string, advance_placed hRest, hLoop, Option.bind_eq_bind, Option.bind_some,
    textTo_placed hRange hInside]
  cases hDrop : tail.dropWhile (· != '"') with
  -- no quote is left: the string runs to the end and is warned of
  | nil =>
      rw [hDrop] at hStop
      have hOffset : n + 1 + (tail.takeWhile (· != '"')).length
          = n + ('"' :: tail.takeWhile (· != '"') ++ []).length := by
        simp only [List.length_append, List.length_cons, List.length_nil]
        omega
      rw [if_pos (atEnd_placed.mpr hStop), warn_placed, hOffset]
      simp only [Lexeme.string, hDrop]
      rfl
  -- the closing quote is one more character of the lexeme
  | cons quote rest =>
      rw [hDrop] at hStop
      have hOffset : n + 1 + (tail.takeWhile (· != '"')).length + 1
          = n + ('"' :: tail.takeWhile (· != '"') ++ [quote]).length := by
        simp only [List.length_append, List.length_cons, List.length_nil]
        omega
      rw [if_neg (not_atEnd_placed hStop), advance_placed hStop, hOffset]
      simp only [Lexeme.string, hDrop]
      rw [afterLexeme_of_closed rfl]
      rfl

/-- An operator is read, with the `=` behind it if there is one. -/
theorem operator_placed {first : Char} {tail : List Char} {alone withEquals : Category}
    (hRest : source.drop n = first :: tail) :
    (placed source n warnings).operator first alone withEquals
      = some (afterLexeme source n warnings
          (Lexeme.operator first alone withEquals tail).1) := by
  have hSees : (placed source (n + 1) warnings).sees '=' = (tail.head? == some '=') := by
    rw [sees, peek_placed, drop_succ hRest, List.head?_eq_getElem?]
  simp only [operator, advance_placed hRest, Option.bind_eq_bind, Option.bind_some, hSees]
  by_cases hEquals : ∃ rest, tail = '=' :: rest
  · obtain ⟨rest, rfl⟩ := hEquals
    rw [Lexeme.operator, afterLexeme_of_closed rfl, List.head?_cons, if_pos (beq_self_eq_true _),
      advance_placed (drop_succ hRest)]
    rfl
  · have hOther : ¬ (tail.head? == some '=') = true := by
      intro hHead
      exact hEquals (List.head?_eq_some_iff.mp (beq_iff_eq.mp hHead))
    rw [Lexeme.operator, afterLexeme_of_closed rfl, if_neg hOther]
    · rfl
    · exact fun rest hTail => hEquals ⟨rest, hTail⟩

/-- `Cursor.single` reads `Lexeme.single`: punctuation and illegal characters. -/
theorem single_placed {first : Char} {tail : List Char} (hRest : source.drop n = first :: tail) :
    (placed source n warnings).single first
      = some (afterLexeme source n warnings (Lexeme.single first)) := by
  simp only [single, advance_placed hRest, Option.bind_eq_bind, Option.bind_some, Lexeme.single]
  cases signCategory? first with
  | none =>
      rw [afterLexeme_of_closed rfl]
      rfl
  | some category =>
      rw [afterLexeme_of_closed rfl]
      rfl

/-- **`Cursor.lexeme` reads `Lexeme.read`**, and all of its characters are taken in range. -/
theorem lexeme_placed {first : Char} {tail : List Char} (hn : n ≤ source.length)
    (hRest : source.drop n = first :: tail) (warnings : List Warning) :
    (placed source n warnings).lexeme first
      = some (afterLexeme source n warnings (Lexeme.read first tail).1) := by
  unfold lexeme Lexeme.read
  by_cases hWord : isWordStart first = true
  · rw [if_pos hWord, if_pos hWord]
    exact word_placed hn hRest hWord
  rw [if_neg hWord, if_neg hWord]
  by_cases hDigit : isDigit first = true
  · rw [if_pos hDigit, if_pos hDigit]
    exact number_placed hn hRest hDigit
  rw [if_neg hDigit, if_neg hDigit]
  by_cases hQuote : first = '"'
  · rw [if_pos hQuote, if_pos hQuote]
    subst hQuote
    exact string_placed hRest
  rw [if_neg hQuote, if_neg hQuote]
  cases operatorCategories? first with
  | none => exact single_placed hRest
  | some pair => exact operator_placed hRest

end Cursor

end MarkupScan
