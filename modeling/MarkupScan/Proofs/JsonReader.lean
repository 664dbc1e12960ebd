import Mathlib.Data.List.TakeWhile
import MarkupScan.Proofs.JsonScalars

/-! # Reading JSON texts

A reader of JSON texts that accepts exactly the texts of the grammar and answers with what they say.
A text of the grammar therefore says one thing only.

Main definitions.
* **`Reader`**: reads the beginning of a text; **`Reader.Finds`**: it finds what a grammar spells;
  **`Reader.Proves`**: what it finds is spelled.
* **`readPadded`**, **`readMember`**, **`readSeparated`**, **`readList`**: readers made of readers.
* **`readValue`**: reads one value; **`read?`**: reads a whole text.

Main statements.
* **`readValue_proves`**: what is read as a value is spelled.
* **`readValue_finds`**: every value that is spelled is found.
* **`read?_eq_some_iff`**: the reader and the grammar agree on every text. -/

namespace MarkupScan.JsonText

open Number (isDigit)

/-! ### Readers and what they read -/

/-- Reads the beginning of a text: what it says, and what follows. -/
abbrev Reader (α : Type) : Type := List Char → Option (α × List Char)

namespace Reader

variable {α : Type}

/-- **The reader finds what satisfies `P`**, up to `n` characters, where the text ends or goes on
with a character that `next` allows. -/
def Finds (read : Reader α) (P : List Char → α → Prop) (n : ℕ) (next : Char → Bool) : Prop :=
  ∀ raw a, P raw a → raw.length ≤ n → ∀ rest, (∀ c ∈ rest.head?, next c = true) →
    read (raw ++ rest) = some (a, rest)

/-- **What the reader finds satisfies `P`.** -/
def Proves (read : Reader α) (P : List Char → α → Prop) : Prop :=
  ∀ text a rest, read text = some (a, rest) → ∃ raw, text = raw ++ rest ∧ P raw a

end Reader

/-- Whether the character can begin a value or a name: no white space, and no closing bracket. -/
def canBegin (c : Char) : Bool := !isSpace c && c != ']' && c != '\x7d'

/-- The text begins with a value or a name: with a character that `canBegin`. -/
def Begins (text : List Char) : Prop := ∃ c ∈ text.head?, canBegin c = true

/-- Reads a text in quotes. -/
def readQuoted : Reader String
  | '"' :: rest =>
      (readBody rest).bind fun (units, rest) =>
        (textOf? units).map fun text => (String.ofList text, rest)
  | _ => none

variable {α : Type}

/-- Reads something with white space around it. -/
def readPadded (read : Reader α) : Reader α := fun text =>
  (read (text.dropWhile isSpace)).map fun (a, rest) => (a, rest.dropWhile isSpace)

/-- Reads a name, `:`, and what the name stands for. -/
def readMember (read : Reader Value) : Reader (String × Value) := fun text =>
  (readPadded readQuoted text).bind fun (key, rest) =>
    match rest with
    | ':' :: rest => (readPadded read rest).map fun (value, rest) => ((key, value), rest)
    | _ => none

/-- Reads things with commas between them, and the bracket `close` that closes the list. -/
def readSeparated (read : Reader α) (close : Char) : ℕ → Reader (List α)
  | 0, _ => none
  | fuel + 1, text =>
      (read text).bind fun (a, rest) =>
        if rest.head? = some close then some ([a], rest.tail)
        else if rest.head? = some ',' then
          (readSeparated read close fuel rest.tail).map fun (as, rest) => (a :: as, rest)
        else none

/-- Reads a list that may be empty, and the bracket `close`. -/
def readList (read : Reader α) (close : Char) (fuel : ℕ) : Reader (List α) := fun text =>
  if (text.dropWhile isSpace).head? = some close then some ([], (text.dropWhile isSpace).tail)
  else readSeparated read close fuel text

/-- Whether the character can stand in a value that has neither quotes nor brackets. -/
def isBare (c : Char) : Bool :=
  isDigit c || ('a' ≤ c && c ≤ 'z') || ('A' ≤ c && c ≤ 'Z') || c == '+' || c == '-' || c == '.'

/-- What a word without quotes and brackets says; `none` if it is no literal of `d`. -/
def bareValue? (d : Dialect) (word : List Char) : Option Value :=
  if word = ['n', 'u', 'l', 'l'] then some .null
  else if word = ['t', 'r', 'u', 'e'] then some (.boolean true)
  else if word = ['f', 'a', 'l', 's', 'e'] then some (.boolean false)
  else if isNumber word || d.numberWords.contains (String.ofList word) then
    some (.number (String.ofList word))
  else none

/-- Reads one value, in which values lie at most `fuel` deep. -/
def readValue (d : Dialect) : ℕ → Reader Value
  | 0, _ => none
  | fuel + 1, text =>
      match text with
      | '"' :: _ => (readQuoted text).map fun (text, rest) => (.string text, rest)
      | '[' :: rest =>
          (readList (readPadded (readValue d fuel)) ']' fuel rest).map fun (items, rest) =>
            (.array items, rest)
      | '\x7b' :: rest =>
          (readList (readMember (readValue d fuel)) '\x7d' fuel rest).map fun (members, rest) =>
            (.object members, rest)
      | _ => (bareValue? d (text.takeWhile isBare)).map (·, text.dropWhile isBare)

/-- **Reads a whole JSON text;** `none` if it is none. No value lies deeper in it than it has
characters. -/
def read? (d : Dialect) (text : String) : Option Value :=
  (readPadded (readValue d text.length) text.toList).bind fun (value, rest) =>
    if rest = [] then some value else none

/-! ### What is found is spelled -/

section Proves

variable {P : List Char → α → Prop} {read : Reader α}

/-- What `readQuoted` reads is `Quoted`. -/
theorem readQuoted_proves : Reader.Proves readQuoted Quoted := by
  intro text a rest h
  unfold readQuoted at h
  split at h
  · obtain ⟨⟨units, _⟩, hBody, hMap⟩ := Option.bind_eq_some_iff.mp h
    obtain ⟨chars, hText, hEq⟩ := Option.map_eq_some_iff.mp hMap
    cases hEq
    obtain ⟨body, rfl, hSpelled⟩ := spelled_of_readBody hBody
    rw [eq_unitsOf_of_textOf? hText] at hSpelled
    refine ⟨'"' :: body ++ ['"'], by simp, body, ?_, rfl⟩
    rwa [String.toList_ofList]
  · cases h

/-- What `readPadded` reads is `Padded`. -/
theorem readPadded_proves (h : read.Proves P) : (readPadded read).Proves (Padded P) := by
  intro text a rest hRead
  obtain ⟨⟨_, after⟩, hInner, hEq⟩ := Option.map_eq_some_iff.mp hRead
  cases hEq
  obtain ⟨raw, hText, hRaw⟩ := h _ _ _ hInner
  have hFront : Space (text.takeWhile isSpace) := fun c hc => List.mem_takeWhile_imp hc
  have hBack : Space (after.takeWhile isSpace) := fun c hc => List.mem_takeWhile_imp hc
  refine ⟨_, ?_, .intro hFront hRaw hBack⟩
  calc text = text.takeWhile isSpace ++ text.dropWhile isSpace :=
        List.takeWhile_append_dropWhile.symm
    _ = text.takeWhile isSpace ++ (raw ++ (after.takeWhile isSpace ++ after.dropWhile isSpace)) := by
        rw [hText, List.takeWhile_append_dropWhile]
    _ = _ := by simp only [List.append_assoc]

/-- What `readMember` reads is a `Member`. -/
theorem readMember_proves {P : List Char → Value → Prop} {read : Reader Value}
    (h : read.Proves P) : (readMember read).Proves (Member P) := by
  intro text a rest hRead
  obtain ⟨⟨key, after⟩, hKey, hMatch⟩ := Option.bind_eq_some_iff.mp hRead
  obtain ⟨name, rfl, hName⟩ := readPadded_proves readQuoted_proves _ _ _ hKey
  simp only at hMatch
  split at hMatch
  · obtain ⟨⟨value, _⟩, hInner, hEq⟩ := Option.map_eq_some_iff.mp hMatch
    cases hEq
    obtain ⟨raw, rfl, hRaw⟩ := readPadded_proves h _ _ _ hInner
    exact ⟨name ++ ':' :: raw, by simp, .intro hName hRaw⟩
  · cases hMatch

/-- What `readSeparated` reads is `Separated`, up to the bracket that closes it. -/
theorem readSeparated_proves (h : read.Proves P) {close : Char} {fuel : ℕ} {text rest : List Char}
    {as : List α} (hRead : readSeparated read close fuel text = some (as, rest)) :
    ∃ raw, text = raw ++ close :: rest ∧ Separated P raw as := by
  induction fuel generalizing text as with
  | zero => cases hRead
  | succ fuel ih =>
      obtain ⟨⟨a, after⟩, hFirst, hRest⟩ := Option.bind_eq_some_iff.mp hRead
      obtain ⟨raw, rfl, hRaw⟩ := h _ _ _ hFirst
      simp only at hRest
      split at hRest
      -- the bracket closes the list behind the first thing
      · rename_i hClose
        cases hRest
        exact ⟨raw, by rw [← List.eq_cons_of_mem_head? hClose], .last hRaw⟩
      -- a comma goes on with the rest of it
      · split at hRest
        · rename_i hComma
          obtain ⟨⟨more, _⟩, hMore, hEq⟩ := Option.map_eq_some_iff.mp hRest
          cases hEq
          obtain ⟨rawMore, hText, hSeparated⟩ := ih hMore
          refine ⟨raw ++ ',' :: rawMore, ?_, .more hRaw hSeparated⟩
          rw [List.eq_cons_of_mem_head? hComma, hText, List.append_assoc, List.cons_append]
        · cases hRest

end Proves

/-- `bareValue? d word = some value` implies `Spells d word value`. -/
theorem spells_of_bareValue? {d : Dialect} {word : List Char} {value : Value}
    (h : bareValue? d word = some value) : Spells d word value := by
  unfold bareValue? at h
  -- the three words, and then the literals of numbers
  split at h
  · rename_i hWord
    cases h
    rw [hWord]
    exact .null
  split at h
  · rename_i hWord
    cases h
    rw [hWord]
    exact .yes
  split at h
  · rename_i hWord
    cases h
    rw [hWord]
    exact .no
  split at h
  · rename_i hLiteral
    cases h
    rw [Bool.or_eq_true, isNumber_iff, List.contains_iff_mem] at hLiteral
    have hCounts : d.IsLiteral (String.ofList word) := by
      rwa [Dialect.IsLiteral, String.toList_ofList]
    have hSpells := Spells.number hCounts
    rwa [String.toList_ofList] at hSpells
  · cases h

/-- What `readList` reads is white space or `Separated`, up to the bracket that closes it. -/
theorem readList_proves {P : List Char → α → Prop} {read : Reader α} (h : read.Proves P)
    {close : Char} {fuel : ℕ} {text rest : List Char} {as : List α}
    (hRead : readList read close fuel text = some (as, rest)) :
    ∃ raw, text = raw ++ close :: rest ∧ (Space raw ∧ as = [] ∨ Separated P raw as) := by
  unfold readList at hRead
  split at hRead
  · rename_i hClose
    cases hRead
    refine ⟨text.takeWhile isSpace, ?_, Or.inl ⟨fun c hc => List.mem_takeWhile_imp hc, rfl⟩⟩
    rw [← List.eq_cons_of_mem_head? hClose, List.takeWhile_append_dropWhile]
  · obtain ⟨raw, hText, hSeparated⟩ := readSeparated_proves h hRead
    exact ⟨raw, hText, Or.inr hSeparated⟩

/-- **What is read as a value is spelled:** `readValue` proves `Spells d`. -/
theorem readValue_proves (d : Dialect) (fuel : ℕ) : (readValue d fuel).Proves (Spells d) := by
  -- what lies one level deeper is read with less fuel
  induction fuel with
  | zero =>
      intro text value rest h
      cases h
  | succ fuel ih =>
      intro text value rest h
      unfold readValue at h
      split at h
      · obtain ⟨⟨content, _⟩, hQuoted, hEq⟩ := Option.map_eq_some_iff.mp h
        cases hEq
        obtain ⟨raw, hText, hRaw⟩ := readQuoted_proves _ _ _ hQuoted
        exact ⟨raw, hText, .string hRaw⟩
      · obtain ⟨⟨items, _⟩, hItems, hEq⟩ := Option.map_eq_some_iff.mp h
        cases hEq
        obtain ⟨raw, rfl, hRaw⟩ := readList_proves (readPadded_proves ih) hItems
        refine ⟨'[' :: raw ++ [']'], by simp, ?_⟩
        rcases hRaw with ⟨hSpace, rfl⟩ | hSeparated
        · exact .noItems hSpace
        · exact .items hSeparated
      · obtain ⟨⟨members, _⟩, hMembers, hEq⟩ := Option.map_eq_some_iff.mp h
        cases hEq
        obtain ⟨raw, rfl, hRaw⟩ := readList_proves (readMember_proves ih) hMembers
        refine ⟨'\x7b' :: raw ++ ['\x7d'], by simp, ?_⟩
        rcases hRaw with ⟨hSpace, rfl⟩ | hSeparated
        · exact .noMembers hSpace
        · exact .members hSeparated
      · obtain ⟨found, hFound, hEq⟩ := Option.map_eq_some_iff.mp h
        cases hEq
        exact ⟨text.takeWhile isBare, List.takeWhile_append_dropWhile.symm,
          spells_of_bareValue? hFound⟩

/-! ### How values begin -/

/-- A text that `Begins` with a value begins with no white space. -/
theorem Begins.dropWhile_eq {text : List Char} (h : Begins text) (rest : List Char) :
    (text ++ rest).dropWhile isSpace = text ++ rest := by
  obtain ⟨c, hHead, hc⟩ := h
  rw [List.eq_cons_of_mem_head? hHead]
  simp only [canBegin, Bool.and_eq_true, Bool.not_eq_true'] at hc
  simp [hc.1.1]

/-- A text in quotes `Begins` with its quote. -/
theorem Quoted.begins {raw : List Char} {text : String} (h : Quoted raw text) : Begins raw := by
  obtain ⟨body, -, rfl⟩ := h
  exact ⟨'"', rfl, by decide⟩

/-- What `Begins` behind white space still does so with more behind it. -/
theorem begins_dropWhile_append {text : List Char} (h : Begins (text.dropWhile isSpace))
    (rest : List Char) : Begins ((text ++ rest).dropWhile isSpace) := by
  obtain ⟨c, hHead, hc⟩ := h
  refine ⟨c, ?_, hc⟩
  rw [List.dropWhile_append, if_neg, List.head?_append, Option.mem_def.mp hHead]
  · rfl
  · intro hEmpty
    rw [List.isEmpty_iff.mp hEmpty] at hHead
    cases hHead

/-- Behind the white space of `Padded P` stands what satisfies `P`. -/
theorem Padded.begins {P : List Char → α → Prop} (hBegins : ∀ raw a, P raw a → Begins raw)
    {raw : List Char} {a : α} (h : Padded P raw a) : Begins (raw.dropWhile isSpace) := by
  obtain ⟨hFront, hRaw, -⟩ := h
  rename_i front raw back
  rw [List.append_assoc, List.dropWhile_append_of_pos hFront, (hBegins raw a hRaw).dropWhile_eq]
  obtain ⟨c, hHead, hc⟩ := hBegins raw a hRaw
  exact ⟨c, by simp [Option.mem_def.mp hHead], hc⟩

/-- A member `Begins` with its name. -/
theorem Member.begins {P : List Char → Value → Prop} {raw : List Char} {a : String × Value}
    (h : Member P raw a) : Begins (raw.dropWhile isSpace) := by
  obtain ⟨hName, -⟩ := h
  exact begins_dropWhile_append (hName.begins fun _ _ => Quoted.begins) _

/-- A list `Begins` with its first thing. -/
theorem Separated.begins {P : List Char → α → Prop}
    (hBegins : ∀ raw a, P raw a → Begins (raw.dropWhile isSpace)) {raw : List Char} {as : List α}
    (h : Separated P raw as) : Begins (raw.dropWhile isSpace) := by
  cases h with
  | last hRaw => exact hBegins _ _ hRaw
  | more hRaw _ => exact begins_dropWhile_append (hBegins _ _ hRaw) _

/-- Digits are bare: `isBare c`. -/
theorem isBare_of_isDigit {c : Char} (hc : isDigit c = true) : isBare c = true := by
  simp [isBare, hc]

/-- The literals of numbers are bare words: not empty, and `isBare` throughout. -/
theorem IsNumber.bare {text : List Char} (h : IsNumber text) :
    text ≠ [] ∧ ∀ c ∈ text, isBare c = true := by
  obtain ⟨sign, whole, fraction, power, hSign, hWhole, hFraction, hPower, rfl⟩ := h
  have hMinus : ∀ sign ∈ [[], ['-']], sign.all isBare = true := by decide
  have hSigns : ∀ sign ∈ [[], ['+'], ['-']], sign.all isBare = true := by decide
  have hMarks : ['e', 'E'].all isBare = true := by decide
  have hDigits : ∀ digits, Digits digits → ∀ c ∈ digits, isBare c = true :=
    fun _ h c hc => isBare_of_isDigit (h.2 c hc)
  refine ⟨by simp [hWhole.1.1], ?_⟩
  intro c hc
  simp only [List.mem_append] at hc
  -- the character is in the sign, the whole part, the fraction or the power
  rcases hc with ((hc | hc) | hc) | hc
  · exact List.all_eq_true.mp (hMinus sign hSign) c hc
  · exact hDigits whole hWhole.1 c hc
  · rcases hFraction with rfl | ⟨digits, hFraction, rfl⟩
    · cases hc
    · rcases List.mem_cons.mp hc with rfl | hc
      · rfl
      · exact hDigits digits hFraction c hc
  · rcases hPower with rfl | ⟨mark, plus, digits, hMark, hPlus, hPower, rfl⟩
    · cases hc
    · simp only [List.cons_append, List.mem_cons, List.mem_append] at hc
      rcases hc with rfl | hc | hc
      · exact List.all_eq_true.mp hMarks c hMark
      · exact List.all_eq_true.mp (hSigns plus hPlus) c hc
      · exact hDigits digits hPower c hc

/-- The literals that count as numbers are bare words: not empty, and `isBare` throughout. -/
theorem Dialect.IsLiteral.bare {d : Dialect} {literal : String} (h : d.IsLiteral literal) :
    literal.toList ≠ [] ∧ ∀ c ∈ literal.toList, isBare c = true := by
  rcases h with hNumber | hWord
  · exact hNumber.bare
  · have hWords : ∀ d : Dialect, ∀ word ∈ d.numberWords,
        word.toList ≠ [] ∧ word.toList.all isBare = true := by
      intro d
      cases d <;> decide
    obtain ⟨hSome, hBare⟩ := hWords d literal hWord
    exact ⟨hSome, List.all_eq_true.mp hBare⟩

/-- No bare character begins a text in quotes or a list, and none is white space. -/
theorem canBegin_of_isBare {c : Char} (h : isBare c = true) :
    canBegin c = true ∧ c ≠ '"' ∧ c ≠ '[' ∧ c ≠ '\x7b' := by
  have hNot : ∀ other, isBare other = false → c ≠ other := by
    rintro other hOther rfl
    rw [hOther] at h
    cases h
  refine ⟨?_, hNot _ rfl, hNot _ rfl, hNot _ rfl⟩
  simp [canBegin, isSpace, hNot _ (show isBare ' ' = false from rfl),
    hNot _ (show isBare '\t' = false from rfl), hNot _ (show isBare '\n' = false from rfl),
    hNot _ (show isBare '\r' = false from rfl), hNot _ (show isBare ']' = false from rfl),
    hNot _ (show isBare '\x7d' = false from rfl)]

/-- Every value `Begins` with something that is no white space. -/
theorem Spells.begins {d : Dialect} {raw : List Char} {value : Value} (h : Spells d raw value) :
    Begins raw := by
  cases h with
  | null => exact ⟨'n', rfl, by decide⟩
  | yes => exact ⟨'t', rfl, by decide⟩
  | no => exact ⟨'f', rfl, by decide⟩
  | number hLiteral =>
      obtain ⟨hSome, hBare⟩ := hLiteral.bare
      obtain ⟨c, rest, hText⟩ := List.exists_cons_of_ne_nil hSome
      rw [hText] at hBare ⊢
      exact ⟨c, rfl, (canBegin_of_isBare (hBare c List.mem_cons_self)).1⟩
  | string hQuoted => exact hQuoted.begins
  | noItems _ => exact ⟨'[', rfl, by decide⟩
  | items _ => exact ⟨'[', rfl, by decide⟩
  | noMembers _ => exact ⟨'\x7b', rfl, by decide⟩
  | members _ => exact ⟨'\x7b', rfl, by decide⟩

/-! ### What is spelled is found -/

/-- Whether a value can be followed by the character, which must not lengthen a word. -/
def endsWord (c : Char) : Bool := !isBare c

/-- Whether the character stands between values and names. -/
def isMark (c : Char) : Bool := c == ',' || c == ':' || c == ']' || c == '\x7d'

/-- White space ends words: `isSpace c` implies `endsWord c`. -/
theorem endsWord_of_isSpace {c : Char} (h : isSpace c = true) : endsWord c = true := by
  simp only [isSpace, Bool.or_eq_true, beq_iff_eq] at h
  rcases h with ((rfl | rfl) | rfl) | rfl <;> decide

/-- Marks end words and are no white space: `isMark c` implies `endsWord c` and excludes
`isSpace c`. -/
theorem endsWord_of_isMark {c : Char} (h : isMark c = true) :
    endsWord c = true ∧ isSpace c = false := by
  simp only [isMark, Bool.or_eq_true, beq_iff_eq] at h
  rcases h with ((rfl | rfl) | rfl) | rfl <;> decide

section Finds

variable {P : List Char → α → Prop} {read : Reader α} {n : ℕ}

/-- What is `Quoted` is found by `readQuoted`. -/
theorem readQuoted_finds (next : Char → Bool) : Reader.Finds readQuoted Quoted n next := by
  rintro raw text ⟨body, hBody, rfl⟩ - rest -
  have hRead := readBody_of_spelled hBody rest
  rw [List.append_assoc, List.cons_append, readQuoted, List.singleton_append, hRead]
  simp [textOf?_unitsOf]

/-- What is `Padded` is found by `readPadded`. -/
theorem readPadded_finds (hBegins : ∀ raw a, P raw a → Begins raw) (h : read.Finds P n endsWord) :
    (readPadded read).Finds (Padded P) n isMark := by
  rintro _ a hPadded hLength rest hNext
  obtain ⟨hFront, hRaw, hBack⟩ := hPadded
  rename_i front raw back
  simp only [List.length_append] at hLength
  -- a value is followed by the white space behind it, or by the mark
  have hEnds : ∀ c ∈ (back ++ rest).head?, endsWord c = true := by
    intro c hc
    cases back with
    | nil => exact (endsWord_of_isMark (hNext c hc)).1
    | cons _ back =>
        cases hc
        exact endsWord_of_isSpace (hBack c List.mem_cons_self)
  have hStop : ∀ c ∈ rest.head?, isSpace c = false := fun c hc =>
    (endsWord_of_isMark (hNext c hc)).2
  have hFound := h raw a hRaw (by omega) (back ++ rest) hEnds
  have hSkip : (front ++ raw ++ back ++ rest).dropWhile isSpace = raw ++ (back ++ rest) := by
    rw [List.append_assoc, List.append_assoc, List.dropWhile_append_of_pos hFront,
      (hBegins raw a hRaw).dropWhile_eq]
  rw [readPadded, hSkip, hFound]
  simp only [Option.map_some, (takeWhile_append_stop hBack hStop).2]

/-- A `Member` is found by `readMember`. -/
theorem readMember_finds {P : List Char → Value → Prop} {read : Reader Value}
    (hBegins : ∀ raw a, P raw a → Begins raw) (h : read.Finds P n endsWord) :
    (readMember read).Finds (Member P) n isMark := by
  rintro _ _ hMember hLength rest hNext
  obtain ⟨hName, hValue⟩ := hMember
  rename_i key value name raw
  simp only [List.length_append, List.length_cons] at hLength
  have hColon : ∀ c ∈ (':' :: (raw ++ rest)).head?, isMark c = true := by
    intro c hc
    cases hc
    rfl
  have hKey := readPadded_finds (n := n) (fun _ _ => Quoted.begins) (readQuoted_finds endsWord)
    name key hName (by omega) _ hColon
  have hFound := readPadded_finds hBegins h raw value hValue (by omega) rest hNext
  rw [readMember, List.append_assoc, List.cons_append, hKey]
  simp only [Option.bind_some, hFound, Option.map_some]

/-- What is `Separated` is found by `readSeparated`, up to the bracket that closes it. -/
theorem readSeparated_finds (h : read.Finds P n isMark) {close : Char}
    (hClose : close = ']' ∨ close = '\x7d') {raw : List Char} {as : List α}
    (hSeparated : Separated P raw as) {fuel : ℕ} (hn : raw.length ≤ n) (hFuel : raw.length < fuel)
    (rest : List Char) : readSeparated read close fuel (raw ++ close :: rest) = some (as, rest) := by
  have hMark : isMark close = true := by
    rcases hClose with rfl | rfl <;> rfl
  have hComma : close ≠ ',' := by
    rcases hClose with rfl | rfl <;> decide
  -- every comma takes one character of the text and one unit of the fuel
  induction hSeparated generalizing fuel with
  | @last raw a hRaw =>
      obtain ⟨fuel, rfl⟩ := Nat.exists_eq_add_of_lt hFuel
      have hFound := h raw a hRaw hn (close :: rest) (by simpa using hMark)
      simp [readSeparated, hFound]
  | @more raw more a as hRaw hMore ih =>
      simp only [List.length_append, List.length_cons] at hn hFuel
      obtain ⟨fuel, rfl⟩ : ∃ k, fuel = k + 1 := ⟨fuel - 1, by omega⟩
      have hFound := h raw a hRaw (by omega) (',' :: (more ++ close :: rest))
        (by simp [isMark])
      have hRest : readSeparated read close fuel (more ++ close :: rest) = some (as, rest) :=
        ih (by omega) (by omega)
      rw [List.append_assoc, List.cons_append, readSeparated, hFound]
      simp [hComma.symm, hRest]

/-- A list in brackets that begins with something is found by `readList`. -/
theorem readList_finds (h : read.Finds P n isMark) {close : Char}
    (hClose : close = ']' ∨ close = '\x7d') {raw : List Char} {as : List α}
    (hSeparated : Separated P raw as) (hBegins : Begins (raw.dropWhile isSpace))
    (hn : raw.length < n) (rest : List Char) :
    readList read close n (raw ++ close :: rest) = some (as, rest) := by
  obtain ⟨c, hHead, hc⟩ := begins_dropWhile_append hBegins (close :: rest)
  have hNot : c ≠ close := by
    rintro rfl
    rcases hClose with rfl | rfl <;> cases hc
  rw [readList, Option.mem_def.mp hHead, if_neg (by simpa using hNot)]
  exact readSeparated_finds h hClose hSeparated hn.le hn rest

/-- A list of nothing is found by `readList`, as `[]`. -/
theorem readList_of_space {close : Char} (hClose : close = ']' ∨ close = '\x7d')
    {space : List Char} (hSpace : Space space) (fuel : ℕ) (rest : List Char) :
    readList read close fuel (space ++ close :: rest) = some ([], rest) := by
  have hStop : ∀ c ∈ (close :: rest).head?, isSpace c = false := by
    intro c hc
    cases hc
    rcases hClose with rfl | rfl <;> rfl
  rw [readList, (takeWhile_append_stop hSpace hStop).2]
  simp

end Finds

/-- A bare word is read as its `bareValue?`. -/
theorem readValue_of_bare {d : Dialect} {word : List Char} {value : Value} (hSome : word ≠ [])
    (hBare : ∀ c ∈ word, isBare c = true) (hValue : bareValue? d word = some value) (fuel : ℕ)
    {rest : List Char} (hNext : ∀ c ∈ rest.head?, endsWord c = true) :
    readValue d (fuel + 1) (word ++ rest) = some (value, rest) := by
  have hStop : ∀ c ∈ rest.head?, isBare c = false := by
    intro c hc
    simpa [endsWord] using hNext c hc
  obtain ⟨hTake, hDrop⟩ := takeWhile_append_stop hBare hStop
  obtain ⟨c, more, rfl⟩ := List.exists_cons_of_ne_nil hSome
  obtain ⟨-, hQuote, hBracket, hBrace⟩ := canBegin_of_isBare (hBare c List.mem_cons_self)
  rw [List.cons_append] at hTake hDrop ⊢
  simp [readValue, hQuote, hBracket, hBrace, hTake, hDrop, hValue]

/-- `bareValue?` of a literal that counts as a number is that `number`. -/
theorem bareValue?_of_isLiteral {d : Dialect} {literal : String} (h : d.IsLiteral literal) :
    bareValue? d literal.toList = some (.number literal) := by
  have hCounts :
      (isNumber literal.toList || d.numberWords.contains (String.ofList literal.toList)) = true := by
    rw [Bool.or_eq_true, isNumber_iff, List.contains_iff_mem, String.ofList_toList]
    exact h
  -- the words for nothing, true and false are no numbers in either dialect
  have hNot : ∀ word : List Char,
      (∀ d : Dialect, (isNumber word || d.numberWords.contains (String.ofList word)) = false) →
        literal.toList ≠ word := by
    intro word hWord hEq
    rw [hEq, hWord d] at hCounts
    cases hCounts
  unfold bareValue?
  rw [if_neg (hNot _ (by intro d; cases d <;> decide)),
    if_neg (hNot _ (by intro d; cases d <;> decide)),
    if_neg (hNot _ (by intro d; cases d <;> decide)), if_pos hCounts, String.ofList_toList]

/-- **Every value that is spelled is found:** `readValue` finds `Spells d`. -/
theorem readValue_finds (d : Dialect) (n : ℕ) : (readValue d n).Finds (Spells d) n endsWord := by
  -- what stands in brackets is shorter by the two brackets than the whole
  induction n with
  | zero =>
      -- no value is spelled by nothing
      intro raw value h hLength
      obtain ⟨c, hHead, -⟩ := h.begins
      rw [List.length_eq_zero_iff.mp (Nat.le_zero.mp hLength)] at hHead
      cases hHead
  | succ n ih =>
      have hBegins : ∀ raw value, Spells d raw value → Begins raw := fun _ _ => Spells.begins
      intro raw value h hLength rest hNext
      cases h with
      | null => exact readValue_of_bare (by simp) (List.all_eq_true.mp rfl) rfl n hNext
      | yes => exact readValue_of_bare (by simp) (List.all_eq_true.mp rfl) rfl n hNext
      | no => exact readValue_of_bare (by simp) (List.all_eq_true.mp rfl) rfl n hNext
      | number hLiteral =>
          obtain ⟨hSome, hBare⟩ := hLiteral.bare
          exact readValue_of_bare hSome hBare (bareValue?_of_isLiteral hLiteral) n hNext
      | string hQuoted =>
          have hFound := readQuoted_finds endsWord _ _ hQuoted hLength rest hNext
          obtain ⟨body, hBody, rfl⟩ := hQuoted
          rw [List.cons_append, List.cons_append] at hFound ⊢
          simp only [readValue, hFound, Option.map_some]
      | noItems hSpace =>
          simp [readValue, readList_of_space (.inl rfl) hSpace]
      | items hItems =>
          have hStart := hItems.begins fun _ _ h => h.begins hBegins
          simp only [List.cons_append, List.length_cons, List.length_append] at hLength
          have hFound := readList_finds (readPadded_finds hBegins ih) (.inl rfl) hItems hStart
            (by omega) rest
          simp [readValue, hFound]
      | noMembers hSpace =>
          simp [readValue, readList_of_space (.inr rfl) hSpace]
      | members hMembers =>
          have hStart := hMembers.begins fun _ _ => Member.begins
          simp only [List.cons_append, List.length_cons, List.length_append] at hLength
          have hFound := readList_finds (readMember_finds hBegins ih) (.inr rfl) hMembers hStart
            (by omega) rest
          simp [readValue, hFound]

/-- **The reader and the grammar agree on every text:** `read?` gives `value` exactly for a
`Document` that says it. -/
theorem read?_eq_some_iff {d : Dialect} {text : String} {value : Value} :
    read? d text = some value ↔ Document d text.toList value := by
  have hBegins : ∀ raw value, Spells d raw value → Begins raw := fun _ _ => Spells.begins
  constructor
  · intro h
    obtain ⟨⟨found, rest⟩, hRead, hEnd⟩ := Option.bind_eq_some_iff.mp h
    obtain ⟨raw, hText, hRaw⟩ := readPadded_proves (readValue_proves d _) _ _ _ hRead
    simp only at hEnd
    split at hEnd
    · rename_i hNil
      cases hEnd
      rw [hText, hNil, List.append_nil]
      exact hRaw
    · cases hEnd
  · intro h
    have hLength : text.toList.length ≤ text.length := Nat.le_of_eq String.length_toList
    have hFound := readPadded_finds hBegins (readValue_finds d text.length) _ _ h hLength [] nofun
    rw [List.append_nil] at hFound
    simp [read?, hFound]

-- a pair of surrogates is one character, and a solidus may be escaped
example : read? .strict " [1.5e-3 , \"\\ud83d\\uDE00\\/\"]\n"
    = some (.array [.number "1.5e-3", .string "😀/"]) := by cbv

-- digits do not begin with zero, and words for special values are numbers in one dialect only
example : read? .extended "[01]" = none ∧ read? .strict "[NaN]" = none ∧
    read? .extended "[NaN]" = some (.array [.number "NaN"]) := by cbv

end MarkupScan.JsonText
