import MarkupScan.Proofs.Place
import MarkupScan.Scanner

/-! # The grammar of tokens

What a text may be divided into, said without a scanner: stretches of white space and comments, and
between them lexemes that cannot be made longer. A lexeme is judged by its own characters and by the
one that follows it.

Main definitions.
* **`Spacing`**, **`OpenComment`**: what may stand between lexemes, and what may stand only at the
  end of a text.
* **`signs`**: the spellings of the punctuation and of the operators.
* **`Lexeme.Fits`**: the lexemes, each with the texts that may follow it.
* **`Reading`**: a division of a text from some offset on, with the tokens and the warnings that it
  gives. -/

namespace MarkupScan

open Number (Binary64 isDigit)

/-! ### Gaps -/

/-- The end mark `*/` does not occur in the text. -/
def NoClose (body : List Char) : Prop := ¬ ['*', '/'] <:+: body

/-- `NoClose []`: nothing occurs in the empty text. -/
@[simp] theorem noClose_nil : NoClose [] := by
  simp [NoClose]

/-- `*/` begins with the first character or occurs in the rest. -/
theorem noClose_cons {c : Char} {body : List Char} :
    NoClose (c :: body) ↔ ¬ (c = '*' ∧ body.head? = some '/') ∧ NoClose body := by
  unfold NoClose
  rw [List.infix_cons_iff, not_or, List.cons_prefix_cons,
    List.singleton_prefix_iff_head?_eq_some, eq_comm]

/-- **White space and closed comments**, any number of them in any order. -/
inductive Spacing : List Char → Prop
  /-- Nothing at all. -/
  | nil : Spacing []
  /-- A white space character and more spacing. -/
  | blank {c : Char} {gap : List Char} (hc : isBlank c = true) (hGap : Spacing gap) :
      Spacing (c :: gap)
  /-- A comment up to its first `*/` and more spacing. -/
  | comment {body gap : List Char} (hBody : NoClose body) (hGap : Spacing gap) :
      Spacing ('/' :: '*' :: (body ++ '*' :: '/' :: gap))

namespace Spacing

variable {gap more : List Char}

/-- Spacing behind spacing is spacing: `Spacing (gap ++ more)`. -/
theorem append (hGap : Spacing gap) (hMore : Spacing more) : Spacing (gap ++ more) := by
  induction hGap with
  | nil => exact hMore
  | blank hc _ ih => exact .blank hc ih
  | @comment body gap hBody _ ih =>
      have hComment := Spacing.comment hBody ih
      simpa using hComment

/-- Spacing begins with a blank or with the `/` of a comment. -/
theorem head?_cases (hGap : Spacing gap) : ∀ c ∈ gap.head?, isBlank c = true ∨ c = '/' := by
  rintro c hHead
  cases hGap with
  | nil => cases hHead
  | blank hc _ => cases hHead; exact Or.inl hc
  | comment _ _ => cases hHead; exact Or.inr rfl

end Spacing

/-- A comment that has no end mark: `/*` and a text with `NoClose`. -/
def OpenComment (text : List Char) : Prop := ∃ body, text = '/' :: '*' :: body ∧ NoClose body

/-- The text begins with white space or with a comment, closed or open. -/
def BeginsGap (text : List Char) : Prop :=
  (∃ c ∈ text.head?, isBlank c = true) ∨ ['/', '*'] <+: text

/-- A gap begins with a blank, or with the two characters of `/*`. -/
theorem beginsGap_cons {c : Char} {text : List Char} :
    BeginsGap (c :: text) ↔ isBlank c = true ∨ c = '/' ∧ text.head? = some '*' := by
  rw [BeginsGap, List.cons_prefix_cons, List.singleton_prefix_iff_head?_eq_some,
    eq_comm (a := c)]
  simp

/-! ### Lexemes -/

/-- The spellings of the signs and their categories. -/
def signs : List (List Char × Category) :=
  [([','], .comma), ([';'], .semicolon), (['('], .leftParen), ([')'], .rightParen),
    (['\x7b'], .leftBrace), (['\x7d'], .rightBrace),
    (['='], .equals), (['=', '='], .equalsTo), (['!'], .not), (['!', '='], .notEqualsTo),
    (['<'], .lessThan), (['<', '='], .lessOrEqual),
    (['>'], .greaterThan), (['>', '='], .greaterOrEqual)]

/-- **The lexemes of the grammar.** A lexeme fits in front of a text when its characters have the
shape of its category and the text does not make that shape go on. -/
inductive Lexeme.Fits : Lexeme → List Char → Prop
  /-- A word: a character that begins words, then all that continue it. Reserved words are
  keywords, the other ones identifiers. -/
  | word {first : Char} {parts after : List Char} (hStart : isWordStart first = true)
      (hParts : ∀ c ∈ parts, isWordPart c = true)
      (hStop : ∀ c ∈ after.head?, isWordPart c = false) :
      Fits ⟨if String.ofList (first :: parts) ∈ reservedWords then .keyword else .identifier,
        .text (String.ofList (first :: parts)), String.ofList (first :: parts), first :: parts,
        true⟩ after
  /-- A number: digits with at most one point among them, the first being a digit. Neither a digit
  follows, nor a point unless the number has one. -/
  | number {first : Char} {more after : List Char} {value : Binary64}
      (hFirst : isDigit first = true) (hMore : ∀ c ∈ more, isDigit c = true ∨ c = '.')
      (hPoints : more.count '.' ≤ 1) (hDigit : ∀ c ∈ after.head?, isDigit c = false)
      (hPoint : '.' ∉ more → after.head? ≠ some '.')
      (hValue : Binary64.ofText? (String.ofList (first :: more)) = some value) :
      Fits ⟨.number, .number value, String.ofList (first :: more), first :: more, true⟩ after
  /-- A string with its two quotes and none between them. -/
  | closedString {content after : List Char} (hContent : '"' ∉ content) :
      Fits ⟨.stringLiteral, .text (String.ofList content), String.ofList content,
        '"' :: (content ++ ['"']), true⟩ after
  /-- A string without its closing quote, which runs to the end of the text. -/
  | openString {content : List Char} (hContent : '"' ∉ content) :
      Fits ⟨.stringLiteral, .text (String.ofList content), String.ofList content,
        '"' :: content, false⟩ []
  /-- The longest sign with which the text begins. -/
  | sign {raw after : List Char} {category : Category} (hSign : (raw, category) ∈ signs)
      (hLongest : ∀ sign ∈ signs, sign.1 <+: raw ++ after → sign.1.length ≤ raw.length) :
      Fits ⟨category, .none, String.ofList raw, raw, true⟩ after
  /-- One character that begins neither a gap nor any of the lexemes above. -/
  | illegal {c : Char} {after : List Char} (hGap : ¬ BeginsGap (c :: after))
      (hWord : isWordStart c = false) (hDigit : isDigit c = false) (hQuote : c ≠ '"')
      (hSign : ∀ sign ∈ signs, sign.1.head? ≠ some c) :
      Fits ⟨.illegal, .text (String.singleton c), String.singleton c, [c], true⟩ after

/-! ### Readings -/

/-- The end of input of a text: empty, and placed after the last character. -/
def endToken (source : List Char) : Token :=
  ⟨.endOfInput, .none, "",
    ⟨.ofOffset source source.length, .ofOffset source source.length⟩⟩

/-- `endToken` has the category `endOfInput`. -/
@[simp] theorem category_endToken (source : List Char) :
    (endToken source).category = .endOfInput := rfl

/-- The lexeme as a token of `source`, from the offset `a` to `b`. -/
def Lexeme.tokenAt (lexeme : Lexeme) (source : List Char) (a b : ℕ) : Token :=
  ⟨lexeme.category, lexeme.value, lexeme.text,
    ⟨.ofOffset source a, .ofOffset source b⟩⟩

/-- **A reading of a text from the offset `n` on**: gaps and fitting lexemes in turn, each beginning
where the one before it ends, and the end of input behind a last gap. An open string and an open
comment give a warning. -/
inductive Reading (source : List Char) : ℕ → Scan → Prop
  /-- Only `Spacing` is left. -/
  | closed {n : ℕ} (hn : n ≤ source.length) (hGap : Spacing (source.drop n)) :
      Reading source n ⟨[endToken source], []⟩
  /-- Only spacing and an open comment from the offset `a` on are left. -/
  | openComment {n a : ℕ} (hna : n ≤ a) (ha : a ≤ source.length)
      (hGap : Spacing (source.extract n a)) (hOpen : OpenComment (source.drop a)) :
      Reading source n ⟨[endToken source],
        [⟨.comment, ⟨.ofOffset source a, .ofOffset source source.length⟩⟩]⟩
  /-- Spacing up to the offset `a`, a lexeme up to the offset `b`, and a reading from there on. -/
  | token {n a b : ℕ} {lexeme : Lexeme} {scan : Scan} (hna : n ≤ a) (hab : a ≤ b)
      (hb : b ≤ source.length) (hGap : Spacing (source.extract n a))
      (hRaw : source.extract a b = lexeme.raw) (hFits : lexeme.Fits (source.drop b))
      (hRest : Reading source b scan) :
      Reading source n ⟨lexeme.tokenAt source a b :: scan.tokens,
        Scanner.stringWarnings lexeme (lexeme.tokenAt source a b).span ++ scan.warnings⟩

end MarkupScan
