import MarkupScan.Scanner

/-! # Notices

What is reported about a text: characters that begin no token, which are errors, and constructs that
were left open, which are warnings.

Main definitions.
* **`Notice`**: severity, message and place.
* **`Fault`**: an illegal character; **`faults`** and **`firstFault?`** find them in a token list.
* **`Scan.notices`**: all errors in order, then all warnings in order. -/

namespace MarkupScan

/-- How bad a notice is. -/
inductive Severity where
  /-- The text is not acceptable. -/
  | error
  /-- The text was read in a way that may not be meant. -/
  | warning
  deriving DecidableEq, Repr

/-- The word that introduces a notice: `error` or `warning`. -/
def Severity.label : Severity → String
  | .error => "error"
  | .warning => "warning"

/-- Something to report about a text. -/
structure Notice where
  /-- How bad it is. -/
  severity : Severity
  /-- What is wrong. -/
  message : String
  /-- Where. -/
  span : Span
  deriving DecidableEq, Repr

/-- A character that begins no token. -/
structure Fault where
  /-- The character. -/
  text : String
  /-- Its place. -/
  span : Span
  deriving DecidableEq, Repr

/-- What is said about an illegal character: its `text`, quoted. -/
def Fault.message (f : Fault) : String := "illegal character '" ++ f.text ++ "'"

/-- An illegal character is an `error`. -/
def Fault.notice (f : Fault) : Notice := ⟨.error, f.message, f.span⟩

/-- An open construct is a `warning`. -/
def Warning.notice (w : Warning) : Notice := ⟨.warning, w.message, w.span⟩

/-- The fault of an `illegal` token; `none` of any other. -/
def Token.fault? (t : Token) : Option Fault :=
  if t.category = .illegal then some ⟨t.text, t.span⟩ else none

/-- `t.fault?` is the text and the span of `t` where its category is `illegal`, and `none`
elsewhere. -/
theorem Token.fault?_eq_some_iff {t : Token} {fault : Fault} :
    t.fault? = some fault ↔ t.category = .illegal ∧ fault = ⟨t.text, t.span⟩ := by
  unfold Token.fault?
  split
  · rename_i hIllegal
    simp [hIllegal, eq_comm]
  · rename_i hOther
    simp [hOther]

/-- The faults `Token.fault?` of a token list, in order. -/
def faults (tokens : List Token) : List Fault := tokens.filterMap Token.fault?

/-- The first of the `faults`, if there is one. -/
def firstFault? (tokens : List Token) : Option Fault := tokens.findSome? Token.fault?

/-- `firstFault? tokens = (faults tokens).head?`. -/
theorem firstFault?_eq_head? (tokens : List Token) : firstFault? tokens = (faults tokens).head? := by
  simp [firstFault?, faults, List.head?_filterMap]

/-- `firstFault? tokens = none` exactly for tokens none of which is `illegal`. -/
theorem firstFault?_eq_none_iff {tokens : List Token} :
    firstFault? tokens = none ↔ ∀ t ∈ tokens, t.category ≠ .illegal := by
  rw [firstFault?, List.findSome?_eq_none_iff]
  simp [Token.fault?]

/-- All notices of a scan: its `faults`, then its warnings. -/
def Scan.notices (s : Scan) : List Notice :=
  (faults s.tokens).map Fault.notice ++ s.warnings.map Warning.notice

end MarkupScan
