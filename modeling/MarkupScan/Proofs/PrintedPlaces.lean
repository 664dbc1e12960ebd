import Mathlib.Data.List.Forall2
import MarkupScan.Dump
import MarkupScan.Proofs.Requests

/-! # Places that can be printed

A token made by hand may stand on any line. Integers of more than `maxIntegerDigits` digits have no
text, and a token whose place has such a part is neither displayed nor dumped. All other tokens are,
among them every token of a text with fewer than `10 ^ maxIntegerDigits - 1` characters: for them
`Token.display?` and `Token.toJson?` are `Token.display` and `Token.toJson`.

Main definition.
* **`Token.IsPrintable`**: `line` and `column` have a text.

Main statements.
* **`mapM_eq_some_iff`**, **`map_mapM_eq_some_iff`**: a partial function on a list, and what is made
  of its values.
* **`Token.atPlace?_eq_some_iff`**: what is made of the texts of a place.
* **`dumpLines?_eq_some_iff`**, **`dumpJson?_eq_some_iff`**: which lists of tokens have a dump.
* **`isPrintable_of_mem_scan`**, **`dumpLines?_scan`**, **`dumpJson?_scan`**: the tokens of a text. -/

namespace MarkupScan

open Number (maxIntegerDigits)

/-- **A token with a place that can be printed:** its line and its column have an `integerText?`. -/
structure Token.IsPrintable (t : Token) : Prop where
  /-- `line` has at most `maxIntegerDigits` digits. -/
  line_lt : t.line.natAbs < Nat.pow 10 maxIntegerDigits
  /-- `column` has at most `maxIntegerDigits` digits. -/
  column_lt : t.column.natAbs < Nat.pow 10 maxIntegerDigits

/-! ### Tokens -/

section Tokens

variable {α : Type} {t : Token} {make : String → String → α}

/-- `t.atPlace? make` is `make (toString t.line) (toString t.column)` for printable tokens, and there
is none for others. -/
theorem Token.atPlace?_eq_some_iff {a : α} :
    t.atPlace? make = some a ↔ t.IsPrintable ∧ a = make (toString t.line) (toString t.column) := by
  simp only [Token.atPlace?, Option.bind_eq_bind, Option.bind_eq_some_iff,
    Number.integerText?_eq_some_iff, Option.pure_def, Option.some.injEq]
  constructor
  · rintro ⟨_, ⟨hLine, rfl⟩, _, ⟨hColumn, rfl⟩, rfl⟩
    exact ⟨⟨hLine, hColumn⟩, rfl⟩
  · rintro ⟨hPrintable, rfl⟩
    exact ⟨_, ⟨hPrintable.line_lt, rfl⟩, _, ⟨hPrintable.column_lt, rfl⟩, rfl⟩

/-- `t.display? = some t.display` exactly for printable tokens. -/
theorem Token.display?_eq_some_iff {line : String} :
    t.display? = some line ↔ t.IsPrintable ∧ line = t.display := atPlace?_eq_some_iff

/-- `t.toJson? = some t.toJson` exactly for printable tokens. -/
theorem Token.toJson?_eq_some_iff {item : Json} :
    t.toJson? = some item ↔ t.IsPrintable ∧ item = t.toJson := atPlace?_eq_some_iff

end Tokens

/-! ### Lists of tokens -/

/-- A function `f` that is `g` where `p` holds, and is not defined elsewhere, maps a list exactly if
`p` holds of all its items, and then as `g` does. -/
theorem mapM_eq_some_iff {α β : Type} {f : α → Option β} {g : α → β} {p : α → Prop}
    (hf : ∀ a b, f a = some b ↔ p a ∧ b = g a) {as : List α} {bs : List β} :
    as.mapM f = some bs ↔ (∀ a ∈ as, p a) ∧ bs = as.map g := by
  induction as generalizing bs with
  | nil => simp [eq_comm]
  | cons a as ih =>
      simp only [List.mapM_cons, Option.bind_eq_bind, Option.bind_eq_some_iff, hf, ih,
        Option.pure_def, Option.some.injEq, List.forall_mem_cons, List.map_cons]
      constructor
      · rintro ⟨_, ⟨ha, rfl⟩, _, ⟨has, rfl⟩, rfl⟩
        exact ⟨⟨ha, has⟩, rfl⟩
      · rintro ⟨⟨ha, has⟩, rfl⟩
        exact ⟨_, ⟨ha, rfl⟩, _, ⟨has, rfl⟩, rfl⟩

/-- What is made of such a list: `make (as.map g)` exactly if `p` holds of all its items. -/
theorem map_mapM_eq_some_iff {α β γ : Type} {f : α → Option β} {g : α → β} {p : α → Prop}
    (hf : ∀ a b, f a = some b ↔ p a ∧ b = g a) {make : List β → γ} {as : List α} {c : γ} :
    (as.mapM f).map make = some c ↔ (∀ a ∈ as, p a) ∧ c = make (as.map g) := by
  simp only [Option.map_eq_some_iff, mapM_eq_some_iff hf]
  constructor
  · rintro ⟨_, ⟨hAll, rfl⟩, rfl⟩
    exact ⟨hAll, rfl⟩
  · rintro ⟨hAll, rfl⟩
    exact ⟨_, ⟨hAll, rfl⟩, rfl⟩

section Dumps

variable {tokens : List Token} {text : String}

/-- **`dumpLines? tokens = some (dumpLines tokens)`** exactly if all tokens are printable. -/
theorem dumpLines?_eq_some_iff :
    dumpLines? tokens = some text ↔ (∀ t ∈ tokens, t.IsPrintable) ∧ text = dumpLines tokens :=
  map_mapM_eq_some_iff fun _ _ => Token.display?_eq_some_iff

/-- **`dumpJson? tokens = some (dumpJson tokens)`** exactly if all tokens are printable. -/
theorem dumpJson?_eq_some_iff :
    dumpJson? tokens = some text ↔ (∀ t ∈ tokens, t.IsPrintable) ∧ text = dumpJson tokens :=
  map_mapM_eq_some_iff fun _ _ => Token.toJson?_eq_some_iff

end Dumps

/-! ### Tokens of a text -/

/-- Lines and columns of `ofOffset source n` are at most `source.length + 1`. -/
theorem Position.ofOffset_le (source : List Char) (n : ℕ) :
    (ofOffset source n).line.natAbs ≤ source.length + 1 ∧
      (ofOffset source n).column.natAbs ≤ source.length + 1 := by
  have hTake : (source.take n).length ≤ source.length := List.length_take_le' n source
  have hFeeds : (source.take n).count '\n' ≤ (source.take n).length := List.count_le_length
  have hLast : ((source.take n).rtakeWhile (· != '\n')).length ≤ (source.take n).length :=
    (List.rtakeWhile_suffix _ _).length_le
  simp only [ofOffset]
  omega

/-- **The tokens of a text are printable**, unless it has `10 ^ maxIntegerDigits - 1` characters or
more. -/
theorem isPrintable_of_mem_scan {source : String} {t : Token}
    (hShort : source.toList.length + 1 < Nat.pow 10 maxIntegerDigits) (ht : t ∈ (scan source).tokens) :
    t.IsPrintable := by
  obtain ⟨a, b, -, -, -, hSpan⟩ := (Scanner.reached_start source.toList).drain.2.1.span_of_mem ht
  obtain ⟨hLine, hColumn⟩ := Position.ofOffset_le source.toList a
  have hStart : t.span.start = Position.ofOffset source.toList a := by rw [hSpan]
  rw [← hStart] at hLine hColumn
  exact ⟨hLine.trans_lt hShort, hColumn.trans_lt hShort⟩

/-- `dumpLines? (scan source).tokens = some (dumpLines (scan source).tokens)` for all texts that are
not too long. -/
theorem dumpLines?_scan {source : String}
    (hShort : source.toList.length + 1 < Nat.pow 10 maxIntegerDigits) :
    dumpLines? (scan source).tokens = some (dumpLines (scan source).tokens) :=
  dumpLines?_eq_some_iff.mpr ⟨fun _ ht => isPrintable_of_mem_scan hShort ht, rfl⟩

/-- `dumpJson? (scan source).tokens = some (dumpJson (scan source).tokens)` for all texts that are not
too long. -/
theorem dumpJson?_scan {source : String}
    (hShort : source.toList.length + 1 < Nat.pow 10 maxIntegerDigits) :
    dumpJson? (scan source).tokens = some (dumpJson (scan source).tokens) :=
  dumpJson?_eq_some_iff.mpr ⟨fun _ ht => isPrintable_of_mem_scan hShort ht, rfl⟩

end MarkupScan
