/-! # Integers in decimal

Integers are read and written in decimal as long as they do not have too many digits.

Main definitions.
* **`maxIntegerDigits`**: the greatest number of digits.
* **`integerText?`**: the text of an integer, if it has no more digits than that.

Main statement: which integers have a text (`integerText?_eq_some_iff`). -/

namespace MarkupScan.Number

/-- The greatest number of digits of an integer that is read or written in decimal. -/
def maxIntegerDigits : Nat := 4300

/-- The text of an integer; one with more than `maxIntegerDigits` digits has none. -/
def integerText? (n : Int) : Option String :=
  if n.natAbs < Nat.pow 10 maxIntegerDigits then some (toString n) else none

/-- `integerText? n = some text` exactly for `n.natAbs < 10 ^ maxIntegerDigits` and its digits. -/
theorem integerText?_eq_some_iff {n : Int} {text : String} :
    integerText? n = some text ↔ n.natAbs < Nat.pow 10 maxIntegerDigits ∧ text = toString n := by
  unfold integerText?
  split
  · rename_i hFew
    rw [Option.some.injEq, and_iff_right hFew, eq_comm]
  · rename_i hMany
    exact iff_of_false nofun fun h => hMany h.1

end MarkupScan.Number
