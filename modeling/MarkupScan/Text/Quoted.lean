import MarkupScan.Text.Hex
import MarkupScan.Text.Unprintable

/-! # Quoted texts

Texts as messages quote them: in single quotes, or in double quotes if that saves escaping, with
everything that has no printed form escaped.

Main definitions.
* **`quoteMark`**: the quote that a text is put in.
* **`escapeIn`**: the form of a character between given quotes.
* **`quoted`**: the quoted text. -/

namespace MarkupScan.Text

/-- The quote that a text is put in: double only if the text has single quotes and no double ones. -/
def quoteMark (text : List Char) : Char :=
  if text.contains '\'' && !text.contains '"' then '"' else '\''

/-- An escape by number, `\x`, `\u` or `\U`, as short as the number allows. -/
def escapeByNumber (c : Char) : List Char :=
  if c.toNat < 0x100 then '\\' :: 'x' :: hexDigits 2 c.toNat
  else if c.toNat < 0x10000 then '\\' :: 'u' :: hexDigits 4 c.toNat
  else '\\' :: 'U' :: hexDigits 8 c.toNat

/-- The form of a character between quotes: `mark` itself and the backslash behind a backslash,
three controls by a letter, what has no printed form by number, and all else as it is. -/
def escapeIn (mark c : Char) : List Char :=
  if c = mark ∨ c = '\\' then ['\\', c]
  else if c = '\n' then ['\\', 'n']
  else if c = '\r' then ['\\', 'r']
  else if c = '\t' then ['\\', 't']
  else if unprintables.has c then escapeByNumber c
  else [c]

/-- The text between its `quoteMark`s, each character in the form of `escapeIn`. -/
def quoted (text : String) : String :=
  let mark := quoteMark text.toList
  String.ofList (mark :: text.toList.flatMap (escapeIn mark) ++ [mark])

end MarkupScan.Text
