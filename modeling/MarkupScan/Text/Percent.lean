import MarkupScan.Text.Hex
import MarkupScan.Text.Utf8

/-! # Percent escapes

Texts in which a percent sign and two hexadecimal digits stand for a byte. A percent sign without
two digits behind it stands for itself.

Main definitions.
* **`percentBytes`**: the bytes that a text stands for.
* **`percentDecode`**: the text that those bytes are.

Main statement: a text without percent signs stands for itself (`percentDecode_of_not_mem`). -/

namespace MarkupScan.Text

/-- The bytes that a text with percent escapes stands for; `%` without two hexadecimal digits behind
it is no escape. -/
def percentBytes : List Char → List Nat
  | [] => []
  | '%' :: high :: low :: rest =>
      if isHexDigit high && isHexDigit low then
        (16 * hexValue high + hexValue low) :: percentBytes rest
      else encodeChar '%' ++ percentBytes (high :: low :: rest)
  | c :: rest => encodeChar c ++ percentBytes rest

/-- The text that a text with percent escapes stands for. -/
def percentDecode (text : String) : String :=
  String.ofList (decodeBytes (percentBytes text.toList))

/-- A character other than `%` stands for its own bytes. -/
theorem percentBytes_cons {c : Char} (hPlain : c ≠ '%') (rest : List Char) :
    percentBytes (c :: rest) = encodeChar c ++ percentBytes rest := by
  rw [percentBytes]
  intro high low rest' hPercent
  exact absurd hPercent hPlain

/-- `decodeBytes (percentBytes text) = text` for a text without percent signs. -/
theorem decodeBytes_percentBytes {text : List Char} (hPlain : '%' ∉ text) :
    decodeBytes (percentBytes text) = text := by
  induction text with
  | nil => rfl
  | cons c rest ih =>
      have hHead : c ≠ '%' := fun hPercent => hPlain (hPercent ▸ List.mem_cons_self)
      have hRest : '%' ∉ rest := fun hMem => hPlain (List.mem_cons_of_mem c hMem)
      rw [percentBytes_cons hHead, decodeBytes_encodeChar, ih hRest]

/-- `percentDecode text = text` for a text without percent signs. -/
theorem percentDecode_of_not_mem {text : String} (hPlain : '%' ∉ text.toList) :
    percentDecode text = text := by
  rw [percentDecode, decodeBytes_percentBytes hPlain, String.ofList_toList]

end MarkupScan.Text
