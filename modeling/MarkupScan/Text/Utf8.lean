/-! # UTF-8 with replacement

Reading bytes as UTF-8 where not all of them need be: every byte that begins no character, and every
beginning of a character that is not completed, stands for one replacement character.

Main definitions.
* **`encodeChar`**: the bytes of a character, as numbers.
* **`leadByte`**, **`nextByte`**: what a byte comes to at the beginning of and inside a character.
* **`decodeBytes`**: the text of the bytes.

Main statement: characters that are encoded are read back (`decodeBytes_encodeChar`). -/

namespace MarkupScan.Text

/-- The character `U+FFFD`, which stands for bytes that are none. -/
def replacement : Char := '\uFFFD'

/-- The UTF-8 bytes of `c`. -/
def encodeChar (c : Char) : List Nat :=
  let n := c.toNat
  if n < 0x80 then [n]
  else if n < 0x800 then [0xC0 + n / 0x40, 0x80 + n % 0x40]
  else if n < 0x10000 then [0xE0 + n / 0x1000, 0x80 + n / 0x40 % 0x40, 0x80 + n % 0x40]
  else [0xF0 + n / 0x40000, 0x80 + n / 0x1000 % 0x40, 0x80 + n / 0x40 % 0x40, 0x80 + n % 0x40]

/-- A character of which some bytes have been read. -/
structure Opened where
  /-- The bits so far. -/
  bits : Nat
  /-- The least byte that may follow. -/
  least : Nat
  /-- The greatest byte that may follow. -/
  most : Nat
  /-- How many bytes come after that one. -/
  more : Nat
  deriving DecidableEq, Repr

/-- What a byte at the beginning of a character comes to: a character, or one that is `Opened`. The
bounds of the second byte leave out the longer forms of characters that have a shorter one, the
surrogates, and what is too large. -/
def leadByte (byte : Nat) : List Char × Option Opened :=
  if byte < 0x80 then ([Char.ofNat byte], none)
  else if byte < 0xC2 then ([replacement], none)
  else if byte < 0xE0 then ([], some ⟨byte - 0xC0, 0x80, 0xBF, 0⟩)
  else if byte < 0xF0 then
    ([], some ⟨byte - 0xE0, if byte = 0xE0 then 0xA0 else 0x80, if byte = 0xED then 0x9F else 0xBF, 1⟩)
  else if byte < 0xF5 then
    ([], some ⟨byte - 0xF0, if byte = 0xF0 then 0x90 else 0x80, if byte = 0xF4 then 0x8F else 0xBF, 2⟩)
  else ([replacement], none)

/-- What a byte inside a character comes to; one that does not belong there begins anew. -/
def nextByte (o : Opened) (byte : Nat) : List Char × Option Opened :=
  if o.least ≤ byte ∧ byte ≤ o.most then
    let bits := 0x40 * o.bits + (byte - 0x80)
    match o.more with
    | 0 => ([Char.ofNat bits], none)
    | more + 1 => ([], some ⟨bits, 0x80, 0xBF, more⟩)
  else (replacement :: (leadByte byte).1, (leadByte byte).2)

/-- The text of bytes, of which the first may continue the character `o`. -/
def decodeFrom : Option Opened → List Nat → List Char
  | none, [] => []
  | some _, [] => [replacement]
  | none, byte :: rest => (leadByte byte).1 ++ decodeFrom (leadByte byte).2 rest
  | some o, byte :: rest => (nextByte o byte).1 ++ decodeFrom (nextByte o byte).2 rest

/-- The text of bytes, each broken character becoming a `replacement`. -/
def decodeBytes (bytes : List Nat) : List Char := decodeFrom none bytes

/-- Bytes after a lead byte continue what it opened: `decodeFrom none` becomes
`decodeFrom (some o)`. -/
theorem decodeFrom_lead {byte : Nat} {o : Opened} (hOpens : leadByte byte = ([], some o))
    (rest : List Nat) : decodeFrom none (byte :: rest) = decodeFrom (some o) rest := by
  simp [decodeFrom, hOpens]

/-- A byte from `least` to `most` that is not the last one adds its bits. -/
theorem decodeFrom_next {bits least most more byte : Nat} (hLow : least ≤ byte) (hHigh : byte ≤ most)
    (rest : List Nat) :
    decodeFrom (some ⟨bits, least, most, more + 1⟩) (byte :: rest) =
      decodeFrom (some ⟨0x40 * bits + (byte - 0x80), 0x80, 0xBF, more⟩) rest := by
  simp [decodeFrom, nextByte, hLow, hHigh]

/-- The last byte of a character, from `least` to `most`, completes it. -/
theorem decodeFrom_last {bits least most byte : Nat} (hLow : least ≤ byte) (hHigh : byte ≤ most)
    (rest : List Nat) :
    decodeFrom (some ⟨bits, least, most, 0⟩) (byte :: rest) =
      Char.ofNat (0x40 * bits + (byte - 0x80)) :: decodeFrom none rest := by
  simp [decodeFrom, nextByte, hLow, hHigh]

/-- The byte `0xC0 + n` opens a character of one more byte. -/
theorem leadByte_two {n : Nat} (hLow : 2 ≤ n) (hHigh : n < 0x20) :
    leadByte (0xC0 + n) = ([], some ⟨n, 0x80, 0xBF, 0⟩) := by
  unfold leadByte
  rw [if_neg (by omega), if_neg (by omega), if_pos (by omega), Nat.add_sub_cancel_left]

/-- The byte `0xE0 + n` opens a character of two more bytes. -/
theorem leadByte_three {n : Nat} (hHigh : n < 0x10) :
    leadByte (0xE0 + n) =
      ([], some ⟨n, if n = 0 then 0xA0 else 0x80, if n = 0xD then 0x9F else 0xBF, 1⟩) := by
  have hFirst : (0xE0 + n = 0xE0) = (n = 0) := propext (by omega)
  have hSurrogate : (0xE0 + n = 0xED) = (n = 0xD) := propext (by omega)
  unfold leadByte
  rw [if_neg (by omega), if_neg (by omega), if_neg (by omega), if_pos (by omega),
    Nat.add_sub_cancel_left]
  simp only [hFirst, hSurrogate]

/-- The byte `0xF0 + n` opens a character of three more bytes. -/
theorem leadByte_four {n : Nat} (hHigh : n < 5) :
    leadByte (0xF0 + n) =
      ([], some ⟨n, if n = 0 then 0x90 else 0x80, if n = 4 then 0x8F else 0xBF, 2⟩) := by
  have hFirst : (0xF0 + n = 0xF0) = (n = 0) := propext (by omega)
  have hGreatest : (0xF0 + n = 0xF4) = (n = 4) := propext (by omega)
  unfold leadByte
  rw [if_neg (by omega), if_neg (by omega), if_neg (by omega), if_neg (by omega), if_pos (by omega),
    Nat.add_sub_cancel_left]
  simp only [hFirst, hGreatest]

/-- The bytes `encodeChar c` are read back as `c`. -/
theorem decodeBytes_encodeChar (c : Char) (rest : List Nat) :
    decodeBytes (encodeChar c ++ rest) = c :: decodeBytes rest := by
  have hBack : Char.ofNat c.toNat = c := Char.ofNat_toNat c
  have hValid : c.toNat < 0xD800 ∨ 0xDFFF < c.toNat ∧ c.toNat < 0x110000 := c.valid
  unfold decodeBytes encodeChar
  generalize c.toNat = n at hBack hValid
  simp only
  -- one byte, then two, three and four
  split
  · simp [decodeFrom, leadByte, *]
  split
  · rw [List.cons_append, List.cons_append, List.nil_append,
      decodeFrom_lead (leadByte_two (by omega) (by omega)),
      decodeFrom_last (by omega) (by omega)]
    rw [show 0x40 * (n / 0x40) + (0x80 + n % 0x40 - 0x80) = n by omega, hBack]
  split
  · rw [List.cons_append, List.cons_append, List.cons_append, List.nil_append,
      decodeFrom_lead (leadByte_three (by omega)),
      decodeFrom_next (by split <;> omega) (by split <;> omega),
      decodeFrom_last (by omega) (by omega)]
    rw [show 0x40 * (0x40 * (n / 0x1000) + (0x80 + n / 0x40 % 0x40 - 0x80)) +
      (0x80 + n % 0x40 - 0x80) = n by omega, hBack]
  · rw [List.cons_append, List.cons_append, List.cons_append, List.cons_append, List.nil_append,
      decodeFrom_lead (leadByte_four (by omega)),
      decodeFrom_next (by split <;> omega) (by split <;> omega),
      decodeFrom_next (by omega) (by omega), decodeFrom_last (by omega) (by omega)]
    rw [show 0x40 * (0x40 * (0x40 * (n / 0x40000) + (0x80 + n / 0x1000 % 0x40 - 0x80)) +
      (0x80 + n / 0x40 % 0x40 - 0x80)) + (0x80 + n % 0x40 - 0x80) = n by omega, hBack]

end MarkupScan.Text
