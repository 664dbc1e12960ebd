/-! # Pieces of a text

Cutting a text at every place where a given character stands.

Main definition.
* **`pieces`**: what stands between the marks; there is always one more piece than there are marks. -/

namespace MarkupScan.Text

/-- Puts a character in front of the first piece. -/
def consPiece (c : Char) : List (List Char) → List (List Char)
  | [] => [[c]]
  | piece :: rest => (c :: piece) :: rest

/-- The pieces of a text between the marks, as in `a,b` for the mark `,`. -/
def pieces (mark : Char) : List Char → List (List Char)
  | [] => [[]]
  | c :: text => if c = mark then [] :: pieces mark text else consPiece c (pieces mark text)

/-- `pieces mark text ≠ []`: even the empty text has a piece. -/
theorem pieces_ne_nil (mark : Char) (text : List Char) : pieces mark text ≠ [] := by
  cases text with
  | nil => simp [pieces]
  | cons c text =>
      unfold pieces
      split
      · simp
      · cases pieces mark text <;> simp [consPiece]

/-- `pieces mark text = [text]` for a text without marks. -/
theorem pieces_of_not_mem {mark : Char} {text : List Char} (hPlain : mark ∉ text) :
    pieces mark text = [text] := by
  induction text with
  | nil => rfl
  | cons c text ih =>
      have hDiffers : c ≠ mark := fun hSame => hPlain (hSame ▸ List.mem_cons_self)
      have hRest : mark ∉ text := fun hMem => hPlain (List.mem_cons_of_mem c hMem)
      rw [pieces, if_neg hDiffers, ih hRest, consPiece]

end MarkupScan.Text
