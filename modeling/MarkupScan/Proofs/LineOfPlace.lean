import MarkupScan.Proofs.Place
import MarkupScan.Text.Lines

/-! # The line of a place

A place is counted while a text is read; lines are cut out of the whole text. Both agree: the line
of a place is one of the cut lines, it goes at least as far as the column, and the lines before it
with the beginning of the line itself are what was read.

Main statements.
* **`Text.exists_lines_append`**: cutting a text in two parts the lines of the whole.
* **`exists_line_ofOffset`**: the line of a place, and what stands before the place.
* **`exists_getElem?_lines`**: the line with the number of a place, cut at its column. -/

namespace MarkupScan

namespace Text

/-- `lines ('\n' :: text) = [] :: lines text`: a line feed ends an empty line. -/
theorem lines_cons_feed (text : List Char) : lines ('\n' :: text) = [] :: lines text := by
  rw [lines, pieces, if_pos rfl, lines]

/-- `lines (c :: text)` has `c` in front of the first line, for `c ≠ '\n'`. -/
theorem lines_cons_of_ne {c : Char} (hc : c ≠ '\n') {text first : List Char}
    {later : List (List Char)} (hText : lines text = first :: later) :
    lines (c :: text) = (c :: first) :: later := by
  unfold lines at hText ⊢
  rw [pieces, if_neg hc, hText, consPiece]

/-- `lines (line ++ '\n' :: rest) = line :: lines rest`. -/
theorem lines_append_feed {line : List Char} (hLine : '\n' ∉ line) (rest : List Char) :
    lines (line ++ '\n' :: rest) = line :: lines rest := by
  induction line with
  | nil => exact lines_cons_feed rest
  | cons c line ih =>
      obtain ⟨hc, hLine⟩ := List.ne_and_not_mem_of_not_mem_cons hLine
      exact lines_cons_of_ne hc.symm (ih hLine)

/-- `lines text = [text]` for a text without line feeds. -/
theorem lines_of_notMem {text : List Char} (hText : '\n' ∉ text) : lines text = [text] :=
  pieces_of_not_mem hText

/-- The members of `lines text` are made of the characters of `text`, without its line feeds. -/
theorem mem_of_mem_lines {text line : List Char} (hLine : line ∈ lines text) :
    ∀ c ∈ line, c ∈ text ∧ c ≠ '\n' := by
  induction text generalizing line with
  | nil =>
      rw [List.mem_singleton.mp hLine]
      exact nofun
  | cons d text ih =>
      by_cases hd : d = '\n'
      · subst hd
        rw [lines_cons_feed] at hLine
        rcases List.mem_cons.mp hLine with rfl | hLine
        · exact nofun
        · exact fun c hc => ⟨List.mem_cons_of_mem _ (ih hLine c hc).1, (ih hLine c hc).2⟩
      · obtain ⟨first, later, hText⟩ := List.exists_cons_of_ne_nil (lines_ne_nil text)
        rw [lines_cons_of_ne hd hText] at hLine
        rw [hText] at ih
        rcases List.mem_cons.mp hLine with rfl | hLine
        · -- the first line has one more character than before
          intro c hc
          rcases List.mem_cons.mp hc with rfl | hc
          · exact ⟨List.mem_cons_self, hd⟩
          · have hRest := ih List.mem_cons_self c hc
            exact ⟨List.mem_cons_of_mem _ hRest.1, hRest.2⟩
        · intro c hc
          have hRest := ih (List.mem_cons_of_mem _ hLine) c hc
          exact ⟨List.mem_cons_of_mem _ hRest.1, hRest.2⟩

/-- **The lines of a text in two parts.** The first part is made up of whole lines and the beginning
of one more, which goes on with the first line of the second part. -/
theorem exists_lines_append (front rest : List Char) :
    ∃ earlier : List (List Char),
      earlier.length = front.count '\n' ∧
      front = earlier.flatMap (· ++ ['\n']) ++ front.rtakeWhile (· != '\n') ∧
      ∀ first later, lines rest = first :: later →
        lines (front ++ rest)
          = earlier ++ (front.rtakeWhile (· != '\n') ++ first) :: later := by
  -- the last line is counted from the end, so the last character goes over to the second part
  induction front using List.reverseRecOn generalizing rest with
  | nil => exact ⟨[], rfl, rfl, fun first later h => h⟩
  | append_singleton front c ih =>
      obtain ⟨earlier, hCount, hFront, hLines⟩ := ih (c :: rest)
      rw [List.append_assoc, List.singleton_append, List.rtakeWhile_concat]
      by_cases hc : c = '\n'
      · -- the line that was begun is now a whole one
        subst hc
        refine ⟨earlier ++ [front.rtakeWhile (· != '\n')], ?_, ?_, ?_⟩
        · simp [hCount]
        · conv_lhs => rw [hFront]
          simp
        · intro first later hRest
          rw [hLines [] (lines rest) (lines_cons_feed rest), hRest]
          simp
      · refine ⟨earlier, ?_, ?_, ?_⟩
        · simp [hCount, hc]
        · conv_lhs => rw [hFront]
          simp [hc]
        · intro first later hRest
          rw [hLines (c :: first) later (lines_cons_of_ne hc hRest)]
          simp [hc]

end Text

/-- **The line of a place.** The whole lines before the place and the beginning of its line are what
stands before the offset; their numbers are the line and the column. -/
theorem exists_line_ofOffset (source : List Char) (n : ℕ) :
    ∃ (earlier : List (List Char)) (front rest : List Char) (later : List (List Char)),
      Text.lines source = earlier ++ (front ++ rest) :: later ∧
      source.take n = earlier.flatMap (· ++ ['\n']) ++ front ∧
      Position.ofOffset source n = ⟨1 + earlier.length, 1 + front.length, n⟩ := by
  obtain ⟨earlier, hCount, hFront, hLines⟩ :=
    Text.exists_lines_append (source.take n) (source.drop n)
  obtain ⟨first, later, hRest⟩ := List.exists_cons_of_ne_nil (Text.lines_ne_nil (source.drop n))
  have hWhole := hLines first later hRest
  rw [List.take_append_drop] at hWhole
  exact ⟨earlier, _, first, later, hWhole, hFront, by rw [Position.ofOffset, hCount]⟩

/-- **The line with the number of `ofOffset source n`**, cut at its column. What stands behind the
cut begins with `source[n]?`, unless that ends the line. -/
theorem exists_getElem?_lines (source : List Char) (n : ℕ) :
    ∃ front rest, (Text.lines source)[((Position.ofOffset source n).line - 1).toNat]?
        = some (front ++ rest) ∧
      (Position.ofOffset source n).column = 1 + front.length ∧
      ∀ c ∈ source[n]?, c ≠ '\n' → rest.head? = some c := by
  obtain ⟨earlier, hCount, -, hLines⟩ :=
    Text.exists_lines_append (source.take n) (source.drop n)
  obtain ⟨first, later, hRest⟩ := List.exists_cons_of_ne_nil (Text.lines_ne_nil (source.drop n))
  have hWhole := hLines first later hRest
  rw [List.take_append_drop] at hWhole
  refine ⟨_, first, ?_, rfl, ?_⟩
  · have hIndex : ((Position.ofOffset source n).line - 1).toNat = earlier.length := by
      show (1 + ((source.take n).count '\n' : ℤ) - 1).toNat = earlier.length
      omega
    rw [hIndex, hWhole]
    simp
  · intro c hc hFeed
    -- the character is the first one of the second part
    obtain ⟨tail, hDrop⟩ := List.head?_eq_some_iff.mp ((List.head?_drop).trans hc)
    obtain ⟨short, others, hTail⟩ := List.exists_cons_of_ne_nil (Text.lines_ne_nil tail)
    rw [hDrop, Text.lines_cons_of_ne hFeed hTail] at hRest
    rw [← (List.cons.inj hRest).1]
    rfl

end MarkupScan
