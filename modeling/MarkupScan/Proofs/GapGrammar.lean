import MarkupScan.Proofs.CharacterClasses
import MarkupScan.Proofs.Grammar

/-! # Gaps are read as the grammar says

The gap at the front of a text is the longest stretch of white space and closed comments there, with
an open comment behind it if the text ends in one.

Main statements.
* **`Gap.spacing_read`**, **`Gap.read_cases`**: what is skipped is spacing, and behind it stands an
  open comment or something that begins no gap.
* **`Gap.read_spacing_append`**: spacing in front of a text is skipped whatever the text is. -/

namespace MarkupScan

/-! ### The end of a comment -/

/-- The front that `splitClose?` gives ends in `*/` and has no other end mark. -/
theorem noClose_of_splitClose? {text front after : List Char}
    (hSplit : splitClose? text = some (front, after)) :
    ∃ body, NoClose body ∧ front = body ++ ['*', '/'] := by
  fun_induction splitClose? text generalizing front after with
  | case1 => cases hSplit
  | case2 rest =>
      cases hSplit
      exact ⟨[], noClose_nil, rfl⟩
  | case3 c rest hNotMark ih =>
      obtain ⟨⟨inner, tail⟩, hFound, hEqual⟩ := Option.map_eq_some_iff.mp hSplit
      cases hEqual
      obtain ⟨body, hBody, rfl⟩ := ih hFound
      refine ⟨c :: body, noClose_cons.mpr ⟨?_, hBody⟩, rfl⟩
      rintro ⟨rfl, hHead⟩
      -- an end mark across the first two characters would have been found first
      obtain ⟨body', rfl⟩ := List.head?_eq_some_iff.mp hHead
      have hText := append_of_splitClose? hFound
      exact hNotMark _ rfl hText.symm

/-- `splitClose?` splits a text at its first `*/`. -/
theorem splitClose?_append {body : List Char} (hBody : NoClose body) (after : List Char) :
    splitClose? (body ++ '*' :: '/' :: after) = some (body ++ ['*', '/'], after) := by
  induction body with
  | nil => rfl
  | cons c body ih =>
      obtain ⟨hFirst, hRest⟩ := noClose_cons.mp hBody
      rw [List.cons_append, splitClose?, ih hRest]
      · rfl
      · rintro rest rfl hText
        apply hFirst
        refine ⟨rfl, ?_⟩
        cases body with
        | nil => cases hText
        | cons d body => cases hText; rfl

/-- **A text is split unless it has no end mark:** `splitClose? text = none` exactly for
`NoClose text`. -/
theorem splitClose?_eq_none_iff {text : List Char} : splitClose? text = none ↔ NoClose text := by
  constructor
  · intro hNone
    fun_induction splitClose? text with
    | case1 => exact noClose_nil
    | case2 rest => cases hNone
    | case3 c rest hNotMark ih =>
        refine noClose_cons.mpr ⟨?_, ih (Option.map_eq_none_iff.mp hNone)⟩
        rintro ⟨rfl, hHead⟩
        obtain ⟨rest', rfl⟩ := List.head?_eq_some_iff.mp hHead
        exact hNotMark _ rfl rfl
  · intro hText
    cases hSplit : splitClose? text with
    | none => rfl
    | some parts =>
        obtain ⟨front, after⟩ := parts
        obtain ⟨body, -, rfl⟩ := noClose_of_splitClose? hSplit
        have hWhole := append_of_splitClose? hSplit
        exact absurd ⟨body, after, by simpa using hWhole⟩ hText

/-! ### The gap in front of a text -/

namespace Gap

/-- `Gap.read` skips a blank. -/
theorem read_blank {c : Char} (hc : isBlank c = true) (tail : List Char) :
    read (c :: tail) = (read tail).skip [c] := by
  have hSlash : c ≠ '/' := (marks_of_isBlank hc).2.2.1
  rw [read, if_pos hc]
  rintro rest rfl
  exact absurd rfl hSlash

/-- `Gap.read` skips a closed comment. -/
theorem read_comment {body : List Char} (hBody : NoClose body) (after : List Char) :
    read ('/' :: '*' :: (body ++ '*' :: '/' :: after))
      = (read after).skip ('/' :: '*' :: (body ++ ['*', '/'])) := by
  rw [read]
  split
  · rename_i hSplit
    rw [splitClose?_append hBody] at hSplit
    cases hSplit
    rfl
  · rename_i hSplit
    rw [splitClose?_append hBody] at hSplit
    cases hSplit

/-- `Gap.read` leaves an open comment `unclosed`, to the end of the text. -/
theorem read_openComment {text : List Char} (hText : OpenComment text) :
    read text = ⟨[], text, []⟩ := by
  obtain ⟨body, rfl, hBody⟩ := hText
  rw [read]
  split
  · rename_i hSplit
    rw [splitClose?_eq_none_iff.mpr hBody] at hSplit
    cases hSplit
  · rfl

/-- `Gap.read` skips nothing where no gap begins. -/
theorem read_of_not_beginsGap {text : List Char} (hText : ¬ BeginsGap text) :
    read text = ⟨[], [], text⟩ := by
  cases text with
  | nil => rw [read]
  | cons c tail =>
      rw [beginsGap_cons, not_or] at hText
      rw [read, if_neg hText.1]
      rintro rest rfl rfl
      exact hText.2 ⟨rfl, rfl⟩

/-- **Spacing in front of a text is skipped:** `read (gap ++ rest) = (read rest).skip gap`. -/
theorem read_spacing_append {gap : List Char} (hGap : Spacing gap) (rest : List Char) :
    read (gap ++ rest) = (read rest).skip gap := by
  induction hGap with
  | nil => rfl
  | @blank c gap hc _ ih =>
      rw [List.cons_append, read_blank hc, ih]
      rfl
  | @comment body gap hBody _ ih =>
      have hAssoc : '/' :: '*' :: (body ++ '*' :: '/' :: gap) ++ rest
          = '/' :: '*' :: (body ++ '*' :: '/' :: (gap ++ rest)) := by simp
      rw [hAssoc, read_comment hBody, ih]
      simp [skip]

/-- What `Gap.read` skips is `Spacing`. -/
theorem spacing_read (text : List Char) : Spacing (read text).skipped := by
  fun_induction read text with
  | case1 => exact .nil
  | case2 tail front after hSplit ih =>
      obtain ⟨body, hBody, rfl⟩ := noClose_of_splitClose? hSplit
      have hComment := Spacing.comment hBody ih
      simpa [skip] using hComment
  | case3 => exact .nil
  | case4 c tail _ hc ih => exact .blank hc ih
  | case5 => exact .nil

/-- **Nothing is left unskipped.** A gap ends in an `OpenComment`, or where no gap begins. -/
theorem read_cases (text : List Char) :
    OpenComment (read text).unclosed ∧ (read text).rest = [] ∨
      (read text).unclosed = [] ∧ ¬ BeginsGap (read text).rest := by
  fun_induction read text with
  | case1 => exact Or.inr ⟨rfl, by simp [BeginsGap]⟩
  | case2 tail front after hSplit ih => exact ih
  | case3 tail hSplit =>
      exact Or.inl ⟨⟨tail, rfl, splitClose?_eq_none_iff.mp hSplit⟩, rfl⟩
  | case4 c tail _ hc ih => exact ih
  | case5 c tail hNotOpen hc =>
      refine Or.inr ⟨rfl, ?_⟩
      rw [beginsGap_cons]
      rintro (hBlank | ⟨rfl, hHead⟩)
      · exact hc hBlank
      · obtain ⟨rest, rfl⟩ := List.head?_eq_some_iff.mp hHead
        exact hNotOpen _ rfl rfl

end Gap

end MarkupScan
