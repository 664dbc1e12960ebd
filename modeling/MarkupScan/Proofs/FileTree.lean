import MarkupScan.Files.Directory

/-! # Reading and writing in a file tree

What a write does to the rest of the tree, and what a read finds afterwards. A path is followed
through directories only, and a write puts a file where no directory is, so that the same path leads
to the same place before and after it.

Main definitions.
* **`Directory.CanWrite`**: a file can be written at a path.
* **`Directory.Written`**: one tree is another one with given bytes written at a path.
* **`PlainName`**: the name of a file that stands in the working directory itself.

Main statements.
* **`Directory.get?_set`**: a place has what was put there, and every other place has what it had.
* **`Directory.written_of_write`**: a write that succeeds writes the bytes and changes nothing else.
* **`Directory.exists_write_iff`**: a write succeeds where a file can be written.
* **`Directory.read_ofString`**: a plain name leads to the entry of that name. -/

namespace MarkupScan.Files

namespace Directory

variable {d : Directory} {k l m : Location} {p : Path} {bytes : ByteArray}

/-! ### Entries -/

/-- **A place has what was put there**: `(d.set l e).get? l = some e`, and every other place has
what it had. Where a path can begin nothing can be put. -/
theorem get?_set (hl : l.names ≠ []) (d : Directory) (m : Location) (e : Entry) :
    (d.set l e).get? m = if m = l then some e else d.get? m := by
  by_cases hm : m.names = []
  · have hml : m ≠ l := fun h => hl (h ▸ hm)
    simp only [get?, if_pos hm, if_neg hml]
  · simp only [get?, if_neg hm, set, Keyed.get?_set]

/-- `l.names ≠ []` where no directory is: no path can begin there. -/
theorem names_ne_nil (h : d.get? l ≠ some .directory) : l.names ≠ [] := by
  intro hNil
  exact h (by simp [get?, hNil])

/-! ### Paths after a change -/

/-- **A path is followed as before** after something was put at `m`, where no directory was. The way
leads through directories only, and all of them are still there. -/
theorem follow_set (hm : d.get? m ≠ some .directory) {parts : List String}
    (h : d.follow l parts = .ok k) (e : Entry) : (d.set m e).follow l parts = .ok k := by
  -- every part but the last leads to a directory, which is not the changed place
  induction parts generalizing l with
  | nil => exact h
  | cons part rest ih =>
      unfold follow at h ⊢
      cases hEntry : d.get? l with
      | none => rw [hEntry] at h; cases h
      | some entry =>
          rw [hEntry] at h
          cases entry with
          | file _ => cases h
          | device => cases h
          | directory =>
              have hlm : l ≠ m := by
                rintro rfl
                exact hm hEntry
              rw [get?_set (names_ne_nil hm), if_neg hlm, hEntry]
              dsimp only at h ⊢
              split at h
              · cases h
              · rename_i hShort
                rw [if_neg hShort]
                split at h
                · rename_i hUp
                  rw [if_pos hUp]
                  exact ih h
                · rename_i hDown
                  rw [if_neg hDown]
                  exact ih h

/-- `(d.set m e).locate p = d.locate p` where that leads somewhere and no directory was at `m`. -/
theorem locate_set (hm : d.get? m ≠ some .directory) (h : d.locate p = .ok l) (e : Entry) :
    (d.set m e).locate p = .ok l := by
  unfold locate at h ⊢
  split at h
  · cases h
  · rename_i hZero
    rw [if_neg hZero]
    split at h
    · cases h
    · rename_i hLength
      rw [if_neg hLength]
      exact follow_set hm h e

/-! ### Writing -/

/-- **A file can be written** at a path that leads to a place where no directory is. -/
def CanWrite (d : Directory) (p : Path) : Prop :=
  ∃ l, d.locate p = .ok l ∧ d.get? l ≠ some .directory

/-- **The tree `d'` is the tree `d` with the given bytes written** at a path. The path leads to one
place. The bytes stand there afterwards and are read back by the same path, unless a device at the
place drops them; and every other place has what it had. -/
def Written (d : Directory) (p : Path) (bytes : ByteArray) (d' : Directory) : Prop :=
  ∃ l, d.locate p = .ok l ∧
    (d.get? l = some .device ∧ d' = d ∨
      d'.get? l = some (.file bytes) ∧ d'.read p = .ok bytes) ∧
    ∀ m, m ≠ l → d'.get? m = d.get? m

/-- **A write that succeeds is `Written`**: it writes the bytes and changes nothing else. -/
theorem written_of_write {d' : Directory} (h : d.write p bytes = .ok d') :
    d.Written p bytes d' := by
  unfold write at h
  cases hLocate : d.locate p with
  | error e => rw [hLocate] at h; cases h
  | ok l =>
      rw [hLocate] at h
      -- a file is put where a file or nothing was
      have hPut : d.get? l ≠ some .directory → d.set l (.file bytes) = d' →
          d.Written p bytes d' := by
        rintro hFree rfl
        have hNames := names_ne_nil hFree
        refine ⟨l, hLocate, Or.inr ⟨?_, ?_⟩, ?_⟩
        · rw [get?_set hNames, if_pos rfl]
        · rw [read, locate_set hFree hLocate]
          simp only [get?_set hNames, if_pos]
        · intro m hm
          rw [get?_set hNames, if_neg hm]
      cases hEntry : d.get? l with
      | none =>
          simp only [hEntry, Except.ok.injEq] at h
          exact hPut (by simp [hEntry]) h
      | some entry =>
          cases entry with
          | directory => simp [hEntry] at h
          | file old =>
              simp only [hEntry, Except.ok.injEq] at h
              exact hPut (by simp [hEntry]) h
          | device =>
              simp only [hEntry, Except.ok.injEq] at h
              subst h
              exact ⟨l, hLocate, Or.inl ⟨hEntry, rfl⟩, fun m _ => rfl⟩

/-- **A write succeeds exactly where `d.CanWrite p`**, whatever the bytes are. -/
theorem exists_write_iff : (∃ d', d.write p bytes = .ok d') ↔ d.CanWrite p := by
  unfold write CanWrite
  cases hLocate : d.locate p with
  | error e => simp
  | ok l =>
      cases hEntry : d.get? l with
      | none => simp [hEntry]
      | some entry => cases entry <;> simp [hEntry]

end Directory

/-! ### Plain names -/

/-- **The name of a file in the working directory itself**: it names no other directory, and a file
can have it. -/
structure PlainName (name : String) : Prop where
  /-- The name is not empty. -/
  ne_empty : name ≠ ""
  /-- It has one part: no `/`. -/
  slash_notMem : '/' ∉ name.toList
  /-- It is not the working directory, `.`. -/
  ne_here : name ≠ "."
  /-- It is not the directory above, `..`. -/
  ne_above : name ≠ ".."
  /-- No path can hold a zero character. -/
  zero_notMem : '\x00' ∉ name.toList
  /-- It is not too long for a file. -/
  size_le : name.utf8ByteSize ≤ maxNameBytes

namespace PlainName

variable {name : String} (h : PlainName name)
include h

/-- A plain name is the path `⟨"", [name]⟩` of one part. -/
theorem ofString_eq : Path.ofString name = ⟨"", [name]⟩ := by
  have hPieces := Text.pieces_of_not_mem h.slash_notMem
  have hRoot : Path.rootOf name.toList = "" := by
    unfold Path.rootOf
    cases hName : name.toList with
    | nil => rfl
    | cons c rest =>
        have hSlash : c ≠ '/' := by
          rintro rfl
          exact h.slash_notMem (by simp [hName])
        simp [hSlash]
  have hSome : name.toList ≠ [] := by
    simpa using h.ne_empty
  have hDot : name.toList ≠ ['.'] := by
    intro hName
    exact h.ne_here (String.toList_injective hName)
  rw [Path.ofString, hPieces, hRoot]
  simp [hSome, hDot]

/-- `(Path.ofString name).display = name` for a plain name. -/
theorem display_ofString : (Path.ofString name).display = name := by
  rw [h.ofString_eq]
  simp [Path.display]

/-- **A plain name leads to the place of that name**, `⟨some 0, [name]⟩`. -/
theorem locate_ofString (d : Directory) :
    d.locate (Path.ofString name) = .ok ⟨some 0, [name]⟩ := by
  have hSize := h.size_le
  have hLimit : ¬ pathLimit ≤ name.utf8ByteSize := by
    unfold maxNameBytes at hSize
    unfold pathLimit
    omega
  have hHere : d.get? Location.here = some .directory := by
    simp [Directory.get?, Location.here]
  unfold Directory.locate
  rw [h.display_ofString, if_neg (by simpa using h.zero_notMem), if_neg hLimit, h.ofString_eq]
  -- the way has one step, from the working directory
  simp only [Location.startOf, Path.isAbsolute, bne_self_eq_false, Bool.false_eq_true, if_false]
  rw [Directory.follow, hHere]
  simp only [if_neg (Nat.not_lt.mpr hSize), if_neg h.ne_above]
  rfl

end PlainName

namespace Directory

variable {d : Directory} {name : String}

/-- **A plain name is read as the entry of that name:** the bytes of the `file` at
`⟨some 0, [name]⟩`. -/
theorem read_ofString (h : PlainName name) {bytes : ByteArray}
    (hFile : d.get? ⟨some 0, [name]⟩ = some (.file bytes)) :
    d.read (Path.ofString name) = .ok bytes := by
  rw [read, h.locate_ofString]
  simp only [hFile]

/-- `notFound` where there is no entry of that name. -/
theorem read_ofString_of_none (h : PlainName name) (hNone : d.get? ⟨some 0, [name]⟩ = none) :
    d.read (Path.ofString name) = .error .notFound := by
  rw [read, h.locate_ofString]
  simp only [hNone]

end Directory

end MarkupScan.Files
