/-! # Keyed entries

Finite maps as lists of entries in which each key stands once.

Main definitions.
* **`Keyed`**: the entries.
* **`Keyed.get?`**, **`Keyed.set`**: the value of a key, and the entries with another value for it.

Main statement: setting a key changes its own value only (`Keyed.get?_set`). -/

namespace MarkupScan

/-- A finite map, by its entries. -/
structure Keyed (κ α : Type) where
  /-- Keys and values, the latest first. -/
  toList : List (κ × α)
  /-- `toList.map Prod.fst` has no duplicates: each key stands once. -/
  nodup : (toList.map Prod.fst).Nodup := by decide
  deriving DecidableEq

namespace Keyed

variable {κ α : Type} [DecidableEq κ]

/-- No entries. -/
def empty : Keyed κ α := ⟨[], List.nodup_nil⟩

/-- The value of `key`; `none` for a key without entry. -/
def get? (m : Keyed κ α) (key : κ) : Option α := m.toList.lookup key

/-- The keys stay different when `key` is put in front of the entries of the other keys. -/
theorem nodup_cons_filter (m : Keyed κ α) (key : κ) (value : α) :
    (((key, value) :: m.toList.filter (·.1 != key)).map Prod.fst).Nodup := by
  rw [List.map_cons, List.nodup_cons]
  refine ⟨fun hMem => ?_, m.nodup.sublist (List.filter_sublist.map Prod.fst)⟩
  obtain ⟨entry, hEntry, hKey⟩ := List.mem_map.mp hMem
  simpa [hKey] using (List.mem_filter.mp hEntry).2

/-- The map with `value` for `key` and its old entry left out. -/
def set (m : Keyed κ α) (key : κ) (value : α) : Keyed κ α :=
  ⟨(key, value) :: m.toList.filter (·.1 != key), m.nodup_cons_filter key value⟩

/-- `(entries.filter (·.1 != key)).lookup other = entries.lookup other` for another key: removing the
entries of one key keeps what is found for the others. -/
theorem lookup_filter_ne {key other : κ} (hOther : other ≠ key) (entries : List (κ × α)) :
    (entries.filter (·.1 != key)).lookup other = entries.lookup other := by
  induction entries with
  | nil => rfl
  | cons entry entries ih =>
      obtain ⟨found, value⟩ := entry
      by_cases hFound : found = key
      · have hNot : (other == key) = false := beq_false_of_ne hOther
        rw [List.filter_cons_of_neg (by simp [hFound]), ih, List.lookup_cons, hFound, hNot]
      · rw [List.filter_cons_of_pos (by simpa using hFound), List.lookup_cons, List.lookup_cons, ih]

/-- **The value of a key that was set**: `(m.set key value).get? key = some value`, and
`m.get? other` at every other key. -/
theorem get?_set (m : Keyed κ α) (key other : κ) (value : α) :
    (m.set key value).get? other = if other = key then some value else m.get? other := by
  by_cases hOther : other = key
  · simp [get?, set, hOther]
  · have hNot : (other == key) = false := beq_false_of_ne hOther
    simp only [get?, set, List.lookup_cons, hNot, lookup_filter_ne hOther, if_neg hOther]

/-- `Keyed.empty` has no values. -/
@[simp] theorem get?_empty (key : κ) : (empty : Keyed κ α).get? key = none := rfl

end Keyed

end MarkupScan
