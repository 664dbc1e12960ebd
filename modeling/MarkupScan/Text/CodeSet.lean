/-! # Sets of code points

A property of characters is a finite set of code points, written as closed ranges in increasing
order and searched as a balanced tree.

Main definitions.
* **`CodeSet`**: a search tree whose nodes are closed ranges of code points.
* **`CodeSet.contains`**: whether a code point lies in one of the ranges.
* **`CodeSet.ofSorted`**: the balanced tree over an increasing list of ranges. -/

namespace MarkupScan.Text

/-- A finite set of code points, as a search tree of closed ranges. -/
inductive CodeSet where
  /-- The set without code points. -/
  | empty
  /-- The range from `first` to `last`, with the ranges below it and those above it. -/
  | node (below : CodeSet) (first last : Nat) (above : CodeSet)
  deriving DecidableEq, Repr

namespace CodeSet

/-- Whether `code` lies in one of the ranges of the set. -/
def contains : CodeSet → Nat → Bool
  | .empty, _ => false
  | .node below first last above, code =>
      if code < first then below.contains code
      else if code ≤ last then true
      else above.contains code

/-- No code point lies in `empty`. -/
@[simp] theorem contains_empty (code : Nat) : empty.contains code = false := rfl

/-- A `node` answers for its own range and asks one side for every other code point. -/
theorem contains_node (below above : CodeSet) (first last code : Nat) :
    (node below first last above).contains code =
      if code < first then below.contains code
      else if code ≤ last then true
      else above.contains code := rfl

/-- A tree of depth at most `depth` over an increasing list of ranges. -/
def build : Nat → List (Nat × Nat) → CodeSet
  | 0, _ => .empty
  | depth + 1, ranges =>
      match ranges.drop (ranges.length / 2) with
      | [] => .empty
      | (first, last) :: above =>
          .node (build depth (ranges.take (ranges.length / 2))) first last (build depth above)

/-- The balanced tree over an increasing list of ranges. -/
def ofSorted (ranges : List (Nat × Nat)) : CodeSet :=
  build ranges.length ranges

end CodeSet

/-- Whether the code point of `c` lies in the set. -/
def CodeSet.has (set : CodeSet) (c : Char) : Bool :=
  set.contains c.toNat

end MarkupScan.Text
