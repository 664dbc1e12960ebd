import MarkupScan.Text.Pieces

/-! # Paths

Path names in normal form: empty and `.` parts are dropped, `..` stays.

Main definitions.
* **`Path`**: a root, if there is one, and the parts.
* **`Path.ofString`**, **`Path.display`**: reading and writing a path name.
* **`Path.parent`**, **`Path.child`**: the path without its last part, and with one more. -/

namespace MarkupScan.Files

/-- A path in normal form. -/
structure Path where
  /-- The slashes in front: none, `/` or `//`. -/
  root : String
  /-- The parts, without empty ones and without `.`. -/
  parts : List String
  deriving DecidableEq, Repr

namespace Path

/-- The root of a name: exactly two slashes in front are kept, more count as one. -/
def rootOf (name : List Char) : String :=
  match (name.takeWhile (· == '/')).length with
  | 0 => ""
  | 2 => "//"
  | _ => "/"

/-- The path with the given name. -/
def ofString (name : String) : Path :=
  ⟨rootOf name.toList,
    ((Text.pieces '/' name.toList).filter fun piece => piece != [] && piece != ['.']).map String.ofList⟩

/-- The name of a path; `.` if nothing else is left. -/
def display (p : Path) : String :=
  if p.root = "" ∧ p.parts = [] then "." else p.root ++ "/".intercalate p.parts

/-- The path of the directory that holds this one. -/
def parent (p : Path) : Path := { p with parts := p.parts.dropLast }

/-- The path of `name` in this directory. -/
def child (p : Path) (name : String) : Path := { p with parts := p.parts ++ [name] }

/-- Whether the path begins at the root: `root` is not empty. -/
def isAbsolute (p : Path) : Bool := p.root != ""

end Path

end MarkupScan.Files
