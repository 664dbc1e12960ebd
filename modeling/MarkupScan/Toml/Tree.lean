import MarkupScan.Toml.Value

/-! # Tables under construction

A configuration file builds its tables piece by piece: headers open tables, and entries with dotted
keys reach into them. What a table may still take depends on how it came about.

Main definitions.
* **`Origin`**: how a table came about.
* **`Node`**: a value, a table or a list of tables under construction.
* **`declare`**, **`append`**, **`assign`**: the three ways in which a file extends its tables; each
  fails where the file contradicts itself.
* **`Node.toValue`**: the finished value. -/

namespace MarkupScan.Toml

/-- How a table came about. -/
inductive Origin where
  /-- It stands on the way to the table of a header. -/
  | implied
  /-- It has a header of its own. -/
  | declared
  /-- It was reached by a dotted key in the given part of the file. -/
  | dotted (part : Nat)
  deriving DecidableEq, Repr

/-- Something under construction. -/
inductive Node where
  /-- A complete value. -/
  | value (v : Value)
  /-- A table. -/
  | table (origin : Origin) (entries : List (String × Node))
  /-- A list of tables: the earlier ones, and the last, which can still grow. -/
  | tables (earlier : List (List (String × Node))) (last : List (String × Node))

/-- The entries of a table under construction, in the order of the file. -/
abbrev Entries := List (String × Node)

/-- The entries with the node of `key` replaced, or added at the end. -/
def Entries.set (entries : Entries) (key : String) (node : Node) : Entries :=
  match entries with
  | [] => [(key, node)]
  | (k, n) :: rest => if k = key then (k, node) :: rest else (k, n) :: Entries.set rest key node

/-- Changes the table behind `path` by `change`; tables on the way are made where they are missing.
A list of tables stands for its last table. -/
def within (path : List String) (change : Entries → Option Entries) (entries : Entries) :
    Option Entries :=
  match path with
  | [] => change entries
  | key :: path =>
      match entries.lookup key with
      | none => (within path change []).map fun sub => entries.set key (.table .implied sub)
      | some (.table origin sub) =>
          (within path change sub).map fun sub => entries.set key (.table origin sub)
      | some (.tables earlier last) =>
          (within path change last).map fun last => entries.set key (.tables earlier last)
      | some (.value _) => none

/-- Gives the table `key` its own header: it must be new, or `implied` by earlier headers only. -/
def declareKey (key : String) (entries : Entries) : Option Entries :=
  match entries.lookup key with
  | none => some (entries.set key (.table .declared []))
  | some (.table .implied sub) => some (entries.set key (.table .declared sub))
  | some _ => none

/-- Adds a table to the list of tables `key`, which must be new or made of such headers. -/
def appendKey (key : String) (entries : Entries) : Option Entries :=
  match entries.lookup key with
  | none => some (entries.set key (.tables [] []))
  | some (.tables earlier last) => some (entries.set key (.tables (earlier ++ [last]) []))
  | some _ => none

/-- Opens the table of a header: `declareKey` of its last key within `path`. -/
def declare (path : List String) (key : String) : Entries → Option Entries :=
  within path (declareKey key)

/-- Opens a new table of a list of tables: `appendKey` of its last key within `path`. -/
def append (path : List String) (key : String) : Entries → Option Entries :=
  within path (appendKey key)

/-- Adds the value of a dotted key, `key` behind `path`, in the given part of the file. Tables on
the way must be new, `implied`, or `dotted` in the same part. -/
def assign (part : Nat) (path : List String) (key : String) (value : Value)
    (entries : Entries) : Option Entries :=
  match path with
  | [] =>
      match entries.lookup key with
      | none => some (entries.set key (.value value))
      | some _ => none
  | first :: path =>
      let deeper (sub : Entries) : Option Entries :=
        (assign part path key value sub).map fun sub =>
          entries.set first (.table (.dotted part) sub)
      match entries.lookup first with
      | none => deeper []
      | some (.table .implied sub) => deeper sub
      | some (.table (.dotted other) sub) => if other = part then deeper sub else none
      | some _ => none

mutual

/-- The finished value of a node. -/
def Node.toValue : Node → Value
  | .value v => v
  | .table _ entries => .table (toTable entries)
  | .tables earlier last => .array (toTables earlier ++ [.table (toTable last)])

/-- The finished entries of a table. -/
def toTable : List (String × Node) → Table
  | [] => []
  | (key, node) :: entries => (key, node.toValue) :: toTable entries

/-- The finished tables of a list. -/
def toTables : List (List (String × Node)) → List Value
  | [] => []
  | entries :: rest => .table (toTable entries) :: toTables rest

end

end MarkupScan.Toml
