import MarkupScan.Files.Path
import MarkupScan.Keyed

/-! # Directories

The files that a command can see, as a value: looking up, reading and writing follow a path part by
part from the working directory.

Main definitions.
* **`FileError`**: why a path cannot be followed, read or written.
* **`Location`**: a place in the file tree; places above the working directory are directories of
  which nothing else is known.
* **`Directory`**: the entries of the file tree.
* **`Directory.read`**, **`Directory.write`**: the bytes of a file, and the directory with other
  bytes in a file.
* **`Directory.changes`**: the files that differ between two directories. -/

namespace MarkupScan.Files

/-- Why a path cannot be followed, read or written. -/
inductive FileError where
  /-- There is nothing at the path. -/
  | notFound
  /-- The path leads to a directory where a file is needed. -/
  | isDirectory
  /-- The path goes through a file. -/
  | notDirectory
  /-- The path, or a part of it, is too long. -/
  | nameTooLong
  /-- The path holds a zero character, which no path can. -/
  | zeroInPath
  deriving DecidableEq, Repr

/-- What is said about a file error. -/
def FileError.message : FileError → String
  | .notFound => "No such file or directory"
  | .isDirectory => "Is a directory"
  | .notDirectory => "Not a directory"
  | .nameTooLong => "File name too long"
  | .zeroInPath => "embedded null byte"

/-- The greatest number of bytes of a part of a path. -/
def maxNameBytes : Nat := 255

/-- The number of UTF-8 bytes from which on a path is too long. -/
def pathLimit : Nat := 4096

/-- A place in the file tree. -/
structure Location where
  /-- How many levels above the working directory the names begin; `none` for the root. -/
  above : Option Nat
  /-- The names from there on. -/
  names : List String
  deriving DecidableEq, Repr

namespace Location

/-- The working directory: no level above it, and no names. -/
def here : Location := ⟨some 0, []⟩

/-- Where a path begins: at the root if it is absolute, and `here` otherwise. -/
def startOf (p : Path) : Location := if p.isAbsolute then ⟨none, []⟩ else here

/-- The place `name` in `l`. -/
def child (l : Location) (name : String) : Location := { l with names := l.names ++ [name] }

/-- The place one level up; the root is its own parent. -/
def parent (l : Location) : Location :=
  match l.names, l.above with
  | [], some levels => ⟨some (levels + 1), []⟩
  | [], none => l
  | _, _ => { l with names := l.names.dropLast }

end Location

/-- What stands at a place. -/
inductive Entry where
  /-- A file with its bytes. -/
  | file (bytes : ByteArray)
  /-- A directory. -/
  | directory
  /-- A device with nothing to read, which drops what is written to it. -/
  | device

/-- Decidable equality of entries: files are compared by their bytes. -/
instance : DecidableEq Entry
  | .file bytes, .file bytes' =>
      match bytes.decEq bytes' with
      | .isTrue hSame => .isTrue (congrArg Entry.file hSame)
      | .isFalse hDiffer => .isFalse fun hSame => hDiffer (Entry.file.inj hSame)
  | .directory, .directory | .device, .device => .isTrue rfl
  | .file _, .directory | .file _, .device | .directory, .file _ | .directory, .device
  | .device, .file _ | .device, .directory => .isFalse nofun

/-- The file tree around the working directory. -/
structure Directory where
  /-- What stands at the known places. -/
  entries : Keyed Location Entry
  deriving DecidableEq

namespace Directory

/-- A working directory with nothing in it. -/
def empty : Directory := ⟨.empty⟩

/-- What stands at a place; where a path can begin there is always a `directory`. -/
def get? (d : Directory) (l : Location) : Option Entry :=
  if l.names = [] then some .directory else d.entries.get? l

/-- The directory with entry `e` at `l`. -/
def set (d : Directory) (l : Location) (e : Entry) : Directory := ⟨d.entries.set l e⟩

/-- Follows the parts of a path from `l`; all but the last must lead to a `directory`. -/
def follow (d : Directory) (l : Location) : List String → Except FileError Location
  | [] => .ok l
  | part :: rest =>
      match d.get? l with
      | none => .error .notFound
      | some (.file _) => .error .notDirectory
      | some .device => .error .notDirectory
      | some .directory =>
          if part.utf8ByteSize > maxNameBytes then .error .nameTooLong
          else if part = ".." then d.follow l.parent rest
          else d.follow (l.child part) rest

/-- The place that a path leads to, whether or not something is there. -/
def locate (d : Directory) (p : Path) : Except FileError Location :=
  if p.display.toList.contains '\x00' then .error .zeroInPath
  else if p.display.utf8ByteSize ≥ pathLimit then .error .nameTooLong
  else d.follow (.startOf p) p.parts

/-- The bytes of the file at a path, and no bytes for a `device`. -/
def read (d : Directory) (p : Path) : Except FileError ByteArray :=
  match d.locate p with
  | .error e => .error e
  | .ok l =>
      match d.get? l with
      | none => .error .notFound
      | some .directory => .error .isDirectory
      | some .device => .ok .empty
      | some (.file bytes) => .ok bytes

/-- The directory with `bytes` in the file at a path, which is made if it is missing. -/
def write (d : Directory) (p : Path) (bytes : ByteArray) : Except FileError Directory :=
  match d.locate p with
  | .error e => .error e
  | .ok l =>
      match d.get? l with
      | some .directory => .error .isDirectory
      | some .device => .ok d
      | _ => .ok (d.set l (.file bytes))

/-- The directory with `e` at a place below the working directory, and with a `directory` at each
place on the way to it. -/
def place (d : Directory) (names : List String) (e : Entry) : Directory :=
  let parents := (List.range names.length).map fun n => Location.mk (some 0) (names.take n)
  let made := parents.foldl (fun d l =>
    if l.names = [] ∨ (d.get? l).isSome then d else d.set l .directory) d
  made.set ⟨some 0, names⟩ e

/-- The file name and the bytes of an entry below the working directory; `none` of another entry. -/
def fileHere? : Location × Entry → Option (String × ByteArray)
  | (⟨some 0, names⟩, .file bytes) => some ("/".intercalate names, bytes)
  | _ => none

/-- The files below the working directory that are new or have other bytes than before, by name. -/
def changes (before after : Directory) : List (String × ByteArray) :=
  let changed := after.entries.toList.filter fun (l, e) => before.get? l != some e
  (changed.filterMap fileHere?).mergeSort fun a b => a.1 ≤ b.1

end Directory

end MarkupScan.Files
