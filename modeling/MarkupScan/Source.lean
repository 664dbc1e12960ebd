import MarkupScan.Files.Directory
import MarkupScan.Text.Lines

/-! # Sources

The text of a file that is to be scanned.

Main definitions.
* **`FileView`**: the files that can be read.
* **`SourceError`**: why there is no text.
* **`readSource`**: the text, with unified line ends. -/

namespace MarkupScan

open Files (FileError Path)

/-- The bytes of files by path, or why there are none. -/
abbrev FileView := Path → Except FileError ByteArray

/-- Why an input cannot be read. -/
inductive SourceError where
  /-- The file cannot be read. -/
  | file (e : FileError)
  /-- The file is not text. -/
  | notText
  deriving DecidableEq, Repr

/-- The text of an input file: UTF-8, made uniform by `Text.unifyNewlines`. -/
def readSource (files : FileView) (path : Path) : Except SourceError String :=
  match files path with
  | .error e => .error (.file e)
  | .ok bytes =>
      match String.fromUTF8? bytes with
      | none => .error .notText
      | some text => .ok (String.ofList (Text.unifyNewlines text.toList))

end MarkupScan
