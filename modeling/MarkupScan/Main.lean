import MarkupScan.Run

/-! # The command

The program itself: it reads the files that a run may ask for, makes the plan, and carries it out. -/

namespace MarkupScan

open Files (FileError Path)

/-- The number of a system error, which may be given with a minus sign. -/
def errorNumber (code : UInt32) : Nat := min code.toNat (0x100000000 - code.toNat)

/-- The file error of a system error. -/
def fileErrorOf : IO.Error → FileError
  | .inappropriateType _ code _ => if errorNumber code = 20 then .notDirectory else .isDirectory
  | .invalidArgument _ code _ => if errorNumber code = 36 then .nameTooLong else .notFound
  | _ => .notFound

/-- Reads a file; a system error becomes a `FileError` by `fileErrorOf`. -/
def readFile (path : Path) : IO (Except FileError ByteArray) := do
  if path.display.toList.contains '\x00' then return .error .zeroInPath
  try return .ok (← IO.FS.readBinFile path.display)
  catch e => return .error (fileErrorOf e)

/-- The files that a command line may ask for: its configuration and its input. -/
def filesOf (words : List String) : IO FileView := do
  match CommandLine.parse words with
  | .error _ => return fun _ => .error .notFound
  | .ok a =>
      let configPath := configPathOf a
      let inputPath := Path.ofString a.input
      let config ← readFile configPath
      let input ← readFile inputPath
      return fun path =>
        if path = inputPath then input
        else if path = configPath then config
        else .error .notFound

/-- The exit code of the process; a `failure` ends with `1`. -/
def Ending.exitCode : Ending → UInt32
  | .exit code => code.toUInt32
  | .stop s => s.exitCode.toUInt32
  | .failure _ => 1

end MarkupScan

open MarkupScan in
/-- Runs the command on the arguments of the process: carries out its `plan`. -/
def main (words : List String) : IO UInt32 := do
  let p := plan (← filesOf words) words
  IO.print p.stdout
  IO.eprint p.stderr
  match p.writes with
  | none => return p.ending.exitCode
  | some (path, text) =>
      try
        IO.FS.writeBinFile path.display text.toUTF8
        return p.ending.exitCode
      catch e =>
        IO.eprintln (fileErrorOf e).message
        return 1
