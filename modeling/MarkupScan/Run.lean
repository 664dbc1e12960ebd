import MarkupScan.CommandLine.Usage
import MarkupScan.Options
import MarkupScan.Snippet

/-! # Runs

The whole command: read the command line, resolve the options, read and scan the input, report, and
deliver the dump.

Main definitions.
* **`Report`**, **`report`**: what a run says about a text and what it delivers for it.
* **`Plan`**, **`plan`**: everything that a run does, its writing left to be done.
* **`Outcome`**, **`run`**: a run in a directory. -/

namespace MarkupScan

open Files (Directory FileError Path)

/-- What is made of an input. -/
structure Report where
  /-- The warnings that are reported. -/
  warnings : List Warning
  /-- The dump, or the illegal character that forbids it. -/
  result : Except Fault String

/-- What is made of `source` under given options. -/
def report (o : Options) (source : String) : Report :=
  let s := scan source
  { warnings := if o.warnings then s.warnings else []
    result :=
      match if o.allowIllegal then none else firstFault? s.tokens with
      | some fault => .error fault
      | none => .ok (o.format.dump s.tokens) }

/-- Notices as they are reported, each with a line feed behind it. -/
def noticesText (notices : List Notice) (source fileName : String) : String :=
  String.join (notices.map fun n => n.snippet source fileName ++ "\n")

/-- The text of the reported warnings: `noticesText` of their notices. -/
def Report.warningsText (r : Report) (source fileName : String) : String :=
  noticesText (r.warnings.map Warning.notice) source fileName

/-- A problem that the command does not handle. -/
inductive Failure where
  /-- The configuration cannot be loaded. -/
  | config (e : ConfigError)
  /-- The input path is no path. -/
  | input (e : FileError)
  /-- The dump cannot be written. -/
  | output (e : FileError)
  deriving DecidableEq, Repr

/-- How a run ends. -/
inductive Ending where
  /-- With an exit code: `0`, `1` for an illegal character, or `2` for a problem with options or
  input. -/
  | exit (code : Nat)
  /-- With the help or a usage error. -/
  | stop (s : CommandLine.Stop)
  /-- With a problem that is not handled. -/
  | failure (f : Failure)
  deriving DecidableEq, Repr

/-- Everything that a run does. -/
structure Plan where
  /-- How it ends, if the writing succeeds. -/
  ending : Ending
  /-- What it prints. -/
  stdout : String
  /-- What it reports. -/
  stderr : String
  /-- The file it writes, if any, with its text. -/
  writes : Option (Path × String)

namespace Plan

/-- A run that only reports a problem, with exit code `2`. -/
def problem (text : String) : Plan := ⟨.exit 2, "", "error: " ++ text ++ "\n", none⟩

/-- A run that ends with a problem that is not handled: nothing is printed or reported. -/
def fail (f : Failure) : Plan := ⟨.failure f, "", "", none⟩

/-- A run whose input cannot be read: a `problem`, unless its path holds a zero character. -/
def ofSourceError (path : Path) : SourceError → Plan
  | .file .zeroInPath => fail (.input .zeroInPath)
  | .file e => problem ("cannot read " ++ path.display ++ ": " ++ e.message)
  | .notText => problem (path.display ++ " is not valid UTF-8")

/-- A run whose input has been read: exit code `1` with an illegal character that counts, else `0`.
-/
def ofSource (o : Options) (source : String) : Plan :=
  let r := report o source
  let name := o.input.display
  let warnings := r.warningsText source name
  match r.result with
  | .error fault => ⟨.exit 1, "", warnings ++ noticesText [fault.notice] source name, none⟩
  | .ok dump =>
      match o.output with
      | some path => ⟨.exit 0, "", warnings, some (path, dump)⟩
      | none => ⟨.exit 0, dump, warnings, none⟩

/-- A run without options: a `problem`, unless `OptionsError.report` has no text. -/
def ofOptionsError (e : OptionsError) : Plan :=
  match e.report with
  | .ok text => problem text
  | .error cause => fail (.config cause)

/-- A run with options: `ofSource` of the text of their input. -/
def ofOptions (files : FileView) (o : Options) : Plan :=
  match readSource files o.input with
  | .error e => ofSourceError o.input e
  | .ok source => ofSource o source

/-- A run with the arguments of a command line: `ofOptions` of what they `resolve` to. -/
def ofArguments (files : FileView) (a : CommandLine.Arguments) : Plan :=
  match resolve files a with
  | .error e => ofOptionsError e
  | .ok o => ofOptions files o

end Plan

/-- Everything that the command does for a command line: `Plan.ofArguments` of what `parse` makes of
it. -/
def plan (files : FileView) (words : List String) : Plan :=
  match CommandLine.parse words with
  | .error s => ⟨.stop s, s.stdout, s.stderr, none⟩
  | .ok a => .ofArguments files a

/-- What a run has done. -/
structure Outcome where
  /-- How it ended. -/
  ending : Ending
  /-- What it printed. -/
  stdout : String
  /-- What it reported. -/
  stderr : String
  /-- The directory afterwards. -/
  directory : Directory

/-- Does what is planned in a directory: `d.write`, if there is something to write. -/
def Plan.carryOut (p : Plan) (d : Directory) : Outcome :=
  match p.writes with
  | none => ⟨p.ending, p.stdout, p.stderr, d⟩
  | some (path, text) =>
      match d.write path text.toUTF8 with
      | .ok d' => ⟨p.ending, p.stdout, p.stderr, d'⟩
      | .error e => ⟨.failure (.output e), p.stdout, p.stderr, d⟩

/-- Runs the command in a directory: `plan`, then `Plan.carryOut`. -/
def run (d : Directory) (words : List String) : Outcome := (plan d.read words).carryOut d

/-- Runs the command several times, each time in the `directory` of the outcome before. -/
def runAll (d : Directory) : List (List String) → List Outcome
  | [] => []
  | words :: rest =>
      let outcome := run d words
      outcome :: runAll outcome.directory rest

end MarkupScan
