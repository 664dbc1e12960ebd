import MarkupScan.CommandLine.Arguments
import MarkupScan.Source
import MarkupScan.Toml.Document

/-! # Options

What a run is to do: the defaults, overridden by the configuration file, overridden by the command
line.

Main definitions.
* **`FormatChoice`**: the form of the dump, which may be given as nothing.
* **`Options`**: input, output, form of the dump, and the two policies.
* **`configPath`**, **`loadConfig`**: where the configuration is, and its table; a path that leads to
  no file stands for an empty table.
* **`merge`**: the options that a command line and a table come to.
* **`OptionsError`**: why there are no options. -/

namespace MarkupScan

open CommandLine (Arguments Given)
open Files (FileError Path)
open Toml (Table Value)

/-- The form of a dump as options have it. -/
inductive FormatChoice where
  /-- A form with a name. -/
  | named (format : DumpFormat)
  /-- A form that is given as nothing, as in `--format=--`. -/
  | blank
  deriving DecidableEq, Repr

/-- The dump of a token list: a form that is given as nothing dumps as `DumpFormat.text` does. -/
def FormatChoice.dump (choice : FormatChoice) (tokens : List Token) : String :=
  match choice with
  | .named format => format.dump tokens
  | .blank => DumpFormat.text.dump tokens

/-- What a run is to do. -/
structure Options where
  /-- The input file. -/
  input : Path
  /-- The file to write the dump to; `none` for the standard output. -/
  output : Option Path
  /-- The form of the dump. -/
  format : FormatChoice
  /-- Whether illegal characters are dumped like other tokens. -/
  allowIllegal : Bool
  /-- Whether warnings are reported. -/
  warnings : Bool
  deriving DecidableEq, Repr

/-- Why a configuration cannot be loaded. -/
inductive ConfigError where
  /-- The path is no usable path. -/
  | unusablePath (e : FileError)
  /-- The file is not text. -/
  | notText
  /-- The file is not a configuration. -/
  | notToml (e : Toml.ReadError)
  /-- A value that is wrong has no text to name it by (`Toml.Excess`). -/
  | unprintable (e : Toml.Excess)
  deriving DecidableEq, Repr

/-- The name of a configuration that is found next to the input. -/
def configFileName : String := "ween.toml"

/-- The path of the configuration: the given one, or `configFileName` in the given directory. -/
def configPath (config : Option Path) (inputDirectory : Path) : Path :=
  config.getD (inputDirectory.child configFileName)

/-- The table of the configuration file; an empty one if no file can be read there, unless the path
is `nameTooLong`. -/
def loadConfig (files : FileView) (path : Path) : Except ConfigError Table :=
  match files path with
  | .error .nameTooLong => .error (.unusablePath .nameTooLong)
  | .error _ => .ok []
  | .ok bytes =>
      match String.fromUTF8? bytes with
      | none => .error .notText
      | some text =>
          match Toml.readDocument text with
          | .error e => .error (.notToml e)
          | .ok table => .ok table

/-- A path name that counts as absent when it is empty or `blank`. -/
def pathOf? : Given String → Option Path
  | .value name => if name = "" then none else some (.ofString name)
  | _ => none

/-- The form of the dump: the one on the command line, be it `blank`, or the one in the
configuration, or `text`. -/
def chooseFormat (given : Given DumpFormat) (configured : Option DumpFormat) : FormatChoice :=
  match given with
  | .value format => .named format
  | .blank => .blank
  | .absent => .named (configured.getD .text)

/-- The value of `key` in `table`, a table of the configuration. -/
def setting? (config : Table) (table key : String) : Option Value :=
  (config.lookup table).bind (·.get? key)

/-- The truth value of a setting; `none` for a setting of another kind. -/
def booleanSetting? (config : Table) (table key : String) : Option Bool :=
  match setting? config table key with
  | some (.boolean b) => some b
  | _ => none

/-- The form of the dump that the configuration asks for, or the value that is no form. -/
def formatSetting (config : Table) : Except Value (Option DumpFormat) :=
  match setting? config "output" "format" with
  | none => .ok none
  | some (.string name) =>
      match DumpFormat.ofName? name with
      | some format => .ok (some format)
      | none => .error (.string name)
  | some value => .error value

/-- The options that a command line and a configuration come to, or the value in the configuration
that is no form of dump (`formatSetting`). -/
def merge (a : Arguments) (config : Table) : Except Value Options :=
  match formatSetting config with
  | .error value => .error value
  | .ok format =>
      .ok
        { input := .ofString a.input
          output := pathOf? a.output
          format := chooseFormat a.format format
          allowIllegal := a.allowIllegal || (booleanSetting? config "lexer" "allow_illegal").getD false
          warnings := !a.quiet && (booleanSetting? config "lexer" "warnings").getD true }

/-- Why there are no options. -/
inductive OptionsError where
  /-- The configuration cannot be loaded. -/
  | config (e : ConfigError)
  /-- The configuration asks for a form of dump that does not exist. -/
  | unknownFormat (value : Value)

/-- What the command says about an error of the options. A configuration that is not text, or whose
path is no path, or whose wrong value has no text, ends the run without a word: `report` is an
error. -/
def OptionsError.report : OptionsError → Except ConfigError String
  | .config (.notToml .malformed) => .ok "invalid config file: not a TOML document"
  | .config e => .error e
  | .unknownFormat value =>
      match value.display with
      | .ok text => .ok ("invalid output format in config (expected text or json): " ++ text)
      | .error e => .error (.unprintable e)

/-- The path of the configuration that a command line uses: `configPath` beside its input. -/
def configPathOf (a : Arguments) : Path :=
  configPath (pathOf? a.config) (Path.ofString a.input).parent

/-- The options of a command line, given the files: `merge` with the table of `configPathOf`. -/
def resolve (files : FileView) (a : Arguments) : Except OptionsError Options :=
  match loadConfig files (configPathOf a) with
  | .error e => .error (.config e)
  | .ok config =>
      match merge a config with
      | .error value => .error (.unknownFormat value)
      | .ok options => .ok options

end MarkupScan
