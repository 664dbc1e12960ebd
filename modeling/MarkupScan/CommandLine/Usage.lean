import MarkupScan.CommandLine.Arguments

/-! # Usage

What the command says about itself.

Main definitions.
* **`usage`**, **`helpText`**: the short and the long text.
* **`Stop.stdout`**, **`Stop.stderr`**, **`Stop.exitCode`**: how a command line without arguments
  ends. -/

namespace MarkupScan.CommandLine

/-- The name of the command. -/
def commandName : String := "ween"

/-- The version of the command. -/
def version : String := "0.1.0"

/-- How the command is called. -/
def usage : String :=
  "usage: ween [-h] [-o OUTPUT] [--format \x7btext,json\x7d] [--allow-illegal] [-q]\n" ++
  "            [--config FILE]\n" ++
  "            input\n"

/-- How the command is called and what its arguments mean. -/
def helpText : String :=
  usage ++
  "\n" ++
  "Tokenize a Ween (.wn) source file\n" ++
  "\n" ++
  "positional arguments:\n" ++
  "  input                 Input .wn file\n" ++
  "\n" ++
  "options:\n" ++
  "  -h, --help            show this help message and exit\n" ++
  "  -o OUTPUT, --output OUTPUT\n" ++
  "                        Output file (default: stdout)\n" ++
  "  --format \x7btext,json\x7d  Token dump format (default: text)\n" ++
  "  --allow-illegal       Dump tokens even when illegal characters are found\n" ++
  "  -q, --quiet           Do not report unterminated comments or strings\n" ++
  "  --config FILE         Config file (default: auto-discover ween.toml)\n"

namespace Stop

/-- What is printed when the command stops: `helpText`, or nothing after an error. -/
def stdout : Stop → String
  | .help => helpText
  | .error _ => ""

/-- What is reported when the command stops: `usage` and the message after an error, or nothing. -/
def stderr : Stop → String
  | .help => ""
  | .error cause => usage ++ commandName ++ ": error: " ++ cause.message ++ "\n"

/-- The exit code when the command stops: `0` after the help, `2` after an error. -/
def exitCode : Stop → Nat
  | .help => 0
  | .error _ => 2

end Stop

end MarkupScan.CommandLine
