/-! # Switches

The switches of the command, their spellings, and which of them take a value.

Main definitions.
* **`Switch`**: what can be asked for.
* **`Switch.spellings`**: the table of all spellings, in the order in which they are listed to the
  user.
* **`Switch.ofSpelling?`**, **`Switch.abbreviated`**: exact spellings, and all spellings that begin
  with a given text. -/

namespace MarkupScan.CommandLine

/-- What can be asked for on the command line. -/
inductive Switch where
  /-- Show the help and stop. -/
  | help
  /-- Write the dump to a file. -/
  | output
  /-- Choose the form of the dump. -/
  | format
  /-- Dump tokens even if there are illegal characters. -/
  | allowIllegal
  /-- Do not report warnings. -/
  | quiet
  /-- Name the configuration file. -/
  | config
  deriving DecidableEq, Repr

namespace Switch

/-- All switches, in the order in which they are listed to the user. -/
def all : List Switch := [.help, .output, .format, .allowIllegal, .quiet, .config]

/-- The spellings of a switch, a short one first. -/
def names : Switch → List String
  | .help => ["-h", "--help"]
  | .output => ["-o", "--output"]
  | .format => ["--format"]
  | .allowIllegal => ["--allow-illegal"]
  | .quiet => ["-q", "--quiet"]
  | .config => ["--config"]

/-- Whether the switch takes a value. -/
def takesValue : Switch → Bool
  | .output | .format | .config => true
  | .help | .allowIllegal | .quiet => false

/-- How messages name a switch: its `names` with a slash between them. -/
def display (s : Switch) : String := "/".intercalate s.names

/-- Every spelling with its switch. -/
def spellings : List (String × Switch) := all.flatMap fun s => s.names.map (·, s)

/-- The switch with exactly the given spelling. -/
def ofSpelling? (spelling : String) : Option Switch := spellings.lookup spelling

/-- The `spellings` that begin with the given characters. -/
def abbreviated (front : List Char) : List (String × Switch) :=
  spellings.filter fun (spelling, _) => front.isPrefixOf spelling.toList

/-- `ofSpelling? name = some s` for each of the names of `s`: every spelling stands for one switch.
-/
theorem ofSpelling?_of_mem_names (s : Switch) : ∀ name ∈ s.names, ofSpelling? name = some s := by
  cases s <;> decide

end Switch

end MarkupScan.CommandLine
