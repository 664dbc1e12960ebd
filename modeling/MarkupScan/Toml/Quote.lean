import MarkupScan.Toml.Scalar

/-! # Quoted texts in TOML

The four kinds of quoted text: with escapes in double quotes, as it is in single quotes, and each on
one line or on several.

Main definitions.
* **`readEscape`**: the character or the line continuation behind a backslash.
* **`readBasic`**, **`readLiteral`**: a text on one line.
* **`readLongBasic`**, **`readLongLiteral`**: a text between triple quotes. -/

namespace MarkupScan.Toml

/-- Whether `c` is a control character that no text or comment may hold. -/
def isControl (c : Char) : Bool := (c < ' ' && c != '\t') || c == '\x7f'

/-- Whether `c` is a control character that no text on several lines may hold. -/
def isLongControl (c : Char) : Bool := isControl c && c != '\n'

/-- Whether `c` is a space or a tab. -/
def isGap (c : Char) : Bool := c == ' ' || c == '\t'

/-- Whether `c` is a space, a tab or a line feed. -/
def isGapOrLine (c : Char) : Bool := isGap c || c == '\n'

/-- The character with the code point that `count` hexadecimal digits give. -/
def readCodePoint (count : Nat) (text : List Char) : Except ReadError (List Char × List Char) :=
  let run := text.take count
  let code := valueInBase 16 run
  if run.length = count && run.all Text.isHexDigit && decide code.isValidChar then
    .ok ([Char.ofNat code], text.drop count)
  else .error .malformed

/-- A backslash at the end of a line: the line feed and all blanks and line feeds after it are
dropped. Only blanks may stand between the backslash and the line feed. -/
def readContinuation (text : List Char) : Except ReadError (List Char) :=
  match text.dropWhile isGap with
  | [] => .ok []
  | '\n' :: rest => .ok (rest.dropWhile isGapOrLine)
  | _ => .error .malformed

/-- What stands behind a backslash; in a `long` text it may be the end of a line. -/
def readEscape (long : Bool) : List Char → Except ReadError (List Char × List Char)
  | [] => .error .malformed
  | c :: rest =>
      if long && isGapOrLine c then (readContinuation (c :: rest)).map ([], ·)
      else
        match c with
        | 'b' => .ok (['\x08'], rest)
        | 't' => .ok (['\t'], rest)
        | 'n' => .ok (['\n'], rest)
        | 'f' => .ok (['\x0c'], rest)
        | 'r' => .ok (['\r'], rest)
        | '"' => .ok (['"'], rest)
        | '\\' => .ok (['\\'], rest)
        | 'u' => readCodePoint 4 rest
        | 'U' => readCodePoint 8 rest
        | _ => .error .malformed

/-- The content of a text in double quotes up to its end, and what follows the end; `long` texts end
with three quotes. Each round takes a character at least, so the number of characters is fuel
enough. -/
def readBasicFrom (long : Bool) : Nat → List Char → Except ReadError (List Char × List Char)
  | 0, _ => .error .malformed
  | _, [] => .error .malformed
  | fuel + 1, c :: rest =>
      if c = '"' then
        if !long then .ok ([], rest)
        else
          match rest with
          | '"' :: '"' :: rest => .ok ([], rest)
          | rest => do
              let (content, rest) ← readBasicFrom long fuel rest
              return (c :: content, rest)
      else if c = '\\' then do
        let (escaped, rest) ← readEscape long rest
        let (content, rest) ← readBasicFrom long fuel rest
        return (escaped ++ content, rest)
      else if (if long then isLongControl c else isControl c) then .error .malformed
      else do
        let (content, rest) ← readBasicFrom long fuel rest
        return (c :: content, rest)

/-- A text in double quotes on one line, from behind its opening quote on. -/
def readBasic (text : List Char) : Except ReadError (List Char × List Char) :=
  readBasicFrom false (text.length + 1) text

/-- A text in single quotes on one line, from behind its opening quote on. -/
def readLiteral (text : List Char) : Except ReadError (List Char × List Char) :=
  let content := text.takeWhile (· != '\'')
  match text.dropWhile (· != '\'') with
  | [] => .error .malformed
  | _ :: rest => if content.any isControl then .error .malformed else .ok (content, rest)

/-- The text up to three single quotes, and what follows them. -/
def splitTriple? : List Char → Option (List Char × List Char)
  | [] => none
  | '\'' :: '\'' :: '\'' :: rest => some ([], rest)
  | c :: rest => (splitTriple? rest).map fun (content, rest) => (c :: content, rest)

/-- A text that begins on a new line does not include the line feed. -/
def dropFirstLine : List Char → List Char
  | '\n' :: rest => rest
  | text => text

/-- Up to two more quotes `mark` right behind a text belong to it. -/
def takeQuotes (mark : Char) (content rest : List Char) : List Char × List Char :=
  match rest with
  | c :: d :: rest' =>
      if c = mark then
        if d = mark then (content ++ [mark, mark], rest') else (content ++ [mark], d :: rest')
      else (content, rest)
  | [c] => if c = mark then (content ++ [mark], []) else (content, rest)
  | [] => (content, rest)

/-- A text between `"""`, from behind the opening ones on. -/
def readLongBasic (text : List Char) : Except ReadError (List Char × List Char) := do
  let text := dropFirstLine text
  let (content, rest) ← readBasicFrom true (text.length + 1) text
  return takeQuotes '"' content rest

/-- A text between triple single quotes, from behind the opening ones on. -/
def readLongLiteral (text : List Char) : Except ReadError (List Char × List Char) :=
  match splitTriple? (dropFirstLine text) with
  | none => .error .malformed
  | some (content, rest) =>
      if content.any isLongControl then .error .malformed
      else .ok (takeQuotes '\'' content rest)

end MarkupScan.Toml
