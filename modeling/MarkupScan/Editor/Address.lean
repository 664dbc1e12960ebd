import MarkupScan.Editor.Host
import MarkupScan.Files.Path
import MarkupScan.Text.Percent

/-! # Addresses of documents

An address has a scheme, a host and a path. It says which document is meant, and where the text of
the document is while nobody has it open. An address is made of characters, none of which is half a
surrogate pair.

Main definitions.
* **`documentOf`**: the document at an address; percent escapes make no difference.
* **`Address`**, **`Address.ofText?`**: the parts of an address, unless its host is none.
* **`Address.file`**: the path of the file at an address.

Main statement: an address without percent escapes is its document (`documentOf_of_not_mem`). -/

namespace MarkupScan.Editor

open Text (percentDecode)

/-- The document at `uri`, which is `uri` without percent escapes. -/
def documentOf (uri : String) : String := percentDecode uri

/-- `documentOf uri = uri` for an address without percent signs. -/
theorem documentOf_of_not_mem {uri : String} (hPlain : '%' ∉ uri.toList) : documentOf uri = uri :=
  Text.percentDecode_of_not_mem hPlain

/-- The parts of an address that matter for files. -/
structure Address where
  /-- The scheme in lower case; empty if there is none. -/
  scheme : List Char
  /-- The host; empty if there is none. -/
  host : List Char
  /-- The path. -/
  path : List Char
  deriving DecidableEq, Repr

/-- The text of an address without controls and blanks in front, and without line ends and tabs. -/
def tidy (text : List Char) : List Char :=
  (text.dropWhile (· ≤ ' ')).filter fun c => c != '\t' && c != '\n' && c != '\r'

/-- Whether the character may stand in a scheme. -/
def isSchemePart (c : Char) : Bool := c.isAlphanum || c == '+' || c == '-' || c == '.'

/-- The scheme, which begins with a letter and ends at the first `:`, and the rest. -/
def splitScheme (text : List Char) : List Char × List Char :=
  let front := text.takeWhile (· != ':')
  match text.dropWhile (· != ':') with
  | _ :: rest =>
      if front.head?.any Char.isAlpha && front.all isSchemePart then (front.map Char.toLower, rest)
      else ([], text)
  | [] => ([], text)

/-- Whether the character ends a host. -/
def endsHost (c : Char) : Bool := c == '/' || c == '?' || c == '#'

/-- The host, which stands behind `//`, and the rest. -/
def splitHost : List Char → List Char × List Char
  | '/' :: '/' :: text => (text.takeWhile (!endsHost ·), text.dropWhile (!endsHost ·))
  | text => ([], text)

/-- The schemes whose paths can end in parameters. -/
def parameterSchemes : List String :=
  ["", "ftp", "hdl", "prospero", "http", "imap", "https", "shttp", "rtsp", "rtspu", "sip", "sips",
    "mms", "sftp", "tel"]

/-- The path without the parameters behind `;` in its last part. -/
def dropParameters (path : List Char) : List Char :=
  let last := (path.reverse.takeWhile (· != '/')).reverse
  path.take (path.length - last.length) ++ last.takeWhile (· != ';')

/-- The path without query and fragment, which begin at `?` and `#`. -/
def dropQuery (text : List Char) : List Char := text.takeWhile fun c => c != '?' && c != '#'

namespace Address

/-- The parts of an address; `none` if its host is no host (`isHost`). -/
def ofText? (uri : String) : Option Address :=
  let (scheme, afterScheme) := splitScheme (tidy uri.toList)
  let (host, afterHost) := splitHost afterScheme
  let path := dropQuery afterHost
  if isHost host then
    some ⟨scheme, host,
      if parameterSchemes.contains (String.ofList scheme) then dropParameters path else path⟩
  else none

/-- The name of the file at an address. The `host` of a file is part of its name, and a drive is
named by a small letter without a slash. -/
def fileName (a : Address) : List Char :=
  let host := (percentDecode (String.ofList a.host)).toList
  let path := (percentDecode (String.ofList a.path)).toList
  if host ≠ [] ∧ path ≠ [] ∧ a.scheme = "file".toList then '/' :: '/' :: host ++ path
  else
    match path with
    | '/' :: drive :: ':' :: rest =>
        if drive.isAlpha then drive.toLower :: ':' :: rest else path
    | _ => path

/-- The path of the file at an address. -/
def file (a : Address) : Files.Path := .ofString (String.ofList a.fileName)

end Address

end MarkupScan.Editor
