import MarkupScan.Number.Decimal
import MarkupScan.Text.Hex
import MarkupScan.Text.Pieces

/-! # Hosts

Which hosts an address may name. A host can have the name of a user in front, up to an at sign, and a
port behind a colon. A host in brackets is a network address of eight groups, or one of a later kind;
brackets come in pairs; and no character may stand for a separator in disguise. As an address does,
a host holds no half of a surrogate pair.

Main definitions.
* **`isGroupAddress`**: the notation of eight groups, with the gap that stands for zeros and the
  four bytes that may end it.
* **`isLaterAddress`**: the notation of later kinds.
* **`afterUser`**, **`bracketed?`**: the host without its user, and what of it counts as bracketed.
* **`isHost`**: whether an address may name the host. -/

namespace MarkupScan.Editor

open Text (isHexDigit pieces)

/-- Whether the text is a decimal byte: up to three digits without a zero in front, at most `255`.
-/
def isDecimalByte (text : List Char) : Bool :=
  !text.isEmpty && text.length ≤ 3 && text.all Number.isDigit &&
    (text.length = 1 || text.head? != some '0') && Number.digitsValue text ≤ 255

/-- Whether the text is four bytes with points between them. -/
def isByteAddress (text : List Char) : Bool :=
  let bytes := pieces '.' text
  bytes.length = 4 && bytes.all isDecimalByte

/-- Whether the text is one group: up to four hexadecimal digits. -/
def isGroup (text : List Char) : Bool :=
  !text.isEmpty && text.length ≤ 4 && text.all isHexDigit

/-- The groups of an address in which four bytes at the end count as two groups; `none` if they are
no bytes. -/
def groupsOf? (text : List Char) : Option (List (List Char)) :=
  let groups := pieces ':' text
  let last := groups.getLast?.getD []
  if last.contains '.' then
    if isByteAddress last then some (groups.dropLast ++ [['0'], ['0']]) else none
  else some groups

/-- The number of groups on one side of a gap, where nothing at all may stand as well; `none` unless
all satisfy `isGroup`. -/
def countBeside? (groups : List (List Char)) : Option Nat :=
  if groups = [[]] then some 0 else if groups.all isGroup then some groups.length else none

/-- Whether the groups are eight, or fewer around one gap. -/
def areEightGroups : List (List Char) → Bool
  | [] => false
  | first :: rest =>
      let middle := rest.dropLast
      let last := rest.drop (rest.length - 1)
      if middle.contains [] then
        let before := first :: middle.takeWhile (· != [])
        let after := (middle.dropWhile (· != [])).drop 1 ++ last
        match countBeside? before, countBeside? after with
        | some m, some n => m + n ≤ 7
        | _, _ => false
      else (first :: rest).length = 8 && (first :: rest).all isGroup

/-- Whether the groups of the text satisfy `areEightGroups`, with the name of a zone behind a
percent sign or without. -/
def isGroupAddress (text : List Char) : Bool :=
  let zoneFits :=
    match text.dropWhile (· != '%') with
    | [] => true
    | _ :: zone => !zone.isEmpty && !zone.contains '%'
  zoneFits && (groupsOf? (text.takeWhile (· != '%'))).any areEightGroups

/-- Whether the text is an address of a later kind: `v`, its version in hexadecimal digits, a point,
and at least one more character. -/
def isLaterAddress : List Char → Bool
  | 'v' :: rest =>
      !(rest.takeWhile isHexDigit).isEmpty &&
        match rest.dropWhile isHexDigit with
        | '.' :: _ :: _ => true
        | _ => false
  | _ => false

/-- Whether the text may stand in brackets: `isGroupAddress` or `isLaterAddress`. -/
def isBracketed (text : List Char) : Bool :=
  if text.head? = some 'v' then isLaterAddress text else isGroupAddress text

/-- The characters that are forms of a separator or hold one: of a slash, a question mark, a number
sign, an at sign or a colon. -/
def disguisedSeparators : List Char :=
  ['\u2047', '\u2048', '\u2049', '\u2100', '\u2101', '\u2105', '\u2106', '\u2A74', '\uFE13', '\uFE16',
    '\uFE55', '\uFE56', '\uFE5F', '\uFE6B', '\uFF03', '\uFF0F', '\uFF1A', '\uFF1F', '\uFF20']

/-- The host without the user in front, which ends at the last `@`. -/
def afterUser (host : List Char) : List Char := (host.reverse.takeWhile (· != '@')).reverse

/-- What has to be a bracketed host in a text with brackets: what stands between them, if nothing is
in front of the brackets and only a port behind; or the host itself, if all brackets are in the
user. -/
def bracketed? (host : List Char) : Option (List Char) :=
  let named := afterUser host
  match named.dropWhile (· != '[') with
  | [] => some (named.takeWhile (· != ':'))
  | _ :: inside =>
      let port := (inside.dropWhile (· != ']')).drop 1
      if named.head? = some '[' && (port.isEmpty || port.head? = some ':') then
        some (inside.takeWhile (· != ']'))
      else none

/-- Whether an address may name the host. -/
def isHost (host : List Char) : Bool :=
  let bracketsFit :=
    match host.contains '[', host.contains ']' with
    | true, true => (bracketed? host).any isBracketed
    | false, false => true
    | _, _ => false
  bracketsFit && !host.any disguisedSeparators.contains

end MarkupScan.Editor
