import MarkupScan.Editor.Address
import MarkupScan.Editor.Range
import MarkupScan.Keyed
import MarkupScan.Notice
import MarkupScan.Source

/-! # Editing sessions

A session keeps the current text of every open document. Every event that succeeds publishes the
diagnostics of the document it is about; the text of a document that is not open is read from its
file. Texts and addresses are made of characters: half a surrogate pair, which a program that counts
code units could send on its own, is none.

Main definitions.
* **`diagnostics`**: the notices of a text with their ranges, a function of the text alone.
* **`IsTextMap`**: the laws of a map from documents to texts.
* **`Session`**: the open documents.
* **`Event`**, **`Session.handle`**: what an editor reports, and what is published for it.

Main statement: the texts of a session obey the laws of a map (`Session.isTextMap`). -/

namespace MarkupScan.Editor

/-- A notice as an editor shows it. -/
structure Diagnostic where
  /-- Where. -/
  range : Range
  /-- What is wrong. -/
  message : String
  /-- How bad it is. -/
  severity : Severity
  deriving DecidableEq, Repr

/-- The tag of all diagnostics of this program. -/
def Diagnostic.source : String := "ween"

/-- The number of a severity in the editor protocol. -/
def severityCode : Severity → Nat
  | .error => 1
  | .warning => 2

/-- A notice with its range. For the notices of a scan, `rangeOf? lines span = .ok (rangeOf lines span)`
while `lines.length ≤ lastLine` (`rangeOf?_eq_ok`), so that the greatest line an editor can number
counts for spans made by hand only. -/
def Diagnostic.ofNotice (lines : List (List Char)) (n : Notice) : Diagnostic :=
  ⟨rangeOf lines n.span, n.message, n.severity⟩

/-- The diagnostics of a text: `Diagnostic.ofNotice` of its errors in order, then of its warnings.
-/
def diagnostics (text : String) : List Diagnostic :=
  (scan text).notices.map (.ofNotice (Text.lines text.toList))

/-- The open documents with their current texts. -/
structure Session where
  /-- The text of each document, by `documentOf` of its address. -/
  documents : Keyed String String
  deriving DecidableEq

/-- What an editor reports. -/
inductive Event where
  /-- The document at an address was opened, or opened again, with the given text. -/
  | opened (uri text : String)
  /-- The text of the document at an address was replaced by the given texts in turn. -/
  | changed (uri : String) (texts : List String)
  /-- The diagnostics of the document at an address are asked for. -/
  | asked (uri : String)
  deriving DecidableEq, Repr

/-- Why an event fails. -/
inductive EventError where
  /-- The text of a document that is not open cannot be replaced. -/
  | notOpen (uri : String)
  /-- The address of a document that is not open is no address. -/
  | notAddress (uri : String)
  /-- The document is not open, and its file cannot be read. -/
  | noText (uri : String) (e : SourceError)
  deriving DecidableEq, Repr

/-- The diagnostics published for a document. -/
structure Publication where
  /-- The address, as the event gave it. -/
  uri : String
  /-- All its diagnostics. -/
  diagnostics : List Diagnostic
  deriving DecidableEq, Repr

/-- **The laws of a map from documents to texts** that is reached by addresses. What a session is to
an editor rests on these laws alone. -/
structure IsTextMap {S : Type} (documentOf : String → String) (empty : S)
    (text? : S → String → Option String) (store : S → String → String → S) : Prop where
  /-- `text? empty uri = none`: at the beginning no document has a text. -/
  text?_empty : ∀ uri, text? empty uri = none
  /-- Storing a document changes the text of that document only. -/
  text?_store : ∀ s uri text other, text? (store s uri text) other
    = if documentOf other = documentOf uri then some text else text? s other
  /-- Two addresses of one document have the same text. -/
  text?_congr : ∀ s uri other, documentOf uri = documentOf other → text? s uri = text? s other

namespace Session

/-- The session in which `text?` is `none` everywhere. -/
def empty : Session := ⟨.empty⟩

/-- The current text of `documentOf uri`. -/
def text? (s : Session) (uri : String) : Option String := s.documents.get? (documentOf uri)

/-- The session with `text` for the document at `uri`. -/
def store (s : Session) (uri text : String) : Session := ⟨s.documents.set (documentOf uri) text⟩

/-- `Session.text?` is a text map over `documentOf`: documents count, and not their addresses. -/
theorem isTextMap : IsTextMap documentOf empty text? store where
  text?_empty uri := Keyed.get?_empty (documentOf uri)
  text?_store s uri text other := s.documents.get?_set (documentOf uri) (documentOf other) text
  text?_congr s _ _ hSame := congrArg s.documents.get? hSame

/-- The text of the document at an address: `text?` if it is open, or that of its file. -/
def source (s : Session) (files : FileView) (uri : String) : Except EventError String :=
  match s.text? uri, Address.ofText? uri with
  | some text, _ => .ok text
  | none, none => .error (.notAddress uri)
  | none, some address => (readSource files address.file).mapError (.noText uri)

/-- Publishes the `diagnostics` of the document at an address. -/
def publish (s : Session) (files : FileView) (uri : String) : Except EventError Publication :=
  match s.source files uri with
  | .ok text => .ok ⟨uri, MarkupScan.Editor.diagnostics text⟩
  | .error e => .error e

/-- Handles an event: what is published, and the session afterwards. Of the texts of a change only
the last is stored. -/
def handle (s : Session) (files : FileView) : Event → Except EventError Publication × Session
  | .opened uri text =>
      match Address.ofText? uri with
      | none => (.error (.notAddress uri), s)
      | some _ =>
          let s' := s.store uri text
          (s'.publish files uri, s')
  | .changed uri texts =>
      match texts.getLast? with
      | none => (s.publish files uri, s)
      | some text =>
          if (s.text? uri).isSome then
            let s' := s.store uri text
            (s'.publish files uri, s')
          else (.error (.notOpen uri), s)
  | .asked uri => (s.publish files uri, s)

/-- Handles events in turn, each in the session that the one before it leaves. -/
def handleAll (s : Session) (files : FileView) :
    List Event → List (Except EventError Publication) × Session
  | [] => ([], s)
  | event :: rest =>
      let (outcome, s') := s.handle files event
      let (outcomes, last) := s'.handleAll files rest
      (outcome :: outcomes, last)

end Session

end MarkupScan.Editor
