import Mathlib.Data.List.Basic
import MarkupScan.Editor.Session

/-! # Runs of editing events

Documents are opened, changed and asked about in any order. Whatever happens, the last thing that an
editor was told about a document is what there is to say about its current text.

Addresses that differ only in percent escapes lead to one document. So a session is a map from
addresses to texts as far as different addresses lead to different documents; what is said about
documents needs no such condition.

Main definitions.
* **`Event.textAfter`**, **`currentText?`**: the text of one document, followed through the events.
* **`Event.Fails`**: the events for which nothing can be published.
* **`published`**: what a run has published, in order.
* **`Session.UpToDate`**: the last publication of every open document is about its current text.
* **`Session.Faithful`**: what an editor can rely on in a run of events.

Main statements.
* **`Session.handle_cases`**: one event publishes the diagnostics of the current text, or it fails
  and changes nothing.
* **`Session.text?_handleAll`**: the text of a document depends on the events about it only.
* **`Session.UpToDate.handleAll`**: every run keeps an editor up to date.
* **`Session.handleAll_swap`**: events about different documents may come in either order.
* **`Session.faithful_handleAll`**: every run over different documents is faithful. -/

namespace MarkupScan.Editor

/-! ### Events and texts -/

namespace Event

/-- The address that an event is about. -/
def uri : Event → String
  | .opened uri _ => uri
  | .changed uri _ => uri
  | .asked uri => uri

/-- The text that an event brings, `none` if it is only asked; of several texts in turn, the last
one stays. -/
def text? : Event → Option String
  | .opened _ text => some text
  | .changed _ texts => texts.getLast?
  | .asked _ => none

/-- **The events for which nothing can be published** where no file can be read: opening something
that is no address, and anything else about a document that is not open. -/
def Fails (event : Event) (s : Session) : Prop :=
  match event with
  | .opened uri _ => Address.ofText? uri = none
  | .changed uri _ => s.text? uri = none
  | .asked uri => s.text? uri = none

/-- Why a text that an event brings is not taken. -/
def refusal : Event → EventError
  | .opened uri _ => .notAddress uri
  | .changed uri _ => .notOpen uri
  | .asked uri => .notOpen uri

/-- `Fails` depends on the text of `event.uri` only. -/
theorem fails_congr {event : Event} {s s' : Session}
    (hText : s.text? event.uri = s'.text? event.uri) : event.Fails s ↔ event.Fails s' := by
  cases event with
  | opened uri text => exact Iff.rfl
  | changed uri texts => exact Eq.congr hText rfl
  | asked uri => exact Eq.congr hText rfl

/-- An event that brings no text fails exactly where `s.text? event.uri = none`. -/
theorem fails_iff_of_text?_eq_none {event : Event} (hNone : event.text? = none) (s : Session) :
    event.Fails s ↔ s.text? event.uri = none := by
  cases event with
  | opened uri text => cases hNone
  | changed uri texts => exact Iff.rfl
  | asked uri => exact Iff.rfl

/-- The text of its own document after an event, told from the text `before`. Opening a document
gives it a text, and changing an open document replaces its text. -/
def ownText (event : Event) (before : Option String) : Option String :=
  match event with
  | .opened uri text => if Address.ofText? uri = none then before else some text
  | .changed _ texts => before.map fun text => texts.getLast?.getD text
  | .asked _ => before

/-- `event.ownText before = before` for an event that brings no text. -/
theorem ownText_of_text?_eq_none {event : Event} (hNone : event.text? = none)
    (before : Option String) : event.ownText before = before := by
  cases event with
  | opened uri text => cases hNone
  | changed uri texts =>
      have hLast : texts.getLast? = none := hNone
      simp [ownText, hLast]
  | asked uri => rfl

/-- `event.ownText (s.text? event.uri) = s.text? event.uri` for an event that fails in `s`. -/
theorem ownText_of_fails {event : Event} {s : Session} (hFails : event.Fails s) :
    event.ownText (s.text? event.uri) = s.text? event.uri := by
  cases event with
  | opened uri text => exact if_pos hFails
  | changed uri texts =>
      have hClosed : s.text? uri = none := hFails
      rw [ownText, Event.uri, hClosed]
      rfl
  | asked uri => rfl

/-- `event.ownText _ = some text` for an event whose text is taken. -/
theorem ownText_of_text?_eq_some {event : Event} {s : Session} {text : String}
    (hText : event.text? = some text) (hTaken : ¬ event.Fails s) :
    event.ownText (s.text? event.uri) = some text := by
  cases event with
  | opened uri text' =>
      cases hText
      exact if_neg hTaken
  | changed uri texts =>
      have hLast : texts.getLast? = some text := hText
      obtain ⟨before, hBefore⟩ := Option.ne_none_iff_exists'.mp hTaken
      rw [ownText, Event.uri, hBefore, hLast]
      rfl
  | asked uri => cases hText

/-- **The text of `document` after an event**, told from its text `before`. -/
def textAfter (event : Event) (document : String) (before : Option String) : Option String :=
  if documentOf event.uri = document then event.ownText before else before

/-- `event.textAfter document before = before` for a document that the event is not about. -/
theorem textAfter_of_ne {event : Event} {document : String}
    (hOther : documentOf event.uri ≠ document) (before : Option String) :
    event.textAfter document before = before := if_neg hOther

/-- `textAfter` of two events about different documents is the same in either order. -/
theorem textAfter_comm {first second : Event}
    (hOther : documentOf first.uri ≠ documentOf second.uri) (document : String)
    (before : Option String) :
    second.textAfter document (first.textAfter document before)
      = first.textAfter document (second.textAfter document before) := by
  by_cases hAbout : documentOf first.uri = document
  · have hNot : documentOf second.uri ≠ document := fun h => hOther (hAbout.trans h.symm)
    rw [textAfter_of_ne hNot, textAfter_of_ne hNot]
  · rw [textAfter_of_ne hAbout, textAfter_of_ne hAbout]

/-- `textAfter` of an open document is `some`: no event closes it. -/
theorem isSome_textAfter (event : Event) (document : String) {before : Option String}
    (hOpen : before.isSome = true) : (event.textAfter document before).isSome = true := by
  by_cases hAbout : documentOf event.uri = document
  · rw [textAfter, if_pos hAbout]
    cases event with
    | opened uri text =>
        rw [ownText]
        split
        · exact hOpen
        · rfl
    | changed uri texts => rwa [ownText, Option.isSome_map]
    | asked uri => exact hOpen
  · rwa [textAfter_of_ne hAbout]

/-- No run of events closes a document: `foldl` of `textAfter` stays `some`. -/
theorem isSome_foldl_textAfter (events : List Event) (document : String) {before : Option String}
    (hOpen : before.isSome = true) :
    (events.foldl (fun text event => event.textAfter document text) before).isSome = true := by
  induction events generalizing before with
  | nil => exact hOpen
  | cons event events ih =>
      rw [List.foldl_cons]
      exact ih (event.isSome_textAfter document hOpen)

/-- `textAfter` is `some text` for the document that is opened with `text`. -/
theorem textAfter_opened {uri : String} (text : String) (before : Option String)
    (hAddress : Address.ofText? uri ≠ none) :
    (opened uri text).textAfter (documentOf uri) before = some text := by
  rw [textAfter]
  exact (if_pos rfl).trans (if_neg hAddress)

end Event

/-- The text of `document` after `events`; `none` if the document is not open. -/
def currentText? (events : List Event) (document : String) : Option String :=
  events.foldl (fun text event => event.textAfter document text) none

/-- There is no file at `uri`: `readSource` fails there. -/
def NoFileAt (files : FileView) (uri : String) : Prop :=
  ∀ address ∈ Address.ofText? uri, ∀ bytes, files address.file ≠ .ok bytes

/-- Everything that was published, in order: the `ok` outcomes. -/
def published (outcomes : List (Except EventError Publication)) : List Publication :=
  outcomes.filterMap Except.toOption

/-- `published (outcomes ++ more) = published outcomes ++ published more`. -/
theorem published_append (outcomes more : List (Except EventError Publication)) :
    published (outcomes ++ more) = published outcomes ++ published more :=
  List.filterMap_append

namespace Session

section OneEvent

variable (s : Session) (files : FileView) {event : Event}

/-! ### One event -/

/-- `s.publish files uri` gives `diagnostics text` where `s.text? uri = some text`. -/
theorem publish_of_text {uri text : String} (hText : s.text? uri = some text) :
    s.publish files uri = .ok ⟨uri, diagnostics text⟩ := by
  rw [publish, source, hText]

/-- `(s.store uri text).text? uri = some text`. -/
theorem text?_store_self (uri text : String) : (s.store uri text).text? uri = some text := by
  rw [isTextMap.text?_store, if_pos rfl]

/-- `s.publish files uri` fails for a document that is neither open nor a file. -/
theorem exists_publish_eq_error {uri : String} (hText : s.text? uri = none)
    (hFile : NoFileAt files uri) : ∃ e, s.publish files uri = .error e := by
  rw [publish, source, hText]
  cases hAddress : Address.ofText? uri with
  | none => exact ⟨_, rfl⟩
  | some address =>
      have hNone := hFile address hAddress
      cases hRead : files address.file with
      | error e =>
          refine ⟨.noText uri (.file e), ?_⟩
          simp only [readSource, hRead]
          rfl
      | ok bytes => exact absurd hRead (hNone bytes)

/-- An event without a text publishes what there is and leaves `s` as it is. -/
theorem handle_of_text?_eq_none (hNone : event.text? = none) :
    s.handle files event = (s.publish files event.uri, s) := by
  cases event with
  | opened uri text => cases hNone
  | changed uri texts =>
      have hLast : texts.getLast? = none := hNone
      rw [handle, hLast]
      rfl
  | asked uri => rfl

/-- A text that is taken is stored and its `diagnostics` are published. -/
theorem handle_of_text?_eq_some {text : String} (hText : event.text? = some text)
    (hTaken : ¬ event.Fails s) :
    s.handle files event = (.ok ⟨event.uri, diagnostics text⟩, s.store event.uri text) := by
  cases event with
  | opened uri text' =>
      cases hText
      obtain ⟨address, hAddress⟩ := Option.ne_none_iff_exists'.mp hTaken
      simp only [handle, hAddress, publish_of_text _ files (text?_store_self s uri text), Event.uri]
  | changed uri texts =>
      have hLast : texts.getLast? = some text := hText
      have hOpen : (s.text? uri).isSome = true := Option.isSome_iff_ne_none.mpr hTaken
      simp only [handle, hLast, hOpen, if_true,
        publish_of_text _ files (text?_store_self s uri text), Event.uri]
  | asked uri => cases hText

/-- A text that is not taken changes nothing: the outcome is `event.refusal`. -/
theorem handle_of_fails {text : String} (hText : event.text? = some text)
    (hFails : event.Fails s) : s.handle files event = (.error event.refusal, s) := by
  cases event with
  | opened uri text' =>
      have hAddress : Address.ofText? uri = none := hFails
      simp only [handle, hAddress, Event.refusal]
  | changed uri texts =>
      have hLast : texts.getLast? = some text := hText
      have hClosed : s.text? uri = none := hFails
      simp only [handle, hLast, hClosed, Event.refusal]
      rfl
  | asked uri => cases hText

/-- **What one event does.** Where its document has no file, it `Fails` and changes nothing, or it
publishes the `diagnostics` of the text that its document then has. -/
theorem handle_cases (hFile : NoFileAt files event.uri) :
    (event.Fails s ∧ ∃ e, s.handle files event = (.error e, s)) ∨
      (¬ event.Fails s ∧ ∃ text s', s'.text? event.uri = some text ∧
        s.handle files event = (.ok ⟨event.uri, diagnostics text⟩, s')) := by
  cases hText : event.text? with
  | none =>
      rw [handle_of_text?_eq_none s files hText, Event.fails_iff_of_text?_eq_none hText]
      cases hCurrent : s.text? event.uri with
      | none =>
          obtain ⟨e, hError⟩ := s.exists_publish_eq_error files hCurrent hFile
          exact Or.inl ⟨rfl, e, by rw [hError]⟩
      | some text =>
          refine Or.inr ⟨nofun, text, s, hCurrent, ?_⟩
          rw [s.publish_of_text files hCurrent]
  | some text =>
      by_cases hFails : event.Fails s
      · exact Or.inl ⟨hFails, _, s.handle_of_fails files hText hFails⟩
      · exact Or.inr ⟨hFails, text, _, s.text?_store_self event.uri text,
          s.handle_of_text?_eq_some files hText hFails⟩

/-- `p.uri = event.uri` for whatever an event publishes. -/
theorem uri_of_handle {p : Publication} (h : (s.handle files event).1 = .ok p) :
    p.uri = event.uri := by
  cases hText : event.text? with
  | none =>
      rw [handle_of_text?_eq_none s files hText] at h
      unfold publish at h
      split at h <;> cases h
      rfl
  | some text =>
      by_cases hFails : event.Fails s
      · rw [handle_of_fails s files hText hFails] at h
        cases h
      · rw [handle_of_text?_eq_some s files hText hFails] at h
        cases h
        rfl

/-- What an event publishes depends on `s.text? event.uri` only. -/
theorem handle_fst_congr {s s' : Session} (hSame : s.text? event.uri = s'.text? event.uri) :
    (s.handle files event).1 = (s'.handle files event).1 := by
  cases hText : event.text? with
  | none =>
      rw [handle_of_text?_eq_none s files hText, handle_of_text?_eq_none s' files hText]
      show s.publish files event.uri = s'.publish files event.uri
      rw [publish, publish, source, source, hSame]
  | some text =>
      by_cases hFails : event.Fails s
      · rw [handle_of_fails s files hText hFails,
          handle_of_fails s' files hText ((Event.fails_congr hSame).mp hFails)]
      · have hTaken : ¬ event.Fails s' := fun h => hFails ((Event.fails_congr hSame).mpr h)
        rw [handle_of_text?_eq_some s files hText hFails,
          handle_of_text?_eq_some s' files hText hTaken]

/-- An event keeps `s` and the `ownText` of its document, or it stores the text that `ownText` is
from then on. -/
theorem handle_snd_cases (event : Event) :
    ((s.handle files event).2 = s ∧
        event.ownText (s.text? event.uri) = s.text? event.uri) ∨
      ∃ text, (s.handle files event).2 = s.store event.uri text ∧
        event.ownText (s.text? event.uri) = some text := by
  cases hText : event.text? with
  | none =>
      rw [handle_of_text?_eq_none s files hText]
      exact Or.inl ⟨rfl, Event.ownText_of_text?_eq_none hText _⟩
  | some text =>
      by_cases hFails : event.Fails s
      · rw [handle_of_fails s files hText hFails]
        exact Or.inl ⟨rfl, Event.ownText_of_fails hFails⟩
      · rw [handle_of_text?_eq_some s files hText hFails]
        exact Or.inr ⟨text, rfl, Event.ownText_of_text?_eq_some hText hFails⟩

/-- **The text of every document after one event** is its `textAfter`. -/
theorem text?_handle (event : Event) (uri : String) :
    (s.handle files event).2.text? uri = event.textAfter (documentOf uri) (s.text? uri) := by
  by_cases hAbout : documentOf event.uri = documentOf uri
  · -- the two addresses lead to one document, so the event's own address can stand for both
    have hBefore := isTextMap.text?_congr s uri event.uri hAbout.symm
    rw [Event.textAfter, if_pos hAbout, hBefore]
    obtain ⟨hSame, hOwn⟩ | ⟨text, hStore, hOwn⟩ := s.handle_snd_cases files event
    · rw [hSame, hOwn, hBefore]
    · rw [hStore, hOwn, isTextMap.text?_store, if_pos hAbout.symm]
  · -- another document is left alone
    rw [Event.textAfter_of_ne hAbout]
    obtain ⟨hSame, -⟩ | ⟨text, hStore, -⟩ := s.handle_snd_cases files event
    · rw [hSame]
    · rw [hStore, isTextMap.text?_store, if_neg (Ne.symm hAbout)]

end OneEvent

section Runs

variable (s : Session) (files : FileView)

/-! ### Runs -/

/-- `handleAll` of `event :: events` is `handle` of `event`, then `handleAll` of `events`. -/
theorem handleAll_cons (event : Event) (events : List Event) :
    s.handleAll files (event :: events)
      = ((s.handle files event).1 :: ((s.handle files event).2.handleAll files events).1,
        ((s.handle files event).2.handleAll files events).2) := rfl

/-- `handleAll` of `events ++ more` is `handleAll` of `events`, then of `more`. -/
theorem handleAll_append (events more : List Event) :
    s.handleAll files (events ++ more)
      = ((s.handleAll files events).1 ++ ((s.handleAll files events).2.handleAll files more).1,
        ((s.handleAll files events).2.handleAll files more).2) := by
  induction events generalizing s with
  | nil => rfl
  | cons event events ih =>
      rw [List.cons_append, handleAll_cons, ih, handleAll_cons]
      rfl

/-- Every event has one outcome: `handleAll` keeps the length. -/
theorem length_handleAll (events : List Event) :
    (s.handleAll files events).1.length = events.length := by
  induction events generalizing s with
  | nil => rfl
  | cons event events ih => rw [handleAll_cons, List.length_cons, ih, List.length_cons]

/-- **The text of every document after a run** is `foldl` of `textAfter`: it is followed through the
events by itself. -/
theorem text?_handleAll (events : List Event) (uri : String) :
    (s.handleAll files events).2.text? uri
      = events.foldl (fun text event => event.textAfter (documentOf uri) text) (s.text? uri) := by
  induction events generalizing s with
  | nil => rfl
  | cons event events ih => rw [handleAll_cons, ih, text?_handle, List.foldl_cons]

/-- Sessions with the same `text?` everywhere publish the same. -/
theorem handleAll_fst_congr {s s' : Session} (hTexts : ∀ uri, s.text? uri = s'.text? uri)
    (events : List Event) : (s.handleAll files events).1 = (s'.handleAll files events).1 := by
  induction events generalizing s s' with
  | nil => rfl
  | cons event events ih =>
      have hAfter : ∀ uri, (s.handle files event).2.text? uri
          = (s'.handle files event).2.text? uri := by
        intro uri
        rw [text?_handle, text?_handle, hTexts]
      rw [handleAll_cons, handleAll_cons, handle_fst_congr files (hTexts event.uri), ih hAfter]

/-- Everything in `published` of a run is for the address of one of its events. -/
theorem exists_event_of_published {events : List Event} {p : Publication}
    (hp : p ∈ published (s.handleAll files events).1) : ∃ event ∈ events, p.uri = event.uri := by
  induction events generalizing s with
  | nil => cases hp
  | cons event events ih =>
      rw [handleAll_cons, ← List.singleton_append, published_append] at hp
      rcases List.mem_append.mp hp with hFirst | hLater
      · refine ⟨event, List.mem_cons_self, s.uri_of_handle files ?_⟩
        cases hOutcome : (s.handle files event).1 with
        | error e =>
            rw [hOutcome] at hFirst
            cases hFirst
        | ok q =>
            rw [hOutcome] at hFirst
            rw [List.mem_singleton.mp hFirst]
      · obtain ⟨later, hMem, hUri⟩ := ih _ hLater
        exact ⟨later, List.mem_cons_of_mem event hMem, hUri⟩

end Runs

/-! ### Up to date -/

/-- **An editor is up to date**: the last publication for every open document has the `diagnostics`
of its current text. -/
def UpToDate (s : Session) (outcomes : List (Except EventError Publication)) : Prop :=
  ∀ uri text, s.text? uri = some text →
    (((published outcomes).filter fun p => documentOf p.uri = documentOf uri).getLast?).map
      Publication.diagnostics = some (diagnostics text)

/-- `empty.UpToDate []`: at the beginning nothing is open. -/
theorem upToDate_empty : empty.UpToDate [] := by
  intro uri text hText
  rw [isTextMap.text?_empty] at hText
  cases hText

section UpToDate

variable {s : Session} {files : FileView} {outcomes : List (Except EventError Publication)}

/-- **One event keeps an editor up to date:** `UpToDate` after `handle`. -/
theorem UpToDate.handle (h : s.UpToDate outcomes) {event : Event}
    (hFile : NoFileAt files event.uri) :
    (s.handle files event).2.UpToDate (outcomes ++ [(s.handle files event).1]) := by
  intro uri text hText
  rw [published_append, List.filter_append]
  obtain ⟨-, e, hError⟩ | ⟨-, current, s', hCurrent, hOk⟩ := s.handle_cases files hFile
  · -- nothing new is published, and no text is new
    rw [hError] at hText ⊢
    show (((published outcomes).filter _ ++ []).getLast?).map _ = _
    rw [List.append_nil]
    exact h uri text hText
  · by_cases hAbout : documentOf event.uri = documentOf uri
    · -- the publication of this event is the last one for the document
      rw [hOk] at hText ⊢
      have hSame := isTextMap.text?_congr s' uri event.uri hAbout.symm
      cases hCurrent.symm.trans (hSame.symm.trans hText)
      have hKept : (published [.ok (⟨event.uri, diagnostics text⟩ : Publication)]).filter
          (fun p => documentOf p.uri = documentOf uri) = [⟨event.uri, diagnostics text⟩] := by
        simp [published, Except.toOption, hAbout]
      rw [hKept, List.getLast?_concat]
      rfl
    · -- the publication of this event is for another document, whose text alone may be new
      rw [text?_handle, Event.textAfter_of_ne hAbout] at hText
      have hDropped : (published [(s.handle files event).1]).filter
          (fun p => documentOf p.uri = documentOf uri) = [] := by
        rw [hOk]
        simp [published, Except.toOption, hAbout]
      rw [hDropped, List.append_nil]
      exact h uri text hText

/-- **Every run keeps an editor up to date:** `UpToDate` after `handleAll`. -/
theorem UpToDate.handleAll (h : s.UpToDate outcomes) {events : List Event}
    (hFiles : ∀ event ∈ events, NoFileAt files event.uri) :
    (s.handleAll files events).2.UpToDate (outcomes ++ (s.handleAll files events).1) := by
  induction events generalizing s outcomes with
  | nil => simpa [Session.handleAll] using h
  | cons event events ih =>
      have hFirst := h.handle (hFiles event List.mem_cons_self)
      have hRest := ih hFirst fun later hLater => hFiles later (List.mem_cons_of_mem event hLater)
      rw [handleAll_cons]
      simpa using hRest

end UpToDate

/-! ### Events in another order -/

section Swap

variable (s : Session) (files : FileView) {first second : Event}

/-- **Events about different documents may come in either order.** Their outcomes change places with
them, and nothing else changes. -/
theorem handleAll_swap (hOther : documentOf first.uri ≠ documentOf second.uri)
    (later : List Event) :
    (∃ rest, (s.handleAll files (first :: second :: later)).1
        = [(s.handle files first).1, (s.handle files second).1] ++ rest ∧
      (s.handleAll files (second :: first :: later)).1
        = [(s.handle files second).1, (s.handle files first).1] ++ rest) ∧
    ∀ uri, (s.handleAll files (second :: first :: later)).2.text? uri
      = (s.handleAll files (first :: second :: later)).2.text? uri := by
  -- neither event sees the other, since its document keeps its text
  have hFirst : (s.handle files second).2.text? first.uri = s.text? first.uri := by
    rw [text?_handle, Event.textAfter_of_ne (Ne.symm hOther)]
  have hSecond : (s.handle files first).2.text? second.uri = s.text? second.uri := by
    rw [text?_handle, Event.textAfter_of_ne hOther]
  have hTexts : ∀ uri, ((s.handle files second).2.handle files first).2.text? uri
      = ((s.handle files first).2.handle files second).2.text? uri := by
    intro uri
    simp only [text?_handle, Event.textAfter_comm hOther]
  refine ⟨⟨(((s.handle files first).2.handle files second).2.handleAll files later).1, ?_, ?_⟩, ?_⟩
  · rw [handleAll_cons, handleAll_cons, handle_fst_congr files hSecond]
    rfl
  · rw [handleAll_cons, handleAll_cons, handle_fst_congr files hFirst,
      handleAll_fst_congr files hTexts]
    rfl
  · intro uri
    simp only [text?_handleAll, List.foldl_cons, Event.textAfter_comm hOther]

/-- What an address receives does not depend on the order of two events with
`first.uri ≠ second.uri`. -/
theorem filter_published_swap (hOther : first.uri ≠ second.uri) (uri : String) :
    (published [(s.handle files second).1, (s.handle files first).1]).filter (·.uri = uri)
      = (published [(s.handle files first).1, (s.handle files second).1]).filter (·.uri = uri) := by
  have hFirst := @s.uri_of_handle files first
  have hSecond := @s.uri_of_handle files second
  cases hOne : (s.handle files first).1 with
  | error e => cases (s.handle files second).1 <;> rfl
  | ok p =>
      cases hTwo : (s.handle files second).1 with
      | error e => rfl
      | ok q =>
          -- at most one of the two publications is for the address
          have hApart : p.uri ≠ q.uri := by
            rw [hFirst hOne, hSecond hTwo]
            exact hOther
          by_cases hp : p.uri = uri
          · have hq : q.uri ≠ uri := fun h => hApart (hp.trans h.symm)
            simp [published, Except.toOption, hp, hq]
          · by_cases hq : q.uri = uri
            · simp [published, Except.toOption, hp, hq]
            · simp [published, Except.toOption, hp, hq]

end Swap

/-! ### What an editor can rely on -/

/-- `faults tokens` are the `illegal` tokens, with their text and their span. -/
theorem faults_eq_map (tokens : List Token) :
    faults tokens = (tokens.filter (·.category = .illegal)).map fun t => ⟨t.text, t.span⟩ := by
  unfold faults
  induction tokens with
  | nil => rfl
  | cons t tokens ih =>
      by_cases hIllegal : t.category = .illegal
      · have hFault : t.fault? = some ⟨t.text, t.span⟩ := if_pos hIllegal
        rw [List.filterMap_cons_some hFault, List.filter_cons_of_pos (by simpa using hIllegal),
          List.map_cons, ih]
      · have hNone : t.fault? = none := if_neg hIllegal
        rw [List.filterMap_cons_none hNone, List.filter_cons_of_neg (by simpa using hIllegal), ih]

/-- **The diagnostics of a text**: an `error` for every `illegal` token, in order, and then a
`warning` for everything left open. -/
theorem diagnostics_eq (text : String) :
    diagnostics text
      = ((scan text).tokens.filter (·.category = .illegal)).map (fun t =>
          ⟨rangeOf (Text.lines text.toList) t.span, "illegal character '" ++ t.text ++ "'", .error⟩)
        ++ (scan text).warnings.map fun w =>
          ⟨rangeOf (Text.lines text.toList) w.span, w.message, .warning⟩ := by
  rw [diagnostics, Scan.notices, faults_eq_map, List.map_append, List.map_map, List.map_map,
    List.map_map]
  rfl

/-- Different addresses of the events lead to different documents (`documentOf`), so that the
session is a map from these addresses to texts. -/
def AddressesApart (events : List Event) : Prop :=
  ∀ event ∈ events, ∀ other ∈ events,
    documentOf event.uri = documentOf other.uri → event.uri = other.uri

/-- `AddressesApart events` holds for addresses without `'%'`: each of them is its own document. -/
theorem addressesApart_of_not_mem {events : List Event}
    (hPlain : ∀ event ∈ events, '%' ∉ event.uri.toList) : AddressesApart events := by
  intro event hEvent other hOther hSame
  rwa [documentOf_of_not_mem (hPlain event hEvent), documentOf_of_not_mem (hPlain other hOther)]
    at hSame

/-- **What an editor can rely on** in a run of events from the beginning. -/
structure Faithful (files : FileView) (events : List Event) : Prop where
  /-- The text at every address is the `currentText?` of its document. -/
  current : ∀ uri, (empty.handleAll files events).2.text? uri
    = currentText? events (documentOf uri)
  /-- Every event publishes once, for its own address, the diagnostics of the text that its document
  then has; or it fails, publishes nothing and leaves all texts as they are. -/
  step : ∀ earlier event later, events = earlier ++ event :: later →
    let before := (empty.handleAll files earlier).2
    let outcome := (before.handle files event).1
    let after := (before.handle files event).2
    (empty.handleAll files events).1[earlier.length]? = some outcome ∧
      (event.Fails before ∧ published [outcome] = [] ∧
          (∀ uri, after.text? uri = before.text? uri) ∨
        ¬ event.Fails before ∧ ∃ text, after.text? event.uri = some text ∧
          published [outcome] = [⟨event.uri, diagnostics text⟩])
  /-- An address that was opened has a text, and the last publication for it has the diagnostics of
  that text. -/
  last : ∀ uri opening, .opened uri opening ∈ events → Address.ofText? uri ≠ none →
    ∃ text, (empty.handleAll files events).2.text? uri = some text ∧
      ((published (empty.handleAll files events).1).filter (·.uri = uri)).getLast?
        = some ⟨uri, diagnostics text⟩
  /-- Two events at different addresses may change places: all texts stay the same, and so does what
  every address receives. -/
  swap : ∀ earlier first second later, events = earlier ++ first :: second :: later →
    first.uri ≠ second.uri →
    let swapped := empty.handleAll files (earlier ++ second :: first :: later)
    (∀ uri, swapped.2.text? uri = (empty.handleAll files events).2.text? uri) ∧
      ∀ uri, (published swapped.1).filter (·.uri = uri)
        = (published (empty.handleAll files events).1).filter (·.uri = uri)

section Faithful

variable {files : FileView} {events : List Event}

variable (files) in
/-- `text? uri` is `some` after a run in which `uri` was opened: it stays open. -/
theorem exists_text?_of_opened {uri opening : String} (hOpened : .opened uri opening ∈ events)
    (hAddress : Address.ofText? uri ≠ none) :
    ∃ text, (empty.handleAll files events).2.text? uri = some text := by
  obtain ⟨earlier, later, rfl⟩ := List.append_of_mem hOpened
  rw [text?_handleAll, List.foldl_append, List.foldl_cons, Event.textAfter_opened _ _ hAddress]
  -- from there on no event closes it
  exact Option.isSome_iff_exists.mp (Event.isSome_foldl_textAfter later _ rfl)

/-- **What one event of a run publishes**: one publication for `event.uri`, or nothing. -/
theorem handle_publishes (s : Session) {event : Event} (hFile : NoFileAt files event.uri) :
    let outcome := (s.handle files event).1
    let after := (s.handle files event).2
    event.Fails s ∧ published [outcome] = [] ∧ (∀ uri, after.text? uri = s.text? uri) ∨
      ¬ event.Fails s ∧ ∃ text, after.text? event.uri = some text ∧
        published [outcome] = [⟨event.uri, diagnostics text⟩] := by
  obtain ⟨hFails, e, hError⟩ | ⟨hTaken, text, s', hText, hOk⟩ := s.handle_cases files hFile
  · rw [hError]
    exact Or.inl ⟨hFails, rfl, fun _ => rfl⟩
  · rw [hOk]
    exact Or.inr ⟨hTaken, text, hText, rfl⟩

/-- **The last publication for an address** is `diagnostics` of its current text. -/
theorem getLast?_published (hFiles : ∀ event ∈ events, NoFileAt files event.uri)
    (hApart : AddressesApart events) {event : Event} (hEvent : event ∈ events) {text : String}
    (hText : (empty.handleAll files events).2.text? event.uri = some text) :
    ((published (empty.handleAll files events).1).filter (·.uri = event.uri)).getLast?
      = some ⟨event.uri, diagnostics text⟩ := by
  -- what is published for the document is published for this address of it
  have hSame : (published (empty.handleAll files events).1).filter
        (fun p => documentOf p.uri = documentOf event.uri)
      = (published (empty.handleAll files events).1).filter (·.uri = event.uri) := by
    refine List.filter_congr fun p hp => ?_
    obtain ⟨other, hOther, hUri⟩ := exists_event_of_published empty files hp
    rw [hUri, decide_eq_decide]
    exact ⟨hApart other hOther event hEvent, congrArg documentOf⟩
  have hLast := upToDate_empty.handleAll hFiles event.uri text hText
  rw [List.nil_append, hSame] at hLast
  obtain ⟨p, hp, hDiagnostics⟩ := Option.map_eq_some_iff.mp hLast
  have hUri : p.uri = event.uri := by
    simpa using (List.mem_filter.mp (List.mem_of_getLast? hp)).2
  rw [hp, ← hUri, ← hDiagnostics]

/-- **Every run is faithful.** Any events over any documents without files, at addresses that lead
to different documents, are published on as they should be, and what is published are the errors of
the illegal tokens and the warnings of a scan of the current text. -/
theorem faithful_handleAll (hFiles : ∀ event ∈ events, NoFileAt files event.uri)
    (hApart : AddressesApart events) :
    Faithful files events ∧ ∀ text, diagnostics text
      = ((scan text).tokens.filter (·.category = .illegal)).map (fun t =>
          ⟨rangeOf (Text.lines text.toList) t.span, "illegal character '" ++ t.text ++ "'", .error⟩)
        ++ (scan text).warnings.map fun w =>
          ⟨rangeOf (Text.lines text.toList) w.span, w.message, .warning⟩ := by
  refine ⟨⟨?_, ?_, ?_, ?_⟩, diagnostics_eq⟩
  -- texts
  · intro uri
    rw [text?_handleAll, isTextMap.text?_empty, currentText?]
  -- one event, in the session that the earlier ones leave
  · rintro earlier event later rfl
    refine ⟨?_, handle_publishes _ (hFiles event (by simp))⟩
    rw [handleAll_append, handleAll_cons, ← length_handleAll empty files earlier]
    simp only [List.getElem?_append_right (Nat.le_refl _), Nat.sub_self, List.getElem?_cons_zero]
  -- the last publication
  · intro uri opening hOpened hAddress
    obtain ⟨text, hText⟩ := exists_text?_of_opened files hOpened hAddress
    exact ⟨text, hText, getLast?_published hFiles hApart hOpened hText⟩
  -- two events change places: different addresses have different documents
  · rintro earlier first second later rfl hOther
    have hDocuments : documentOf first.uri ≠ documentOf second.uri := fun hSame =>
      hOther (hApart first (by simp) second (by simp) hSame)
    obtain ⟨⟨rest, hOutcomes, hSwapped⟩, hTexts⟩ :=
      (empty.handleAll files earlier).2.handleAll_swap files hDocuments later
    refine ⟨?_, ?_⟩
    · intro uri
      rw [handleAll_append, handleAll_append]
      exact hTexts uri
    · intro uri
      rw [handleAll_append, handleAll_append, hOutcomes, hSwapped]
      simp only [published_append, List.filter_append, filter_published_swap _ files hOther]

end Faithful

/-- Two documents are opened and one of them is changed by two texts in turn; between that, a
document that is not open is changed, and another one is asked about. -/
def mixedEvents : List Event :=
  [.opened "file:///a%20b" "\"x", .opened "file:///b" "@", .changed "file:///c" ["y"],
    .changed "file:///a%20b" ["/*", "ok @"], .asked "file:///d"]

/-- The first document was reported on twice, and the second report is about the last of its texts;
the change that fails could as well have come before the second document was opened. -/
theorem faithful_handleAll_mixed :
    let files : FileView := fun _ => .error .notFound
    let run := empty.handleAll files mixedEvents
    let early := empty.handleAll files [.opened "file:///a%20b" "\"x", .changed "file:///c" ["y"],
      .opened "file:///b" "@", .changed "file:///a%20b" ["/*", "ok @"], .asked "file:///d"]
    (∀ event ∈ mixedEvents, NoFileAt files event.uri) ∧ AddressesApart mixedEvents ∧
      (published run.1).map (·.uri) = ["file:///a%20b", "file:///b", "file:///a%20b"] ∧
      run.2.text? "file:///a%20b" = some "ok @" ∧
      ((published run.1).filter (·.uri = "file:///a%20b")).getLast?
        = some ⟨"file:///a%20b", [⟨⟨⟨0, 3⟩, ⟨0, 4⟩⟩, "illegal character '@'", .error⟩]⟩ ∧
      ∀ uri, early.2.text? uri = run.2.text? uri ∧
        (published early.1).filter (·.uri = uri) = (published run.1).filter (·.uri = uri) := by
  intro files run early
  have hFiles : ∀ event ∈ mixedEvents, NoFileAt files event.uri := by
    intro event _ address _ bytes hRead
    cases hRead
  have hApart : AddressesApart mixedEvents := by
    unfold AddressesApart
    decide +kernel
  have hText : run.2.text? "file:///a%20b" = some "ok @" := by decide +kernel
  have hDiagnostics : diagnostics "ok @"
      = [⟨⟨⟨0, 3⟩, ⟨0, 4⟩⟩, "illegal character '@'", .error⟩] := by decide +kernel
  obtain ⟨hRun, -⟩ := faithful_handleAll hFiles hApart
  obtain ⟨text, hSome, hLast⟩ :=
    hRun.last "file:///a%20b" "\"x" List.mem_cons_self (by decide +kernel)
  cases hText.symm.trans hSome
  rw [hDiagnostics] at hLast
  obtain ⟨hTexts, hPublished⟩ := hRun.swap [.opened "file:///a%20b" "\"x"] (.opened "file:///b" "@")
    (.changed "file:///c" ["y"]) [.changed "file:///a%20b" ["/*", "ok @"], .asked "file:///d"] rfl
    (by decide)
  exact ⟨hFiles, hApart, by decide +kernel, hText, hLast, fun uri => ⟨hTexts uri, hPublished uri⟩⟩

end Session

end MarkupScan.Editor
