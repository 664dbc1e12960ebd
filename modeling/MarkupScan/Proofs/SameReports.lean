import MarkupScan.Editor.Session
import MarkupScan.Proofs.EditorRanges
import MarkupScan.Proofs.LineEnds
import MarkupScan.Proofs.RunOutcomes

/-! # The command and the editor report the same

A text that is given to the command as a file and opened in an editor is reported on in the same way,
though the command reads it with unified line ends, counts characters and stops at the first illegal
one, while the editor is shown the text itself, counts UTF-16 units and lists everything.

Main definitions.
* **`Notice.Alike`**: notices of a text and of the joined text that correspond.
* **`Scan.reported`**: the notices that the command shows by default.
* **`Editor.Diagnostic.ShownAs`**: a snippet shows what an editor was told.

Main statements.
* **`Editor.Session.handle_opened`**: opening a document publishes the diagnostics of its text.
* **`CommandLine.parse_operand`**, **`prepared_plain`**: what a command line of one name asks for.
* **`run_plain`**: what a run with such a command line comes to.
* **`reported_alike`**: the same is reported about a text and about the joined text.
* **`Editor.shownAs_snippet`**: a notice at the same place is a snippet of the diagnostic.
* **`run_reports_diagnostics`**: a run and an editor agree on all that is reported. -/

namespace MarkupScan

open CommandLine (Arguments Choices)
open Files (Directory Path PlainName)
open Position (ofOffset)
open Text (Joined)

/-! ### Opening a document -/

namespace Editor

/-- **Opening a document publishes the `diagnostics` of its text**, whatever was open before. -/
theorem Session.handle_opened (s : Session) (files : FileView) {uri : String} (text : String)
    (hUri : Address.ofText? uri ≠ none) :
    (s.handle files (.opened uri text)).1 = .ok ⟨uri, diagnostics text⟩ := by
  obtain ⟨address, hAddress⟩ := Option.ne_none_iff_exists'.mp hUri
  simp [handle, hAddress, publish, source, isTextMap.text?_store]

/-- The published diagnostics of severity `warning` are those of the scan, in their order. -/
theorem filter_warning_diagnostics (text : String) :
    (diagnostics text).filter (·.severity = .warning)
      = (scan text).warnings.map fun w =>
          Diagnostic.ofNotice (Text.lines text.toList) w.notice := by
  rw [diagnostics, Scan.notices, List.map_append, List.filter_append, List.map_map, List.map_map,
    List.filter_eq_nil_iff.mpr, List.filter_eq_self.mpr, List.nil_append]
  · rfl
  · intro d hd
    obtain ⟨w, -, rfl⟩ := List.mem_map.mp hd
    simp [Diagnostic.ofNotice, Warning.notice]
  · intro d hd
    obtain ⟨fault, -, rfl⟩ := List.mem_map.mp hd
    simp [Diagnostic.ofNotice, Fault.notice]

end Editor

/-! ### A command line of one name -/

/-- **A name that begins with no dash is the input**, and nothing else is said. -/
theorem CommandLine.parse_operand {name : String} (hName : name.toList.head? ≠ some '-') :
    CommandLine.parse [name] = .ok ⟨Choices.none, name⟩ := by
  have hSeparator : name ≠ separatorWord := by
    rintro rfl
    exact hName rfl
  have hOperand : classify name = .ok (.operand name) := by
    rw [classify, if_pos hName]
  have hItems : classifyAll [name] = .ok [.operand name] := by
    rw [classifyAll, if_neg hSeparator, hOperand]
    rfl
  rw [parse, hItems]
  rfl

/-- What a run does by default: it prints a text dump, reports warnings, and forbids illegal
characters. -/
def Options.ofInput (name : String) : Options := ⟨.ofString name, none, .named .text, false, true⟩

/-- `configPathOf` a plain input is `configFileName` in the working directory. -/
theorem configPathOf_plain {name : String} (hName : PlainName name) :
    configPathOf ⟨Choices.none, name⟩ = Path.ofString configFileName := by
  rw [configPathOf, hName.ofString_eq]
  rfl

/-- `configFileName` is a plain name. -/
theorem plainName_configFileName : PlainName configFileName :=
  ⟨by decide, by decide, by decide, by decide, by decide, by decide⟩

/-- **A plain input without a configuration is read under the default options:** `Prepared` with
`Options.ofInput`. -/
theorem prepared_plain {d : Directory} {name text : String} (hName : PlainName name)
    (hFile : d.get? ⟨some 0, [name]⟩ = some (.file text.toUTF8))
    (hConfig : d.get? ⟨some 0, [configFileName]⟩ = none) :
    Prepared d ⟨Choices.none, name⟩ (.ofInput name) (sourceOf text) := by
  have hNone := Directory.read_ofString_of_none plainName_configFileName hConfig
  refine ⟨?_, text, Directory.read_ofString hName hFile, rfl⟩
  rw [resolve, configPathOf_plain hName, loadConfig, hNone]
  rfl

/-! ### Notices that correspond -/

/-- **Notices of a text and of the joined text that correspond.** -/
structure Notice.Alike (n m : Notice) : Prop where
  /-- They are equally bad. -/
  severity_eq : m.severity = n.severity
  /-- They say the same. -/
  message_eq : m.message = n.message
  /-- They begin at the `SamePlace`. -/
  start_eq : n.span.start.SamePlace m.span.start

/-- Tokens that are `Alike` have faults with `Alike` notices. -/
theorem faults_alike {tokens others : List Token} (h : List.Forall₂ Token.Alike tokens others) :
    List.Forall₂ (fun f g : Fault => f.notice.Alike g.notice) (faults tokens) (faults others) := by
  induction h with
  | nil => exact .nil
  | @cons t u tokens others hAlike _ ih =>
      by_cases hIllegal : t.category = .illegal
      · have hOther : u.category = .illegal := hAlike.category_eq.trans hIllegal
        have hText := (hAlike.content_eq (by rw [hIllegal]; decide)).2
        have hFault : (Fault.notice ⟨t.text, t.span⟩).Alike (Fault.notice ⟨u.text, u.span⟩) := by
          rw [hText]
          exact ⟨rfl, rfl, hAlike.start_eq⟩
        simp only [faults, List.filterMap_cons, Token.fault?, if_pos hIllegal, if_pos hOther]
        exact .cons hFault ih
      · have hOther : u.category ≠ .illegal := by rwa [hAlike.category_eq]
        simp only [faults, List.filterMap_cons, Token.fault?, if_neg hIllegal, if_neg hOther]
        exact ih

/-- The notices that a run with the default options reports: all warnings and the `firstFault?`. -/
def Scan.reported (s : Scan) : List Notice :=
  s.warnings.map Warning.notice ++ ((faults s.tokens).take 1).map Fault.notice

/-- `s.reported` are among `s.notices`. -/
theorem Scan.mem_notices_of_reported {s : Scan} {n : Notice} (h : n ∈ s.reported) :
    n ∈ s.notices := by
  rcases List.mem_append.mp h with hWarning | hFault
  · exact List.mem_append_right _ hWarning
  · exact List.mem_append_left _ (List.map_subset _ (List.take_subset _ _) hFault)

/-- `s.reported = []` only where `s.notices = []`. -/
theorem Scan.reported_eq_nil_iff {s : Scan} : s.reported = [] ↔ s.notices = [] := by
  simp [Scan.reported, Scan.notices, and_comm]

/-- **The same is reported about a text and about the joined text:** `reported` is `Alike`, one by
one. -/
theorem reported_alike {source other : List Char} (h : Joined source other) :
    List.Forall₂ Notice.Alike (scanChars source).reported (scanChars other).reported := by
  obtain ⟨hTokens, hWarnings⟩ := scanChars_joined h
  refine List.rel_append ?_ ?_
  · rw [List.forall₂_map_left_iff, List.forall₂_map_right_iff]
    refine hWarnings.imp fun v w hAlike => ⟨rfl, ?_, hAlike.start_eq⟩
    simp only [Warning.notice, Warning.message, hAlike.construct_eq]
  · rw [List.forall₂_map_left_iff, List.forall₂_map_right_iff]
    exact List.forall₂_take 1 (faults_alike hTokens)

/-! ### Snippets of diagnostics -/

namespace Editor

/-- **A snippet shows what an editor was told.** It is a snippet of the text as the command reads it,
and its first two lines say the severity, the message and the place: the file, the line, and the
column before which the line has as many UTF-16 units as the editor was told. -/
def Diagnostic.ShownAs (text name : String) (d : Diagnostic) (snippet : String) : Prop :=
  ∃ (n : Notice) (front rest : List Char),
    let line := toString (d.range.start.line + 1)
    snippet = n.snippet (sourceOf text) name ∧
    (n.snippetLines (sourceOf text) name).take 2
      = [d.severity.label ++ ": " ++ d.message,
        Text.spaces (line.length + 1) ++ "--> " ++ name ++ ":" ++ line ++ ":" ++
          toString (front.length + 1)] ∧
    (Text.lines text.toList)[d.range.start.line]? = some (front ++ rest) ∧
    d.range.start.character = Text.unitLength front

/-- **A notice at the same place is a snippet of the diagnostic:** `ShownAs` holds of it. -/
theorem shownAs_snippet {text name : String} {notice other : Notice}
    (hNotice : notice ∈ (scan text).notices) (hAlike : notice.Alike other) :
    (Diagnostic.ofNotice (Text.lines text.toList) notice).ShownAs text name
      (other.snippet (sourceOf text) name) := by
  obtain ⟨a, b, hab, hb, hSpan⟩ := exists_span_of_notice hNotice
  have hDenotes := denotes_ofOffset (hab.trans hb)
  rw [show ofOffset text.toList a = notice.span.start by rw [hSpan]] at hDenotes
  obtain ⟨front, rest, hLine, hFront, hUnits⟩ := hDenotes.column_eq
  have hNumber := hDenotes.line_eq
  -- the place on the line is the one that the other notice is at
  have hOtherLine : other.span.start.line
      = ((placeOf (Text.lines text.toList) notice.span.start).line + 1 : ℕ) := by
    rw [hAlike.start_eq.1]
    omega
  have hOtherColumn : other.span.start.column = (front.length + 1 : ℕ) := by
    rw [hAlike.start_eq.2]
    omega
  refine ⟨other, front, rest, rfl, ?_, hLine, hUnits⟩
  rw [Notice.snippetLines, hAlike.severity_eq, hAlike.message_eq, hOtherLine, hOtherColumn]
  rfl

end Editor

/-! ### What a run reports -/

/-- `noticesText` of two lists, one behind the other, is one text behind the other. -/
theorem noticesText_append (first second : List Notice) (source fileName : String) :
    noticesText (first ++ second) source fileName
      = noticesText first source fileName ++ noticesText second source fileName := by
  rw [noticesText, List.map_append, String.join_append]
  rfl

/-- Lines joined into a text leave it empty only if `lines = []`. -/
theorem join_lines_eq_empty_iff {lines : List String} :
    String.join (lines.map (· ++ "\n")) = "" ↔ lines = [] := by
  cases lines with
  | nil => simp
  | cons line lines => simp [String.join_cons]

/-- `(Options.ofInput name).dumpOf source ≠ ""`: a text dump holds at least the end of the input. -/
theorem dumpOf_ofInput_ne (name source : String) : (Options.ofInput name).dumpOf source ≠ "" := by
  obtain ⟨front, hTokens, -⟩ :=
    (reading_scanChars source.toList).tokens_eq
  show String.join (((scan source).tokens.map Token.display).map (· ++ "\n")) ≠ ""
  rw [Ne, join_lines_eq_empty_iff, scan, hTokens]
  simp

section Plain

variable {d : Directory} {name text : String} (hName : PlainName name)
  (hDash : name.toList.head? ≠ some '-')
  (hFile : d.get? ⟨some 0, [name]⟩ = some (.file text.toUTF8))
  (hConfig : d.get? ⟨some 0, [configFileName]⟩ = none)
include hName hDash hFile hConfig

/-- **What a run of a plain input comes to**: it prints a dump where there are no `faults`, and its
`stderr` is the `reported` notices. -/
theorem run_plain :
    ∃ stdout, (stdout = "" ↔ faults (scan (sourceOf text)).tokens ≠ []) ∧
      run d [name] = ⟨.exit (if faults (scan (sourceOf text)).tokens = [] then 0 else 1), stdout,
        noticesText (scan (sourceOf text)).reported (sourceOf text) name, d⟩ := by
  have hReady := prepared_plain hName hFile hConfig
  have hParse := CommandLine.parse_operand hDash
  have hShown : (Options.ofInput name).input.display = name := hName.display_ofString
  have hWarnings : (Options.ofInput name).warningsOf (sourceOf text)
      = noticesText ((scan (sourceOf text)).warnings.map Warning.notice) (sourceOf text) name := by
    rw [Options.warningsOf, hShown]
    rfl
  -- nothing is allowed by default, so that the first fault forbids the dump
  have hFirst : forbidden? (.ofInput name) (sourceOf text)
      = (faults (scan (sourceOf text)).tokens).head? := firstFault?_eq_head? _
  cases hFaults : faults (scan (sourceOf text)).tokens with
  | nil =>
      rw [hFaults] at hFirst
      have hAccepts := forbidden?_eq_none_iff.mp hFirst
      refine ⟨(Options.ofInput name).dumpOf (sourceOf text), ?_, ?_⟩
      · simp [dumpOf_ofInput_ne]
      · rw [run_eq_of_runsTo hParse (.printed hReady hAccepts rfl), hWarnings, Scan.reported, hFaults]
        simp
  | cons fault rest =>
      rw [hFaults] at hFirst
      refine ⟨"", by simp, ?_⟩
      rw [run_eq_of_runsTo hParse (.rejected hReady hFirst), hWarnings, hShown,
        ← noticesText_append, Scan.reported, hFaults]
      rfl

end Plain

/-! ### The same reports -/

namespace Editor

/-- `reported` was published: the warnings, and the first of the errors. -/
theorem published_eq (text : String) :
    (diagnostics text).filter (·.severity = .warning)
        ++ ((diagnostics text).filter (·.severity = .error)).take 1
      = (scan text).reported.map (.ofNotice (Text.lines text.toList)) := by
  rw [filter_warning_diagnostics, filter_error_diagnostics, Scan.reported, List.map_append,
    ← List.map_take, List.map_map, List.map_map]
  rfl

/-- **Every snippet of a run shows what was published**, `ShownAs` one by one. -/
theorem shownAs_reported {text : String} (name : String)
    (hPaired : ∀ n, text.toList[n]? = some '\r' → text.toList[n + 1]? = some '\n') :
    List.Forall₂ (Diagnostic.ShownAs text name)
      ((diagnostics text).filter (·.severity = .warning)
        ++ ((diagnostics text).filter (·.severity = .error)).take 1)
      ((scan (sourceOf text)).reported.map (·.snippet (sourceOf text) name)) := by
  have hAlike := reported_alike (Text.joined_unifyNewlines hPaired)
  rw [published_eq, List.forall₂_map_left_iff, List.forall₂_map_right_iff, scan, scan, sourceOf,
    String.toList_ofList]
  have hMem : ∀ n ∈ (scanChars text.toList).reported, n ∈ (scan text).notices := by
    intro n hn
    exact Scan.mem_notices_of_reported hn
  refine ((List.forall₂_and_left _ _).mpr ⟨hMem, hAlike⟩).imp ?_
  rintro notice other ⟨hNotice, hAlike⟩
  exact shownAs_snippet hNotice hAlike

end Editor

section Plain

variable {d : Directory} {name text : String} (hName : PlainName name)
  (hDash : name.toList.head? ≠ some '-')
  (hFile : d.get? ⟨some 0, [name]⟩ = some (.file text.toUTF8))
  (hConfig : d.get? ⟨some 0, [configFileName]⟩ = none)
include hName hDash hFile hConfig

/-- **The command and the editor report the same.** A text whose carriage returns are all followed by
line feeds is the file of a plain name, without a configuration, and is opened in any session at any
address. The editor publishes; the run ends with 1 if errors are among what is published, and with 0
otherwise; it reports all published warnings and the first published error, each as a snippet that
shows it, and nothing else; it prints nothing if there are errors, and reports nothing if nothing is
published. -/
theorem run_reports_diagnostics
    (hPaired : ∀ n, text.toList[n]? = some '\r' → text.toList[n + 1]? = some '\n')
    (s : Editor.Session) (files : FileView) {uri : String}
    (hUri : Editor.Address.ofText? uri ≠ none) :
    ∃ p, (s.handle files (.opened uri text)).1 = .ok p ∧ p.uri = uri ∧
      let errors := p.diagnostics.filter (·.severity = .error)
      let warnings := p.diagnostics.filter (·.severity = .warning)
      let outcome := run d [name]
      outcome.ending = .exit (if errors = [] then 0 else 1) ∧
        (∃ snippets, outcome.stderr = String.join (snippets.map (· ++ "\n")) ∧
          List.Forall₂ (Editor.Diagnostic.ShownAs text name) (warnings ++ errors.take 1) snippets) ∧
        (outcome.stdout = "" ↔ errors ≠ []) ∧ (outcome.stderr = "" ↔ p.diagnostics = []) := by
  obtain ⟨stdout, hStdout, hRun⟩ := run_plain hName hDash hFile hConfig
  have hShown := Editor.shownAs_reported name hPaired
  have hTokens := (scanChars_joined (Text.joined_unifyNewlines hPaired)).1
  rw [← String.toList_ofList (l := Text.unifyNewlines text.toList)] at hTokens
  -- there are as many faults in the two texts, and as many notices are reported
  have hErrors : faults (scan (sourceOf text)).tokens = []
      ↔ (Editor.diagnostics text).filter (·.severity = .error) = [] := by
    have hLength : (faults (scan text).tokens).length
        = (faults (scan (sourceOf text)).tokens).length := (faults_alike hTokens).length_eq
    rw [Editor.filter_error_diagnostics, List.map_eq_nil_iff, ← List.length_eq_zero_iff,
      ← List.length_eq_zero_iff, hLength]
  have hStderr : (run d [name]).stderr = String.join
      (((scan (sourceOf text)).reported.map (·.snippet (sourceOf text) name)).map (· ++ "\n")) := by
    rw [hRun, List.map_map]
    rfl
  refine ⟨_, s.handle_opened files text hUri, rfl, ?_, ⟨_, hStderr, hShown⟩, ?_, ?_⟩
  · rw [hRun]
    simp only [hErrors]
  · rw [hRun]
    exact hStdout.trans (not_congr hErrors)
  · have hLength := hShown.length_eq
    rw [hStderr, join_lines_eq_empty_iff, ← List.length_eq_zero_iff, ← hLength,
      Editor.published_eq, List.length_eq_zero_iff, List.map_eq_nil_iff, Scan.reported_eq_nil_iff]
    simp [Editor.diagnostics]

end Plain

/-- A string with a line end inside and a character of two units on its second line, then two illegal
characters, and a comment that is left open on the third line. -/
def wideText : String := "\"a\r\n😀\" @ #\r\n/* "

/-- A directory with the file `a`, which holds this text. -/
def wideFile : Directory := ⟨⟨[(⟨some 0, ["a"]⟩, .file wideText.toUTF8)], by decide⟩⟩

/-- The column of the first illegal character is told in characters by the command and in units by the
editor, and of the two illegal characters the command shows one. -/
theorem run_reports_diagnostics_wide :
    (Editor.diagnostics wideText).map (·.range.start) = [⟨1, 4⟩, ⟨1, 6⟩, ⟨2, 0⟩] ∧
      (run wideFile ["a"]).ending = .exit 1 ∧
      ∃ first second, (run wideFile ["a"]).stderr = first ++ "\n" ++ (second ++ "\n") ∧
        List.Forall₂ (Editor.Diagnostic.ShownAs wideText "a")
          [⟨⟨⟨2, 0⟩, ⟨2, 3⟩⟩, "unterminated block comment", .warning⟩,
            ⟨⟨⟨1, 4⟩, ⟨1, 5⟩⟩, "illegal character '@'", .error⟩] [first, second] := by
  have hName : PlainName "a" := ⟨by decide, by decide, by decide, by decide, by decide, by decide⟩
  have hFile : wideFile.get? ⟨some 0, ["a"]⟩ = some (.file wideText.toUTF8) := rfl
  have hPaired : ∀ n, wideText.toList[n]? = some '\r' → wideText.toList[n + 1]? = some '\n' := by
    intro n hn
    have hLess : n < 15 := (List.getElem?_eq_some_iff.mp hn).1
    revert hn
    decide +revert
  have hUri : Editor.Address.ofText? "file:///a" ≠ none := by decide +kernel
  obtain ⟨p, hp, -, hEnding, ⟨snippets, hStderr, hShown⟩, -, -⟩ :=
    run_reports_diagnostics hName (by decide) hFile rfl hPaired .empty wideFile.read hUri
  rw [Editor.Session.handle_opened _ _ _ hUri] at hp
  cases hp
  have hDiagnostics : Editor.diagnostics wideText
      = [⟨⟨⟨1, 4⟩, ⟨1, 5⟩⟩, "illegal character '@'", .error⟩,
        ⟨⟨⟨1, 6⟩, ⟨1, 7⟩⟩, "illegal character '#'", .error⟩,
        ⟨⟨⟨2, 0⟩, ⟨2, 3⟩⟩, "unterminated block comment", .warning⟩] := by decide +kernel
  simp only [hDiagnostics] at hEnding hShown ⊢
  obtain ⟨first, _, hFirst, hRest, rfl⟩ := List.forall₂_cons_left_iff.mp hShown
  obtain ⟨second, _, hSecond, hNone, rfl⟩ := List.forall₂_cons_left_iff.mp hRest
  cases hNone
  refine ⟨rfl, hEnding, first, second, ?_, .cons hFirst (.cons hSecond .nil)⟩
  rw [hStderr]
  simp [String.join_cons]

end MarkupScan
