import MarkupScan.Proofs.ExitCodes

/-! # What each option changes

Two runs from the same directory whose command lines differ in one option. Quiet runs leave out the
warnings and nothing else, the form of the dump changes the dump only, and allowing illegal characters
takes back the refusal and nothing else.

Main definitions.
* **`Reports`**: what a run reports, its warnings apart from what keeps it from a dump.
* **`Options.warningSnippets`**, **`Options.refusalOf`**: the warnings that options ask for, and what is
  said about the character that forbids a dump.

Main statements.
* **`reports_of_prepared`**, **`reports_of_not_prepared`**: what every run reports.
* **`run_eq_of_not_prepared`**: without a text the runs before and after a change of the options are the
  same.
* **`run_quiet`**, **`run_format`**, **`run_allowIllegal`**: what each of the three options changes.
* **`option_channels`**: the three together. -/

namespace MarkupScan

open CommandLine (Arguments Choices Given)
open Files (Directory FileError Path)
open Toml (Table Value)

variable {d : Directory} {words words' : List String} {a a' : Arguments} {o : Options}
  {source : String}

/-! ### Changes of options -/

/-- **A command line whose merging is changed has changed options:** `resolve` changes as `merge`
does, if the configuration is the same. -/
theorem resolve_map {change : Options → Options} (hPath : configPathOf a' = configPathOf a)
    (hMerge : ∀ config, merge a' config = (merge a config).map change) (files : FileView) :
    resolve files a' = (resolve files a).map change := by
  unfold resolve
  rw [hPath]
  cases loadConfig files (configPathOf a) with
  | error e => rfl
  | ok config =>
      dsimp only
      rw [hMerge config]
      cases merge a config <;> rfl

/-- `quiet` sets `o.warnings` to `false` and changes nothing else. -/
theorem resolve_quiet (files : FileView) (a : Arguments) :
    resolve files { a with quiet := true }
      = (resolve files a).map fun o => { o with warnings := false } := by
  refine resolve_map (by rfl) (fun config => ?_) files
  unfold merge
  cases formatSetting config <;> rfl

/-- A `format` on the command line is the form of the dump and changes nothing else. -/
theorem resolve_format (files : FileView) (a : Arguments) (f : DumpFormat) :
    resolve files { a with format := .value f }
      = (resolve files a).map fun o => { o with format := .named f } := by
  refine resolve_map (by rfl) (fun config => ?_) files
  unfold merge
  cases formatSetting config <;> rfl

/-- `allowIllegal` on the command line allows illegal characters and changes nothing else. -/
theorem resolve_allowIllegal (files : FileView) (a : Arguments) :
    resolve files { a with allowIllegal := true }
      = (resolve files a).map fun o => { o with allowIllegal := true } := by
  refine resolve_map (by rfl) (fun config => ?_) files
  unfold merge
  cases formatSetting config <;> rfl

section Changes

variable {change : Options → Options}
  (hResolve : resolve d.read a' = (resolve d.read a).map change)
  (hInput : ∀ o, (change o).input = o.input)
include hResolve hInput

/-- A change that keeps the input keeps `Prepared`. -/
theorem Prepared.changed (h : Prepared d a o source) : Prepared d a' (change o) source := by
  refine ⟨?_, ?_⟩
  · rw [hResolve, h.options]
    rfl
  · rw [hInput]
    exact h.input

/-- Nothing is `Prepared` by a change that was not before it. -/
theorem not_prepared_changed (h : ∀ o source, ¬ Prepared d a o source) (o' : Options)
    (source : String) : ¬ Prepared d a' o' source := by
  rintro ⟨hOptions, hText⟩
  rw [hResolve] at hOptions
  cases hBefore : resolve d.read a with
  | error e => rw [hBefore] at hOptions; cases hOptions
  | ok o =>
      rw [hBefore] at hOptions
      cases hOptions
      rw [hInput] at hText
      exact h o source ⟨hBefore, hText⟩

/-- **Without a text two runs are the same:** `run d words' = run d words` if nothing is `Prepared`
and their options differ by a change that keeps the input. -/
theorem run_eq_of_not_prepared (hParse : CommandLine.parse words = .ok a)
    (hParse' : CommandLine.parse words' = .ok a') (h : ∀ o source, ¬ Prepared d a o source) :
    run d words' = run d words := by
  refine run_eq_of_runsTo hParse' ?_
  have hRun := runsTo_run (d := d) hParse
  -- options fail alike, or they differ by the change
  have hError : ∀ {e}, resolve d.read a = .error e → resolve d.read a' = .error e := by
    intro e he
    rw [hResolve, he]
    rfl
  have hOk : ∀ {o}, resolve d.read a = .ok o → resolve d.read a' = .ok (change o) := by
    intro o ho
    rw [hResolve, ho]
    rfl
  generalize run d words = outcome at hRun
  -- the endings without a text come from options or an input that are the same; the others need a
  -- text
  cases hRun with
  | badOptions hOptions hText => exact .badOptions (hError hOptions) hText
  | optionsFailure hOptions hCause => exact .optionsFailure (hError hOptions) hCause
  | @unreadable o e hOptions hFile hPath =>
      rw [← hInput o] at hFile ⊢
      exact .unreadable (hOk hOptions) hFile hPath
  | @inputFailure o hOptions hFile =>
      rw [← hInput o] at hFile
      exact .inputFailure (hOk hOptions) hFile
  | @notText o bytes hOptions hFile hBytes =>
      rw [← hInput o] at hFile ⊢
      exact .notText (hOk hOptions) hFile hBytes
  | rejected hReady _ => exact absurd hReady (h _ _)
  | printed hReady _ _ => exact absurd hReady (h _ _)
  | written hReady _ _ _ => exact absurd hReady (h _ _)
  | outputFailure hReady _ _ _ => exact absurd hReady (h _ _)

end Changes

/-! ### What a run reports -/

/-- The snippets of the warnings that `o` reports about `source`. -/
def Options.warningSnippets (o : Options) (source : String) : List String :=
  if o.warnings then
    (scan source).warnings.map fun w => w.notice.snippet source o.input.display
  else []

/-- What is said about the character that forbids the dump of `source`; empty if none does. -/
def Options.refusalOf (o : Options) (source : String) : String :=
  match forbidden? o source with
  | some fault => fault.notice.snippet source o.input.display ++ "\n"
  | none => ""

/-- The reported warnings are the lines of `warningSnippets`. -/
theorem warningsOf_eq (o : Options) (source : String) :
    o.warningsOf source = String.join ((o.warningSnippets source).map (· ++ "\n")) := by
  unfold Options.warningsOf Report.warningsText report noticesText Options.warningSnippets
  cases o.warnings with
  | true => simp only [if_true, List.map_map]; rfl
  | false => rfl

/-- **What a run reports**: the snippets of its warnings, one behind the other, and then what keeps it
from a dump. -/
structure Reports (d : Directory) (a : Arguments) (outcome : Outcome) (warnings : List String)
    (error : String) : Prop where
  /-- Nothing else is reported. -/
  stderr_eq : outcome.stderr = String.join (warnings.map (· ++ "\n")) ++ error
  /-- The warnings are those of the text, if the options want them. -/
  warnings_eq : ∀ o source, Prepared d a o source → warnings = o.warningSnippets source
  /-- Without a text there are no warnings. -/
  warnings_eq_nil : (∀ o source, ¬ Prepared d a o source) → warnings = []
  /-- A run that ends with 1 shows the first illegal character of its text. -/
  error_refused : outcome.ending = .exit 1 → ∃ o source fault, Prepared d a o source ∧
    firstFault? (scan source).tokens = some fault ∧
    error = fault.notice.snippet source o.input.display ++ "\n"
  /-- A run that ends with 2 says what the problem is. -/
  error_problem : outcome.ending = .exit 2 → ∃ text, error = "error: " ++ text ++ "\n"
  /-- Any other run has no error to report. -/
  error_eq_empty : outcome.ending ≠ .exit 1 → outcome.ending ≠ .exit 2 → error = ""

/-- The character that `forbidden?` finds is the `firstFault?`. -/
theorem firstFault?_of_forbidden? {fault : Fault} (h : forbidden? o source = some fault) :
    firstFault? (scan source).tokens = some fault := by
  unfold forbidden? at h
  split at h
  · cases h
  · exact h

/-- `carryOut` reports what is planned to be reported, whether the dump can be written or not. -/
theorem carryOut_withStderr (p : Plan) (text : String) (d : Directory) :
    ({ p with stderr := text } : Plan).carryOut d = { p.carryOut d with stderr := text } := by
  unfold Plan.carryOut
  dsimp only
  cases p.writes with
  | none => rfl
  | some write =>
      dsimp only
      cases d.write write.1 write.2.toUTF8 <;> rfl

/-- A plan ends as planned, or with a `failure` of its output. -/
theorem ending_carryOut_cases (p : Plan) (d : Directory) :
    (p.carryOut d).ending = p.ending ∨ ∃ e, (p.carryOut d).ending = .failure (.output e) := by
  unfold Plan.carryOut
  cases p.writes with
  | none => exact Or.inl rfl
  | some write =>
      dsimp only
      cases d.write write.1 write.2.toUTF8 with
      | ok d' => exact Or.inl rfl
      | error e => exact Or.inr ⟨e, rfl⟩

/-- What is planned for a text is reported: `warningSnippets` and then `refusalOf`. -/
theorem stderr_ofSource (o : Options) (source : String) :
    (Plan.ofSource o source).stderr
      = String.join ((o.warningSnippets source).map (· ++ "\n")) ++ o.refusalOf source := by
  rw [← warningsOf_eq]
  unfold Options.refusalOf
  cases hFault : forbidden? o source with
  | some fault =>
      rw [ofSource_of_forbidden? hFault]
      simp [noticesText]
  | none =>
      rw [ofSource_of_accepts (forbidden?_eq_none_iff.mp hFault)]
      simp

/-- **A run with a text reports its warnings and then the character that forbids the dump:**
`Reports` of `warningSnippets` and `refusalOf`. -/
theorem reports_of_prepared (hParse : CommandLine.parse words = .ok a)
    (hReady : Prepared d a o source) :
    Reports d a (run d words) (o.warningSnippets source) (o.refusalOf source) := by
  -- the warnings do not depend on how the text was prepared: there is one way
  have hWarnings : ∀ o' source', Prepared d a o' source' →
      o.warningSnippets source = o'.warningSnippets source' := by
    intro o' source' hFound
    obtain ⟨rfl, rfl⟩ := hReady.unique hFound
    rfl
  have hStderr : (run d words).stderr = (Plan.ofSource o source).stderr := by
    have hSame := carryOut_withStderr (Plan.ofSource o source) (Plan.ofSource o source).stderr d
    rw [run_of_prepared hParse hReady]
    exact congrArg Outcome.stderr hSame
  rw [stderr_ofSource] at hStderr
  have hNone : (∀ o source, ¬ Prepared d a o source) → o.warningSnippets source = [] :=
    fun h => absurd hReady (h o source)
  cases hFault : forbidden? o source with
  -- the text is refused, which is no ending of any other kind
  | some fault =>
      have hEnding : (run d words).ending = .exit 1 := by
        rw [run_eq_of_runsTo hParse (.rejected hReady hFault)]
      have hRefusal : o.refusalOf source = fault.notice.snippet source o.input.display ++ "\n" := by
        simp only [Options.refusalOf, hFault]
      have hFirst := firstFault?_of_forbidden? hFault
      refine ⟨hStderr, hWarnings, hNone, fun _ => ⟨o, source, fault, hReady, hFirst, hRefusal⟩, ?_,
        fun h => absurd hEnding h⟩
      intro hTwo
      rw [hEnding] at hTwo
      cases hTwo
  -- the text is accepted; only its output can fail
  | none =>
      have hAccepts := forbidden?_eq_none_iff.mp hFault
      have hRefusal : o.refusalOf source = "" := by simp only [Options.refusalOf, hFault]
      have hEnding : (run d words).ending = .exit 0 ∨
          ∃ e, (run d words).ending = .failure (.output e) := by
        have h := ending_carryOut_cases (Plan.ofSource o source) d
        rw [← run_of_prepared hParse hReady] at h
        rwa [ofSource_of_accepts hAccepts] at h
      refine ⟨hStderr, hWarnings, hNone, ?_, ?_, fun _ _ => hRefusal⟩
      all_goals
        intro h
        rcases hEnding with hZero | ⟨e, hFailure⟩
        · rw [hZero] at h
          cases h
        · rw [hFailure] at h
          cases h

/-- **A run without a text reports no warnings**, only what the problem is: `Reports` of `[]` and
all of `stderr`. -/
theorem reports_of_not_prepared (hParse : CommandLine.parse words = .ok a)
    (h : ∀ o source, ¬ Prepared d a o source) :
    Reports d a (run d words) [] (run d words).stderr := by
  have hNone : ∀ o source, Prepared d a o source → [] = o.warningSnippets source :=
    fun o source hReady => absurd hReady (h o source)
  refine ⟨rfl, hNone, fun _ => rfl, ?_, (run_problem hParse d).2.2, ?_⟩
  · intro hOne
    obtain ⟨o, source, hReady, -⟩ := (ending_eq_one_iff hParse).mp hOne
    exact absurd hReady (h o source)
  · have hRun := runsTo_run (d := d) hParse
    generalize run d words = outcome at hRun
    intro _ hTwo
    -- what is reported without a text is a problem, or nothing
    cases hRun with
    | badOptions _ _ => exact absurd rfl hTwo
    | optionsFailure _ _ => rfl
    | unreadable _ _ _ => exact absurd rfl hTwo
    | inputFailure _ _ => rfl
    | notText _ _ _ => exact absurd rfl hTwo
    | rejected hReady _ => exact absurd hReady (h _ _)
    | printed hReady _ _ => exact absurd hReady (h _ _)
    | written hReady _ _ _ => exact absurd hReady (h _ _)
    | outputFailure hReady _ _ _ => exact absurd hReady (h _ _)

/-! ### The three options -/

/-- Quiet plans report no warnings, and are the same otherwise: `stderr` is `refusalOf`. -/
theorem ofSource_quiet (o : Options) (source : String) :
    Plan.ofSource { o with warnings := false } source
      = { Plan.ofSource o source with stderr := o.refusalOf source } := by
  cases hFault : forbidden? o source with
  | some fault =>
      rw [ofSource_of_forbidden? hFault,
        ofSource_of_forbidden? (o := { o with warnings := false }) (by exact hFault)]
      simp only [warningsOf_eq, Options.warningSnippets, Options.refusalOf, hFault]
      simp [noticesText]
  | none =>
      have hAccepts := forbidden?_eq_none_iff.mp hFault
      rw [ofSource_of_accepts hAccepts,
        ofSource_of_accepts (o := { o with warnings := false }) (by exact hAccepts)]
      simp only [warningsOf_eq, Options.warningSnippets, Options.refusalOf, hFault]
      rfl

/-- **A quiet run is the same run without its warnings:** ending, `stdout` and directory are equal.
-/
theorem run_quiet (hLoud : CommandLine.parse words = .ok { a with quiet := false })
    (hQuiet : CommandLine.parse words' = .ok { a with quiet := true }) :
    ∃ warnings error, Reports d { a with quiet := false } (run d words) warnings error ∧
      Reports d { a with quiet := true } (run d words') [] error ∧
      run d words' = { run d words with stderr := error } := by
  have hResolve : resolve d.read { a with quiet := true }
      = (resolve d.read { a with quiet := false }).map fun o => { o with warnings := false } :=
    resolve_quiet d.read { a with quiet := false }
  by_cases hText : ∃ o source, Prepared d { a with quiet := false } o source
  -- with a text the quiet plan is the loud one without its warnings
  · obtain ⟨o, source, hReady⟩ := hText
    have hReady' := hReady.changed hResolve fun _ => rfl
    have hReports := reports_of_prepared hQuiet hReady'
    refine ⟨_, _, reports_of_prepared hLoud hReady, by exact hReports, ?_⟩
    rw [run_of_prepared hQuiet hReady', run_of_prepared hLoud hReady, ofSource_quiet,
      carryOut_withStderr]
  -- without a text the two runs are the same
  · have hNone : ∀ o source, ¬ Prepared d { a with quiet := false } o source :=
      fun o source hReady => hText ⟨o, source, hReady⟩
    have hNone' := not_prepared_changed hResolve (fun _ => rfl) hNone
    have hSame := run_eq_of_not_prepared hResolve (fun _ => rfl) hLoud hQuiet hNone
    have hReports := reports_of_not_prepared hQuiet hNone'
    rw [hSame] at hReports
    exact ⟨_, _, reports_of_not_prepared hLoud hNone, by rwa [hSame], hSame⟩

/-- `d.write` fails for the same reason whatever the bytes are. -/
theorem write_eq_error_congr {path : Path} {bytes bytes' : ByteArray} {e : FileError}
    (h : d.write path bytes = .error e) : d.write path bytes' = .error e := by
  unfold Directory.write at h ⊢
  cases hPlace : d.locate path with
  | error cause => simpa [hPlace] using h
  | ok l =>
      rw [hPlace] at h
      dsimp only at h ⊢
      cases hEntry : d.get? l with
      | none => simp [hEntry] at h
      | some entry => cases entry <;> simp_all

/-- Plans that end alike and write to the same place end alike when they are carried out. -/
theorem ending_carryOut_congr {p p' : Plan} (hEnding : p'.ending = p.ending)
    (hWrites : p'.writes.map Prod.fst = p.writes.map Prod.fst) :
    (p'.carryOut d).ending = (p.carryOut d).ending := by
  unfold Plan.carryOut
  rcases hAfter : p'.writes with _ | ⟨path', text'⟩
  all_goals
    rcases hBefore : p.writes with _ | ⟨path, text⟩
    all_goals rw [hAfter, hBefore] at hWrites
  · exact hEnding
  · cases hWrites
  · cases hWrites
  · obtain rfl : path' = path := by simpa using hWrites
    dsimp only
    cases hError : d.write path' text'.toUTF8 with
    | error e => rw [write_eq_error_congr hError]
    | ok d' =>
        cases hError' : d.write path' text.toUTF8 with
        | error e => rw [write_eq_error_congr hError'] at hError; cases hError
        | ok d'' => exact hEnding

/-- The form of the dump changes neither `ending` nor `stderr` of a plan, nor where it writes to. -/
theorem ofSource_format (o : Options) (f : DumpFormat) (source : String) :
    (Plan.ofSource { o with format := .named f } source).ending = (Plan.ofSource o source).ending ∧
      (Plan.ofSource { o with format := .named f } source).writes.map Prod.fst
        = (Plan.ofSource o source).writes.map Prod.fst := by
  cases hFault : forbidden? o source with
  | some fault =>
      rw [ofSource_of_forbidden? hFault,
        ofSource_of_forbidden? (o := { o with format := .named f }) (by exact hFault)]
      exact ⟨rfl, rfl⟩
  | none =>
      have hAccepts := forbidden?_eq_none_iff.mp hFault
      rw [ofSource_of_accepts hAccepts,
        ofSource_of_accepts (o := { o with format := .named f }) (by exact hAccepts)]
      refine ⟨rfl, ?_⟩
      cases o.output <;> rfl

/-- **The form of the dump changes neither the `ending` of a run nor its `stderr`.** -/
theorem run_format {f f' : DumpFormat}
    (hParse : CommandLine.parse words = .ok { a with format := .value f })
    (hParse' : CommandLine.parse words' = .ok { a with format := .value f' }) :
    (run d words').ending = (run d words).ending ∧ (run d words').stderr = (run d words).stderr := by
  have hResolve : resolve d.read { a with format := .value f' }
      = (resolve d.read { a with format := .value f }).map fun o => { o with format := .named f' } :=
    resolve_format d.read { a with format := .value f } f'
  by_cases hText : ∃ o source, Prepared d { a with format := .value f } o source
  -- with a text the plans differ in the dump only
  · obtain ⟨o, source, hReady⟩ := hText
    have hReady' := hReady.changed hResolve fun _ => rfl
    refine ⟨?_, ?_⟩
    · obtain ⟨hEnding, hWrites⟩ := ofSource_format o f' source
      rw [run_of_prepared hParse hReady, run_of_prepared hParse' hReady']
      exact ending_carryOut_congr hEnding hWrites
    · rw [(reports_of_prepared hParse hReady).stderr_eq,
        (reports_of_prepared hParse' hReady').stderr_eq]
      rfl
  -- without a text the two runs are the same
  · have hNone : ∀ o source, ¬ Prepared d { a with format := .value f } o source :=
      fun o source hReady => hText ⟨o, source, hReady⟩
    rw [run_eq_of_not_prepared hResolve (fun _ => rfl) hParse hParse' hNone]
    exact ⟨rfl, rfl⟩

/-- **Allowing illegal characters changes nothing for a run that ends with `exit 0`**, and for one
that ends with `exit 1` it takes back the refusal. -/
theorem run_allowIllegal (hStrict : CommandLine.parse words = .ok { a with allowIllegal := false })
    (hLenient : CommandLine.parse words' = .ok { a with allowIllegal := true }) :
    ((run d words).ending = .exit 0 → run d words' = run d words) ∧
    ((run d words).ending = .exit 1 →
      (∀ name, a.output = .value name → name ≠ "" → d.CanWrite (.ofString name)) →
      ∃ o source, Prepared d { a with allowIllegal := false } o source ∧
        (run d words').ending = .exit 0 ∧
        Reports d { a with allowIllegal := false } (run d words) (o.warningSnippets source)
          (o.refusalOf source) ∧
        Reports d { a with allowIllegal := true } (run d words') (o.warningSnippets source) "" ∧
        Delivered d { a with allowIllegal := true } (o.format.dump (scan source).tokens)
          (run d words')) := by
  have hResolve : resolve d.read { a with allowIllegal := true }
      = (resolve d.read { a with allowIllegal := false }).map
          fun o => { o with allowIllegal := true } :=
    resolve_allowIllegal d.read { a with allowIllegal := false }
  refine ⟨?_, ?_⟩
  -- the strict run accepts its text, so that the lenient one does the same with it
  · intro hZero
    obtain ⟨o, source, hReady, hAccepts, -⟩ := (ending_eq_zero_iff hStrict).mp hZero
    have hReady' := hReady.changed hResolve fun _ => rfl
    rw [run_of_prepared hStrict hReady, run_of_prepared hLenient hReady',
      ofSource_of_accepts hAccepts, ofSource_of_accepts (Or.inl rfl)]
    rfl
  -- the strict run refuses its text; the lenient one accepts any
  · intro hOne hWritable
    obtain ⟨o, source, hReady, -⟩ := (ending_eq_one_iff hStrict).mp hOne
    have hReady' := hReady.changed hResolve fun _ => rfl
    have hZero : (run d words').ending = .exit 0 :=
      (ending_eq_zero_iff hLenient).mpr ⟨_, source, hReady', Or.inl rfl, hWritable⟩
    have hReports := reports_of_prepared hLenient hReady'
    have hDelivered := delivered_of_ending hLenient hReady' hZero
    exact ⟨o, source, hReady, hZero, reports_of_prepared hStrict hReady, hReports, hDelivered⟩

/-- **Each option changes its own output only**, be the directory what it may. The quiet run is the
same run with nothing but the error on its standard error. The form of the dump changes neither the
ending nor what is reported. Allowing illegal characters changes nothing for a run that succeeds; for
one that is refused it takes the refusal back, keeps the warnings, and delivers the dump of all
tokens, if the output can be written. -/
theorem option_channels (d : Directory) (a : Arguments) (words words' : List String) :
    (CommandLine.parse words = .ok { a with quiet := false } →
      CommandLine.parse words' = .ok { a with quiet := true } →
      ∃ warnings error, Reports d { a with quiet := false } (run d words) warnings error ∧
        Reports d { a with quiet := true } (run d words') [] error ∧
        run d words' = { run d words with stderr := error }) ∧
    (CommandLine.parse words = .ok { a with format := .value .text } →
      CommandLine.parse words' = .ok { a with format := .value .json } →
      (run d words').ending = (run d words).ending ∧
        (run d words').stderr = (run d words).stderr) ∧
    (CommandLine.parse words = .ok { a with allowIllegal := false } →
      CommandLine.parse words' = .ok { a with allowIllegal := true } →
      ((run d words).ending = .exit 0 → run d words' = run d words) ∧
      ((run d words).ending = .exit 1 →
        (∀ name, a.output = .value name → name ≠ "" → d.CanWrite (.ofString name)) →
        ∃ o source warnings error, Prepared d { a with allowIllegal := false } o source ∧
          (run d words').ending = .exit 0 ∧
          Reports d { a with allowIllegal := false } (run d words) warnings error ∧
          Reports d { a with allowIllegal := true } (run d words') warnings "" ∧
          Delivered d { a with allowIllegal := true } (o.format.dump (scan source).tokens)
            (run d words'))) := by
  refine ⟨run_quiet, run_format, fun hStrict hLenient => ?_⟩
  obtain ⟨hSame, hTakenBack⟩ := run_allowIllegal (d := d) hStrict hLenient
  refine ⟨hSame, fun hOne hWritable => ?_⟩
  -- both runs report the warnings of the one text; the error is taken back
  obtain ⟨o, source, hReady, hZero, hBefore, hAfter, hDelivered⟩ := hTakenBack hOne hWritable
  exact ⟨o, source, _, _, hReady, hZero, hBefore, hAfter, hDelivered⟩

/-- The warning about the open string of the only file, as `stderr` shows it. -/
def oneWarning : String :=
  "warning: unterminated string literal\n  --> a:1:3\n  |\n1 | @ \"\n  |   ^\n"

/-- The error about the illegal character of the only file, as `stderr` shows it. -/
def oneError : String := "error: illegal character '@'\n  --> a:1:1\n  |\n1 | @ \"\n  | ^\n"

/-- A text with an open string and an illegal character: the plain run is refused, the quiet one says
the error alone, the form of the dump makes no difference, and with illegal characters allowed the
warning alone is left and the dump is printed. -/
theorem option_channels_refused :
    CommandLine.parse ["a"] = .ok ⟨.none, "a"⟩ ∧
      CommandLine.parse ["-q", "a"] = .ok ⟨{ Choices.none with quiet := true }, "a"⟩ ∧
      CommandLine.parse ["--allow-illegal", "a"]
        = .ok ⟨{ Choices.none with allowIllegal := true }, "a"⟩ ∧
      CommandLine.parse ["--format=text", "a"]
        = .ok ⟨{ Choices.none with format := .value .text }, "a"⟩ ∧
      CommandLine.parse ["--format=json", "a"]
        = .ok ⟨{ Choices.none with format := .value .json }, "a"⟩ ∧
      (run oneFile ["a"]).ending = .exit 1 ∧
      (run oneFile ["a"]).stderr = oneWarning ++ oneError ∧
      run oneFile ["-q", "a"] = { run oneFile ["a"] with stderr := oneError } ∧
      (run oneFile ["--format=json", "a"]).stderr = (run oneFile ["--format=text", "a"]).stderr ∧
      (run oneFile ["--allow-illegal", "a"]).ending = .exit 0 ∧
      (run oneFile ["--allow-illegal", "a"]).stderr = oneWarning := by
  have hPlain : CommandLine.parse ["a"] = .ok ⟨.none, "a"⟩ := rfl
  have hQuiet : CommandLine.parse ["-q", "a"]
      = .ok ⟨{ Choices.none with quiet := true }, "a"⟩ := rfl
  have hLenient : CommandLine.parse ["--allow-illegal", "a"]
      = .ok ⟨{ Choices.none with allowIllegal := true }, "a"⟩ := rfl
  have hText : CommandLine.parse ["--format=text", "a"]
      = .ok ⟨{ Choices.none with format := .value .text }, "a"⟩ := rfl
  have hJson : CommandLine.parse ["--format=json", "a"]
      = .ok ⟨{ Choices.none with format := .value .json }, "a"⟩ := rfl
  obtain ⟨hOne, hSaid, hError, hLeft⟩ : (run oneFile ["a"]).ending = .exit 1 ∧
      (run oneFile ["a"]).stderr = oneWarning ++ oneError ∧
      (run oneFile ["-q", "a"]).stderr = oneError ∧
      (run oneFile ["--allow-illegal", "a"]).stderr = oneWarning := by decide +kernel
  obtain ⟨warnings, said, -, -, hSame⟩ :=
    (option_channels oneFile ⟨.none, "a"⟩ _ _).1 hPlain hQuiet
  obtain rfl : said = oneError := (congrArg Outcome.stderr hSame).symm.trans hError
  obtain ⟨-, hForm⟩ := (option_channels oneFile ⟨.none, "a"⟩ _ _).2.1 hText hJson
  have hPrinted : ∀ name, (⟨.none, "a"⟩ : Arguments).output = .value name → name ≠ "" →
      oneFile.CanWrite (.ofString name) := nofun
  obtain ⟨-, -, -, -, -, hZero, -⟩ :=
    ((option_channels oneFile ⟨.none, "a"⟩ _ _).2.2 hPlain hLenient).2 hOne hPrinted
  exact ⟨hPlain, hQuiet, hLenient, hText, hJson, hOne, hSaid, hSame, hForm, hZero, hLeft⟩

end MarkupScan
