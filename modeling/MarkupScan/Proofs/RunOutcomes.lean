import MarkupScan.Proofs.FileTree
import MarkupScan.Run

/-! # What a run can come to

A run plans what it does before it writes anything. Here its possible outcomes are listed instead,
each with the conditions under which it is the one, so that facts about all runs are proved by going
through the list.

Main definitions.
* **`Prepared`**: the options of a run and the text of its input.
* **`Options.Accepts`**: a text is dumped under given options.
* **`RunsTo`**: the outcomes of a run with given arguments.

Main statement.
* **`run_eq_iff`**: a run has exactly the outcome that is listed for it. -/

namespace MarkupScan

open CommandLine (Arguments)
open Files (Directory FileError Path)

/-! ### What a run reads -/

/-- `String.fromUTF8?` reads bytes as the text whose `toUTF8` they are. -/
theorem fromUTF8?_eq_some_iff {bytes : ByteArray} {text : String} :
    String.fromUTF8? bytes = some text ↔ bytes = text.toUTF8 := by
  unfold String.fromUTF8?
  split
  · constructor
    · rintro h
      cases h
      rfl
    · rintro rfl
      rfl
  · rename_i hInvalid
    constructor
    · intro h
      cases h
    · rintro rfl
      exact absurd text.isValidUTF8 hInvalid

/-- `String.fromUTF8?` reads no text where the bytes are `toUTF8` of none. -/
theorem fromUTF8?_eq_none_iff {bytes : ByteArray} :
    String.fromUTF8? bytes = none ↔ ∀ text : String, bytes ≠ text.toUTF8 := by
  rw [Option.eq_none_iff_forall_not_mem]
  exact forall_congr' fun text => not_congr fromUTF8?_eq_some_iff

/-- The text of an input, whose line ends become line feeds (`unifyNewlines`). -/
def sourceOf (text : String) : String := String.ofList (Text.unifyNewlines text.toList)

/-- **An input is read where its bytes are the encoding of a text:** `readSource` gives `sourceOf`
of that text. -/
theorem readSource_eq_ok_iff {files : FileView} {path : Path} {source : String} :
    readSource files path = .ok source ↔
      ∃ text, files path = .ok text.toUTF8 ∧ source = sourceOf text := by
  unfold readSource
  constructor
  · intro h
    cases hFile : files path with
    | error e => rw [hFile] at h; cases h
    | ok bytes =>
        rw [hFile] at h
        cases hText : String.fromUTF8? bytes with
        | none => simp [hText] at h
        | some text =>
            simp only [hText, Except.ok.injEq] at h
            exact ⟨text, by rw [fromUTF8?_eq_some_iff.mp hText], h.symm⟩
  · rintro ⟨text, hFile, rfl⟩
    rw [hFile]
    simp only [fromUTF8?_eq_some_iff.mpr rfl]
    rfl

/-- **The options of a run and the text of its input**, in a directory and with given arguments. -/
structure Prepared (d : Directory) (a : Arguments) (o : Options) (source : String) : Prop where
  /-- The options are what the command line and the configuration `resolve` to. -/
  options : resolve d.read a = .ok o
  /-- The bytes of the input are the encoding of a text, of which `source` is the `sourceOf`. -/
  input : ∃ text, d.read o.input = .ok text.toUTF8 ∧ source = sourceOf text

/-- `Prepared d a` holds of one `o` and one `source`. -/
theorem Prepared.unique {d : Directory} {a : Arguments} {o o' : Options} {source source' : String}
    (h : Prepared d a o source) (h' : Prepared d a o' source') : o' = o ∧ source' = source := by
  have hOptions : Except.ok o' = Except.ok o := h'.options.symm.trans h.options
  cases hOptions
  have hSource := (readSource_eq_ok_iff.mpr h.input).symm.trans (readSource_eq_ok_iff.mpr h'.input)
  cases hSource
  exact ⟨rfl, rfl⟩

/-! ### Which texts are dumped -/

/-- **The text is dumped under these options**: illegal characters are allowed, or there are none.
-/
def Options.Accepts (o : Options) (source : String) : Prop :=
  o.allowIllegal = true ∨ ∀ t ∈ (scan source).tokens, t.category ≠ .illegal

/-- What keeps a text from being dumped is its `firstFault?`, if the options forbid it. -/
def forbidden? (o : Options) (source : String) : Option Fault :=
  if o.allowIllegal then none else firstFault? (scan source).tokens

/-- **A text is dumped where nothing forbids it:** `forbidden? o source = none` exactly if
`o.Accepts source`. -/
theorem forbidden?_eq_none_iff {o : Options} {source : String} :
    forbidden? o source = none ↔ o.Accepts source := by
  unfold forbidden? Options.Accepts
  split
  · rename_i hAllowed
    simp [hAllowed]
  · rename_i hStrict
    rw [firstFault?_eq_none_iff]
    simp [hStrict]

/-- The dump of `source` under the options `o`. -/
def Options.dumpOf (o : Options) (source : String) : String := o.format.dump (scan source).tokens

/-- The reported warnings of `source` under the options `o`. -/
def Options.warningsOf (o : Options) (source : String) : String :=
  (report o source).warningsText source o.input.display

/-! ### Outcomes -/

/-- **The outcomes of a run** with given arguments in a directory. -/
inductive RunsTo (d : Directory) (a : Arguments) : Outcome → Prop
  /-- The options are wrong, and the run says so: `exit 2`. -/
  | badOptions {e : OptionsError} {text : String} (hOptions : resolve d.read a = .error e)
      (hText : e.report = .ok text) :
      RunsTo d a ⟨.exit 2, "", "error: " ++ text ++ "\n", d⟩
  /-- The options are wrong in a way that is not handled: a `failure`. -/
  | optionsFailure {e : OptionsError} {cause : ConfigError}
      (hOptions : resolve d.read a = .error e) (hCause : e.report = .error cause) :
      RunsTo d a ⟨.failure (.config cause), "", "", d⟩
  /-- The input cannot be read: `exit 2`. -/
  | unreadable {o : Options} {e : FileError} (hOptions : resolve d.read a = .ok o)
      (hInput : d.read o.input = .error e) (hPath : e ≠ .zeroInPath) :
      RunsTo d a ⟨.exit 2, "",
        "error: " ++ ("cannot read " ++ o.input.display ++ ": " ++ e.message) ++ "\n", d⟩
  /-- The path of the input is no path, which is not handled: a `failure`. -/
  | inputFailure {o : Options} (hOptions : resolve d.read a = .ok o)
      (hInput : d.read o.input = .error .zeroInPath) :
      RunsTo d a ⟨.failure (.input .zeroInPath), "", "", d⟩
  /-- The bytes of the input are no text: `exit 2`. -/
  | notText {o : Options} {bytes : ByteArray} (hOptions : resolve d.read a = .ok o)
      (hInput : d.read o.input = .ok bytes) (hBytes : ∀ text : String, bytes ≠ text.toUTF8) :
      RunsTo d a ⟨.exit 2, "", "error: " ++ (o.input.display ++ " is not valid UTF-8") ++ "\n", d⟩
  /-- An illegal character forbids the dump: `exit 1`. -/
  | rejected {o : Options} {source : String} {fault : Fault} (hReady : Prepared d a o source)
      (hFault : forbidden? o source = some fault) :
      RunsTo d a ⟨.exit 1, "",
        o.warningsOf source ++ noticesText [fault.notice] source o.input.display, d⟩
  /-- The dump is printed: `exit 0`. -/
  | printed {o : Options} {source : String} (hReady : Prepared d a o source)
      (hAccepts : o.Accepts source) (hOutput : o.output = none) :
      RunsTo d a ⟨.exit 0, o.dumpOf source, o.warningsOf source, d⟩
  /-- The dump is written to a file: `exit 0`. -/
  | written {o : Options} {source : String} {path : Path} {d' : Directory}
      (hReady : Prepared d a o source) (hAccepts : o.Accepts source)
      (hOutput : o.output = some path) (hWrite : d.write path (o.dumpOf source).toUTF8 = .ok d') :
      RunsTo d a ⟨.exit 0, "", o.warningsOf source, d'⟩
  /-- The dump cannot be written, which is not handled: a `failure`. -/
  | outputFailure {o : Options} {source : String} {path : Path} {e : FileError}
      (hReady : Prepared d a o source) (hAccepts : o.Accepts source)
      (hOutput : o.output = some path) (hWrite : d.write path (o.dumpOf source).toUTF8 = .error e) :
      RunsTo d a ⟨.failure (.output e), "", o.warningsOf source, d⟩

section Outcomes

variable {d : Directory} {words : List String} {a : Arguments} {o : Options} {source : String}

/-- Without options a run is `Plan.ofOptionsError`, carried out. -/
theorem run_of_optionsError (hParse : CommandLine.parse words = .ok a) {e : OptionsError}
    (hOptions : resolve d.read a = .error e) :
    run d words = (Plan.ofOptionsError e).carryOut d := by
  rw [run, plan, hParse]
  simp only [Plan.ofArguments, hOptions]

/-- With options a run is `Plan.ofOptions`, carried out. -/
theorem run_of_options (hParse : CommandLine.parse words = .ok a)
    (hOptions : resolve d.read a = .ok o) :
    run d words = (Plan.ofOptions d.read o).carryOut d := by
  rw [run, plan, hParse]
  simp only [Plan.ofArguments, hOptions]

/-- With options and a text a run is `Plan.ofSource`, carried out. -/
theorem run_of_prepared (hParse : CommandLine.parse words = .ok a) (h : Prepared d a o source) :
    run d words = (Plan.ofSource o source).carryOut d := by
  rw [run_of_options hParse h.options, Plan.ofOptions, readSource_eq_ok_iff.mpr h.input]

/-- A text is refused for the fault that `forbidden?` finds: `exit 1`, and nothing is written. -/
theorem ofSource_of_forbidden? {fault : Fault} (h : forbidden? o source = some fault) :
    Plan.ofSource o source = ⟨.exit 1, "",
      o.warningsOf source ++ noticesText [fault.notice] source o.input.display, none⟩ := by
  unfold forbidden? at h
  simp only [Plan.ofSource, Options.warningsOf, report, h]

/-- A text that `o.Accepts` is printed or written: `exit 0`. -/
theorem ofSource_of_accepts (h : o.Accepts source) :
    Plan.ofSource o source = ⟨.exit 0, if o.output = none then o.dumpOf source else "",
      o.warningsOf source, o.output.map (·, o.dumpOf source)⟩ := by
  have hNone := forbidden?_eq_none_iff.mpr h
  unfold forbidden? at hNone
  simp only [Plan.ofSource, Options.warningsOf, Options.dumpOf, report, hNone]
  cases o.output with
  | none => rfl
  | some path => rfl

/-- **A run has the outcome that is listed for it:** `RunsTo d a outcome` implies
`run d words = outcome`. -/
theorem run_eq_of_runsTo (hParse : CommandLine.parse words = .ok a) {outcome : Outcome}
    (h : RunsTo d a outcome) : run d words = outcome := by
  cases h with
  | badOptions hOptions hText =>
      rw [run_of_optionsError hParse hOptions, Plan.ofOptionsError, hText]
      rfl
  | optionsFailure hOptions hCause =>
      rw [run_of_optionsError hParse hOptions, Plan.ofOptionsError, hCause]
      rfl
  | @unreadable o e hOptions hInput hPath =>
      rw [run_of_options hParse hOptions, Plan.ofOptions, readSource, hInput]
      cases e with
      | zeroInPath => exact absurd rfl hPath
      | _ => rfl
  | inputFailure hOptions hInput =>
      rw [run_of_options hParse hOptions, Plan.ofOptions, readSource, hInput]
      rfl
  | @notText o bytes hOptions hInput hBytes =>
      rw [run_of_options hParse hOptions, Plan.ofOptions, readSource, hInput]
      simp only [fromUTF8?_eq_none_iff.mpr hBytes]
      rfl
  | rejected hReady hFault =>
      rw [run_of_prepared hParse hReady, ofSource_of_forbidden? hFault]
      rfl
  | printed hReady hAccepts hOutput =>
      rw [run_of_prepared hParse hReady, ofSource_of_accepts hAccepts, hOutput]
      rfl
  | written hReady hAccepts hOutput hWrite =>
      rw [run_of_prepared hParse hReady, ofSource_of_accepts hAccepts, hOutput]
      simp only [Plan.carryOut, Option.map_some, hWrite]
      rfl
  | outputFailure hReady hAccepts hOutput hWrite =>
      rw [run_of_prepared hParse hReady, ofSource_of_accepts hAccepts, hOutput]
      simp only [Plan.carryOut, Option.map_some, hWrite]
      rfl

/-- A run that is `Prepared` has a listed outcome. -/
theorem Prepared.exists_runsTo (h : Prepared d a o source) : ∃ outcome, RunsTo d a outcome := by
  cases hFault : forbidden? o source with
  | some fault => exact ⟨_, .rejected h hFault⟩
  | none =>
      have hAccepts := forbidden?_eq_none_iff.mp hFault
      cases hOutput : o.output with
      | none => exact ⟨_, .printed h hAccepts hOutput⟩
      | some path =>
          cases hWrite : d.write path (o.dumpOf source).toUTF8 with
          | ok d' => exact ⟨_, .written h hAccepts hOutput hWrite⟩
          | error e => exact ⟨_, .outputFailure h hAccepts hOutput hWrite⟩

/-- **The list is complete**: with any arguments and in any directory, `RunsTo d a` holds of some
outcome. -/
theorem exists_runsTo (d : Directory) (a : Arguments) : ∃ outcome, RunsTo d a outcome := by
  -- in the order in which a run finds out: the options, the input, the text
  cases hOptions : resolve d.read a with
  | error e =>
      cases hReport : e.report with
      | ok text => exact ⟨_, .badOptions hOptions hReport⟩
      | error cause => exact ⟨_, .optionsFailure hOptions hReport⟩
  | ok o =>
      cases hInput : d.read o.input with
      | error e =>
          by_cases hPath : e = .zeroInPath
          · subst hPath
            exact ⟨_, .inputFailure hOptions hInput⟩
          · exact ⟨_, .unreadable hOptions hInput hPath⟩
      | ok bytes =>
          by_cases hText : ∃ text : String, bytes = text.toUTF8
          · obtain ⟨text, rfl⟩ := hText
            exact Prepared.exists_runsTo ⟨hOptions, text, hInput, rfl⟩
          · exact ⟨_, .notText hOptions hInput fun text hBytes => hText ⟨text, hBytes⟩⟩

/-- **A run has exactly the outcome that is listed for it:** `run d words = outcome` exactly if
`RunsTo d a outcome`. -/
theorem run_eq_iff (hParse : CommandLine.parse words = .ok a) {outcome : Outcome} :
    run d words = outcome ↔ RunsTo d a outcome := by
  constructor
  · rintro rfl
    obtain ⟨outcome, h⟩ := exists_runsTo d a
    rwa [run_eq_of_runsTo hParse h]
  · exact run_eq_of_runsTo hParse

/-- `RunsTo d a (run d words)`: the outcome of a run is listed. -/
theorem runsTo_run (hParse : CommandLine.parse words = .ok a) : RunsTo d a (run d words) :=
  (run_eq_iff hParse).mp rfl

end Outcomes

end MarkupScan
