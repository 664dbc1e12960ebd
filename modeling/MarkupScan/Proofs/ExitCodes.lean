import MarkupScan.Proofs.RunOutcomes

/-! # What the exit code of a run means

A run delivers all of its dump or changes nothing, and its exit code says which. A problem with the
options or with the input is reported with the code 2, except for a few that no handler catches.

Main definitions.
* **`Delivered`**: what a run has done with its dump.
* **`Problem`**: the problems of a run, with the way in which each of them ends it.

Main statements.
* **`run_all_or_nothing`**: the code 0 means that the dump is delivered, the code 1 that an illegal
  character forbids it; and whatever is not the code 0 leaves everything as it was.
* **`run_problem`**: every problem ends a run in its own way, and without a problem a run ends with
  the code 0 or 1. -/

namespace MarkupScan

open CommandLine (Arguments Given)
open Files (Directory FileError Path)

variable {d : Directory} {words : List String} {a : Arguments} {o : Options} {source : String}

/-! ### The output of a command line -/

/-- `pathOf?` gives the path of a name that is not empty, and no other. -/
theorem pathOf?_eq_some_iff {given : Given String} {path : Path} :
    pathOf? given = some path ↔ ∃ name, given = .value name ∧ name ≠ "" ∧ path = .ofString name := by
  cases given with
  | absent => simp [pathOf?]
  | blank => simp [pathOf?]
  | value name =>
      by_cases hName : name = ""
      · simp [pathOf?, hName]
      · simp [pathOf?, hName, eq_comm]

/-- `pathOf? given = none` for an empty name, or for none. -/
theorem pathOf?_eq_none_iff {given : Given String} :
    pathOf? given = none ↔ ∀ name, given = .value name → name = "" := by
  cases given with
  | absent => simp [pathOf?]
  | blank => simp [pathOf?]
  | value name => simp [pathOf?]

/-- `resolve` is `loadConfig` and then `merge`. -/
theorem resolve_eq_ok_iff {files : FileView} :
    resolve files a = .ok o ↔
      ∃ config, loadConfig files (configPathOf a) = .ok config ∧ merge a config = .ok o := by
  unfold resolve
  cases loadConfig files (configPathOf a) with
  | error e => simp
  | ok config => cases hMerge : merge a config <;> simp [hMerge]

/-- **The output depends on the command line only:** it is `pathOf? a.output`. -/
theorem output_of_resolve {files : FileView} (h : resolve files a = .ok o) :
    o.output = pathOf? a.output := by
  obtain ⟨config, -, hMerge⟩ := resolve_eq_ok_iff.mp h
  unfold merge at hMerge
  split at hMerge
  · cases hMerge
  · cases hMerge
    rfl

/-- **Without its output a command line has the same options otherwise:** only `o.output` becomes
`none`. -/
theorem resolve_withoutOutput {files : FileView} (h : resolve files a = .ok o) :
    resolve files { a with output := .absent } = .ok { o with output := none } := by
  obtain ⟨config, hConfig, hMerge⟩ := resolve_eq_ok_iff.mp h
  refine resolve_eq_ok_iff.mpr ⟨config, hConfig, ?_⟩
  unfold merge at hMerge ⊢
  split at hMerge
  · cases hMerge
  · cases hMerge
    rfl

/-- `Prepared` does not depend on the output. -/
theorem Prepared.withoutOutput (h : Prepared d a o source) :
    Prepared d { a with output := .absent } { o with output := none } source :=
  ⟨resolve_withoutOutput h.options, h.input⟩

/-! ### Success -/

/-- **What a run has done with its dump.** -/
structure Delivered (d : Directory) (a : Arguments) (dump : String) (outcome : Outcome) : Prop where
  /-- With a name of an output the dump is `Written` there, in UTF-8, and nothing is printed. -/
  written : ∀ name, a.output = .value name → name ≠ "" →
    outcome.stdout = "" ∧ d.Written (.ofString name) dump.toUTF8 outcome.directory
  /-- Without one the dump is `stdout`, and no file is changed. -/
  printed : (∀ name, a.output = .value name → name = "") →
    outcome.stdout = dump ∧ outcome.directory = d

/-- **A run succeeds**, with `exit 0`, where its text is accepted and its output can be written. -/
theorem ending_eq_zero_iff (hParse : CommandLine.parse words = .ok a) :
    (run d words).ending = .exit 0 ↔ ∃ o source, Prepared d a o source ∧ o.Accepts source ∧
      ∀ name, a.output = .value name → name ≠ "" → d.CanWrite (.ofString name) := by
  constructor
  · intro h
    have hRun := runsTo_run (d := d) hParse
    generalize run d words = outcome at h hRun
    -- only two of the listed outcomes end with `exit 0`
    cases hRun with
    | @printed o source hReady hAccepts hOutput =>
        rw [output_of_resolve hReady.options, pathOf?_eq_none_iff] at hOutput
        exact ⟨o, source, hReady, hAccepts, fun name hName hSome => absurd (hOutput name hName) hSome⟩
    | @written o source path d' hReady hAccepts hOutput hWrite =>
        refine ⟨o, source, hReady, hAccepts, ?_⟩
        intro name hName hSome
        rw [output_of_resolve hReady.options,
          pathOf?_eq_some_iff.mpr ⟨name, hName, hSome, rfl⟩] at hOutput
        cases hOutput
        exact Directory.exists_write_iff.mp ⟨d', hWrite⟩
    | _ => cases h
  · rintro ⟨o, source, hReady, hAccepts, hWritable⟩
    cases hOutput : o.output with
    | none => rw [run_eq_of_runsTo hParse (.printed hReady hAccepts hOutput)]
    -- a path of an output comes from a name, at which a file can be written
    | some path =>
        have hPath := hOutput
        rw [output_of_resolve hReady.options] at hPath
        obtain ⟨name, hName, hSome, rfl⟩ := pathOf?_eq_some_iff.mp hPath
        obtain ⟨d', hWrite⟩ := Directory.exists_write_iff.mpr (hWritable name hName hSome)
        rw [run_eq_of_runsTo hParse (.written hReady hAccepts hOutput hWrite)]

/-- **A run that succeeds has `Delivered` its dump.** -/
theorem delivered_of_ending (hParse : CommandLine.parse words = .ok a)
    (hReady : Prepared d a o source) (h : (run d words).ending = .exit 0) :
    Delivered d a (o.dumpOf source) (run d words) := by
  have hRun := runsTo_run (d := d) hParse
  generalize run d words = outcome at h hRun
  cases hRun with
  | printed hFound hAccepts hOutput =>
      obtain ⟨rfl, rfl⟩ := hReady.unique hFound
      rw [output_of_resolve hReady.options, pathOf?_eq_none_iff] at hOutput
      exact ⟨fun name hName hSome => absurd (hOutput name hName) hSome, fun _ => ⟨rfl, rfl⟩⟩
  | written hFound hAccepts hOutput hWrite =>
      obtain ⟨rfl, rfl⟩ := hReady.unique hFound
      rw [output_of_resolve hReady.options] at hOutput
      obtain ⟨name, hName, hSome, rfl⟩ := pathOf?_eq_some_iff.mp hOutput
      refine ⟨?_, fun hNone => absurd (hNone name hName) hSome⟩
      intro other hOther _
      rw [hName] at hOther
      cases hOther
      exact ⟨rfl, Directory.written_of_write hWrite⟩
  | _ => cases h

/-! ### Refusal -/

/-- A text is refused where a token is `illegal` and `o.allowIllegal` is `false`. -/
theorem not_accepts_iff :
    ¬ o.Accepts source ↔
      o.allowIllegal = false ∧ ∃ t ∈ (scan source).tokens, t.category = .illegal := by
  simp [Options.Accepts]

/-- **A run ends with `exit 1`** where its text is not accepted. -/
theorem ending_eq_one_iff (hParse : CommandLine.parse words = .ok a) :
    (run d words).ending = .exit 1 ↔ ∃ o source, Prepared d a o source ∧ ¬ o.Accepts source := by
  constructor
  · intro h
    have hRun := runsTo_run (d := d) hParse
    generalize run d words = outcome at h hRun
    cases hRun with
    | @rejected o source fault hReady hFault =>
        refine ⟨o, source, hReady, ?_⟩
        rw [← forbidden?_eq_none_iff, hFault]
        exact Option.some_ne_none fault
    | _ => cases h
  · rintro ⟨o, source, hReady, hRefused⟩
    rw [← forbidden?_eq_none_iff] at hRefused
    obtain ⟨fault, hFault⟩ := Option.ne_none_iff_exists'.mp hRefused
    rw [run_eq_of_runsTo hParse (.rejected hReady hFault)]

/-- **A run that does not end with `exit 0` changes nothing** and prints nothing. -/
theorem unchanged_of_ending (hParse : CommandLine.parse words = .ok a)
    (h : (run d words).ending ≠ .exit 0) :
    (run d words).stdout = "" ∧ (run d words).directory = d := by
  have hRun := runsTo_run (d := d) hParse
  generalize run d words = outcome at h hRun
  -- only the two outcomes with the code 0 print or write anything
  cases hRun with
  | printed _ _ _ => exact absurd rfl h
  | written _ _ _ _ => exact absurd rfl h
  | _ => exact ⟨rfl, rfl⟩

/-- **All or nothing.** A run ends with the code 0 exactly where its options resolve, its input is
text, no illegal character forbids the dump, and the output can be written; then the dump is
delivered, and the same command line without its output prints the same dump. It ends with the code 1
exactly where an illegal character forbids the dump. Whenever it does not end with the code 0, it
prints nothing and changes no file. -/
theorem run_all_or_nothing (hParse : CommandLine.parse words = .ok a) (d : Directory) :
    ((run d words).ending = .exit 0 ↔ ∃ o source, Prepared d a o source ∧
      (o.allowIllegal = true ∨ ∀ t ∈ (scan source).tokens, t.category ≠ .illegal) ∧
      ∀ name, a.output = .value name → name ≠ "" → d.CanWrite (.ofString name)) ∧
    (∀ o source, Prepared d a o source → (run d words).ending = .exit 0 →
      Delivered d a (o.format.dump (scan source).tokens) (run d words) ∧
      ∀ other, CommandLine.parse other = .ok { a with output := .absent } →
        (run d other).ending = .exit 0 ∧
        (run d other).stdout = o.format.dump (scan source).tokens ∧
        (run d other).directory = d) ∧
    ((run d words).ending = .exit 1 ↔ ∃ o source, Prepared d a o source ∧
      o.allowIllegal = false ∧ ∃ t ∈ (scan source).tokens, t.category = .illegal) ∧
    ((run d words).ending ≠ .exit 0 →
      (run d words).stdout = "" ∧ (run d words).directory = d) := by
  refine ⟨ending_eq_zero_iff hParse, ?_, ?_, unchanged_of_ending hParse⟩
  · intro o source hReady h
    refine ⟨delivered_of_ending hParse hReady h, ?_⟩
    intro other hOther
    -- the run without its output is prepared alike and accepts the same text
    obtain ⟨o', source', hFound, hAccepts, -⟩ := (ending_eq_zero_iff hParse).mp h
    obtain ⟨rfl, rfl⟩ := hReady.unique hFound
    have hPrinted : RunsTo d { a with output := .absent } _ :=
      .printed hReady.withoutOutput hAccepts rfl
    rw [run_eq_of_runsTo hOther hPrinted]
    exact ⟨rfl, rfl, rfl⟩
  · simp only [ending_eq_one_iff hParse, not_accepts_iff]

/-- A directory with the file `a`, which holds an illegal character and an open string. -/
def oneFile : Directory := ⟨⟨[(⟨some 0, ["a"]⟩, .file "@ \"".toUTF8)], by decide⟩⟩

/-- A run whose output is its own input succeeds, and the dump stands in the place of the input.
Where illegal characters are not allowed, the same run leaves the input as it was. -/
theorem run_all_or_nothing_overwrite :
    CommandLine.parse ["-oa", "--allow-illegal", "a"]
        = .ok ⟨⟨.value "a", .absent, true, false, .absent⟩, "a"⟩ ∧
      (run oneFile ["-oa", "--allow-illegal", "a"]).ending = .exit 0 ∧
      (run oneFile ["-oa", "--allow-illegal", "a"]).stdout = "" ∧
      oneFile.Written (.ofString "a")
        ("[Illegal] '@' at line 1, column 1\n" ++ "[StringLiteral] '' at line 1, column 3\n" ++
          "[EndOfInput] '' at line 1, column 4\n").toUTF8
        (run oneFile ["-oa", "--allow-illegal", "a"]).directory ∧
      (run oneFile ["-oa", "a"]).ending = .exit 1 ∧
      (run oneFile ["-oa", "a"]).directory = oneFile := by
  have hParse : CommandLine.parse ["-oa", "--allow-illegal", "a"]
      = .ok ⟨⟨.value "a", .absent, true, false, .absent⟩, "a"⟩ := rfl
  have hStrict : CommandLine.parse ["-oa", "a"]
      = .ok ⟨⟨.value "a", .absent, false, false, .absent⟩, "a"⟩ := rfl
  have hReady : Prepared oneFile ⟨⟨.value "a", .absent, true, false, .absent⟩, "a"⟩
      ⟨.ofString "a", some (.ofString "a"), .named .text, true, true⟩ "@ \"" := ⟨rfl, _, rfl, rfl⟩
  have hZero : (run oneFile ["-oa", "--allow-illegal", "a"]).ending = .exit 0 := by decide +kernel
  have hOne : (run oneFile ["-oa", "a"]).ending = .exit 1 := by decide +kernel
  have hDump : (FormatChoice.named .text).dump (scan "@ \"").tokens
      = "[Illegal] '@' at line 1, column 1\n" ++ "[StringLiteral] '' at line 1, column 3\n" ++
        "[EndOfInput] '' at line 1, column 4\n" := by decide +kernel
  obtain ⟨hPrinted, hWritten⟩ :=
    ((run_all_or_nothing hParse oneFile).2.1 _ _ hReady hZero).1.written "a" rfl (by decide)
  rw [hDump] at hWritten
  exact ⟨hParse, hZero, hPrinted, hWritten, hOne,
    ((run_all_or_nothing hStrict oneFile).2.2.2 (by rw [hOne]; decide)).2⟩

/-! ### Problems -/

/-- **The problems of a run**, with the way in which each of them ends it: the first four are
reported with `exit 2`, the others are a `failure`. -/
inductive Problem (d : Directory) (a : Arguments) : Ending → Prop
  /-- The configuration is no TOML document: it is `malformed`. -/
  | malformedConfig {text : String} (hConfig : d.read (configPathOf a) = .ok text.toUTF8)
      (hToml : Toml.readDocument text = .error .malformed) : Problem d a (.exit 2)
  /-- The configuration asks for a form of dump that does not exist. -/
  | unknownFormat {config : Toml.Table} {value : Toml.Value} {text : String}
      (hConfig : loadConfig d.read (configPathOf a) = .ok config)
      (hFormat : formatSetting config = .error value) (hText : value.display = .ok text) :
      Problem d a (.exit 2)
  /-- The input cannot be read. -/
  | unreadableInput {o : Options} {e : FileError} (hOptions : resolve d.read a = .ok o)
      (hInput : d.read o.input = .error e) (hPath : e ≠ .zeroInPath) : Problem d a (.exit 2)
  /-- The bytes of the input are no text. -/
  | inputNotText {o : Options} {bytes : ByteArray} (hOptions : resolve d.read a = .ok o)
      (hInput : d.read o.input = .ok bytes) (hBytes : ∀ text : String, bytes ≠ text.toUTF8) :
      Problem d a (.exit 2)
  /-- The path of the configuration is too long, be it given or next to the input. -/
  | longConfigPath (hConfig : d.read (configPathOf a) = .error .nameTooLong) :
      Problem d a (.failure (.config (.unusablePath .nameTooLong)))
  /-- The bytes of the configuration are no text. -/
  | configNotText {bytes : ByteArray} (hConfig : d.read (configPathOf a) = .ok bytes)
      (hBytes : ∀ text : String, bytes ≠ text.toUTF8) : Problem d a (.failure (.config .notText))
  /-- A value of the configuration is too much to be read. -/
  | configBeyond {text : String} {excess : Toml.Excess}
      (hConfig : d.read (configPathOf a) = .ok text.toUTF8)
      (hToml : Toml.readDocument text = .error (.beyond excess)) :
      Problem d a (.failure (.config (.notToml (.beyond excess))))
  /-- The value that stands for the form of the dump is too much to be shown. -/
  | formatBeyond {config : Toml.Table} {value : Toml.Value} {excess : Toml.Excess}
      (hConfig : loadConfig d.read (configPathOf a) = .ok config)
      (hFormat : formatSetting config = .error value) (hText : value.display = .error excess) :
      Problem d a (.failure (.config (.unprintable excess)))
  /-- The path of the input holds a zero character. -/
  | zeroInInput {o : Options} (hOptions : resolve d.read a = .ok o)
      (hInput : d.read o.input = .error .zeroInPath) :
      Problem d a (.failure (.input .zeroInPath))
  /-- The output cannot be written. -/
  | unwritableOutput {o : Options} {source : String} {path : Path} {e : FileError}
      (hReady : Prepared d a o source) (hAccepts : o.Accepts source)
      (hOutput : o.output = some path) (hWrite : d.write path (o.dumpOf source).toUTF8 = .error e) :
      Problem d a (.failure (.output e))

/-- **A configuration fails to load** for one of three reasons: `nameTooLong`, bytes that are no
text, or a text that `Toml.readDocument` refuses. -/
theorem loadConfig_eq_error_iff {files : FileView} {path : Path} {e : ConfigError} :
    loadConfig files path = .error e ↔
      files path = .error .nameTooLong ∧ e = .unusablePath .nameTooLong ∨
      (∃ bytes, files path = .ok bytes ∧ (∀ text : String, bytes ≠ text.toUTF8) ∧ e = .notText) ∨
      ∃ text cause, files path = .ok text.toUTF8 ∧ Toml.readDocument text = .error cause ∧
        e = .notToml cause := by
  unfold loadConfig
  cases hFile : files path with
  | error cause => cases cause <;> simp [eq_comm]
  | ok bytes =>
      cases hText : String.fromUTF8? bytes with
      -- the bytes are no text, so that the third reason is excluded
      | none =>
          have hBytes := fromUTF8?_eq_none_iff.mp hText
          simp only [hText]
          constructor
          · rintro h
            cases h
            exact Or.inr (Or.inl ⟨bytes, rfl, hBytes, rfl⟩)
          · rintro (⟨h, -⟩ | ⟨_, -, -, rfl⟩ | ⟨text, _, h, -⟩)
            · cases h
            · rfl
            · cases h
              exact absurd rfl (hBytes text)
      -- the bytes are those of one text only, which the reader takes or refuses
      | some text =>
          obtain rfl := fromUTF8?_eq_some_iff.mp hText
          simp only [hText]
          constructor
          · intro h
            cases hToml : Toml.readDocument text with
            | ok config => rw [hToml] at h; cases h
            | error cause =>
                rw [hToml] at h
                cases h
                exact Or.inr (Or.inr ⟨text, cause, rfl, hToml, rfl⟩)
          · rintro (⟨h, -⟩ | ⟨bytes, h, hBytes, -⟩ | ⟨other, cause, h, hToml, rfl⟩)
            · cases h
            · cases h
              exact absurd rfl (hBytes text)
            · obtain rfl : text = other := String.toByteArray_inj.mp (Except.ok.inj h)
              rw [hToml]

/-- `resolve` fails where `loadConfig` does, or where `formatSetting` finds a form that does not
exist. -/
theorem resolve_eq_error_iff {files : FileView} {e : OptionsError} :
    resolve files a = .error e ↔
      (∃ cause, loadConfig files (configPathOf a) = .error cause ∧ e = .config cause) ∨
      ∃ config value, loadConfig files (configPathOf a) = .ok config ∧
        formatSetting config = .error value ∧ e = .unknownFormat value := by
  unfold resolve merge
  cases loadConfig files (configPathOf a) with
  | error cause => simp [eq_comm]
  | ok config => cases hFormat : formatSetting config <;> simp [hFormat, eq_comm]

/-- What `report` says about a form that does not exist, or why it can say nothing. -/
theorem report_unknownFormat (value : Toml.Value) :
    (∀ text, value.display = .ok text → (OptionsError.unknownFormat value).report
      = .ok ("invalid output format in config (expected text or json): " ++ text)) ∧
    ∀ excess, value.display = .error excess →
      (OptionsError.unknownFormat value).report = .error (.unprintable excess) := by
  constructor
  · intro text hText
    simp [OptionsError.report, hText]
  · intro excess hText
    simp [OptionsError.report, hText]

/-- **Every problem ends a run in its own way:** `Problem d a ending` implies that ending. -/
theorem Problem.ending_eq (hParse : CommandLine.parse words = .ok a) {ending : Ending}
    (h : Problem d a ending) : (run d words).ending = ending := by
  -- a configuration that is not loaded leaves no options
  have hBad : ∀ {cause : ConfigError}, loadConfig d.read (configPathOf a) = .error cause →
      resolve d.read a = .error (.config cause) := fun h =>
    resolve_eq_error_iff.mpr (Or.inl ⟨_, h, rfl⟩)
  cases h with
  | malformedConfig hConfig hToml =>
      have hLoad := loadConfig_eq_error_iff.mpr (Or.inr (Or.inr ⟨_, _, hConfig, hToml, rfl⟩))
      rw [run_eq_of_runsTo hParse (.badOptions (hBad hLoad) rfl)]
  | unknownFormat hConfig hFormat hText =>
      have hOptions := resolve_eq_error_iff.mpr (Or.inr ⟨_, _, hConfig, hFormat, rfl⟩)
      rw [run_eq_of_runsTo hParse (.badOptions hOptions ((report_unknownFormat _).1 _ hText))]
  | unreadableInput hOptions hInput hPath =>
      rw [run_eq_of_runsTo hParse (.unreadable hOptions hInput hPath)]
  | inputNotText hOptions hInput hBytes =>
      rw [run_eq_of_runsTo hParse (.notText hOptions hInput hBytes)]
  | longConfigPath hConfig =>
      have hLoad := loadConfig_eq_error_iff.mpr (Or.inl ⟨hConfig, rfl⟩)
      rw [run_eq_of_runsTo hParse (.optionsFailure (hBad hLoad) rfl)]
  | configNotText hConfig hBytes =>
      have hLoad := loadConfig_eq_error_iff.mpr (Or.inr (Or.inl ⟨_, hConfig, hBytes, rfl⟩))
      rw [run_eq_of_runsTo hParse (.optionsFailure (hBad hLoad) rfl)]
  | configBeyond hConfig hToml =>
      have hLoad := loadConfig_eq_error_iff.mpr (Or.inr (Or.inr ⟨_, _, hConfig, hToml, rfl⟩))
      rw [run_eq_of_runsTo hParse (.optionsFailure (hBad hLoad) rfl)]
  | formatBeyond hConfig hFormat hText =>
      have hOptions := resolve_eq_error_iff.mpr (Or.inr ⟨_, _, hConfig, hFormat, rfl⟩)
      rw [run_eq_of_runsTo hParse (.optionsFailure hOptions ((report_unknownFormat _).2 _ hText))]
  | zeroInInput hOptions hInput =>
      rw [run_eq_of_runsTo hParse (.inputFailure hOptions hInput)]
  | unwritableOutput hReady hAccepts hOutput hWrite =>
      rw [run_eq_of_runsTo hParse (.outputFailure hReady hAccepts hOutput hWrite)]

/-- **Wrong options are a `Problem`**, which is reported or not handled. -/
theorem problem_of_resolve_eq_error {e : OptionsError} (h : resolve d.read a = .error e) :
    (∀ text, e.report = .ok text → Problem d a (.exit 2)) ∧
      ∀ cause, e.report = .error cause → Problem d a (.failure (.config cause)) := by
  rcases resolve_eq_error_iff.mp h with ⟨cause, hLoad, rfl⟩ | ⟨config, value, hLoad, hFormat, rfl⟩
  · rcases loadConfig_eq_error_iff.mp hLoad with
      ⟨hConfig, rfl⟩ | ⟨bytes, hConfig, hBytes, rfl⟩ | ⟨text, cause, hConfig, hToml, rfl⟩
    · refine ⟨fun text hText => ?_, fun cause hCause => ?_⟩
      · cases hText
      · cases hCause
        exact .longConfigPath hConfig
    · refine ⟨fun text hText => ?_, fun cause hCause => ?_⟩
      · cases hText
      · cases hCause
        exact .configNotText hConfig hBytes
    · -- a malformed document is reported, one that is too much is not
      cases cause with
      | malformed =>
          refine ⟨fun text _ => .malformedConfig hConfig hToml, fun cause hCause => ?_⟩
          cases hCause
      | beyond excess =>
          refine ⟨fun text hText => ?_, fun cause hCause => ?_⟩
          · cases hText
          · cases hCause
            exact .configBeyond hConfig hToml
  · cases hText : value.display with
    | ok text =>
        refine ⟨fun _ _ => .unknownFormat hLoad hFormat hText, fun cause hCause => ?_⟩
        rw [(report_unknownFormat value).1 text hText] at hCause
        cases hCause
    | error excess =>
        have hReport := (report_unknownFormat value).2 excess hText
        refine ⟨fun text hOk => ?_, fun cause hCause => ?_⟩
        · rw [hReport] at hOk
          cases hOk
        · rw [hReport] at hCause
          cases hCause
          exact .formatBeyond hLoad hFormat hText

/-- **Every ending has its reason.** A run ends with `exit 0`, `exit 1` or a `Problem`; and `exit 2`
comes with a line on what is wrong. -/
theorem ending_cases (hParse : CommandLine.parse words = .ok a) (d : Directory) :
    ((run d words).ending = .exit 0 ∨ (run d words).ending = .exit 1 ∨
      Problem d a (run d words).ending) ∧
    ((run d words).ending = .exit 2 → ∃ text, (run d words).stderr = "error: " ++ text ++ "\n") := by
  have hRun := runsTo_run (d := d) hParse
  generalize run d words = outcome at hRun
  -- every listed outcome is a success, a refusal or a problem
  cases hRun with
  | badOptions hOptions hText =>
      exact ⟨Or.inr (Or.inr ((problem_of_resolve_eq_error hOptions).1 _ hText)), fun _ => ⟨_, rfl⟩⟩
  | optionsFailure hOptions hCause =>
      exact ⟨Or.inr (Or.inr ((problem_of_resolve_eq_error hOptions).2 _ hCause)), nofun⟩
  | unreadable hOptions hInput hPath =>
      exact ⟨Or.inr (Or.inr (.unreadableInput hOptions hInput hPath)), fun _ => ⟨_, rfl⟩⟩
  | inputFailure hOptions hInput => exact ⟨Or.inr (Or.inr (.zeroInInput hOptions hInput)), nofun⟩
  | notText hOptions hInput hBytes =>
      exact ⟨Or.inr (Or.inr (.inputNotText hOptions hInput hBytes)), fun _ => ⟨_, rfl⟩⟩
  | rejected _ _ => exact ⟨Or.inr (Or.inl rfl), nofun⟩
  | printed _ _ _ => exact ⟨Or.inl rfl, nofun⟩
  | written _ _ _ _ => exact ⟨Or.inl rfl, nofun⟩
  | outputFailure hReady hAccepts hOutput hWrite =>
      exact ⟨Or.inr (Or.inr (.unwritableOutput hReady hAccepts hOutput hWrite)), nofun⟩

/-- **Problems and endings.** A run ends with a problem exactly in the way of that problem, and with
the code 0 or 1 where there is none. With the code 2 it says in one line what is wrong. -/
theorem run_problem (hParse : CommandLine.parse words = .ok a) (d : Directory) :
    (∀ ending, Problem d a ending → (run d words).ending = ending) ∧
    ((∀ ending, ¬ Problem d a ending) →
      (run d words).ending = .exit 0 ∨ (run d words).ending = .exit 1) ∧
    ((run d words).ending = .exit 2 → ∃ text, (run d words).stderr = "error: " ++ text ++ "\n") := by
  obtain ⟨hEnding, hLine⟩ := ending_cases hParse d
  refine ⟨fun ending h => h.ending_eq hParse, ?_, hLine⟩
  intro hNone
  rcases hEnding with h | h | h
  · exact Or.inl h
  · exact Or.inr h
  · exact absurd h (hNone _)

/-- A directory with an empty input and a configuration of the one byte `0xFF`, which is no text. -/
def badConfig : Directory :=
  ⟨⟨[(⟨some 0, ["a"]⟩, .file .empty), (⟨some 0, ["ween.toml"]⟩, .file ⟨#[0xFF]⟩)], by decide⟩⟩

/-- A configuration whose bytes are no text ends a run without a code and without a word, unlike an
input whose bytes are none. -/
theorem run_problem_configNotText :
    CommandLine.parse ["a"] = .ok ⟨.none, "a"⟩ ∧
      (run badConfig ["a"]).ending = .failure (.config .notText) ∧
      (run badConfig ["a"]).stderr = "" ∧
      (run badConfig ["--config=a", "ween.toml"]).ending = .exit 2 := by
  have hParse : CommandLine.parse ["a"] = .ok ⟨.none, "a"⟩ := rfl
  have hBytes : ∀ text : String, (⟨#[0xFF]⟩ : ByteArray) ≠ text.toUTF8 :=
    fromUTF8?_eq_none_iff.mp (by decide +kernel)
  exact ⟨hParse, (run_problem hParse badConfig).1 _ (.configNotText rfl hBytes), by decide +kernel,
    by decide +kernel⟩

end MarkupScan
