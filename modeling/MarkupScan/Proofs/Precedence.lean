import MarkupScan.Proofs.ExitCodes

/-! # Which setting wins

The options of a run come from the defaults, the configuration and the command line, a later one
before an earlier one. Of the configuration three entries count, and each has its own rule for a value
of the wrong kind.

Main definitions.
* **`Has`**: a configuration has a value under a key in one of its tables.
* **`WrongForm`**: the configuration asks for a form of dump that does not exist.
* **`Merged`**: the options that a command line and a configuration come to.
* **`Configured`**: the table that is the configuration of a command line in a directory.
* **`SameSettings`**: two configurations agree on what counts.

Main statements.
* **`merge_eq_ok_iff`**, **`merge_eq_error_iff`**: merging succeeds with the merged options, unless the
  form is wrong.
* **`loadConfig_eq_ok_iff`**: what is loaded is the configuration, unless its path is too long.
* **`resolve_precedence`**: the options of a run, and the errors in their place. -/

namespace MarkupScan

open CommandLine (Arguments Given)
open Files (Directory FileError Path)
open Toml (Table Value)

/-! ### Entries of a configuration -/

/-- The configuration has `value` under `key` in one of its tables. -/
def Has (config : Table) (table key : String) (value : Value) : Prop :=
  ∃ entries, config.lookup table = some (.table entries) ∧ entries.lookup key = some value

/-- `setting?` is the value that the configuration `Has`. -/
theorem setting?_eq_some_iff {config : Table} {table key : String} {value : Value} :
    setting? config table key = some value ↔ Has config table key value := by
  unfold setting? Has
  cases config.lookup table with
  | none => simp
  | some found => cases found <;> simp [Value.get?]

/-- `setting?` is `none` where the configuration has nothing. -/
theorem setting?_eq_none_iff {config : Table} {table key : String} :
    setting? config table key = none ↔ ∀ value, ¬ Has config table key value := by
  rw [Option.eq_none_iff_forall_not_mem]
  exact forall_congr' fun value => not_congr setting?_eq_some_iff

/-- **A setting that is true or false** is a value `boolean b` that the configuration `Has`; any
other kind counts as absent. -/
theorem booleanSetting?_eq_some_iff {config : Table} {table key : String} {b : Bool} :
    booleanSetting? config table key = some b ↔ Has config table key (.boolean b) := by
  rw [← setting?_eq_some_iff, booleanSetting?]
  split
  · rename_i c hSetting
    simp [hSetting]
  · rename_i hOther
    simp only [reduceCtorEq, false_iff]
    exact hOther b

/-- **The configuration asks for a form of dump that does not exist**: the value that stands for the
form is neither `text` nor `json`. -/
def WrongForm (config : Table) (value : Value) : Prop :=
  Has config "output" "format" value ∧ value ≠ .string "text" ∧ value ≠ .string "json"

/-- `DumpFormat.ofName? name = some f` exactly for `name = f.name`. -/
theorem ofName?_eq_some_iff {name : String} {f : DumpFormat} :
    DumpFormat.ofName? name = some f ↔ name = f.name := by
  constructor
  · intro h
    simpa [eq_comm] using List.find?_some h
  · rintro rfl
    cases f <;> decide

/-- The names of the forms are `text` and `json`. -/
theorem exists_name_iff {name : String} :
    (∃ f : DumpFormat, name = f.name) ↔ name = "text" ∨ name = "json" := by
  constructor
  · rintro ⟨_ | _, rfl⟩
    · exact Or.inl rfl
    · exact Or.inr rfl
  · rintro (rfl | rfl)
    · exact ⟨.text, rfl⟩
    · exact ⟨.json, rfl⟩

/-- **The form in the configuration** is the one that its value at `output.format` names. -/
theorem formatSetting_eq_some_iff {config : Table} {f : DumpFormat} :
    formatSetting config = .ok (some f) ↔ Has config "output" "format" (.string f.name) := by
  rw [← setting?_eq_some_iff, formatSetting]
  split
  · rename_i hNone
    simp [hNone]
  · rename_i name hName
    rw [hName, Option.some.injEq, Value.string.injEq, ← ofName?_eq_some_iff]
    cases DumpFormat.ofName? name <;> simp
  · rename_i value hOther hValue
    simp only [reduceCtorEq, hValue, Option.some.injEq, false_iff]
    rintro rfl
    exact hOther _ rfl

/-- The configuration has no form where it `Has` nothing at `output.format`. -/
theorem formatSetting_eq_none_iff {config : Table} :
    formatSetting config = .ok none ↔ ∀ value, ¬ Has config "output" "format" value := by
  rw [← setting?_eq_none_iff, formatSetting]
  split
  · rename_i hNone
    simp [hNone]
  · rename_i name hName
    rw [hName]
    cases DumpFormat.ofName? name <;> simp
  · rename_i value hOther hValue
    simp [hValue]

/-- **A form is refused** exactly if it is a `WrongForm`. -/
theorem formatSetting_eq_error_iff {config : Table} {value : Value} :
    formatSetting config = .error value ↔ WrongForm config value := by
  rw [WrongForm, ← setting?_eq_some_iff, formatSetting]
  split
  -- no value
  · rename_i hNone
    simp [hNone]
  -- a text: it is the name of a form, or it is neither of the two names
  · rename_i name hName
    rw [hName]
    cases hFound : DumpFormat.ofName? name with
    | some f =>
        have hKnown := exists_name_iff.mp ⟨f, ofName?_eq_some_iff.mp hFound⟩
        simp only [reduceCtorEq, Option.some.injEq, false_iff]
        rintro ⟨rfl, hText, hJson⟩
        rcases hKnown with rfl | rfl
        · exact hText rfl
        · exact hJson rfl
    | none =>
        have hUnknown : ¬ ∃ f : DumpFormat, name = f.name := by
          rintro ⟨f, hf⟩
          rw [ofName?_eq_some_iff.mpr hf] at hFound
          cases hFound
        rw [exists_name_iff, not_or] at hUnknown
        simp only [Except.error.injEq, Option.some.injEq]
        constructor
        · rintro rfl
          simpa using hUnknown
        · exact fun h => h.1
  -- a value of another kind is no name at all
  · rename_i found hOther hFound
    simp only [Except.error.injEq, hFound, Option.some.injEq]
    constructor
    · rintro rfl
      exact ⟨rfl, hOther _, hOther _⟩
    · exact fun h => h.1

/-! ### Merging -/

/-- **The options that a command line and a configuration come to.** -/
structure Merged (a : Arguments) (config : Table) (o : Options) : Prop where
  /-- The input is the one of the command line. -/
  input_eq : o.input = .ofString a.input
  /-- The output is the one of the command line, if its name is not empty. -/
  output_named : ∀ name, a.output = .value name → name ≠ "" → o.output = some (.ofString name)
  /-- Without such a name there is no output. -/
  output_unnamed : (∀ name, a.output = .value name → name = "") → o.output = none
  /-- The form of the command line comes first. -/
  format_given : ∀ f, a.format = .value f → o.format = .named f
  /-- A form that is given as `blank` is kept as such. -/
  format_blank : a.format = .blank → o.format = .blank
  /-- Without a form on the command line, that of the configuration counts. -/
  format_configured : a.format = .absent →
    ∀ f : DumpFormat, Has config "output" "format" (.string f.name) → o.format = .named f
  /-- Without any form, it is `text`. -/
  format_default : a.format = .absent →
    (∀ value, ¬ Has config "output" "format" value) → o.format = .named .text
  /-- Illegal characters are allowed on the command line, or by the truth value in the
  configuration. -/
  allowIllegal_iff : o.allowIllegal = true ↔
    a.allowIllegal = true ∨ Has config "lexer" "allow_illegal" (.boolean true)
  /-- Warnings are turned off on the command line, or by the truth value in the configuration. -/
  warnings_iff : o.warnings = false ↔
    a.quiet = true ∨ Has config "lexer" "warnings" (.boolean false)

variable {d : Directory} {a : Arguments} {config : Table} {o : Options}

/-- A truth value with the default `!b` is `b` exactly if the configuration says so. -/
theorem getD_booleanSetting?_eq_iff (config : Table) (table key : String) (b : Bool) :
    (booleanSetting? config table key).getD (!b) = b ↔ Has config table key (.boolean b) := by
  rw [← booleanSetting?_eq_some_iff]
  cases booleanSetting? config table key with
  | none => cases b <;> simp
  | some c => simp

/-- **What is merged are the options:** `merge a config = .ok o` implies `Merged a config o`. -/
theorem merged_of_merge (h : merge a config = .ok o) : Merged a config o := by
  have hAllow := getD_booleanSetting?_eq_iff config "lexer" "allow_illegal" true
  have hWarnings := getD_booleanSetting?_eq_iff config "lexer" "warnings" false
  unfold merge at h
  split at h
  · cases h
  -- a form was found or none; every field is what `merge` puts together
  · rename_i configured hFormat
    cases h
    refine ⟨rfl, ?_, pathOf?_eq_none_iff.mpr, ?_, ?_, ?_, ?_, ?_, ?_⟩
    · exact fun name hName hSome => pathOf?_eq_some_iff.mpr ⟨name, hName, hSome, rfl⟩
    · intro f hGiven
      simp only [hGiven, chooseFormat]
    · intro hBlank
      simp only [hBlank, chooseFormat]
    · intro hAbsent f hHas
      rw [← formatSetting_eq_some_iff, hFormat] at hHas
      cases hHas
      simp only [hAbsent, chooseFormat, Option.getD_some]
    · intro hAbsent hNone
      rw [← formatSetting_eq_none_iff, hFormat] at hNone
      cases hNone
      simp only [hAbsent, chooseFormat, Option.getD_none]
    · rw [Bool.or_eq_true, ← hAllow]
      rfl
    · rw [Bool.and_eq_false_iff, Bool.not_eq_false', ← hWarnings]
      rfl

/-- **There is one way to merge:** `Merged a config` holds of one `o`, unless the form is wrong. -/
theorem Merged.unique {o' : Options} (hForm : ∀ value, ¬ WrongForm config value)
    (h : Merged a config o) (h' : Merged a config o') : o = o' := by
  have hInput : o.input = o'.input := h.input_eq.trans h'.input_eq.symm
  have hOutput : o.output = o'.output := by
    by_cases hNamed : ∃ name, a.output = .value name ∧ name ≠ ""
    · obtain ⟨name, hName, hSome⟩ := hNamed
      rw [h.output_named name hName hSome, h'.output_named name hName hSome]
    · have hNone : ∀ name, a.output = .value name → name = "" := by simpa using hNamed
      rw [h.output_unnamed hNone, h'.output_unnamed hNone]
  have hFormat : o.format = o'.format := by
    cases hGiven : a.format with
    | value f => rw [h.format_given f hGiven, h'.format_given f hGiven]
    | blank => rw [h.format_blank hGiven, h'.format_blank hGiven]
    | absent =>
        -- what the configuration says about the form is nothing, or one of the forms
        cases hConfig : formatSetting config with
        | error value => exact absurd (formatSetting_eq_error_iff.mp hConfig) (hForm value)
        | ok configured =>
            cases configured with
            | none =>
                have hNone := formatSetting_eq_none_iff.mp hConfig
                rw [h.format_default hGiven hNone, h'.format_default hGiven hNone]
            | some f =>
                have hHas := formatSetting_eq_some_iff.mp hConfig
                rw [h.format_configured hGiven f hHas, h'.format_configured hGiven f hHas]
  have hAllow : o.allowIllegal = o'.allowIllegal :=
    Bool.eq_iff_iff.mpr (h.allowIllegal_iff.trans h'.allowIllegal_iff.symm)
  have hWarnings : o.warnings = o'.warnings := by
    have hOff := h.warnings_iff.trans h'.warnings_iff.symm
    revert hOff
    cases o.warnings <;> cases o'.warnings <;> simp
  cases o
  cases o'
  rw [Options.mk.injEq]
  exact ⟨hInput, hOutput, hFormat, hAllow, hWarnings⟩

/-- **Merging fails** exactly for a `WrongForm`. -/
theorem merge_eq_error_iff {value : Value} :
    merge a config = .error value ↔ WrongForm config value := by
  rw [← formatSetting_eq_error_iff, merge]
  cases formatSetting config <;> simp

/-- **Merging succeeds** with the `Merged` options, unless the form is wrong. -/
theorem merge_eq_ok_iff :
    merge a config = .ok o ↔ (∀ value, ¬ WrongForm config value) ∧ Merged a config o := by
  constructor
  · intro h
    refine ⟨fun value hWrong => ?_, merged_of_merge h⟩
    rw [merge_eq_error_iff.mpr hWrong] at h
    cases h
  · rintro ⟨hForm, hMerged⟩
    cases hMerge : merge a config with
    | error value => exact absurd (merge_eq_error_iff.mp hMerge) (hForm value)
    | ok o' => rw [hMerged.unique hForm (merged_of_merge hMerge)]

/-- **Two configurations agree on what counts**: on the form of the dump, of whatever kind, and on the
two settings that are true or false, if they are of that kind. -/
structure SameSettings (config other : Table) : Prop where
  /-- They have the same form. -/
  format_iff : ∀ value, Has config "output" "format" value ↔ Has other "output" "format" value
  /-- They say the same about illegal characters. -/
  allowIllegal_iff : ∀ b,
    Has config "lexer" "allow_illegal" (.boolean b) ↔ Has other "lexer" "allow_illegal" (.boolean b)
  /-- They say the same about warnings. -/
  warnings_iff : ∀ b,
    Has config "lexer" "warnings" (.boolean b) ↔ Has other "lexer" "warnings" (.boolean b)

/-- **Nothing else counts:** `merge` is the same for configurations with `SameSettings`. -/
theorem SameSettings.merge_eq {other : Table} (h : SameSettings config other) (a : Arguments) :
    merge a config = merge a other := by
  have hForm : setting? config "output" "format" = setting? other "output" "format" :=
    Option.ext fun value => setting?_eq_some_iff.trans
      ((h.format_iff value).trans setting?_eq_some_iff.symm)
  have hAllow : booleanSetting? config "lexer" "allow_illegal"
      = booleanSetting? other "lexer" "allow_illegal" :=
    Option.ext fun b => booleanSetting?_eq_some_iff.trans
      ((h.allowIllegal_iff b).trans booleanSetting?_eq_some_iff.symm)
  have hWarnings : booleanSetting? config "lexer" "warnings"
      = booleanSetting? other "lexer" "warnings" :=
    Option.ext fun b => booleanSetting?_eq_some_iff.trans
      ((h.warnings_iff b).trans booleanSetting?_eq_some_iff.symm)
  unfold merge formatSetting
  rw [hForm, hAllow, hWarnings]

/-! ### The configuration of a command line -/

/-- **A file with the given bytes stands at a path:** `p` leads to a `file bytes`. -/
def HasFile (d : Directory) (p : Path) (bytes : ByteArray) : Prop :=
  ∃ l, d.locate p = .ok l ∧ d.get? l = some (.file bytes)

/-- **The table at a path**: that of the file there, or an empty one where no file is. -/
inductive Configured (d : Directory) (p : Path) : Table → Prop
  /-- The file is a TOML document. -/
  | ofFile {text : String} {config : Table} (hFile : HasFile d p text.toUTF8)
      (hToml : Toml.readDocument text = .ok config) : Configured d p config
  /-- No file stands there: the table is `[]`. -/
  | ofNothing (hNone : ∀ bytes, ¬ HasFile d p bytes) : Configured d p []

/-- `d.read p = .ok bytes` where `HasFile d p bytes`. -/
theorem HasFile.read_eq {p : Path} {bytes : ByteArray} (h : HasFile d p bytes) :
    d.read p = .ok bytes := by
  obtain ⟨l, hLocate, hEntry⟩ := h
  rw [Directory.read, hLocate]
  simp only [hEntry]

/-- Where no file is, `d.read` fails or finds no bytes. -/
theorem read_of_not_hasFile {p : Path} (h : ∀ bytes, ¬ HasFile d p bytes) :
    (∃ e, d.read p = .error e ∧ (e = .nameTooLong ↔ d.locate p = .error .nameTooLong)) ∨
      d.read p = .ok .empty ∧ d.locate p ≠ .error .nameTooLong := by
  rw [Directory.read]
  cases hLocate : d.locate p with
  | error e => exact Or.inl ⟨e, rfl, by simp⟩
  | ok l =>
      dsimp only
      cases hEntry : d.get? l with
      | none => exact Or.inl ⟨_, rfl, by simp⟩
      | some entry =>
          cases entry with
          | file bytes => exact absurd ⟨l, hLocate, hEntry⟩ (h bytes)
          | directory => exact Or.inl ⟨_, rfl, by simp⟩
          | device => exact Or.inr ⟨rfl, by simp⟩

/-- `loadConfig` of a file that holds a text is `Toml.readDocument` of it. -/
theorem loadConfig_of_read {files : FileView} {p : Path} {text : String}
    (h : files p = .ok text.toUTF8) :
    loadConfig files p = .ok config ↔ Toml.readDocument text = .ok config := by
  rw [loadConfig, h]
  simp only [fromUTF8?_eq_some_iff.mpr rfl]
  cases Toml.readDocument text <;> simp

/-- **What is loaded is the table at the path:** `loadConfig` gives what is `Configured`, unless the
path is too long to be followed. -/
theorem loadConfig_eq_ok_iff {p : Path} :
    loadConfig d.read p = .ok config ↔
      d.locate p ≠ .error .nameTooLong ∧ Configured d p config := by
  by_cases hFile : ∃ bytes, HasFile d p bytes
  -- a file stands at the path, which then can be followed
  · obtain ⟨bytes, hFile⟩ := hFile
    have hLocate : d.locate p ≠ .error .nameTooLong := by
      obtain ⟨l, hLocate, -⟩ := hFile
      rw [hLocate]
      exact nofun
    rw [and_iff_right hLocate]
    constructor
    · intro h
      by_cases hText : ∃ text : String, bytes = text.toUTF8
      · obtain ⟨text, rfl⟩ := hText
        exact .ofFile hFile ((loadConfig_of_read hFile.read_eq).mp h)
      · have hBytes : ∀ text : String, bytes ≠ text.toUTF8 := by simpa using hText
        rw [loadConfig_eq_error_iff.mpr (Or.inr (Or.inl ⟨bytes, hFile.read_eq, hBytes, rfl⟩))] at h
        cases h
    · rintro (⟨hFound, hToml⟩ | ⟨hNone⟩)
      · exact (loadConfig_of_read hFound.read_eq).mpr hToml
      · exact absurd hFile (hNone bytes)
  -- no file stands there: an empty table is loaded unless the path is too long, be it that nothing
  -- can be read or that a device is
  · have hNone : ∀ bytes, ¬ HasFile d p bytes := by simpa using hFile
    have hEmpty : Configured d p config ↔ config = [] := by
      constructor
      · rintro (⟨hFound, -⟩ | -)
        · exact absurd hFound (hNone _)
        · rfl
      · rintro rfl
        exact .ofNothing hNone
    rw [hEmpty]
    rcases read_of_not_hasFile hNone with ⟨e, hRead, hLong⟩ | ⟨hRead, hShort⟩
    · rw [ne_eq, ← hLong, loadConfig, hRead]
      cases e <;> simp [eq_comm]
    · have hDocument : Toml.readDocument "" = .ok [] := rfl
      have hBytes : d.read p = .ok "".toUTF8 := hRead
      rw [and_iff_right hShort, loadConfig_of_read hBytes, hDocument, Except.ok.injEq, eq_comm]

/-! ### Options -/

/-- **Defaults before the configuration before the command line.** The configuration is the file named
on the command line, if the name is not empty, and else the one next to the input; where no file is, it
is empty. There are no options exactly if it asks for a form that does not exist, whatever the command
line says; else they are the merged ones, and any other configuration that agrees on what counts comes
to the same. The wrong form is named in what is said about it, unless it has no text: then the run ends
with a problem that is not handled. So it does with a path that is too long to be followed. -/
theorem resolve_precedence (d : Directory) (a : Arguments) :
    ((∀ name, a.config = .value name → name ≠ "" → configPathOf a = .ofString name) ∧
      ((∀ name, a.config = .value name → name = "") →
        configPathOf a = (Path.ofString a.input).parent.child "ween.toml")) ∧
    (∀ config, Configured d (configPathOf a) config →
      d.locate (configPathOf a) ≠ .error .nameTooLong →
      (∀ e, resolve d.read a = .error e ↔
        ∃ value, WrongForm config value ∧ e = .unknownFormat value) ∧
      (∀ o, resolve d.read a = .ok o ↔
        (∀ value, ¬ WrongForm config value) ∧ Merged a config o) ∧
      ∀ d' other, Configured d' (configPathOf a) other →
        d'.locate (configPathOf a) ≠ .error .nameTooLong → SameSettings config other →
        resolve d'.read a = resolve d.read a) ∧
    (∀ value : Value,
      (∀ text, value.display = .ok text → (OptionsError.unknownFormat value).report
        = .ok ("invalid output format in config (expected text or json): " ++ text)) ∧
      ∀ excess, value.display = .error excess →
        (OptionsError.unknownFormat value).report = .error (.unprintable excess)) ∧
    (d.locate (configPathOf a) = .error .nameTooLong →
      resolve d.read a = .error (.config (.unusablePath .nameTooLong))) := by
  refine ⟨⟨?_, ?_⟩, ?_, report_unknownFormat, ?_⟩
  -- the path, with a name on the command line and without one
  · intro name hName hSome
    rw [configPathOf, pathOf?_eq_some_iff.mpr ⟨name, hName, hSome, rfl⟩]
    rfl
  · intro hNone
    rw [configPathOf, pathOf?_eq_none_iff.mpr hNone]
    rfl
  -- a table was loaded, so that `resolve` is `merge` with it
  · intro config hConfig hShort
    have hLoad := loadConfig_eq_ok_iff.mpr ⟨hShort, hConfig⟩
    refine ⟨?_, ?_, ?_⟩
    · intro e
      rw [resolve_eq_error_iff, hLoad]
      simp [formatSetting_eq_error_iff]
    · intro o
      rw [resolve_eq_ok_iff, hLoad]
      simp [merge_eq_ok_iff]
    · intro d' other hOther hShort' hSame
      rw [resolve, resolve, hLoad, loadConfig_eq_ok_iff.mpr ⟨hShort', hOther⟩]
      simp only [hSame.merge_eq a]
  -- the path cannot be followed: nothing is loaded
  · intro hLong
    have hRead : d.read (configPathOf a) = .error .nameTooLong := by
      rw [Directory.read, hLong]
    exact resolve_eq_error_iff.mpr
      (Or.inl ⟨_, loadConfig_eq_error_iff.mpr (Or.inl ⟨hRead, rfl⟩), rfl⟩)

/-- A configuration whose settings are of the wrong kinds but for the last. -/
def looseText : String := "lexer.allow_illegal = 1\noutput = 2\nlexer.warnings = false"

/-- A configuration whose form is a truth value. -/
def wrongText : String := "output.format = true"

/-- A directory with one configuration. -/
def configuredBy (text : String) : Directory :=
  ⟨⟨[(⟨some 0, ["ween.toml"]⟩, .file text.toUTF8)], by simp⟩⟩

/-- `(Value.integer n).display` is `longInteger` for an integer with more than `maxIntegerDigits`
digits. -/
theorem display_integer_of_le {n : Int} (h : Nat.pow 10 Number.maxIntegerDigits ≤ n.natAbs) :
    (Value.integer n).display = .error .longInteger := by
  have hText : Value.integerText n = .error .longInteger := by
    rw [Value.integerText, Number.integerText?, if_neg (Nat.not_lt.mpr h)]
    rfl
  rw [Value.display, Value.inner]
  · dsimp only
    rw [hText]
    rfl
  · exact nofun
  · exact nofun

/-- Settings of the wrong kind count as absent, and an empty name of an output as none. A wrong form is
refused although the command line has a form, and said in one word; an integer with more than 4300
digits cannot be said. -/
theorem resolve_precedence_wrong_kinds :
    resolve (configuredBy looseText).read ⟨⟨.value "", .absent, false, false, .absent⟩, "a"⟩
        = .ok ⟨.ofString "a", none, .named .text, false, false⟩ ∧
      resolve (configuredBy wrongText).read ⟨⟨.absent, .value .json, false, false, .absent⟩, "a"⟩
        = .error (.unknownFormat (.boolean true)) ∧
      (OptionsError.unknownFormat (.boolean true)).report
        = .ok "invalid output format in config (expected text or json): True" ∧
      (OptionsError.unknownFormat (.integer (Nat.pow 10 Number.maxIntegerDigits : Nat))).report
        = .error (.unprintable .longInteger) := by
  -- the documents are read by evaluation, and only what counts of them is looked at
  have hLoose : ((Toml.readDocument looseText).toOption.map fun config =>
      (booleanSetting? config "lexer" "allow_illegal", booleanSetting? config "lexer" "warnings",
        (setting? config "output" "format").isNone)) = some (none, some false, true) := by
    decide +kernel
  have hWrong : ((Toml.readDocument wrongText).toOption.bind fun config =>
      booleanSetting? config "output" "format") = some true := by
    decide +kernel
  have hPath : ∀ a : Arguments, a.config = .absent → a.input = "a" →
      configPathOf a = .ofString "ween.toml" := by
    intro a hConfig hInput
    rw [configPathOf, hConfig, hInput]
    decide +kernel
  have hLocate : ∀ text, (configuredBy text).locate (.ofString "ween.toml")
      = .ok ⟨some 0, ["ween.toml"]⟩ := fun _ => rfl
  have hFile : ∀ text, HasFile (configuredBy text) (.ofString "ween.toml") text.toUTF8 :=
    fun text => ⟨_, hLocate text, rfl⟩
  refine ⟨?_, ?_, ?_, ?_⟩
  · cases hRead : Toml.readDocument looseText with
    | error e => rw [hRead] at hLoose; cases hLoose
    | ok config =>
        rw [hRead] at hLoose
        simp only [Except.toOption, Option.map_some, Option.some.injEq, Prod.mk.injEq,
          Option.isNone_iff_eq_none, setting?_eq_none_iff] at hLoose
        obtain ⟨hAllow, hWarnings, hForm⟩ := hLoose
        have hRule := ((resolve_precedence (configuredBy looseText)
          ⟨⟨.value "", .absent, false, false, .absent⟩, "a"⟩).2.1 config
          (by rw [hPath _ rfl rfl]; exact .ofFile (hFile _) hRead)
          (by rw [hPath _ rfl rfl, hLocate]; exact nofun)).2.1
        refine (hRule _).mpr ⟨fun value h => hForm value h.1, rfl, ?_, fun _ => rfl, nofun, nofun, ?_,
          fun _ _ => rfl, ?_, ?_⟩
        · rintro name ⟨⟩ hSome
          exact absurd rfl hSome
        · exact fun _ f h => absurd h (hForm _)
        · rw [← booleanSetting?_eq_some_iff, hAllow]
          decide
        · rw [← booleanSetting?_eq_some_iff, hWarnings]
          decide
  · cases hRead : Toml.readDocument wrongText with
    | error e => rw [hRead] at hWrong; cases hWrong
    | ok config =>
        rw [hRead] at hWrong
        have hHas : Has config "output" "format" (.boolean true) :=
          booleanSetting?_eq_some_iff.mp hWrong
        have hRule := ((resolve_precedence (configuredBy wrongText)
          ⟨⟨.absent, .value .json, false, false, .absent⟩, "a"⟩).2.1 config
          (by rw [hPath _ rfl rfl]; exact .ofFile (hFile _) hRead)
          (by rw [hPath _ rfl rfl, hLocate]; exact nofun)).1
        exact (hRule _).mpr ⟨_, ⟨hHas, nofun, nofun⟩, rfl⟩
  · exact ((resolve_precedence .empty ⟨.none, "a"⟩).2.2.1 (.boolean true)).1 "True" rfl
  · refine ((resolve_precedence .empty ⟨.none, "a"⟩).2.2.1 _).2 _ (display_integer_of_le ?_)
    exact Nat.le_of_eq (Int.natAbs_natCast _).symm

end MarkupScan
