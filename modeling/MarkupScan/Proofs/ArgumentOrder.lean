import Mathlib.Data.List.Forall2
import Mathlib.Data.List.Induction
import MarkupScan.CommandLine.Arguments

/-! # The order of arguments

A command line with one input and any number of switches, each with its value, is read whatever the
order is. A switch that is given twice has its last value.

Main definitions.
* **`Setting`**: what one switch with its value says.
* **`Says`**: the groups of words that say one thing.
* **`Given.last`**: the last of some values, if there are any.

Main statements.
* **`Says.readAs`**: a group of words is read as what it says, whatever stands behind it.
* **`parse_eq_foldl_heed`**: a command line of groups around an input says what its groups say, in
  order.
* **`parse_groups`**: the last value of each switch counts, and neither the place of the input nor the
  order of different switches matters. -/

namespace MarkupScan.CommandLine

/-! ### Groups of words -/

/-- What one switch with its value says; `Setting.switch` is that switch. -/
inductive Setting where
  /-- The file to write the dump to. -/
  | output (name : String)
  /-- The configuration file. -/
  | config (name : String)
  /-- The form of the dump. -/
  | format (f : DumpFormat)
  /-- Illegal characters are to be dumped. -/
  | allowIllegal
  /-- Warnings are not to be reported. -/
  | quiet
  deriving DecidableEq, Repr

namespace Setting

/-- The switch that says it. -/
def switch : Setting → Switch
  | .output _ => .output
  | .config _ => .config
  | .format _ => .format
  | .allowIllegal => .allowIllegal
  | .quiet => .quiet

/-- The output that it names. -/
def output? : Setting → Option String
  | .output name => some name
  | _ => none

/-- The configuration that it names. -/
def config? : Setting → Option String
  | .config name => some name
  | _ => none

/-- The form that it names. -/
def format? : Setting → Option DumpFormat
  | .format f => some f
  | _ => none

end Setting

/-- The word begins with no dash: `word.toList.head? ≠ some '-'`. -/
def NoDash (word : String) : Prop := word.toList.head? ≠ some '-'

/-- **The groups of words that say one thing.** A value that is a word of its own has `NoDash`;
behind `=` it is anything but `--`. -/
inductive Says : List String → Setting → Prop
  /-- The output behind `-o`. -/
  | shortOutput {name : String} (hName : NoDash name) : Says ["-o", name] (.output name)
  /-- The output behind `--output`. -/
  | longOutput {name : String} (hName : NoDash name) : Says ["--output", name] (.output name)
  /-- The output behind `--output=`. -/
  | assignedOutput {name : String} (hName : name ≠ "--") :
      Says ["--output=" ++ name] (.output name)
  /-- The configuration behind `--config`. -/
  | longConfig {name : String} (hName : NoDash name) : Says ["--config", name] (.config name)
  /-- The configuration behind `--config=`. -/
  | assignedConfig {name : String} (hName : name ≠ "--") :
      Says ["--config=" ++ name] (.config name)
  /-- The form behind `--format`. -/
  | longFormat (f : DumpFormat) : Says ["--format", f.name] (.format f)
  /-- The form behind `--format=`. -/
  | assignedFormat (f : DumpFormat) : Says ["--format=" ++ f.name] (.format f)
  /-- Illegal characters are to be dumped. -/
  | allowIllegal : Says ["--allow-illegal"] .allowIllegal
  /-- Warnings are not to be reported. -/
  | shortQuiet : Says ["-q"] .quiet
  /-- Warnings are not to be reported, in a longer word. -/
  | longQuiet : Says ["--quiet"] .quiet

/-! ### What a group does -/

/-- The `Choices` with one more setting, which replaces an earlier one of the same switch. -/
def Choices.heed (c : Choices) : Setting → Choices
  | .output name => { c with output := .value name }
  | .config name => { c with config := .value name }
  | .format f => { c with format := .value f }
  | .allowIllegal => { c with allowIllegal := true }
  | .quiet => { c with quiet := true }

/-- What has been read with one more setting: `p.said` heeds it. -/
def Progress.heed (p : Progress) (s : Setting) : Progress := { p with said := p.said.heed s }

/-- `word ≠ "--"` for a word that begins with no dash. -/
theorem NoDash.ne_separatorWord {word : String} (h : NoDash word) : word ≠ separatorWord := by
  rintro rfl
  exact h rfl

/-- A word that begins with no dash is an `operand`. -/
theorem NoDash.classify_eq {word : String} (h : NoDash word) :
    classify word = .ok (.operand word) := by
  rw [classify]
  exact if_pos h

/-- `classifyAll (word :: rest) = .ok (item :: items)` from `classify word` and `classifyAll rest`.
-/
theorem classifyAll_cons {word : String} {item : Item} {rest : List String} {items : List Item}
    (hWord : word ≠ separatorWord) (hItem : classify word = .ok item)
    (hRest : classifyAll rest = .ok items) : classifyAll (word :: rest) = .ok (item :: items) := by
  rw [classifyAll, if_neg hWord, hItem, hRest]
  rfl

/-- `name ++ '=' :: value` is split at its first `=` where `name` has none. -/
theorem splitEquals_append {name value : List Char} (hName : '=' ∉ name) :
    splitEquals (name ++ '=' :: value) = (name, some value) := by
  have hPass : ∀ c ∈ name, (c != '=') = true := by
    intro c hc
    simpa using ne_of_mem_of_not_mem hc hName
  rw [splitEquals, List.takeWhile_append_of_pos hPass, List.dropWhile_append_of_pos hPass]
  simp

/-- **A long switch with a value behind `=`** is `switch s (assigned value)`, whatever the value is.
-/
theorem classify_assigned {s : Switch} {spelling : String} (hSpelling : spelling ∈ s.names)
    (hLong : isLong spelling.toList = true) (hName : '=' ∉ spelling.toList) (value : String) :
    classify (spelling ++ "=" ++ value) = .ok (.switch s (.assigned value.toList)) := by
  have hList : (spelling ++ "=" ++ value).toList = spelling.toList ++ '=' :: value.toList := by
    simp
  have hDash : (spelling ++ "=" ++ value).toList.head? = some '-' := by
    rw [hList]
    cases hChars : spelling.toList with
    | nil => rw [hChars] at hLong; cases hLong
    | cons c rest =>
        rw [hChars, isLong, List.isPrefixOf, Bool.and_eq_true, beq_iff_eq] at hLong
        rw [← hLong.1]
        rfl
  have hLength : (spelling ++ "=" ++ value).toList ≠ ['-'] := by
    intro hOne
    have hMem : '=' ∈ (spelling ++ "=" ++ value).toList := by simp
    rw [hOne] at hMem
    cases List.mem_singleton.mp hMem
  -- no spelling has an equals sign
  have hOther : Switch.ofSpelling? (spelling ++ "=" ++ value) = none := by
    rw [Switch.ofSpelling?, List.lookup_eq_none_iff]
    rintro ⟨other, s'⟩ hOther
    have hAll : Switch.spellings.all (fun entry => !entry.1.toList.contains '=') = true := by decide
    have hNone := List.all_eq_true.mp hAll _ hOther
    rw [bne_iff_ne]
    rintro rfl
    simp at hNone
  have hSwitch := Switch.ofSpelling?_of_mem_names s spelling hSpelling
  rw [classify, if_neg (by rw [hDash]; simp), hOther]
  dsimp only
  rw [if_neg hLength, hList, splitEquals_append hName]
  dsimp only
  rw [String.ofList_toList, hSwitch]
  dsimp only
  rw [attachedOf, hLong]
  rfl

/-- A spelling of `s` is `switch s nothing`: nothing is attached to it. -/
theorem classify_spelling {s : Switch} {spelling : String} (hSpelling : spelling ∈ s.names) :
    classify spelling = .ok (.switch s .nothing) := by
  have hAll : Switch.all.all (fun s => s.names.all (·.toList.head? == some '-')) = true := by decide
  have hSwitch : s ∈ Switch.all := by cases s <;> decide
  have hDash : spelling.toList.head? = some '-' := by
    simpa using List.all_eq_true.mp (List.all_eq_true.mp hAll s hSwitch) spelling hSpelling
  rw [classify, if_neg (by rw [hDash]; simp), Switch.ofSpelling?_of_mem_names s spelling hSpelling]

/-- **The words are read as the setting `s`**, whatever stands behind them: `classifyAll` makes
items of them, the first of which is a switch, and `takeAll` of these items heeds `s`. -/
def ReadAs (words : List String) (s : Setting) : Prop :=
  ∃ switch attached more,
    (∀ rest items, classifyAll rest = .ok items →
      classifyAll (words ++ rest) = .ok (.switch switch attached :: more ++ items)) ∧
    ∀ (p : Progress) (items : List Item),
      p.takeAll (.switch switch attached :: more ++ items) = (p.heed s).takeAll items

section Shapes

variable {switch : Switch} {spelling value : String} {s : Setting}
  (hSpelling : spelling ∈ switch.names)
include hSpelling

/-- `spelling ≠ "--"` for the spellings of a switch. -/
theorem ne_separatorWord_of_mem_names : spelling ≠ separatorWord := by
  rintro rfl
  revert hSpelling
  cases switch <;> decide

/-- `[spelling, value]` is read as `s` where `p.use ⟨switch, value⟩` heeds `s`. -/
theorem readAs_next (hTakes : switch.takesValue = true) (hValue : NoDash value)
    (hUse : ∀ p : Progress, p.use ⟨switch, value⟩ = .ok (p.heed s)) :
    ReadAs [spelling, value] s := by
  refine ⟨switch, .nothing, [.operand value], ?_, ?_⟩
  · intro rest items hRest
    exact classifyAll_cons (ne_separatorWord_of_mem_names hSpelling) (classify_spelling hSpelling)
      (classifyAll_cons hValue.ne_separatorWord hValue.classify_eq hRest)
  · intro p items
    have hBare : expand switch .nothing = .ok ⟨[], some switch⟩ := by
      rw [expand, Expansion.ofBare, if_pos hTakes]
    have hAll : p.useAll ([] ++ [⟨switch, value⟩]) = .ok (p.heed s) := by
      rw [List.nil_append, Progress.useAll, List.foldlM_cons, hUse]
      rfl
    rw [List.cons_append, List.singleton_append, Progress.takeAll, hBare]
    dsimp only
    rw [hAll]
    rfl

/-- `[spelling ++ "=" ++ value]` is read as `s` where `p.use ⟨switch, value⟩` heeds `s`. -/
theorem readAs_assigned (hLong : isLong spelling.toList = true) (hName : '=' ∉ spelling.toList)
    (hTakes : switch.takesValue = true)
    (hUse : ∀ p : Progress, p.use ⟨switch, value⟩ = .ok (p.heed s)) :
    ReadAs [spelling ++ "=" ++ value] s := by
  -- the separator has no equals sign
  have hWord : spelling ++ "=" ++ value ≠ separatorWord := by
    intro hSeparator
    have hMem : '=' ∈ (spelling ++ "=" ++ value).toList := by simp
    rw [hSeparator] at hMem
    revert hMem
    decide
  refine ⟨switch, .assigned value.toList, [], ?_, ?_⟩
  · intro rest items hRest
    exact classifyAll_cons hWord (classify_assigned hSpelling hLong hName value) hRest
  · intro p items
    have hValue : expand switch (.assigned value.toList) = .ok ⟨[⟨switch, value⟩], none⟩ := by
      rw [expand, if_pos hTakes, Expansion.ofValue, String.ofList_toList]
    have hAll : p.useAll [⟨switch, value⟩] = .ok (p.heed s) := by
      rw [Progress.useAll, List.foldlM_cons, hUse]
      rfl
    rw [List.cons_append, List.nil_append, Progress.takeAll, hValue]
    dsimp only
    rw [hAll]
    rfl

/-- `[spelling]` is read as `s` where the switch takes no value and `p.use ⟨switch, ""⟩` heeds `s`.
-/
theorem readAs_alone (hTakes : switch.takesValue = false)
    (hUse : ∀ p : Progress, p.use ⟨switch, ""⟩ = .ok (p.heed s)) : ReadAs [spelling] s := by
  refine ⟨switch, .nothing, [], ?_, ?_⟩
  · intro rest items hRest
    exact classifyAll_cons (ne_separatorWord_of_mem_names hSpelling) (classify_spelling hSpelling)
      hRest
  · intro p items
    have hBare : expand switch .nothing = .ok ⟨[⟨switch, ""⟩], none⟩ := by
      rw [expand, Expansion.ofBare, if_neg (by rw [hTakes]; decide)]
    have hAll : p.useAll [⟨switch, ""⟩] = .ok (p.heed s) := by
      rw [Progress.useAll, List.foldlM_cons, hUse]
      rfl
    rw [List.cons_append, List.nil_append, Progress.takeAll, hBare]
    dsimp only
    rw [hAll]
    rfl

end Shapes

/-- `Given.ofText name = .value name` for a name other than `--`. -/
theorem Given.ofText_of_ne {name : String} (h : name ≠ separatorWord) :
    Given.ofText name = .value name := by
  rw [Given.ofText, if_neg h]

/-- `p.use` heeds the name of an output. -/
theorem use_output {name : String} (h : name ≠ separatorWord) (p : Progress) :
    p.use ⟨.output, name⟩ = .ok (p.heed (.output name)) := by
  rw [Progress.use, Given.ofText_of_ne h]
  rfl

/-- `p.use` heeds the name of a configuration. -/
theorem use_config {name : String} (h : name ≠ separatorWord) (p : Progress) :
    p.use ⟨.config, name⟩ = .ok (p.heed (.config name)) := by
  rw [Progress.use, Given.ofText_of_ne h]
  rfl

/-- `p.use` heeds the name of a form, as `DumpFormat.name` gives it. -/
theorem use_format (f : DumpFormat) (p : Progress) :
    p.use ⟨.format, f.name⟩ = .ok (p.heed (.format f)) := by
  have hName : f.name ≠ separatorWord := by cases f <;> decide
  rw [Progress.use, Given.ofText_of_ne hName]
  cases f <;> rfl

/-- **A group of words is read as what it says:** `Says words s` implies `ReadAs words s`. -/
theorem Says.readAs {words : List String} {s : Setting} (h : Says words s) : ReadAs words s := by
  have hDash : ∀ f : DumpFormat, NoDash f.name := by rintro (_ | _) <;> exact nofun
  -- a value in the next word, a value behind an equals sign, or no value: each has its lemma
  cases h with
  | shortOutput hName =>
      exact readAs_next (by decide) rfl hName (use_output hName.ne_separatorWord)
  | longOutput hName =>
      exact readAs_next (by decide) rfl hName (use_output hName.ne_separatorWord)
  | assignedOutput hName =>
      exact readAs_assigned (show "--output" ∈ Switch.output.names by decide) rfl (by decide) rfl
        (use_output hName)
  | longConfig hName =>
      exact readAs_next (by decide) rfl hName (use_config hName.ne_separatorWord)
  | assignedConfig hName =>
      exact readAs_assigned (show "--config" ∈ Switch.config.names by decide) rfl (by decide) rfl
        (use_config hName)
  | longFormat f => exact readAs_next (by decide) rfl (hDash f) (use_format f)
  | assignedFormat f =>
      exact readAs_assigned (show "--format" ∈ Switch.format.names by decide) rfl (by decide) rfl
        (use_format f)
  | allowIllegal =>
      exact readAs_alone (show "--allow-illegal" ∈ Switch.allowIllegal.names by decide) rfl
        fun _ => rfl
  | shortQuiet => exact readAs_alone (show "-q" ∈ Switch.quiet.names by decide) rfl fun _ => rfl
  | longQuiet => exact readAs_alone (show "--quiet" ∈ Switch.quiet.names by decide) rfl fun _ => rfl

/-! ### Whole command lines -/

/-- **Groups of words are read as what they say, in order:** `takeAll` of their items is
`foldl Progress.heed` over the settings. -/
theorem readAll_of_groups {groups : List (List String)} {settings : List Setting}
    (h : List.Forall₂ Says groups settings) :
    ∃ items,
      (∀ rest more, classifyAll rest = .ok more →
        classifyAll (groups.flatten ++ rest) = .ok (items ++ more)) ∧
      (items.head? ≠ some .separator) ∧
      ∀ (p : Progress) (more : List Item),
        p.takeAll (items ++ more) = (settings.foldl Progress.heed p).takeAll more := by
  induction h with
  | nil => exact ⟨[], fun _ _ hRest => hRest, nofun, fun _ _ => rfl⟩
  | @cons words s groups settings hSays _ ih =>
      obtain ⟨switch, attached, own, hWords, hTake⟩ := hSays.readAs
      obtain ⟨items, hGroups, -, hTakeAll⟩ := ih
      refine ⟨.switch switch attached :: own ++ items, ?_, nofun, ?_⟩
      · intro rest more hRest
        rw [List.flatten_cons, List.append_assoc, List.append_assoc]
        exact hWords _ _ (hGroups _ _ hRest)
      · intro p more
        rw [List.append_assoc, hTake, hTakeAll, List.foldl_cons]

/-- `foldl Progress.heed` changes nothing but `p.said`. -/
theorem foldl_heed (settings : List Setting) (p : Progress) :
    settings.foldl Progress.heed p = { p with said := settings.foldl Choices.heed p.said } := by
  induction settings generalizing p with
  | nil => rfl
  | cons s settings ih => exact ih (p.heed s)

/-- **A command line of groups around an input** is parsed to `foldl Choices.heed` over the settings
of all groups, in order. -/
theorem parse_eq_foldl_heed {input : String} (hInput : NoDash input)
    {front back : List (List String)} {first second : List Setting}
    (hFront : List.Forall₂ Says front first) (hBack : List.Forall₂ Says back second) :
    parse (front.flatten ++ input :: back.flatten)
      = .ok ⟨(first ++ second).foldl Choices.heed .none, input⟩ := by
  obtain ⟨before, hBefore, -, hTakeBefore⟩ := readAll_of_groups hFront
  obtain ⟨after, hAfter, hHead, hTakeAfter⟩ := readAll_of_groups hBack
  have hRest : classifyAll (input :: back.flatten) = .ok (.operand input :: after) := by
    have hItems := hAfter [] [] rfl
    rw [List.append_nil, List.append_nil] at hItems
    exact classifyAll_cons hInput.ne_separatorWord hInput.classify_eq hItems
  -- the input is taken as such, since no separator stands behind it
  have hOperand : ∀ p : Progress, p.input = none →
      p.takeAll (.operand input :: after) = { p with input := some input }.takeAll after := by
    intro p hNone
    rw [Progress.takeAll, hNone, Option.isSome_none, if_neg (by decide)]
    rintro rest rfl
    exact hHead rfl
  have hEnd : ∀ p : Progress, p.takeAll after = .ok (second.foldl Progress.heed p) := by
    intro p
    have hTake := hTakeAfter p []
    rw [List.append_nil] at hTake
    exact hTake
  rw [parse, hBefore _ _ hRest]
  dsimp only
  rw [hTakeBefore, foldl_heed, hOperand _ rfl, hEnd, foldl_heed, List.foldl_append]
  rfl

/-! ### What the settings come to -/

/-- The last of some values; `absent` if there are none. -/
def Given.last {α : Type} (values : List α) : Given α :=
  match values.getLast? with
  | none => .absent
  | some a => .value a

/-- **A value that each setting may replace is the last one**: `field` of the result is `Given.last`
of what `value?` finds. -/
theorem foldl_heed_value {α : Type} {field : Choices → Given α} {value? : Setting → Option α}
    (hNone : field .none = .absent)
    (hHeed : ∀ c s, field (c.heed s) = (value? s).elim (field c) .value) (settings : List Setting) :
    field (settings.foldl Choices.heed .none) = .last (settings.filterMap value?) := by
  induction settings using List.reverseRecOn with
  | nil => exact hNone
  | append_singleton settings s ih =>
      rw [List.foldl_append, List.foldl_cons, List.foldl_nil, hHeed, ih, List.filterMap_append]
      cases hValue : value? s <;> simp [Given.last, hValue]

/-- **A choice that one setting makes is made** if `own` is among the settings. -/
theorem foldl_heed_flag {flag : Choices → Bool} {own : Setting} (hNone : flag .none = false)
    (hHeed : ∀ c s, flag (c.heed s) = (flag c || decide (s = own))) (settings : List Setting) :
    flag (settings.foldl Choices.heed .none) = true ↔ own ∈ settings := by
  induction settings using List.reverseRecOn with
  | nil => simp [hNone]
  | append_singleton settings s ih =>
      rw [List.foldl_append, List.foldl_cons, List.foldl_nil, hHeed, Bool.or_eq_true, ih,
        List.mem_append, List.mem_singleton, decide_eq_true_eq, eq_comm]

section Settled

variable (settings : List Setting)

/-- The output is `Given.last` of those that the settings name. -/
theorem output_foldl_heed :
    (settings.foldl Choices.heed .none).output = .last (settings.filterMap Setting.output?) :=
  foldl_heed_value rfl (by rintro c (_ | _ | _ | _ | _) <;> rfl) settings

/-- The configuration is `Given.last` of those that the settings name. -/
theorem config_foldl_heed :
    (settings.foldl Choices.heed .none).config = .last (settings.filterMap Setting.config?) :=
  foldl_heed_value rfl (by rintro c (_ | _ | _ | _ | _) <;> rfl) settings

/-- The form is `Given.last` of those that the settings name. -/
theorem format_foldl_heed :
    (settings.foldl Choices.heed .none).format = .last (settings.filterMap Setting.format?) :=
  foldl_heed_value rfl (by rintro c (_ | _ | _ | _ | _) <;> rfl) settings

/-- Illegal characters are dumped exactly if `allowIllegal` is among the settings. -/
theorem allowIllegal_foldl_heed :
    (settings.foldl Choices.heed .none).allowIllegal = true ↔ .allowIllegal ∈ settings :=
  foldl_heed_flag rfl (by rintro c (_ | _ | _ | _ | _) <;> simp [Choices.heed]) settings

/-- Warnings are not reported exactly if `quiet` is among the settings. -/
theorem quiet_foldl_heed :
    (settings.foldl Choices.heed .none).quiet = true ↔ .quiet ∈ settings :=
  foldl_heed_flag rfl (by rintro c (_ | _ | _ | _ | _) <;> simp [Choices.heed]) settings

end Settled

/-- Filtering by `switch` first loses nothing that `value?` finds, where `value?` finds something in
settings of that switch only. -/
theorem filterMap_filter_switch {α : Type} {value? : Setting → Option α} {switch : Switch}
    (hSwitch : ∀ s a, value? s = some a → s.switch = switch) (settings : List Setting) :
    (settings.filter (·.switch = switch)).filterMap value? = settings.filterMap value? := by
  rw [List.filterMap_filter]
  refine List.filterMap_congr fun s _ => ?_
  cases hValue : value? s with
  | none => simp
  | some a => simp [hSwitch s a hValue]

/-- **The order of different switches does not matter**: `foldl Choices.heed` is the same for
settings in which those of each switch are the same, in the same order. -/
theorem foldl_heed_congr {settings others : List Setting}
    (h : ∀ switch : Switch,
      others.filter (·.switch = switch) = settings.filter (·.switch = switch)) :
    others.foldl Choices.heed .none = settings.foldl Choices.heed .none := by
  -- a value depends on the settings of its own switch, a choice on whether its setting is among
  -- them
  have hValues : ∀ {α : Type} {value? : Setting → Option α} (switch : Switch),
      (∀ s a, value? s = some a → s.switch = switch) →
        others.filterMap value? = settings.filterMap value? := by
    intro α value? switch hSwitch
    rw [← filterMap_filter_switch hSwitch, h, filterMap_filter_switch hSwitch]
  have hMem : ∀ s, s ∈ others ↔ s ∈ settings := by
    intro s
    have hOwn := congrArg (s ∈ ·) (h s.switch)
    simpa using hOwn
  have hOutput := output_foldl_heed others
  have hConfig := config_foldl_heed others
  have hFormat := format_foldl_heed others
  have hAllow := allowIllegal_foldl_heed others
  have hQuiet := quiet_foldl_heed others
  rw [hValues .output (by rintro (_ | _ | _ | _ | _) a ⟨⟩; rfl), ← output_foldl_heed]
    at hOutput
  rw [hValues .config (by rintro (_ | _ | _ | _ | _) a ⟨⟩; rfl), ← config_foldl_heed]
    at hConfig
  rw [hValues .format (by rintro (_ | _ | _ | _ | _) a ⟨⟩; rfl), ← format_foldl_heed]
    at hFormat
  rw [hMem, ← allowIllegal_foldl_heed, ← Bool.eq_iff_iff] at hAllow
  rw [hMem, ← quiet_foldl_heed, ← Bool.eq_iff_iff] at hQuiet
  -- the two results agree in each of the five fields
  generalize others.foldl Choices.heed .none = first at *
  generalize settings.foldl Choices.heed .none = second at *
  cases first
  cases second
  dsimp only at hOutput hConfig hFormat hAllow hQuiet
  subst hOutput hConfig hFormat hAllow hQuiet
  rfl

/-- **The order of arguments.** A command line of groups with an input before, between or behind them
is always read. The input is that word; of output, configuration and form the last value counts, and
none is given without a group; illegal characters are dumped, and warnings not reported, exactly if
there is a group that says so. Any other command line with this input, whose groups say the same for
each switch in the same order, is read alike: so the input can be moved, and groups of different
switches can change places. -/
theorem parse_groups {input : String} (hInput : NoDash input)
    {front back : List (List String)} {first second : List Setting}
    (hFront : List.Forall₂ Says front first) (hBack : List.Forall₂ Says back second) :
    ∃ a, parse (front.flatten ++ input :: back.flatten) = .ok a ∧ a.input = input ∧
      a.output = .last ((first ++ second).filterMap Setting.output?) ∧
      a.config = .last ((first ++ second).filterMap Setting.config?) ∧
      a.format = .last ((first ++ second).filterMap Setting.format?) ∧
      (a.allowIllegal = true ↔ .allowIllegal ∈ first ++ second) ∧
      (a.quiet = true ↔ .quiet ∈ first ++ second) ∧
      ∀ front' back' first' second',
        List.Forall₂ Says front' first' → List.Forall₂ Says back' second' →
        (∀ switch : Switch, (first' ++ second').filter (·.switch = switch)
          = (first ++ second).filter (·.switch = switch)) →
        parse (front'.flatten ++ input :: back'.flatten) = .ok a := by
  refine ⟨_, parse_eq_foldl_heed hInput hFront hBack, rfl, output_foldl_heed _, config_foldl_heed _,
    format_foldl_heed _, allowIllegal_foldl_heed _, quiet_foldl_heed _, ?_⟩
  intro front' back' first' second' hFront' hBack' hSame
  rw [parse_eq_foldl_heed hInput hFront' hBack', foldl_heed_congr hSame]

/-- The last of two outputs and of two forms counts, with an empty name as the input. The same is read
where the input stands in front and the switch without a value between the outputs. -/
theorem parse_groups_overridden :
    parse ["--format", "json", "-o", "a b", "--output=" ++ "-x=--", "", "-q", "--format=" ++ "text"]
        = .ok ⟨⟨.value "-x=--", .value .text, false, true, .absent⟩, ""⟩ ∧
      parse ["", "-o", "a b", "--quiet", "--output=" ++ "-x=--", "--format", "json", "--format",
          "text"]
        = .ok ⟨⟨.value "-x=--", .value .text, false, true, .absent⟩, ""⟩ := by
  have hInput : NoDash "" := nofun
  have hName : NoDash "a b" := by unfold NoDash; decide
  have hValue : "-x=--" ≠ "--" := by decide
  obtain ⟨a, hParse, hA, hOutput, hConfig, hFormat, hAllow, hQuiet, hSame⟩ :=
    parse_groups hInput
      (.cons (.longFormat .json) (.cons (.shortOutput hName) (.cons (.assignedOutput hValue) .nil)))
      (.cons .shortQuiet (.cons (.assignedFormat .text) .nil))
  have hMoved := hSame [] _ [] _ .nil (.cons (.shortOutput hName) (.cons .longQuiet
    (.cons (.assignedOutput hValue) (.cons (.longFormat .json) (.cons (.longFormat .text) .nil)))))
    (by rintro (_ | _ | _ | _ | _ | _) <;> decide)
  have hAllow' : a.allowIllegal = false := by
    rw [← Bool.not_eq_true, hAllow]
    decide
  have hQuiet' : a.quiet = true := hQuiet.mpr (by decide)
  obtain ⟨⟨output, format, allowIllegal, quiet, config⟩, input⟩ := a
  cases hA
  cases hOutput
  cases hConfig
  cases hFormat
  cases hAllow'
  cases hQuiet'
  exact ⟨hParse, hMoved⟩

end MarkupScan.CommandLine
