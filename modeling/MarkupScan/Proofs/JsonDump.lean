import Mathlib.Data.List.Forall2
import MarkupScan.Dump
import MarkupScan.Proofs.JsonReader
import MarkupScan.Proofs.NumberLiterals
import MarkupScan.Proofs.PrintedPlaces

/-! # JSON dumps lose nothing

Whatever is written as JSON is JSON, in printable ASCII characters and line feeds only, and says what
was to be written. A dump of tokens therefore says the category, the text, the value and the place of
every token, and equal dumps are dumps of tokens that agree in these.

Main definitions.
* **`Json.value`**: what the text of a value is to say; **`Json.Spellable`**: its number literals are
  literals.
* **`Json.Printed`**: texts of the characters that are written.
* **`Token.dumped`**: what a dump says about a token; **`Token.SameDump`**: tokens that are not told
  apart.

Main statements.
* **`Json.quoted_quote`**: a text in quotes says that text.
* **`Json.spells_write`**: what is written is JSON and says the value.
* **`Json.printed_write`**: what is written is printable ASCII.
* **`dumpJson_lossless`**: a dump says everything about its tokens but where they end. -/

namespace MarkupScan

open JsonText (Dialect Document Member Padded Quoted Separated Space Spelled Spells Value isBare
  unitsOf)

namespace Json

/-! ### What is written -/

mutual

/-- What the text of a `Json` value is to say. -/
def value : Json → Value
  | .null => .null
  | .number literal => .number literal
  | .string text => .string text
  | .array items => .array (values items)
  | .object members => .object (memberValues members)

/-- What the texts of items are to say. -/
def values : List Json → List Value
  | [] => []
  | item :: items => item.value :: values items

/-- What the texts of members are to say. -/
def memberValues : List (String × Json) → List (String × Value)
  | [] => []
  | (key, item) :: members => (key, item.value) :: memberValues members

end

mutual

/-- All number literals of a value count as numbers in the dialect `d`. -/
def Spellable (d : Dialect) : Json → Prop
  | .null => True
  | .number literal => d.IsLiteral literal
  | .string _ => True
  | .array items => AllSpellable d items
  | .object members => AllMembersSpellable d members

/-- All number literals of items count as numbers. -/
def AllSpellable (d : Dialect) : List Json → Prop
  | [] => True
  | item :: items => item.Spellable d ∧ AllSpellable d items

/-- All number literals of members count as numbers. -/
def AllMembersSpellable (d : Dialect) : List (String × Json) → Prop
  | [] => True
  | (_, item) :: members => item.Spellable d ∧ AllMembersSpellable d members

end

/-! ### Strings -/

/-- `Nat.digitChar digit` is a hexadecimal digit of value `digit`, for `digit < 16`. -/
theorem hexValue_digitChar : ∀ digit < 16,
    Text.isHexDigit (Nat.digitChar digit) = true ∧ Text.hexValue (Nat.digitChar digit) = digit := by
  decide +kernel

/-- All of `Text.hexDigits width n` satisfy `isHexDigit`. -/
theorem isHexDigit_of_mem_hexDigits {width n : ℕ} {c : Char} (hc : c ∈ Text.hexDigits width n) :
    Text.isHexDigit c = true := by
  induction width generalizing n with
  | zero => cases hc
  | succ width ih =>
      rw [Text.hexDigits, List.mem_append, List.mem_singleton] at hc
      rcases hc with hFront | rfl
      · exact ih hFront
      · exact (hexValue_digitChar _ (Nat.mod_lt _ (by decide))).1

/-- One more hexadecimal digit counts sixteenfold what stands before it:
`16 * unitOf digits + hexValue c`. -/
theorem unitOf_append (digits : List Char) (c : Char) :
    JsonText.unitOf (digits ++ [c]) = 16 * JsonText.unitOf digits + Text.hexValue c := by
  simp [JsonText.unitOf, List.foldl_append]

/-- The last hexadecimal digits of `n` have the value `n % 16 ^ width`. -/
theorem unitOf_hexDigits (width n : ℕ) :
    JsonText.unitOf (Text.hexDigits width n) = n % 16 ^ width := by
  induction width generalizing n with
  | zero => simp [Text.hexDigits, JsonText.unitOf, Nat.mod_one]
  | succ width ih =>
      have hLast := (hexValue_digitChar (n % 16) (Nat.mod_lt _ (by decide))).2
      rw [Text.hexDigits, unitOf_append, ih, hLast, Nat.pow_succ, Nat.mul_comm _ 16, Nat.mod_mul]
      omega

/-- `escapeUnit unit` is `Spelled` as that unit. -/
theorem spelled_escapeUnit {unit : ℕ} (hUnit : unit < 0x10000) {body : List Char} {units : List ℕ}
    (h : Spelled body units) : Spelled (escapeUnit unit ++ body) (unit :: units) := by
  have hValue : JsonText.unitOf (Text.hexDigits 4 unit) = unit := by
    rw [unitOf_hexDigits]
    exact Nat.mod_eq_of_lt hUnit
  have hSpelled := Spelled.unit (Text.length_hexDigits 4 unit)
    (fun c hc => isHexDigit_of_mem_hexDigits hc) h
  rwa [hValue] at hSpelled

/-- Every code unit of a character has sixteen bits: `unit < 0x10000`. -/
theorem lt_of_mem_codeUnits {c : Char} {unit : ℕ} (h : unit ∈ Text.codeUnits c) :
    unit < 0x10000 := by
  have hValid : c.toNat < 0xD800 ∨ 0xDFFF < c.toNat ∧ c.toNat < 0x110000 := c.valid
  unfold Text.codeUnits at h
  split at h
  · simp only [List.mem_singleton] at h
    omega
  · simp only [List.mem_cons, List.not_mem_nil, or_false] at h
    omega

/-- Code units in the form of `escapeUnit` are `Spelled` as those units. -/
theorem spelled_flatMap_escapeUnit {escaped : List ℕ} (hUnits : ∀ unit ∈ escaped, unit < 0x10000)
    {body : List Char} {units : List ℕ} (h : Spelled body units) :
    Spelled (escaped.flatMap escapeUnit ++ body) (escaped ++ units) := by
  induction escaped with
  | nil => exact h
  | cons unit escaped ih =>
      obtain ⟨hUnit, hRest⟩ := List.forall_mem_cons.mp hUnits
      rw [List.flatMap_cons, List.append_assoc]
      exact spelled_escapeUnit hUnit (ih hRest)

/-- Inside a string a character stands behind a backslash as a letter, or as itself, or as its
`codeUnits`. -/
theorem escape_cases (c : Char) :
    (∃ letter, (letter, c) ∈ JsonText.shortEscapes ∧ escape c = ['\\', letter]) ∨
      (' ' ≤ c ∧ c ≤ '~' ∧ c ≠ '"' ∧ c ≠ '\\' ∧ escape c = [c]) ∨
      escape c = (Text.codeUnits c).flatMap escapeUnit := by
  -- the seven characters with a letter of their own come first
  by_cases hQuote : c = '"'
  · subst hQuote
    exact Or.inl ⟨'"', by decide, rfl⟩
  by_cases hBackslash : c = '\\'
  · subst hBackslash
    exact Or.inl ⟨'\\', by decide, rfl⟩
  by_cases hFeed : c = '\n'
  · subst hFeed
    exact Or.inl ⟨'n', by decide, rfl⟩
  by_cases hReturn : c = '\r'
  · subst hReturn
    exact Or.inl ⟨'r', by decide, rfl⟩
  by_cases hTab : c = '\t'
  · subst hTab
    exact Or.inl ⟨'t', by decide, rfl⟩
  by_cases hPage : c = '\x0c'
  · subst hPage
    exact Or.inl ⟨'f', by decide, rfl⟩
  by_cases hBack : c = '\x08'
  · subst hBack
    exact Or.inl ⟨'b', by decide, rfl⟩
  right
  by_cases hPrinted : ' ' ≤ c ∧ c ≤ '~'
  · left
    refine ⟨hPrinted.1, hPrinted.2, hQuote, hBackslash, ?_⟩
    simp [escape, hQuote, hBackslash, hFeed, hReturn, hTab, hPage, hBack, hPrinted]
  · right
    simp [escape, hQuote, hBackslash, hFeed, hReturn, hTab, hPage, hBack, hPrinted]

/-- **The form `escape c` of a character inside a string is `Spelled` as that character.** -/
theorem spelled_escape (c : Char) {body : List Char} {units : List ℕ} (h : Spelled body units) :
    Spelled (escape c ++ body) (Text.codeUnits c ++ units) := by
  rcases escape_cases c with ⟨letter, hLetter, hEscape⟩ | ⟨hLow, -, hQuote, hBackslash, hEscape⟩ |
    hEscape
  · rw [hEscape]
    exact .short hLetter h
  · rw [hEscape]
    exact .plain hLow hQuote hBackslash h
  · rw [hEscape]
    exact spelled_flatMap_escapeUnit (fun _ => lt_of_mem_codeUnits) h

/-- **A text in quotes says that text:** `Quoted (quote text) text`. -/
theorem quoted_quote (text : String) : Quoted (quote text) text := by
  have hSpelled : ∀ chars : List Char, Spelled (chars.flatMap escape) (unitsOf chars) := by
    intro chars
    induction chars with
    | nil => exact .nil
    | cons c chars ih => exact spelled_escape c ih
  exact ⟨_, hSpelled text.toList, rfl⟩

/-! ### Values -/

/-- `Space []`: nothing is white space of no length. -/
theorem space_nil : Space [] := nofun

/-- A `lineBreak` is white space. -/
theorem space_lineBreak (depth : ℕ) : Space (lineBreak depth) := by
  intro c hc
  rcases List.mem_cons.mp hc with rfl | hBlank
  · rfl
  · rw [(List.mem_replicate.mp hBlank).2]
    rfl

/-- A written member is a name, a colon and what it stands for: a `Member`. -/
theorem member_written {d : Dialect} (key : String) {raw back : List Char} {v : Value}
    (depth : ℕ) (hRaw : Spells d raw v) (hBack : Space back) :
    Member (Spells d) (lineBreak depth ++ quote key ++ ':' :: ' ' :: raw ++ back) (key, v) := by
  have hName := Padded.intro (space_lineBreak depth) (quoted_quote key) space_nil
  have hBlank : Space [' '] := by
    intro c hc
    rw [List.mem_singleton.mp hc]
    rfl
  have hMember := Member.intro hName (Padded.intro hBlank hRaw hBack)
  simpa using hMember

section Write

variable {d : Dialect}

mutual

/-- **What is written is JSON and says the value:** `v.write depth` spells `v.value`. -/
theorem spells_write : ∀ (v : Json) (depth : ℕ), v.Spellable d → Spells d (v.write depth) v.value
  | .null, _, _ => .null
  | .number _, _, h => .number h
  | .string text, _, _ => .string (quoted_quote text)
  | .array [], _, _ => .noItems space_nil
  | .array (item :: items), depth, h => by
      have hItems := separated_items items (depth + 1) depth (spells_write item (depth + 1) h.1) h.2
      have hArray := Spells.items hItems
      simpa [write, value, values] using hArray
  | .object [], _, _ => .noMembers space_nil
  | .object ((key, item) :: members), depth, h => by
      have hMembers := separated_members members (depth + 1) depth key
        (spells_write item (depth + 1) h.1) h.2
      have hObject := Spells.members hMembers
      simpa [write, value, memberValues] using hObject

/-- The items after the first say what they are to say: `writeItems` is `Separated`. -/
theorem separated_items : ∀ (items : List Json) (depth outer : ℕ) {raw : List Char} {v : Value},
    Spells d raw v → AllSpellable d items →
      Separated (Padded (Spells d))
        (lineBreak depth ++ raw ++ writeItems depth items ++ lineBreak outer) (v :: values items)
  | [], depth, outer, raw, v, hRaw, _ => by
      have hLast := Padded.intro (space_lineBreak depth) hRaw (space_lineBreak outer)
      simp only [writeItems, List.append_nil]
      exact .last hLast
  | item :: items, depth, outer, raw, v, hRaw, h => by
      have hFirst := Padded.intro (space_lineBreak depth) hRaw space_nil
      have hRest := separated_items items depth outer (spells_write item depth h.1) h.2
      have hItems := Separated.more hFirst hRest
      simpa [writeItems, values] using hItems

/-- The members after the first say what they are to say: `writeMembers` is `Separated`. -/
theorem separated_members : ∀ (members : List (String × Json)) (depth outer : ℕ) (key : String)
    {raw : List Char} {v : Value}, Spells d raw v → AllMembersSpellable d members →
      Separated (Member (Spells d))
        (lineBreak depth ++ quote key ++ ':' :: ' ' :: raw ++ writeMembers depth members
          ++ lineBreak outer) ((key, v) :: memberValues members)
  | [], depth, outer, key, raw, v, hRaw, _ => by
      have hLast := member_written key depth hRaw (space_lineBreak outer)
      simp only [writeMembers, List.append_nil]
      exact .last hLast
  | (next, item) :: members, depth, outer, key, raw, v, hRaw, h => by
      have hFirst := member_written key depth hRaw space_nil
      have hRest := separated_members members depth outer next (spells_write item depth h.1) h.2
      have hMembers := Separated.more hFirst hRest
      simpa [writeMembers, memberValues] using hMembers

end

end Write

/-! ### Characters -/

/-- **The characters of a written text** are `\n` and printable ASCII. -/
def Printed (text : List Char) : Prop := ∀ c ∈ text, c = '\n' ∨ ' ' ≤ c ∧ c ≤ '~'

/-- `first ++ second` is `Printed` exactly where both texts are. -/
@[simp] theorem printed_append {first second : List Char} :
    Printed (first ++ second) ↔ Printed first ∧ Printed second := List.forall_mem_append

/-- `c :: text` is `Printed` exactly where `c` and `text` are. -/
@[simp] theorem printed_cons {c : Char} {text : List Char} :
    Printed (c :: text) ↔ (c = '\n' ∨ ' ' ≤ c ∧ c ≤ '~') ∧ Printed text := List.forall_mem_cons

/-- `Printed []`. -/
@[simp] theorem printed_nil : Printed [] := nofun

/-- Hexadecimal digits are printable: `' ' ≤ c ∧ c ≤ '~'`. -/
theorem printable_of_isHexDigit {c : Char} (h : Text.isHexDigit c = true) : ' ' ≤ c ∧ c ≤ '~' := by
  simp only [Text.isHexDigit, Bool.or_eq_true, Bool.and_eq_true, decide_eq_true_eq, Char.le_def,
    UInt32.le_iff_toNat_le] at h ⊢
  simp at h ⊢
  omega

/-- The characters of literals (`isBare`) are printable. -/
theorem printable_of_isBare {c : Char} (h : isBare c = true) : ' ' ≤ c ∧ c ≤ '~' := by
  simp only [isBare, Number.isDigit, Bool.or_eq_true, Bool.and_eq_true, decide_eq_true_eq, beq_iff_eq,
    Char.le_def, UInt32.le_iff_toNat_le] at h ⊢
  rcases h with ((((h | h) | h) | rfl) | rfl) | rfl
  · simp at h ⊢
    omega
  · simp at h ⊢
    omega
  · simp at h ⊢
    omega
  · decide
  · decide
  · decide

/-- Literals are `Printed`. -/
theorem printed_of_isLiteral {d : Dialect} {literal : String} (h : d.IsLiteral literal) :
    Printed literal.toList := fun c hc => Or.inr (printable_of_isBare (h.bare.2 c hc))

/-- The `shortEscapes` are `Printed`, behind a backslash. -/
theorem printed_shortEscape {letter c : Char} (h : (letter, c) ∈ JsonText.shortEscapes) :
    Printed ['\\', letter] := by
  have hAll : JsonText.shortEscapes.all (fun escape => ' ' ≤ escape.1 && escape.1 ≤ '~') = true := by
    decide
  have hLetter : ' ' ≤ letter ∧ letter ≤ '~' := by simpa using List.all_eq_true.mp hAll _ h
  simp [hLetter]

/-- `escapeUnit unit` is `Printed`. -/
theorem printed_escapeUnit (unit : ℕ) : Printed (escapeUnit unit) := by
  have hDigits : Printed (Text.hexDigits 4 unit) := fun c hc =>
    Or.inr (printable_of_isHexDigit (isHexDigit_of_mem_hexDigits hc))
  simp [escapeUnit, hDigits]

/-- `escape c` is `Printed`. -/
theorem printed_escape (c : Char) : Printed (escape c) := by
  rcases escape_cases c with ⟨letter, hLetter, hEscape⟩ | ⟨hLow, hHigh, -, -, hEscape⟩ | hEscape
  · rw [hEscape]
    exact printed_shortEscape hLetter
  · rw [hEscape]
    simp [hLow, hHigh]
  · rw [hEscape]
    intro x hx
    obtain ⟨unit, -, hUnit⟩ := List.mem_flatMap.mp hx
    exact printed_escapeUnit unit x hUnit

/-- `quote text` is `Printed`. -/
theorem printed_quote (text : String) : Printed (quote text) := by
  have hBody : Printed (text.toList.flatMap escape) := by
    intro x hx
    obtain ⟨c, -, hc⟩ := List.mem_flatMap.mp hx
    exact printed_escape c x hc
  simp [quote, hBody]

/-- `lineBreak depth` is `Printed`. -/
theorem printed_lineBreak (depth : ℕ) : Printed (lineBreak depth) := by
  intro c hc
  rcases List.mem_cons.mp hc with rfl | hBlank
  · exact Or.inl rfl
  · rw [(List.mem_replicate.mp hBlank).2]
    decide

section Printed

variable {d : Dialect}

mutual

/-- **What is written is printable ASCII:** `v.write depth` is `Printed`. -/
theorem printed_write : ∀ (v : Json) (depth : ℕ), v.Spellable d → Printed (v.write depth)
  | .null, _, _ => by simp [write]
  | .number _, _, h => printed_of_isLiteral h
  | .string text, _, _ => printed_quote text
  | .array [], _, _ => by simp [write]
  | .array (item :: items), depth, h => by
      simp [write, printed_lineBreak, printed_write item _ h.1, printed_writeItems items _ h.2]
  | .object [], _, _ => by simp [write]
  | .object ((key, item) :: members), depth, h => by
      simp [write, printed_lineBreak, printed_quote, printed_write item _ h.1,
        printed_writeMembers members _ h.2]

/-- `writeItems depth items` is `Printed`. -/
theorem printed_writeItems : ∀ (items : List Json) (depth : ℕ), AllSpellable d items →
    Printed (writeItems depth items)
  | [], _, _ => by simp [writeItems]
  | item :: items, depth, h => by
      simp [writeItems, printed_lineBreak, printed_write item _ h.1, printed_writeItems items _ h.2]

/-- `writeMembers depth members` is `Printed`. -/
theorem printed_writeMembers : ∀ (members : List (String × Json)) (depth : ℕ),
    AllMembersSpellable d members → Printed (writeMembers depth members)
  | [], _, _ => by simp [writeMembers]
  | (key, item) :: members, depth, h => by
      simp [writeMembers, printed_lineBreak, printed_quote, printed_write item _ h.1,
        printed_writeMembers members _ h.2]

end

end Printed

end Json

/-! ### Dumps -/

/-- What a dump says about what a token carries. -/
def Payload.dumped : Payload → Value
  | .none => .null
  | .text content => .string content
  | .number value => .number (Number.jsonLayout.write value)

/-- **What a dump says about a token**: its category, what it carries, its text, and where it starts. -/
def Token.dumped (t : Token) : Value :=
  .object
    [("type", .string t.category.name), ("value", t.value.dumped), ("text", .string t.text),
      ("line", .number (toString t.line)), ("column", .number (toString t.column))]

/-- **Tokens that a dump does not tell apart**: they may end in different places. -/
structure Token.SameDump (t u : Token) : Prop where
  /-- They are of the same category. -/
  category_eq : u.category = t.category
  /-- They carry nothing, or the same text, or numbers that are written alike. -/
  value_eq : u.value.dumped = t.value.dumped
  /-- They have the same text. -/
  text_eq : u.text = t.text
  /-- They start on the same line. -/
  line_eq : u.line = t.line
  /-- They start in the same column. -/
  column_eq : u.column = t.column

/-- `payload.toJson.value = payload.dumped`. -/
theorem Payload.value_toJson (payload : Payload) : payload.toJson.value = payload.dumped := by
  cases payload <;> simp [toJson, dumped, Json.value]

/-- Payloads with the same `dumped` have the same `toJson`. -/
theorem Payload.toJson_eq_of_dumped_eq {first second : Payload} (h : first.dumped = second.dumped) :
    first.toJson = second.toJson := by
  cases first <;> cases second <;> simp_all [dumped, toJson]

/-- `t.toJson.value = t.dumped`. -/
theorem Token.value_toJson (t : Token) : t.toJson.value = t.dumped := by
  simp [toJson, jsonAt, dumped, Json.value, Json.memberValues, t.value.value_toJson]

/-- The number literals of `payload.toJson` count as numbers in the `extended` dialect. -/
theorem Payload.spellable_toJson (payload : Payload) : payload.toJson.Spellable .extended := by
  cases payload with
  | none => exact trivial
  | text content => exact trivial
  | number value => exact JsonText.isLiteral_write value

/-- All number literals of `t.toJson` count as numbers in the `extended` dialect. -/
theorem Token.spellable_toJson (t : Token) : t.toJson.Spellable .extended := by
  have hLine : Dialect.extended.IsLiteral (toString t.line) :=
    Or.inl (JsonText.isNumber_toString t.line)
  have hColumn : Dialect.extended.IsLiteral (toString t.column) :=
    Or.inl (JsonText.isNumber_toString t.column)
  exact ⟨trivial, t.value.spellable_toJson, trivial, hLine, hColumn, trivial⟩

/-- The values of `tokens.map Token.toJson` are `tokens.map Token.dumped`. -/
theorem values_map_toJson (tokens : List Token) :
    Json.values (tokens.map Token.toJson) = tokens.map Token.dumped := by
  induction tokens with
  | nil => rfl
  | cons t tokens ih => simp [Json.values, t.value_toJson, ih]

/-- All number literals of a token list count as numbers in the `extended` dialect. -/
theorem allSpellable_map_toJson (tokens : List Token) :
    Json.AllSpellable .extended (tokens.map Token.toJson) := by
  induction tokens with
  | nil => exact trivial
  | cons t tokens ih => exact ⟨t.spellable_toJson, ih⟩

/-- `t.dumped = u.dumped` implies `t.SameDump u`. -/
theorem Token.sameDump_of_dumped_eq {t u : Token} (h : t.dumped = u.dumped) : t.SameDump u := by
  simp only [dumped, Value.object.injEq, List.cons.injEq, Prod.mk.injEq, true_and, Value.string.injEq,
    Value.number.injEq, and_true] at h
  obtain ⟨hName, hValue, hText, hLine, hColumn⟩ := h
  have hCategory := Category.ofName?_name t.category
  rw [hName, Category.ofName?_name] at hCategory
  exact ⟨Option.some.inj hCategory, hValue.symm, hText.symm,
    (JsonText.toString_injective hLine).symm, (JsonText.toString_injective hColumn).symm⟩

/-- `t.SameDump u` implies `u.toJson = t.toJson`. -/
theorem Token.SameDump.toJson_eq {t u : Token} (h : t.SameDump u) : u.toJson = t.toJson := by
  simp only [toJson, jsonAt, h.category_eq, Payload.toJson_eq_of_dumped_eq h.value_eq, h.text_eq, h.line_eq,
    h.column_eq]

/-- `dumpJson tokens` is a JSON `Document` that says `tokens.map Token.dumped`. -/
theorem document_dumpJson (tokens : List Token) :
    Document .extended (dumpJson tokens).toList (.array (tokens.map Token.dumped)) := by
  have hSpells := Json.spells_write (Json.array (tokens.map Token.toJson)) 0
    (allSpellable_map_toJson tokens)
  have hDocument := Padded.intro Json.space_nil hSpells Json.space_nil
  rw [List.nil_append, List.append_nil, Json.value, values_map_toJson] at hDocument
  rw [dumpJson, Json.render, String.toList_ofList]
  exact hDocument

/-- Everything that `dumpJson` writes is printed. -/
theorem printed_dumpJson (tokens : List Token) : Json.Printed (dumpJson tokens).toList := by
  rw [dumpJson, Json.render, String.toList_ofList]
  exact Json.printed_write (Json.array (tokens.map Token.toJson)) 0 (allSpellable_map_toJson tokens)

/-- `dumpJson tokens` is read as the array of what its tokens are to say. -/
theorem read?_dumpJson (tokens : List Token) :
    JsonText.read? .extended (dumpJson tokens) = some (.array (tokens.map Token.dumped)) :=
  JsonText.read?_eq_some_iff.mpr (document_dumpJson tokens)

/-- **`dumpJson others = dumpJson tokens`** exactly for tokens that are not told apart. -/
theorem dumpJson_eq_iff {tokens others : List Token} :
    dumpJson others = dumpJson tokens ↔ List.Forall₂ Token.SameDump tokens others := by
  constructor
  · intro h
    have hSame := read?_dumpJson tokens
    rw [← h, read?_dumpJson, Option.some.injEq, Value.array.injEq, eq_comm, ← List.forall₂_eq_eq_eq,
      List.forall₂_map_left_iff, List.forall₂_map_right_iff] at hSame
    exact hSame.imp fun _ _ => Token.sameDump_of_dumped_eq
  · intro h
    have hJson : tokens.map Token.toJson = others.map Token.toJson := by
      rw [← List.forall₂_eq_eq_eq, List.forall₂_map_left_iff, List.forall₂_map_right_iff]
      exact h.imp fun _ _ hSame => hSame.toJson_eq.symm
    rw [dumpJson, dumpJson, hJson]

/-- `t.SameDump u` keeps `IsPrintable`: the two start in the same place. -/
theorem Token.SameDump.isPrintable {t u : Token} (h : t.SameDump u) (hPrintable : t.IsPrintable) :
    u.IsPrintable := by
  obtain ⟨hLine, hColumn⟩ := hPrintable
  rw [← h.line_eq] at hLine
  rw [← h.column_eq] at hColumn
  exact ⟨hLine, hColumn⟩

/-- Tokens that are `SameDump` as printable ones are printable, one by one. -/
theorem forall_isPrintable_of_sameDump {tokens others : List Token}
    (h : List.Forall₂ Token.SameDump tokens others) (hPrintable : ∀ t ∈ tokens, t.IsPrintable) :
    ∀ u ∈ others, u.IsPrintable := by
  induction h with
  | nil => exact List.forall_mem_nil _
  | cons hSame _ ih =>
      obtain ⟨hFirst, hRest⟩ := List.forall_mem_cons.mp hPrintable
      exact List.forall_mem_cons.mpr ⟨hSame.isPrintable hFirst, ih hRest⟩

/-- **The literals of numbers in a dump**: a finite number is written as in messages
(`displayLayout`), and there are three words for the other values. -/
inductive IsNumberLiteral : Number.Binary64 → String → Prop
  /-- A finite number, with its sign. -/
  | finite (negative : Bool) (x : Number.Magnitude) :
      IsNumberLiteral (.finite negative x) (Number.displayLayout.write (.finite negative x))
  /-- Infinity. -/
  | infinite : IsNumberLiteral (.infinite false) "Infinity"
  /-- Negative infinity. -/
  | negativeInfinite : IsNumberLiteral (.infinite true) "-Infinity"
  /-- No number. -/
  | nan : IsNumberLiteral .nan "NaN"

/-- `jsonLayout.write x` is the literal of `x`. -/
theorem isNumberLiteral_write (x : Number.Binary64) :
    IsNumberLiteral x (Number.jsonLayout.write x) := by
  cases x with
  | finite negative x => exact .finite negative x
  | infinite negative =>
      cases negative with
      | false => exact .infinite
      | true => exact .negativeInfinite
  | nan => exact .nan

/-- **A JSON dump loses nothing.** There is one exactly if all tokens are printable. It consists of
line feeds and printable ASCII characters; it is a JSON text, if words for special values count as
numbers, and says only one thing, which a reader finds: an array of objects that say the category, the
value, the text, the line and the column of each token, in order. Of a number it has the literal that
messages have too, if the number is finite. Lists of tokens have the same dump exactly if they agree
one by one in all of these. -/
theorem dumpJson_lossless (tokens : List Token) :
    ((∃ text, dumpJson? tokens = some text) ↔ ∀ t ∈ tokens, t.IsPrintable) ∧
      (∀ t ∈ tokens, ∀ x, t.value = .number x →
        ∃ literal, t.value.dumped = .number literal ∧ IsNumberLiteral x literal) ∧
      ∀ text, dumpJson? tokens = some text →
        (∀ c ∈ text.toList, c = '\n' ∨ ' ' ≤ c ∧ c ≤ '~') ∧
        (∀ value, Document .extended text.toList value ↔
          value = .array (tokens.map Token.dumped)) ∧
        JsonText.read? .extended text = some (.array (tokens.map Token.dumped)) ∧
        ∀ others, dumpJson? others = some text ↔ List.Forall₂ Token.SameDump tokens others := by
  refine ⟨?_, ?_, ?_⟩
  · simp only [dumpJson?_eq_some_iff, exists_and_left, exists_eq, and_true]
  · intro t _ x hValue
    rw [hValue]
    exact ⟨_, rfl, isNumberLiteral_write x⟩
  -- the text is the dump of printable tokens, which the reader reads back
  · intro text hText
    obtain ⟨hPrintable, rfl⟩ := dumpJson?_eq_some_iff.mp hText
    refine ⟨printed_dumpJson tokens, fun value => ?_, read?_dumpJson tokens, fun others => ?_⟩
    · rw [← JsonText.read?_eq_some_iff, read?_dumpJson, Option.some.injEq, eq_comm]
    · rw [dumpJson?_eq_some_iff, eq_comm, dumpJson_eq_iff]
      exact and_iff_right_of_imp fun hSame => forall_isPrintable_of_sameDump hSame hPrintable

/-- Two tokens, one with all kinds of characters in its text, the other with a number. -/
def oddTokens : List Token :=
  [⟨.stringLiteral, .text "\"\\\t\x7f😀", "\"\\\t\x7f😀", ⟨⟨1, 1, 0⟩, ⟨1, 8, 7⟩⟩⟩,
    ⟨.number, .number (.infinite true), "0.5", ⟨⟨-2, 0, 8⟩, ⟨1, 12, 11⟩⟩⟩]

/-- The dump of these tokens is read back, with escapes for some characters, two code units for one of
them, a word for a number and signs in front of places. -/
theorem dumpJson_lossless_odd :
    ∃ text, dumpJson? oddTokens = some text ∧
      JsonText.read? .extended text = some (.array
        [.object [("type", .string "StringLiteral"), ("value", .string "\"\\\t\x7f😀"),
          ("text", .string "\"\\\t\x7f😀"), ("line", .number "1"), ("column", .number "1")],
        .object [("type", .string "Number"), ("value", .number "-Infinity"),
          ("text", .string "0.5"), ("line", .number "-2"), ("column", .number "0")]]) := by
  obtain ⟨hExists, -, hDump⟩ := dumpJson_lossless oddTokens
  have hPrintable : ∀ t ∈ oddTokens, t.IsPrintable := by
    have hFew : ∀ n < 3, n < Nat.pow 10 Number.maxIntegerDigits := fun n hn =>
      hn.trans (by decide +kernel)
    intro t ht
    rcases List.mem_cons.mp ht with rfl | ht
    · exact ⟨hFew 1 (by decide), hFew 1 (by decide)⟩
    · rw [List.mem_singleton.mp ht]
      exact ⟨hFew 2 (by decide), hFew 0 (by decide)⟩
  obtain ⟨text, hText⟩ := hExists.mpr hPrintable
  exact ⟨text, hText, (hDump text hText).2.2.1⟩

/-- A sign on the line `10 ^ maxIntegerDigits` has no dump. An infinite number has one, in which its
literal is not the text that messages have for it. -/
theorem dumpJson_lossless_limits :
    dumpJson? [⟨.not, .none, "!",
        ⟨⟨(Nat.pow 10 Number.maxIntegerDigits : ℕ), 1, 0⟩, ⟨1, 2, 1⟩⟩⟩] = none ∧
      ∃ text, dumpJson? [⟨.number, .number (.infinite false), "9", ⟨⟨1, 1, 0⟩, ⟨1, 2, 1⟩⟩⟩]
          = some text ∧
        JsonText.read? .extended text = some (.array
          [.object [("type", .string "Number"), ("value", .number "Infinity"),
            ("text", .string "9"), ("line", .number "1"), ("column", .number "1")]]) ∧
        Number.displayLayout.write (.infinite false) = "inf" := by
  constructor
  · refine Option.eq_none_iff_forall_not_mem.mpr fun text hText => ?_
    have hPrintable := (dumpJson?_eq_some_iff.mp hText).1 _ List.mem_cons_self
    have hLine := hPrintable.line_lt
    rw [Token.line, Int.natAbs_natCast] at hLine
    exact Nat.lt_irrefl _ hLine
  · refine ⟨_, dumpJson?_eq_some_iff.mpr ⟨?_, rfl⟩, read?_dumpJson _, rfl⟩
    have hOne : 1 < Nat.pow 10 Number.maxIntegerDigits := by decide +kernel
    intro t ht
    rw [List.mem_singleton.mp ht]
    exact ⟨hOne, hOne⟩

end MarkupScan
