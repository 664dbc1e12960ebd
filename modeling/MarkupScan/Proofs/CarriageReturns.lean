import MarkupScan.Proofs.EditingRuns
import MarkupScan.Proofs.EditorRanges
import MarkupScan.Proofs.LineEnds

/-! # Carriage returns are not seen

Joining the line ends of a text changes nothing that is shown: the tokens and warnings keep their
lines and columns, and an editor is told the same about both texts. Offsets and the contents of
strings are the only things that differ.

Main definition: **`Text.joinLineEnds`**, a text with a line feed for every line end in two
characters.

Main statements.
* **`Text.Joined.lines_prefix`**: joined lines lose nothing but the carriage returns at their ends.
* **`Editor.placeOf_joined`**: places of the two texts with the same line and column are the same in
  an editor.
* **`Editor.diagnostics_joined`**: an editor is told the same about both texts.
* **`scan_joinLineEnds`**: scans and diagnostics of a text and of the text with joined line ends. -/

namespace MarkupScan

open Position (ofOffset)
open Text (Joined)

/-! ### Joining line ends -/

namespace Text

/-- **The text with `\n` for every `\r\n`.** A carriage return stays where no line feed follows it.
-/
def joinLineEnds : List Char → List Char
  | [] => []
  | '\r' :: '\n' :: text => '\n' :: joinLineEnds text
  | c :: text => c :: joinLineEnds text

variable {text joined : List Char}

/-- `Joined text joined` determines `joined`: it is `joinLineEnds text`. -/
theorem Joined.eq_joinLineEnds (h : Joined text joined) : joined = joinLineEnds text := by
  induction h with
  | nil => rfl
  | lineEnd _ ih => rw [joinLineEnds, ih]
  | @char c text joined hc _ ih =>
      rw [joinLineEnds, ih]
      rintro rest rfl -
      exact hc rfl

/-- **Line ends can be joined**: `Joined text (joinLineEnds text)` where every carriage return is
followed by a line feed. -/
theorem joined_joinLineEnds
    (hPaired : ∀ n, text[n]? = some '\r' → text[n + 1]? = some '\n') :
    Joined text (joinLineEnds text) := by
  have hJoined := joined_unifyNewlines hPaired
  rwa [hJoined.eq_joinLineEnds] at hJoined

/-- **Joined lines lose nothing but what ends them**: each is a prefix (`<+:`) of the line that it
comes from. -/
theorem Joined.lines_prefix (h : Joined text joined) :
    List.Forall₂ (fun line short => short <+: line) (lines text) (lines joined) := by
  induction h with
  | nil => exact .cons List.prefix_rfl .nil
  | @lineEnd text joined _ ih =>
      rw [lines_cons_of_ne (by decide) (lines_cons_feed text), lines_cons_feed]
      exact .cons List.nil_prefix ih
  | @char c text joined _ _ ih =>
      by_cases hc : c = '\n'
      · subst hc
        rw [lines_cons_feed, lines_cons_feed]
        exact .cons List.prefix_rfl ih
      · -- the character is put in front of both first lines
        obtain ⟨first, later, hText⟩ := List.exists_cons_of_ne_nil (lines_ne_nil text)
        obtain ⟨short, shorter, hJoined⟩ := List.exists_cons_of_ne_nil (lines_ne_nil joined)
        rw [hText, hJoined] at ih
        obtain ⟨hFirst, hLater⟩ := List.forall₂_cons.mp ih
        rw [lines_cons_of_ne hc hText, lines_cons_of_ne hc hJoined]
        exact .cons (List.cons_prefix_cons.mpr ⟨rfl, hFirst⟩) hLater

end Text

/-! ### Places and ranges in an editor -/

/-- `ys.map g = xs.map f` for lists that correspond by `R`, where `g y = f x` for all members that
do. -/
theorem map_eq_map_of_forall₂ {α β γ : Type} {R : α → β → Prop} {xs : List α} {ys : List β}
    {f : α → γ} {g : β → γ} (h : List.Forall₂ R xs ys)
    (hSame : ∀ x ∈ xs, ∀ y ∈ ys, R x y → g y = f x) : ys.map g = xs.map f := by
  induction h with
  | nil => rfl
  | @cons x y xs ys hxy _ ih =>
      rw [List.map_cons, List.map_cons, hSame x List.mem_cons_self y List.mem_cons_self hxy,
        ih fun x' hx y' hy => hSame x' (List.mem_cons_of_mem x hx) y' (List.mem_cons_of_mem y hy)]

namespace Editor

variable {source other : List Char}

/-- **Places with the same line and column are the same in an editor:** `SamePlace` implies an equal
`placeOf`. -/
theorem placeOf_joined (h : Joined source other) {n m : ℕ} (hn : n ≤ source.length)
    (hm : m ≤ other.length) (hSame : (ofOffset source n).SamePlace (ofOffset other m)) :
    placeOf (Text.lines other) (ofOffset other m)
      = placeOf (Text.lines source) (ofOffset source n) := by
  have hPlace := denotes_ofOffset hn
  have hOther := denotes_ofOffset hm
  obtain ⟨front, rest, hLine, hFront, hUnits⟩ := hPlace.column_eq
  obtain ⟨front', rest', hLine', hFront', hUnits'⟩ := hOther.column_eq
  have hIndex : (placeOf (Text.lines other) (ofOffset other m)).line
      = (placeOf (Text.lines source) (ofOffset source n)).line := by
    have hNumber := hPlace.line_eq
    have hNumber' := hOther.line_eq
    have hLines := hSame.1
    omega
  -- both columns count the same characters, since one line is the beginning of the other
  have hLength : front'.length = front.length := by
    have hColumns := hSame.2
    omega
  have hPrefix : front' ++ rest' <+: front ++ rest := by
    rw [hIndex] at hLine'
    have hLines := List.forall₂_iff_get.mp h.lines_prefix
    obtain ⟨hi, hGet⟩ := List.getElem?_eq_some_iff.mp hLine
    obtain ⟨hi', hGet'⟩ := List.getElem?_eq_some_iff.mp hLine'
    have hAt := hLines.2 _ hi hi'
    rwa [List.get_eq_getElem, List.get_eq_getElem, hGet, hGet'] at hAt
  obtain ⟨more, hMore⟩ := hPrefix
  rw [List.append_assoc] at hMore
  have hSameFront : front' = front := List.append_inj_left hMore hLength
  have hCharacter : (placeOf (Text.lines other) (ofOffset other m)).character
      = (placeOf (Text.lines source) (ofOffset source n)).character := by
    rw [hUnits, hUnits', hSameFront]
  exact congrArg₂ Place.mk hIndex hCharacter

/-- The span is a stretch of `source`: from one `ofOffset` to a later one. -/
def SpanOf (source : List Char) (span : Span) : Prop :=
  ∃ a b, a ≤ source.length ∧ b ≤ source.length ∧ span = ⟨ofOffset source a, ofOffset source b⟩

/-- **Spans that begin and end at the same places** have the same `rangeOf`. -/
theorem rangeOf_joined (h : Joined source other) {span found : Span} (hSpan : SpanOf source span)
    (hFound : SpanOf other found) (hStart : span.start.SamePlace found.start)
    (hStop : span.stop.SamePlace found.stop) :
    rangeOf (Text.lines other) found = rangeOf (Text.lines source) span := by
  obtain ⟨a, b, ha, hb, rfl⟩ := hSpan
  obtain ⟨k, l, hk, hl, rfl⟩ := hFound
  rw [rangeOf, rangeOf, placeOf_joined h ha hk hStart, placeOf_joined h hb hl hStop]

/-- Every token and every warning of `scanChars source` has a `SpanOf source`. -/
theorem spanOf_scanChars (source : List Char) :
    (∀ t ∈ (scanChars source).tokens, SpanOf source t.span) ∧
      ∀ w ∈ (scanChars source).warnings, SpanOf source w.span := by
  obtain ⟨hReached, hAdvances, -⟩ := (Scanner.reached_start source).drain
  constructor
  · intro t ht
    obtain ⟨a, b, -, hab, hb, hSpan⟩ := hAdvances.span_of_mem ht
    exact ⟨a, b, hab.trans hb, hb, hSpan⟩
  · intro w hw
    obtain ⟨a, ha, hSpan⟩ := hReached.spans w hw
    exact ⟨a, _, ha, Nat.le_refl _, hSpan⟩

/-- **An editor is told the same about the joined text:** `diagnostics joined = diagnostics text`.
-/
theorem diagnostics_joined {text joined : String} (h : Joined text.toList joined.toList) :
    diagnostics joined = diagnostics text := by
  obtain ⟨hTokens, hWarnings⟩ := scanChars_joined h
  obtain ⟨hSpans, hWarned⟩ := spanOf_scanChars text.toList
  obtain ⟨hSpans', hWarned'⟩ := spanOf_scanChars joined.toList
  -- illegal tokens correspond, and so do warnings; what is shown of them depends on their places
  -- only
  have hIllegal : List.Forall₂ Token.Alike
      ((scan text).tokens.filter (·.category = .illegal))
      ((scan joined).tokens.filter (·.category = .illegal)) := by
    refine List.rel_filter ?_ hTokens
    intro t u hAlike
    simp only [hAlike.category_eq]
  rw [Session.diagnostics_eq, Session.diagnostics_eq]
  refine congrArg₂ (· ++ ·) (map_eq_map_of_forall₂ hIllegal ?_) (map_eq_map_of_forall₂ hWarnings ?_)
  · intro t ht u hu hAlike
    obtain ⟨ht, hCategory⟩ := List.mem_filter.mp ht
    have hText := (hAlike.content_eq (by rw [of_decide_eq_true hCategory]; decide)).2
    rw [rangeOf_joined h (hSpans t ht) (hSpans' u (List.mem_of_mem_filter hu)) hAlike.start_eq
      hAlike.stop_eq, hText]
  · intro v hv w hw hAlike
    rw [rangeOf_joined h (hWarned v hv) (hWarned' w hw) hAlike.start_eq hAlike.stop_eq,
      Warning.message, Warning.message, hAlike.construct_eq]

/-- Events that give texts to one document, both of which are taken or refused alike, publish the
same where the `diagnostics` of the texts are equal. -/
theorem Session.handle_fst_eq (s : Session) (files : FileView) {event other : Event}
    {text found : String} (hText : event.text? = some text) (hFound : other.text? = some found)
    (hUri : other.uri = event.uri) (hRefusal : other.refusal = event.refusal)
    (hFails : other.Fails s ↔ event.Fails s) (h : diagnostics found = diagnostics text) :
    (s.handle files other).1 = (s.handle files event).1 := by
  by_cases hRefused : event.Fails s
  · rw [handle_of_fails s files hText hRefused,
      handle_of_fails s files hFound (hFails.mpr hRefused), hRefusal]
  · rw [handle_of_text?_eq_some s files hText hRefused,
      handle_of_text?_eq_some s files hFound (mt hFails.mp hRefused), hUri, h]

end Editor

/-! ### The same scans and diagnostics -/

/-- **Joining line ends changes nothing that is shown.** In a text every carriage return is followed
by a line feed; in another text these line ends are joined. Then the tokens of the two texts
correspond one to one: they are of the same category, begin and end on the same lines and in the
same columns, and have the same text and value, except that in a string the line ends are joined.
So do the warnings, with the same messages. The diagnostics are the same, and are published alike in
every session for every address. -/
theorem scan_joinLineEnds {text joined : String}
    (hPaired : ∀ n, text.toList[n]? = some '\r' → text.toList[n + 1]? = some '\n')
    (hJoined : joined.toList = Text.joinLineEnds text.toList) :
    List.Forall₂ (fun t u : Token => t.Alike u ∧ (t.category = .stringLiteral →
        u.text = String.ofList (Text.joinLineEnds t.text.toList) ∧ u.value = .text u.text))
        (scan text).tokens (scan joined).tokens ∧
      List.Forall₂ (fun v w : Warning => v.Alike w ∧ w.message = v.message)
        (scan text).warnings (scan joined).warnings ∧
      Editor.diagnostics joined = Editor.diagnostics text ∧
      ∀ (s : Editor.Session) (files : FileView) (uri : String) (earlier : List String),
        (s.handle files (.opened uri joined)).1 = (s.handle files (.opened uri text)).1 ∧
          (s.handle files (.changed uri (earlier ++ [joined]))).1
            = (s.handle files (.changed uri (earlier ++ [text]))).1 := by
  have hText : Joined text.toList joined.toList := by
    rw [hJoined]
    exact Text.joined_joinLineEnds hPaired
  obtain ⟨hTokens, hWarnings⟩ := scanChars_joined hText
  have hDiagnostics := Editor.diagnostics_joined hText
  refine ⟨hTokens.imp ?_, hWarnings.imp ?_, hDiagnostics, fun s files uri earlier => ⟨?_, ?_⟩⟩
  · intro t u hAlike
    refine ⟨hAlike, fun hString => ?_⟩
    obtain ⟨hContent, -, hValue⟩ := hAlike.content_joined hString
    exact ⟨by rw [← hContent.eq_joinLineEnds, String.ofList_toList], hValue⟩
  · intro v w hAlike
    exact ⟨hAlike, by rw [Warning.message, Warning.message, hAlike.construct_eq]⟩
  · exact s.handle_fst_eq files rfl rfl rfl rfl Iff.rfl hDiagnostics
  · exact s.handle_fst_eq files List.getLast?_concat List.getLast?_concat rfl rfl Iff.rfl
      hDiagnostics

/-- Line ends between two signs that would be one, between the marks that would end a comment, in a
string that is closed, and in one that is left open. -/
theorem scan_joinLineEnds_between :
    let text := "=\r\n= /* *\r\n/ */ \"a\r\nb\" @\r\n\"😀\r\n"
    let joined := "=\n= /* *\n/ */ \"a\nb\" @\n\"😀\n"
    (∀ n, text.toList[n]? = some '\r' → text.toList[n + 1]? = some '\n') ∧
      joined.toList = Text.joinLineEnds text.toList ∧
      (scan text).tokens.map (·.text) = ["=", "=", "a\r\nb", "@", "😀\r\n", ""] ∧
      List.Forall₂ (fun t u : Token => t.Alike u ∧ (t.category = .stringLiteral →
          u.text = String.ofList (Text.joinLineEnds t.text.toList) ∧ u.value = .text u.text))
        (scan text).tokens (scan joined).tokens ∧
      Editor.diagnostics joined = [⟨⟨⟨3, 3⟩, ⟨3, 4⟩⟩, "illegal character '@'", .error⟩,
        ⟨⟨⟨4, 0⟩, ⟨5, 0⟩⟩, "unterminated string literal", .warning⟩] := by
  intro text joined
  have hPaired : ∀ n, text.toList[n]? = some '\r' → text.toList[n + 1]? = some '\n' := by
    intro n hn
    have hLess : n < text.toList.length := (List.getElem?_eq_some_iff.mp hn).1
    have hAll : ∀ n < text.toList.length,
        text.toList[n]? = some '\r' → text.toList[n + 1]? = some '\n' := by decide +kernel
    exact hAll n hLess hn
  have hJoined : joined.toList = Text.joinLineEnds text.toList := by decide +kernel
  obtain ⟨hTokens, -, hDiagnostics, -⟩ := scan_joinLineEnds hPaired hJoined
  refine ⟨hPaired, hJoined, by decide +kernel, hTokens, hDiagnostics.trans ?_⟩
  decide +kernel

end MarkupScan
