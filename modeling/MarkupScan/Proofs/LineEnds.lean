import Mathlib.Data.List.Forall2
import MarkupScan.Proofs.Lookahead
import MarkupScan.Text.Lines

/-! # Line ends make no difference

A text whose lines end in a carriage return and a line feed scans like the text whose lines end in a
line feed alone. The carriage return belongs to the line that it ends and is white space outside of
strings and comments, so that it moves offsets and nothing else.

Main definitions.
* **`Text.Joined`**: a text, and the same text with its line ends joined into line feeds.
* **`Aligned`**: an offset of a text and the offset of the joined text that stands at the same place.
* **`Token.Alike`**, **`Warning.Alike`**: tokens and warnings of the two texts that correspond.

Main statements.
* **`Text.joined_unifyNewlines`**: unifying line ends joins them, where every carriage return has its
  line feed.
* **`Lexeme.Fits.joined`**: a lexeme of a text is a lexeme of the joined text.
* **`Reading.joined`**, **`scanChars_joined`**: the scans of the two texts correspond. -/

namespace MarkupScan

open Position (ofOffset)

namespace Text

/-! ### Joined texts -/

/-- **A text and the same text with its line ends joined**: every `\r` is followed by `\n` and left
out, and all other characters stay. -/
inductive Joined : List Char → List Char → Prop
  /-- Nothing is left. -/
  | nil : Joined [] []
  /-- A line end `\r\n` becomes `\n`. -/
  | lineEnd {text joined : List Char} (h : Joined text joined) :
      Joined ('\r' :: '\n' :: text) ('\n' :: joined)
  /-- Any other character stays as it is. -/
  | char {c : Char} {text joined : List Char} (hc : c ≠ '\r') (h : Joined text joined) :
      Joined (c :: text) (c :: joined)

/-- **Unifying line ends joins them:** `Joined text (unifyNewlines text)` where every carriage
return is followed by a line feed. -/
theorem joined_unifyNewlines {text : List Char}
    (hPaired : ∀ n, text[n]? = some '\r' → text[n + 1]? = some '\n') :
    Joined text (unifyNewlines text) := by
  fun_induction unifyNewlines text with
  | case1 => exact .nil
  | case2 text ih =>
      refine .lineEnd (ih fun n hn => ?_)
      have hNext := hPaired (n + 2) (by simpa using hn)
      simpa using hNext
  | case3 c text hNotPair ih =>
      have hc : c ≠ '\r' := by
        rintro rfl
        -- the line feed that has to follow would have been read with the carriage return
        have hFeed := hPaired 0 rfl
        cases text with
        | nil => cases hFeed
        | cons d rest =>
            have hd : d = '\n' := by simpa using hFeed
            exact hNotPair rest rfl (by rw [hd])
      rw [if_neg hc]
      refine .char hc (ih fun n hn => ?_)
      have hNext := hPaired (n + 1) (by simpa using hn)
      simpa using hNext

namespace Joined

variable {text joined front rest : List Char}

/-- `Joined` of two texts gives `Joined` of one behind the other. -/
theorem append {more joinedMore : List Char} (h : Joined text joined)
    (hMore : Joined more joinedMore) : Joined (text ++ more) (joined ++ joinedMore) := by
  induction h with
  | nil => exact hMore
  | lineEnd _ ih => exact .lineEnd ih
  | char hc _ ih => exact .char hc ih

/-- **A joined text falls apart where the text does**, unless that is in the middle of a line end. -/
theorem exists_append (h : Joined (front ++ rest) joined)
    (hCut : rest.head? = some '\n' → front.getLast? ≠ some '\r') :
    ∃ front' rest', joined = front' ++ rest' ∧ Joined front front' ∧ Joined rest rest' := by
  generalize hText : front ++ rest = text at h
  -- the first part loses a character, or the two of a line end, at each step
  induction h generalizing front with
  | nil =>
      obtain ⟨rfl, rfl⟩ := List.append_eq_nil_iff.mp hText
      exact ⟨[], [], rfl, .nil, .nil⟩
  | @lineEnd text joined h ih =>
      cases front with
      | nil =>
          simp only [List.nil_append] at hText
          subst hText
          exact ⟨[], _, rfl, .nil, .lineEnd h⟩
      | cons c front =>
          cases front with
          | nil =>
              simp only [List.cons_append, List.nil_append, List.cons.injEq] at hText
              obtain ⟨rfl, rfl⟩ := hText
              exact absurd rfl (hCut rfl)
          | cons d front =>
              simp only [List.cons_append, List.cons.injEq] at hText
              obtain ⟨rfl, rfl, rfl⟩ := hText
              have hCutLater : rest.head? = some '\n' → front.getLast? ≠ some '\r' := by
                intro hRest hLast
                have hWhole := hCut hRest
                rw [List.getLast?_cons, List.getLast?_cons, hLast] at hWhole
                exact hWhole rfl
              obtain ⟨front', rest', rfl, hFront, hRest⟩ := ih hCutLater rfl
              exact ⟨'\n' :: front', rest', rfl, .lineEnd hFront, hRest⟩
  | @char c text joined hc h ih =>
      cases front with
      | nil =>
          simp only [List.nil_append] at hText
          subst hText
          exact ⟨[], _, rfl, .nil, .char hc h⟩
      | cons d front =>
          simp only [List.cons_append, List.cons.injEq] at hText
          obtain ⟨rfl, rfl⟩ := hText
          have hCutLater : rest.head? = some '\n' → front.getLast? ≠ some '\r' := by
            intro hRest hLast
            have hWhole := hCut hRest
            rw [List.getLast?_cons, hLast] at hWhole
            exact hWhole rfl
          obtain ⟨front', rest', rfl, hFront, hRest⟩ := ih hCutLater rfl
          exact ⟨d :: front', rest', rfl, .char hc hFront, hRest⟩

/-- `joined = text` for a text without carriage returns: it is joined already. -/
theorem eq_of_notMem (h : Joined text joined) (hPlain : '\r' ∉ text) : joined = text := by
  induction h with
  | nil => rfl
  | lineEnd _ _ => exact absurd List.mem_cons_self hPlain
  | char _ _ ih => rw [ih fun hMem => hPlain (List.mem_cons_of_mem _ hMem)]

/-- A joined text begins like `text`, or with the `\n` of its first line end. -/
theorem head?_cases (h : Joined text joined) :
    ∀ c ∈ joined.head?, c ∈ text.head? ∨ c = '\n' := by
  intro c hc
  cases h with
  | nil => cases hc
  | lineEnd _ => cases hc; exact Or.inr rfl
  | char _ _ => exact Or.inl hc

/-- `c ∈ joined` implies `c ∈ text`: joining makes no new characters. -/
theorem mem_of_mem (h : Joined text joined) {c : Char} (hc : c ∈ joined) : c ∈ text := by
  induction h with
  | nil => exact hc
  | lineEnd _ ih =>
      rcases List.mem_cons.mp hc with rfl | hc
      · simp
      · simp [ih hc]
  | char _ _ ih =>
      rcases List.mem_cons.mp hc with rfl | hc
      · simp
      · simp [ih hc]

end Joined

end Text

open Text (Joined)

/-! ### The same place -/

/-- The positions `p` and `q` are on the same line and in the same column; their offsets may differ.
-/
def Position.SamePlace (p q : Position) : Prop := q.line = p.line ∧ q.column = p.column

/-- **Joined texts lead from the same place to the same place:** `after` keeps `SamePlace`. The
carriage return moves the column just before the line feed begins a new line. -/
theorem Position.SamePlace.after {p q : Position} (h : p.SamePlace q) {text joined : List Char}
    (hText : Joined text joined) : (p.after text).SamePlace (q.after joined) := by
  induction hText generalizing p q with
  | nil => exact h
  | lineEnd _ ih =>
      rw [after_cons, after_cons, after_cons]
      apply ih
      simp [SamePlace, next, h.1]
  | @char c _ _ _ _ ih =>
      rw [after_cons, after_cons]
      apply ih
      unfold next
      split
      · simp [SamePlace, h.1]
      · simp [SamePlace, h.1, h.2]

/-- **An offset of a text and the offset of the joined text that stands at the same place**: what is
before one joins to what is before the other, and so does what is behind. -/
structure Aligned (source other : List Char) (n m : ℕ) : Prop where
  /-- The offset is one of the text. -/
  le : n ≤ source.length
  /-- The other offset is one of the joined text. -/
  le_other : m ≤ other.length
  /-- What stands before the offsets corresponds: `Joined` of the `take`s. -/
  front : Joined (source.take n) (other.take m)
  /-- What stands from there on corresponds: `Joined` of the `drop`s. -/
  back : Joined (source.drop n) (other.drop m)

namespace Aligned

variable {source other : List Char} {n m : ℕ}

/-- The two texts begin together: `Aligned` at `0` and `0`. -/
theorem zero (h : Joined source other) : Aligned source other 0 0 :=
  ⟨Nat.zero_le _, Nat.zero_le _, by simpa using Joined.nil, by simpa using h⟩

/-- The two texts end together: `Aligned` at their lengths. -/
theorem length (h : Joined source other) : Aligned source other source.length other.length :=
  ⟨Nat.le_refl _, Nat.le_refl _, by simpa using h, by simpa using Joined.nil⟩

/-- **Aligned offsets have the `SamePlace`.** -/
theorem samePlace (h : Aligned source other n m) :
    (ofOffset source n).SamePlace (ofOffset other m) := by
  rw [← Position.after_take h.le, ← Position.after_take h.le_other]
  have hOrigin : Position.origin.SamePlace Position.origin := ⟨rfl, rfl⟩
  exact hOrigin.after h.front

/-- **Aligned offsets move on together** from `n` to `b` over a stretch of the text that does not
end in the middle of a line end. -/
theorem exists_next (h : Aligned source other n m) {b : ℕ} (hnb : n ≤ b) (hb : b ≤ source.length)
    (hCut : (source.drop b).head? = some '\n' → (source.extract n b).getLast? ≠ some '\r') :
    ∃ k, m ≤ k ∧ Joined (source.extract n b) (other.extract m k) ∧ Aligned source other b k := by
  have hBack := h.back
  rw [drop_eq_extract_append hnb] at hBack
  obtain ⟨stretch, rest, hDrop, hStretch, hRest⟩ := hBack.exists_append hCut
  obtain ⟨hk, hExtract, hAfter⟩ := extract_of_drop_eq h.le_other hDrop
  refine ⟨m + stretch.length, Nat.le_add_right _ _, by rwa [hExtract], hb, hk, ?_, by rwa [hAfter]⟩
  -- what stands before the new offsets is what stood before the old ones, and the stretch
  have hSource : source.take b = source.take n ++ source.extract n b := by
    conv_lhs => rw [← Nat.add_sub_of_le hnb, List.take_add]
  have hOther : other.take (m + stretch.length) = other.take m ++ stretch := by
    rw [List.take_add, hDrop, List.take_left]
  rw [hSource, hOther]
  exact h.front.append hStretch

end Aligned

/-! ### Gaps and lexemes of joined texts -/

/-- `NoClose` stays under joining: a line feed between the two characters of an end mark stays. -/
theorem NoClose.joined {body joined : List Char} (hBody : NoClose body) (h : Joined body joined) :
    NoClose joined := by
  induction h with
  | nil => exact hBody
  | lineEnd _ ih =>
      have hRest := (noClose_cons.mp (noClose_cons.mp hBody).2).2
      refine noClose_cons.mpr ⟨?_, ih hRest⟩
      rintro ⟨hStar, -⟩
      cases hStar
  | char _ h ih =>
      obtain ⟨hFirst, hRest⟩ := noClose_cons.mp hBody
      refine noClose_cons.mpr ⟨?_, ih hRest⟩
      rintro ⟨hStar, hSlash⟩
      rcases h.head?_cases '/' hSlash with hSame | hFeed
      · exact hFirst ⟨hStar, hSame⟩
      · cases hFeed

/-- **Spacing stays `Spacing`** when its line ends are joined. -/
theorem Spacing.joined {gap joined : List Char} (hGap : Spacing gap) (h : Joined gap joined) :
    Spacing joined := by
  induction hGap generalizing joined with
  | nil => cases h; exact .nil
  | @blank c gap hc _ ih =>
      cases h with
      | lineEnd h => exact ih (.char (by decide) h)
      | char _ h => exact .blank hc (ih h)
  | @comment body gap hBody _ ih =>
      cases h with
      | char _ h =>
          cases h with
          | char _ h =>
              obtain ⟨body', rest, rfl, hBody', hRest⟩ := h.exists_append nofun
              cases hRest with
              | char _ hRest =>
                  cases hRest with
                  | char _ hRest => exact .comment (hBody.joined hBody') (ih hRest)

/-- An `OpenComment` stays open when its line ends are joined. -/
theorem OpenComment.joined {text joined : List Char} (hOpen : OpenComment text)
    (h : Joined text joined) : OpenComment joined := by
  obtain ⟨body, rfl, hBody⟩ := hOpen
  cases h with
  | char _ h =>
      cases h with
      | char _ h => exact ⟨_, rfl, hBody.joined h⟩

namespace Lexeme

/-- `lexeme.raw` does not end in the middle of a line end. -/
theorem Fits.getLast?_raw_ne {lexeme : Lexeme} {after : List Char} (h : lexeme.Fits after)
    (hAfter : after.head? = some '\n') : lexeme.raw.getLast? ≠ some '\r' := by
  intro hLast
  by_cases hCategory : lexeme.category = .stringLiteral
  · obtain ⟨content, -, rfl | ⟨-, rfl⟩⟩ := h.string_cases hCategory
    · simp [List.getLast?_cons] at hLast
    · cases hAfter
  · exact h.blank_notMem hCategory isBlank_return (List.mem_of_getLast? hLast)

/-- **Lexemes of a text and of the joined text that correspond**: they are the same, except that in a
string the line ends are joined. -/
structure Alike (lexeme other : Lexeme) : Prop where
  /-- The category is the same. -/
  category_eq : other.category = lexeme.category
  /-- Both are complete or none is. -/
  closed_eq : other.closed = lexeme.closed
  /-- Outside of strings everything is the same. -/
  content_eq : lexeme.category ≠ .stringLiteral →
    other.value = lexeme.value ∧ other.text = lexeme.text
  /-- In a string the line ends of the content are joined. -/
  content_joined : lexeme.category = .stringLiteral →
    Joined lexeme.text.toList other.text.toList ∧
      lexeme.value = .text lexeme.text ∧ other.value = .text other.text

/-- `lexeme.Alike lexeme` for every lexeme that is no string. -/
theorem alike_self {lexeme : Lexeme} (h : lexeme.category ≠ .stringLiteral) :
    lexeme.Alike lexeme :=
  ⟨rfl, rfl, fun _ => ⟨rfl, rfl⟩, fun hString => absurd hString h⟩

/-- Strings with `Joined` contents are `Alike`. -/
theorem alike_string {content joined raw raw' : List Char} {closed : Bool}
    (h : Joined content joined) :
    Alike ⟨.stringLiteral, .text (String.ofList content), String.ofList content, raw, closed⟩
      ⟨.stringLiteral, .text (String.ofList joined), String.ofList joined, raw', closed⟩ :=
  ⟨rfl, rfl, fun hOther => absurd rfl hOther, fun _ => ⟨by simpa using h, rfl, rfl⟩⟩

/-- **A lexeme of a text is a lexeme of the joined text** that is `Alike`. -/
theorem Fits.joined {lexeme : Lexeme} {after raw rest : List Char} (h : lexeme.Fits after)
    (hRaw : Joined lexeme.raw raw) (hAfter : Joined after rest) :
    ∃ other : Lexeme, other.raw = raw ∧ other.Fits rest ∧ lexeme.Alike other := by
  by_cases hCategory : lexeme.category = .stringLiteral
  · -- the quotes stay, and none comes into the content
    obtain ⟨content, hContent, rfl | ⟨rfl, rfl⟩⟩ := h.string_cases hCategory
    · cases hRaw with
      | char _ hRaw =>
          obtain ⟨joined, quote, rfl, hJoined, hQuote⟩ := hRaw.exists_append nofun
          obtain rfl := hQuote.eq_of_notMem (by decide)
          have hPlain : '"' ∉ joined := fun hMem => hContent (hJoined.mem_of_mem hMem)
          exact ⟨_, rfl, .closedString hPlain, alike_string hJoined⟩
    · cases hAfter
      cases hRaw with
      | @char _ _ joined _ hJoined =>
          have hPlain : '"' ∉ joined := fun hMem => hContent (hJoined.mem_of_mem hMem)
          exact ⟨_, rfl, .openString hPlain, alike_string hJoined⟩
  · -- all characters stay, and behind them stands the same character or white space
    have hSame := hRaw.eq_of_notMem (h.blank_notMem hCategory isBlank_return)
    refine ⟨lexeme, hSame.symm, h.of_next (h.closed_of_ne hCategory) ?_, alike_self hCategory⟩
    intro c hc
    rcases hAfter.head?_cases c hc with hHead | rfl
    · exact Or.inl hHead
    · exact Or.inr (Or.inl isBlank_feed)

end Lexeme

/-! ### Scans of joined texts -/

/-- **Tokens of a text and of the joined text that correspond.** -/
structure Token.Alike (t u : Token) : Prop where
  /-- The category is the same. -/
  category_eq : u.category = t.category
  /-- They begin at the same place. -/
  start_eq : t.span.start.SamePlace u.span.start
  /-- They end at the same place. -/
  stop_eq : t.span.stop.SamePlace u.span.stop
  /-- Outside of strings value and text are the same. -/
  content_eq : t.category ≠ .stringLiteral → u.value = t.value ∧ u.text = t.text
  /-- In a string the line ends of value and text are joined. -/
  content_joined : t.category = .stringLiteral →
    Joined t.text.toList u.text.toList ∧ t.value = .text t.text ∧ u.value = .text u.text

/-- **Warnings of a text and of the joined text that correspond.** -/
structure Warning.Alike (v w : Warning) : Prop where
  /-- They are about the same kind of construct. -/
  construct_eq : w.construct = v.construct
  /-- They begin at the same place. -/
  start_eq : v.span.start.SamePlace w.span.start
  /-- They end at the same place. -/
  stop_eq : v.span.stop.SamePlace w.span.stop

section Scans

variable {source other : List Char}

/-- The `endToken`s of the two texts are `Alike`. -/
theorem endToken_alike (h : Joined source other) : (endToken source).Alike (endToken other) := by
  have hPlace := (Aligned.length h).samePlace
  exact ⟨rfl, hPlace, hPlace, fun _ => ⟨rfl, rfl⟩, nofun⟩

/-- Lexemes that are `Alike` are tokens that are, at `Aligned` offsets. -/
theorem Lexeme.Alike.tokenAt {lexeme found : Lexeme} (h : lexeme.Alike found) {a b k l : ℕ}
    (hStart : Aligned source other a k) (hStop : Aligned source other b l) :
    (lexeme.tokenAt source a b).Alike (found.tokenAt other k l) :=
  ⟨h.category_eq, hStart.samePlace, hStop.samePlace, h.content_eq, h.content_joined⟩

/-- Open strings that are `Alike` give warnings that are. -/
theorem Lexeme.Alike.stringWarnings {lexeme found : Lexeme} (h : lexeme.Alike found)
    {a b k l : ℕ} (hStart : Aligned source other a k) (hStop : Aligned source other b l) :
    List.Forall₂ Warning.Alike
      (Scanner.stringWarnings lexeme ⟨ofOffset source a, ofOffset source b⟩)
      (Scanner.stringWarnings found ⟨ofOffset other k, ofOffset other l⟩) := by
  unfold Scanner.stringWarnings
  rw [h.closed_eq]
  split
  · exact .nil
  · exact .cons ⟨rfl, hStart.samePlace, hStop.samePlace⟩ .nil

/-- **A `Reading` of a text is one of the joined text**, `Alike` token by token and warning by
warning. -/
theorem Reading.joined (hText : Joined source other) {n m : ℕ} {scan : Scan}
    (h : Reading source n scan) (hAligned : Aligned source other n m) :
    ∃ found, Reading other m found ∧ List.Forall₂ Token.Alike scan.tokens found.tokens ∧
      List.Forall₂ Warning.Alike scan.warnings found.warnings := by
  have hEnd : List.Forall₂ Token.Alike [endToken source] [endToken other] :=
    .cons (endToken_alike hText) .nil
  induction h generalizing m with
  | @closed n hn hGap =>
      exact ⟨_, .closed hAligned.le_other (hGap.joined hAligned.back), hEnd, .nil⟩
  | @openComment n a hna ha hGap hOpen =>
      -- the slash of the comment is no line feed
      have hCut : (source.drop a).head? = some '\n' →
          (source.extract n a).getLast? ≠ some '\r' := by
        obtain ⟨body, hBody, -⟩ := hOpen
        rw [hBody]
        exact nofun
      obtain ⟨k, hmk, hJoined, hComment⟩ := hAligned.exists_next hna ha hCut
      refine ⟨_, .openComment hmk hComment.le_other (hGap.joined hJoined)
        (hOpen.joined hComment.back), hEnd, .cons ⟨rfl, hComment.samePlace, ?_⟩ .nil⟩
      exact (Aligned.length hText).samePlace
  | @token n a b lexeme scan hna hab hb hGap hRaw hFits _ ih =>
      -- a lexeme begins with no line feed
      have hCut : (source.drop a).head? = some '\n' →
          (source.extract n a).getLast? ≠ some '\r' := by
        intro hFeed
        have hBegins := hFits.not_beginsGap
        rw [← hRaw, ← drop_eq_extract_append hab] at hBegins
        exact absurd (Or.inl ⟨'\n', hFeed, isBlank_feed⟩) hBegins
      have hCutBehind : (source.drop b).head? = some '\n' →
          (source.extract a b).getLast? ≠ some '\r' := by
        rw [hRaw]
        exact hFits.getLast?_raw_ne
      obtain ⟨k, hmk, hGapJoined, hStart⟩ := hAligned.exists_next hna (hab.trans hb) hCut
      obtain ⟨l, hkl, hRawJoined, hStop⟩ := hStart.exists_next hab hb hCutBehind
      rw [hRaw] at hRawJoined
      obtain ⟨spelled, hSpelled, hFitsJoined, hAlike⟩ := hFits.joined hRawJoined hStop.back
      obtain ⟨found, hFound, hTokens, hWarnings⟩ := ih hStop
      exact ⟨_, .token hmk hkl hStop.le_other (hGap.joined hGapJoined) hSpelled.symm hFitsJoined
          hFound,
        .cons (hAlike.tokenAt hStart hStop) hTokens,
        List.rel_append (hAlike.stringWarnings hStart hStop) hWarnings⟩

/-- **Line ends make no difference.** The tokens and warnings of a text and of the joined text are
`Alike`, one to one. -/
theorem scanChars_joined (hText : Joined source other) :
    List.Forall₂ Token.Alike (scanChars source).tokens (scanChars other).tokens ∧
      List.Forall₂ Warning.Alike (scanChars source).warnings (scanChars other).warnings := by
  have hReading := reading_scanChars source
  obtain ⟨found, hFound, hTokens, hWarnings⟩ := hReading.joined hText (.zero hText)
  rw [(scanChars_eq_iff_reading other found).mpr hFound]
  exact ⟨hTokens, hWarnings⟩

end Scans

end MarkupScan
