import FrontEnd.Proofs.Place
import FrontEnd.Proofs.Reading

/-!
# Spans

A scanner to which nothing foreign was given back stands at the place of its lines from which
the upcoming text is to be read. The character in the slot is the one before the cursor, so the
end of a run, which is the place of the slot, and the end of a single character, which is that
of the cursor, are places of the same kind.
-/

namespace FrontEnd

/-- The place after a number of characters. -/
def Position.advance (p : Position) (cs : List Char) : Position := cs.foldl Position.after p

/-- Without a line feed the place stays on its line. -/
theorem Position.line_advance {cs : List Char} (p : Position) (h : '\n' ∉ cs) :
    (p.advance cs).line = p.line := by
  induction cs generalizing p with
  | nil => rfl
  | cons c cs ih =>
    simp only [List.mem_cons, not_or] at h
    have hafter : (p.after c).line = p.line := by
      rw [Position.after, if_neg (Ne.symm h.1)]
    rw [← hafter]
    exact ih (p.after c) h.2

/-- The token is what the joined lines have between the places of its span, after as many
characters as were read before it. -/
structure Token.StandsAt (lines : List (List Char)) (read : Nat) (t : Token) : Prop where
  /-- The token starts at a place of the lines. -/
  start_genuine : Genuine lines t.span.start
  /-- The token ends at a place of the lines. -/
  stop_genuine : Genuine lines t.span.stop
  /-- The token starts behind the characters read before it. -/
  offset_start : offset lines t.span.start = read
  /-- The token ends behind its own characters. -/
  offset_stop : offset lines t.span.stop = offset lines t.span.start + t.raw.length
  /-- The characters between the two places are those of the token. -/
  cut : ((Text.joinLines lines).drop (offset lines t.span.start).toNat).take
    (offset lines t.span.stop - offset lines t.span.start).toNat = t.raw.toList
  /-- Only whitespace goes on to another line. -/
  oneLine : t.kind ≠ .whitespace → t.span.stop.line = t.span.start.line

namespace Scanner

/-- The cursor is on a line of the source, or on the first line of a source without lines. -/
structure Inside (s : Scanner) : Prop where
  /-- There is such a line. -/
  line_lt : s.line < max 1 s.lines.length
  /-- The cursor is not further than behind its last character. -/
  column_le : s.column ≤ s.currentLine.length

/-- A character in the slot is the one that was read last. -/
structure Aligned (s : Scanner) : Prop where
  /-- The cursor is on a line. -/
  inside : s.Inside
  /-- A line feed stands only between lines. -/
  lineFeed_not_mem : ∀ l ∈ s.lines, '\n' ∉ l
  /-- Reading the character in the slot from its place leads to the cursor. -/
  slot : ∀ c p, s.slot = some (c, p) →
    StandsBefore s.lines p (c :: s.remaining) ∧ p.after c = s.cursor

/-- A line with a character after the cursor is one of the lines. -/
theorem currentLine_mem {s : Scanner} (h : s.column < s.currentLine.length) :
    s.currentLine ∈ s.lines := by
  unfold currentLine at h ⊢
  cases hline : s.lines[s.line]? with
  | none => simp [hline] at h
  | some l => exact List.mem_of_getElem? hline

/-- The cursor stands before the characters never read. -/
theorem Inside.cursor_standsBefore {s : Scanner} (h : s.Inside) :
    StandsBefore s.lines s.cursor s.remaining := by
  obtain ⟨before, hjoin, hbefore⟩ := joinLines_split h.line_lt h.column_le
  have hline : (s.cursor.line - 1).toNat = s.line := by simp [cursor]
  refine ⟨⟨?_, ?_, ?_, ?_⟩, before, hjoin, ?_⟩
  · simp only [cursor]
    omega
  · have := h.line_lt
    simp only [cursor]
    omega
  · simp only [cursor]
    omega
  · have := h.column_le
    rw [lineAt, hline]
    simp only [cursor, currentLine] at this ⊢
    omega
  · rw [hbefore, offset, hline]
    simp [cursor]

/-- An aligned scanner stands before the upcoming text. -/
theorem Aligned.standsBefore {s : Scanner} (h : s.Aligned) :
    StandsBefore s.lines s.location s.upcoming := by
  cases hslot : s.slot with
  | some held =>
    obtain ⟨c, p⟩ := held
    simpa [location, upcoming, hslot] using (h.slot c p hslot).1
  | none => simpa [location, upcoming, hslot] using h.inside.cursor_standsBefore

/-- A scanner at the beginning of a source is aligned. -/
theorem aligned_ofSource (source : String) : (ofSource source).Aligned := by
  refine ⟨⟨?_, ?_⟩, fun l hl => Text.lineFeed_not_mem_of_mem_linesOf hl, by simp [ofSource]⟩
  · simp only [ofSource]
    omega
  · simp [ofSource]

/-- Reading keeps the cursor on a line. -/
theorem Inside.of_pull {s t : Scanner} {c : Char} (h : s.Inside) (hpull : s.pull = some (c, t)) :
    t.Inside := by
  rcases pull_cases hpull with ⟨p, -, rfl⟩ | ⟨-, hget, rfl⟩ | ⟨-, hend, hget, -, rfl⟩
  · exact ⟨h.line_lt, h.column_le⟩
  · exact ⟨h.line_lt, (List.getElem?_eq_some_iff.1 hget).1⟩
  · have hcolumn := List.getElem?_eq_none_iff.1 hget
    simp only [cursorAtEnd, Bool.and_eq_true, decide_eq_true_eq] at hend
    refine ⟨?_, Nat.zero_le _⟩
    simp only
    omega

/-- Reading keeps the lines, and leads to the place after the character. -/
theorem Aligned.cursor_of_pull {s t : Scanner} {c : Char} (h : s.Aligned)
    (hpull : s.pull = some (c, t)) : t.lines = s.lines ∧ s.location.after c = t.cursor := by
  rcases pull_cases hpull with ⟨p, hslot, rfl⟩ | ⟨hslot, hget, rfl⟩ | ⟨hslot, -, -, rfl, rfl⟩
  · have hafter := (h.slot c p hslot).2
    exact ⟨rfl, by simpa [location, hslot, cursor] using hafter⟩
  · obtain ⟨hlt, hc⟩ := List.getElem?_eq_some_iff.1 hget
    have hne : c ≠ '\n' := by
      rintro rfl
      exact h.lineFeed_not_mem _ (currentLine_mem hlt) (hc ▸ List.getElem_mem hlt)
    exact ⟨rfl, by simp [location, hslot, Position.after, hne, cursor]⟩
  · exact ⟨rfl, by simp [location, hslot, Position.after, cursor]⟩

/-- Reading keeps a scanner aligned, and so does giving the character back. -/
theorem Aligned.of_pull {s t : Scanner} {c : Char} (h : s.Aligned)
    (hpull : s.pull = some (c, t)) :
    t.Aligned ∧ (t.unread c).Aligned ∧ (t.unread c).location = s.location ∧
      t.location = s.location.after c ∧ t.lines = s.lines := by
  obtain ⟨hlines, hafter⟩ := h.cursor_of_pull hpull
  have hinside := h.inside.of_pull hpull
  have hlast := last_of_pull hpull
  obtain ⟨hupcoming, hslot⟩ := upcoming_of_pull hpull
  have hpure : ∀ l ∈ t.lines, '\n' ∉ l := by simpa [hlines] using h.lineFeed_not_mem
  have hremaining : s.upcoming = c :: t.remaining := by
    rw [hupcoming, upcoming, hslot]
    rfl
  refine ⟨⟨hinside, hpure, by simp [hslot]⟩,
    ⟨⟨hinside.line_lt, hinside.column_le⟩, hpure, ?_⟩, hlast, ?_, hlines⟩
  · intro d p hd
    simp only [unread, Option.some.injEq, Prod.mk.injEq] at hd
    obtain ⟨rfl, rfl⟩ := hd
    rw [hlast]
    refine ⟨?_, hafter⟩
    have hstands := h.standsBefore
    rw [hremaining, ← hlines] at hstands
    exact hstands
  · rw [hafter, location, hslot]

/-- A run keeps a scanner aligned and leads to the place after its characters. -/
theorem Aligned.of_takeRun (p : Char → Bool) {s : Scanner} (h : s.Aligned) :
    (s.takeRun p).2.Aligned ∧ (s.takeRun p).2.location = s.location.advance (s.takeRun p).1 ∧
      (s.takeRun p).2.lines = s.lines := by
  fun_induction takeRun p s with
  | case1 s hpull => exact ⟨h, rfl, rfl⟩
  | case2 s c t hpull hc run u hrun ih =>
    obtain ⟨ht, -, -, hlocation, hlines⟩ := h.of_pull hpull
    obtain ⟨hu, hadvance, hkept⟩ := ih ht
    rw [hrun, hlocation] at hadvance
    rw [hrun] at hu hkept
    exact ⟨hu, hadvance, hkept.trans hlines⟩
  | case3 s c t hpull hc =>
    obtain ⟨-, ht, hlocation, -, hlines⟩ := h.of_pull hpull
    exact ⟨ht, hlocation, hlines⟩

/-- A token keeps a scanner aligned and leads to the place after its characters. -/
theorem Aligned.of_nextToken {s : Scanner} (h : s.Aligned) :
    s.nextToken.2.Aligned ∧
      s.nextToken.2.location = s.location.advance s.nextToken.1.raw.toList ∧
      s.nextToken.2.lines = s.lines := by
  cases hpull : s.pull with
  | none =>
    rw [nextToken_of_upcoming_nil (pull_eq_none_iff.1 hpull)]
    exact ⟨h, rfl, rfl⟩
  | some r =>
    obtain ⟨c, t⟩ := r
    obtain ⟨ht, -, -, hlocation, hlines⟩ := h.of_pull hpull
    simp only [nextToken, hpull]
    cases (TokenKind.ofFirst c).runClass? with
    | none => exact ⟨ht, by simpa [Token.ofChars, Position.advance] using hlocation, hlines⟩
    | some p =>
      obtain ⟨hu, hadvance, hkept⟩ := ht.of_takeRun p
      rw [hlocation] at hadvance
      exact ⟨hu, by simpa [Token.ofChars, Position.advance] using hadvance, hkept.trans hlines⟩

/-- No token but whitespace holds a line feed. -/
theorem lineFeed_not_mem_nextToken {s : Scanner} (h : s.nextToken.1.kind ≠ .whitespace) :
    '\n' ∉ s.nextToken.1.raw.toList := by
  by_cases hend : s.upcoming = []
  · rw [nextToken_of_upcoming_nil hend]
    simp [Token.atEnd]
  · intro hmem
    have hblank := (wellFormed_nextToken hend).isBlank_eq_false h hmem
    revert hblank
    decide

/-- The next token of an aligned scanner stands behind the characters read before. -/
theorem Aligned.standsAt {s : Scanner} (h : s.Aligned) {before : List Char}
    (hbefore : Text.joinLines s.lines = before ++ s.upcoming) :
    s.nextToken.1.StandsAt s.lines before.length := by
  obtain ⟨hnext, hadvance, hlines⟩ := h.of_nextToken
  have hstart : StandsBefore s.lines s.location
      (s.nextToken.1.raw.toList ++ s.nextToken.2.upcoming) := by
    rw [← upcoming_nextToken]
    exact h.standsBefore
  have hstop : StandsBefore s.lines s.nextToken.2.location s.nextToken.2.upcoming := by
    rw [← hlines]
    exact hnext.standsBefore
  have hoffset := h.standsBefore.offset_add
  rw [hbefore, List.length_append] at hoffset
  constructor <;> rw [span_nextToken]
  · exact hstart.genuine
  · exact hstop.genuine
  · simp only
    omega
  · simpa only [String.length_toList] using hstart.offset_sub hstop
  · exact hstart.take_drop_eq hstop
  · intro hkind
    rw [hadvance]
    exact Position.line_advance _ (lineFeed_not_mem_nextToken hkind)

namespace Reads

/-- Reading keeps a scanner aligned. -/
theorem aligned {s t : Scanner} {tokens : List Token} (h : Reads s tokens t) (hs : s.Aligned) :
    t.Aligned ∧ t.lines = s.lines := by
  induction h with
  | nil s => exact ⟨hs, rfl⟩
  | cons _ ih =>
    obtain ⟨hnext, -, hlines⟩ := hs.of_nextToken
    obtain ⟨ht, hkept⟩ := ih hnext
    exact ⟨ht, hkept.trans hlines⟩

/-- Every token that is read stands behind those read before it. -/
theorem standsAt {s u : Scanner} {before after : List Token} {t : Token}
    (h : Reads s (before ++ t :: after) u) (hs : s.Aligned)
    (hall : s.upcoming = Text.joinLines s.lines) :
    t.StandsAt s.lines (before.map fun token => token.raw.length).sum := by
  obtain ⟨v, hbefore, rfl, -⟩ := h.exists_nextToken
  obtain ⟨hv, hlines⟩ := hbefore.aligned hs
  have hupcoming := hbefore.upcoming_eq
  rw [hall, ← hlines] at hupcoming
  have hstands := hv.standsAt hupcoming
  rw [hlines] at hstands
  simpa [List.length_flatten, Function.comp_def, String.length_toList] using hstands

/-- The first token starts where the scanner is. -/
theorem span_start {s t : Scanner} {first : Token} {tokens : List Token}
    (h : Reads s (first :: tokens) t) : first.span.start = s.location := by
  cases h with
  | cons _ => rw [span_nextToken]

/-- Every token starts where the one before it ends. -/
theorem isChain {s t : Scanner} {tokens : List Token} (h : Reads s tokens t) :
    tokens.IsChain fun a b => a.span.stop = b.span.start := by
  induction h with
  | nil s => exact .nil
  | @cons s t tokens hrest ih =>
    refine List.isChain_cons.2 ⟨fun token htoken => ?_, ih⟩
    obtain ⟨rest, rfl⟩ := List.head?_eq_some_iff.1 htoken
    rw [span_nextToken, hrest.span_start]

end Reads

/-- An aligned scanner with nothing left stands behind the last character of the last line. -/
theorem Aligned.location_of_upcoming_nil {s : Scanner} (h : s.Aligned) (hend : s.upcoming = []) :
    s.location = ⟨max 1 (s.lines.length : Int), (s.lines.getLast?.getD []).length + 1⟩ := by
  have hslot : s.slot = none := by
    cases hslot : s.slot with
    | none => rfl
    | some held => simp [upcoming, hslot] at hend
  have hat := isAtEnd_iff.2 hend
  simp only [isAtEnd, hslot, cursorAtEnd, Option.isNone_none, Bool.true_and, Bool.and_eq_true,
    decide_eq_true_eq] at hat
  have hline := h.inside.line_lt
  have hcolumn := h.inside.column_le
  have hlast : s.currentLine = s.lines.getLast?.getD [] := by
    rw [currentLine, List.getLast?_eq_getElem?]
    cases hlines : s.lines with
    | nil => simp
    | cons l ls =>
      have : s.line = s.lines.length - 1 := by
        rw [hlines] at hline hat ⊢
        simp only [List.length_cons] at hline hat ⊢
        omega
      rw [this, hlines]
  rw [location, hslot, ← hlast]
  simp only [cursor, Position.mk.injEq]
  omega

end Scanner

/-- **Exact spans.** Every token stands in the lines of the source behind those before it: the
offsets of its two places are counted by the characters before it and by its own, and cut its
characters out of the joined lines. The first token starts at the first place, every other one
where the one before it ends, and the last is the end of the source, behind the last character
of the last line. If whitespace is passed over, the tokens that remain are the same. -/
theorem tokenize_spans (source : String) :
    ∃ tokens, tokenize source false false = .ok tokens ∧
      tokenize source true false = .ok (tokens.filter fun t => t.kind ≠ .whitespace) ∧
      (∀ before t after, tokens = before ++ t :: after →
        t.StandsAt (Text.linesOf source.toList) (before.map fun token => token.raw.length).sum) ∧
      (tokens.head?.map fun t => t.span.start) = some .origin ∧
      (tokens.IsChain fun a b => a.span.stop = b.span.start) ∧
      tokens.getLast? = some (.atEnd ⟨max 1 ((Text.linesOf source.toList).length : Int),
        ((Text.linesOf source.toList).getLast?.getD []).length + 1⟩) := by
  obtain ⟨tokens, t, h⟩ := (Scanner.ofSource source).exists_readsAll
  have haligned := Scanner.aligned_ofSource source
  have hreads := h.reads_atEnd
  obtain ⟨ht, hlines⟩ := h.reads.aligned haligned
  have hlast := ht.location_of_upcoming_nil h.upcoming_eq
  rw [hlines] at hlast
  have htokens := tokenize_of_readsAll h false
  rw [Scanner.kept_false] at htokens
  refine ⟨tokens ++ [Token.atEnd t.location], htokens, ?_, ?_, ?_, hreads.isChain, ?_⟩
  · rw [tokenize_of_readsAll h true, List.filter_append]
    simp [Scanner.kept, Token.atEnd]
  · intro before token after heq
    rw [heq] at hreads
    exact hreads.standsAt haligned (Scanner.upcoming_ofSource source)
  · cases htokens : tokens ++ [Token.atEnd t.location] with
    | nil => simp at htokens
    | cons first rest =>
      rw [htokens] at hreads
      have hstart := hreads.span_start
      simp [hstart, Scanner.ofSource, Scanner.location, Scanner.cursor, Position.origin]
  · rw [List.getLast?_concat, hlast]
    rfl

end FrontEnd
