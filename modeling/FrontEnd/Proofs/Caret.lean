import FrontEnd.Proofs.Drawing
import FrontEnd.Proofs.Layout

/-!
# Carets below a token

A token is read from a place on, and as long as it stays on its line it is read from what that line
has from its column on. So the carets of an error at the span of a token stand below the characters
that the token has on its first line; a token without such characters has one caret. An unknown
token is one character, and the caret stands below it.
-/

namespace FrontEnd

open Text

/-- From a place on, the rest of its line is read first, and then a line feed if anything. -/
theorem StandsBefore.eq_drop_append {lines : List (List Char)} {p : Position} {rest : List Char}
    (h : StandsBefore lines p rest) :
    ∃ after, rest = (lineAt lines p).drop (p.column - 1).toNat ++ after ∧
      ∀ c ∈ after.head?, c = '\n' := by
  have hline := h.genuine.line_le
  have hone := h.genuine.one_le_line
  have hcolumn := h.genuine.column_le
  have hfirst := h.genuine.one_le_column
  have hline_lt : (p.line - 1).toNat < max 1 lines.length := by omega
  have hcolumn_le : (p.column - 1).toNat ≤ (lineAt lines p).length := by omega
  obtain ⟨before, hjoin, hbefore⟩ := joinLines_split hline_lt hcolumn_le
  have hoffset : (offset lines p).toNat = before.length := by
    rw [offset]
    omega
  refine ⟨(lines.drop ((p.line - 1).toNat + 1)).flatMap ('\n' :: ·), ?_, ?_⟩
  · rw [← h.drop_eq, hoffset, hjoin, List.drop_left, lineAt]
  · cases lines.drop ((p.line - 1).toNat + 1) with
    | nil => simp
    | cons l ls => simp

/-- Up to the next line feed the rest of the line is read. -/
theorem StandsBefore.takeWhile_eq {lines : List (List Char)} {p : Position} {rest : List Char}
    (h : StandsBefore lines p rest) (hlines : ∀ l ∈ lines, '\n' ∉ l) :
    rest.takeWhile (· ≠ '\n') = (lineAt lines p).drop (p.column - 1).toNat := by
  obtain ⟨after, rfl, hafter⟩ := h.eq_drop_append
  have hline : '\n' ∉ lineAt lines p := by
    unfold lineAt
    cases hl : lines[(p.line - 1).toNat]? with
    | none => simp
    | some l => exact hlines l (List.mem_of_getElem? hl)
  rw [List.takeWhile_append_of_pos]
  · cases after with
    | nil => simp
    | cons c cs => simp [hafter c rfl]
  · intro c hc
    have hne : c ≠ '\n' := fun heq => hline (heq ▸ List.mem_of_mem_drop hc)
    simpa using hne

/-- Characters never lead to a line above. -/
theorem Position.line_le_advance (p : Position) (cs : List Char) :
    p.line ≤ (p.advance cs).line := by
  by_cases hcs : cs = []
  · exact Int.le_of_eq (by rw [hcs, advance_nil])
  · rcases p.before_advance hcs with hlt | ⟨heq, -⟩
    · exact Int.le_of_lt hlt
    · exact Int.le_of_eq heq

/-- A line feed leads to a line below. -/
theorem Position.line_lt_advance (p : Position) {cs : List Char} (h : '\n' ∈ cs) :
    p.line < (p.advance cs).line := by
  induction cs generalizing p with
  | nil => cases h
  | cons c cs ih =>
    rw [advance_cons]
    by_cases hc : c = '\n'
    · have hafter : (p.after c).line = p.line + 1 := by rw [after, if_pos hc]
      have hle := (p.after c).line_le_advance cs
      omega
    · have hafter : (p.after c).line = p.line := by rw [after, if_neg hc]
      have hlt := ih (p.after c) ((List.mem_cons.1 h).resolve_left (Ne.symm hc))
      omega

namespace Token

/-- The number of characters that a token has on its first line, or one if there are none. -/
def width (t : Token) : ℕ := max 1 (t.raw.toList.takeWhile (· ≠ '\n')).length

/-- The token is read from the place where it starts, and ends where its characters lead. -/
structure Placed (lines : List (List Char)) (t : Token) : Prop where
  /-- The token comes first of what is read from the place on. -/
  start : ∃ rest, StandsBefore lines t.span.start (t.raw.toList ++ rest)
  /-- The token ends behind its characters. -/
  stop : t.span.stop = t.span.start.advance t.raw.toList

/-- Every token of a source is placed in its lines. -/
theorem placed_of_mem_scan {source : String} {t : Token} (h : t ∈ scan source false) :
    t.Placed (linesOf source.toList) := by
  obtain ⟨tokens, u, hall⟩ := (Scanner.ofSource source).exists_readsAll
  rw [scan_of_readsAll hall, Scanner.kept_false] at h
  obtain ⟨before, after, hsplit⟩ := List.append_of_mem h
  have hreads := hall.reads_atEnd
  rw [hsplit] at hreads
  obtain ⟨s, hbefore, rfl, -⟩ := hreads.exists_nextToken
  obtain ⟨hs, hlines⟩ := hbefore.aligned (Scanner.aligned_ofSource source)
  have hstands := hs.standsBefore
  rw [s.upcoming_nextToken, hlines] at hstands
  refine ⟨⟨s.nextToken.2.upcoming, ?_⟩, ?_⟩
  · rw [s.span_nextToken]
    exact hstands
  · rw [s.span_nextToken]
    exact hs.of_nextToken.2.1

/-- An unknown token of a source is one character, and no line feed. -/
theorem exists_raw_of_unknown {source : String} {t : Token} (h : t ∈ scan source false)
    (hkind : t.kind = .unknown) : ∃ c, t.raw = String.singleton c ∧ c ≠ '\n' := by
  rw [scan_eq_layOut, Scanner.kept_false, List.mem_append, List.mem_singleton] at h
  rcases h with h | rfl
  · obtain ⟨l, p, hl, rfl⟩ := exists_lexeme_of_mem_layOut h
    cases hl with
    | @unknown c _ _ _ hblank =>
      refine ⟨c, rfl, ?_⟩
      rintro rfl
      exact hblank (by decide)
    | mark hmem =>
      have hmarks : ∀ e ∈ TokenKind.punctuation, e.2 ≠ .unknown := by decide
      exact absurd hkind (hmarks _ hmem)
    | identifier => cases hkind
    | number => cases hkind
    | whitespace => cases hkind
  · cases hkind

end Token

namespace LexError

variable {source : String} {t : Token}

/-- An error at a span whose line is counted from one shows the line of the source. -/
theorem toList_sourceLine {e : LexError} (h : 1 ≤ e.span.start.line) :
    e.sourceLine.toList = lineAt (linesOf e.source.toList) e.span.start := by
  have hindex : ¬ e.span.start.line - 1 < 0 := by omega
  unfold sourceLine
  simp only [if_neg hindex, splitLines, List.getElem?_map, lineAt]
  cases (linesOf e.source.toList)[(e.span.start.line - 1).toNat]? <;> simp

/-- The carets below a token are as many as it has characters on its first line. -/
theorem caretCount_of_placed (h : t.Placed (linesOf source.toList)) (message : String) :
    (LexError.mk message t.span source).caretCount = t.width := by
  obtain ⟨⟨rest, hstart⟩, hstop⟩ := h
  have hcolumn := hstart.genuine.one_le_column
  have hle := hstart.genuine.column_le
  have hline : (LexError.mk message t.span source).sourceLine.length =
      (lineAt (linesOf source.toList) t.span.start).length := by
    rw [← String.length_toList, toList_sourceLine hstart.genuine.one_le_line]
  -- The span ends on another line exactly if the token holds a line feed.
  by_cases hfeed : '\n' ∈ t.raw.toList
  · have hlt := t.span.start.line_lt_advance hfeed
    have htake : t.raw.toList.takeWhile (· ≠ '\n') =
        (lineAt (linesOf source.toList) t.span.start).drop (t.span.start.column - 1).toNat := by
      have hstops : (t.raw.toList.takeWhile (· ≠ '\n')).length ≠ t.raw.toList.length := by
        intro hlength
        have hself := (List.takeWhile_prefix (· ≠ '\n')).eq_of_length hlength
        simpa using List.takeWhile_eq_self_iff.1 hself _ hfeed
      rw [← hstart.takeWhile_eq fun l => lineFeed_not_mem_of_mem_linesOf, List.takeWhile_append,
        if_neg hstops]
    rw [caretCount]
    simp only [hstop, if_neg (Int.ne_of_gt hlt), hline, Token.width, htake, List.length_drop]
    omega
  · have hadvance := Position.advance_of_not_mem t.span.start hfeed
    have htake : t.raw.toList.takeWhile (· ≠ '\n') = t.raw.toList :=
      List.takeWhile_eq_self_iff.2 fun c hc => by
        have hne : c ≠ '\n' := fun heq => hfeed (heq ▸ hc)
        simpa using hne
    rw [caretCount]
    simp only [hstop, hadvance, if_true, Token.width, htake]
    omega

/-- On its first line a token is what the line has from its column on. -/
theorem prefix_drop_of_placed (h : t.Placed (linesOf source.toList)) :
    t.raw.toList.takeWhile (· ≠ '\n') <+:
      (lineAt (linesOf source.toList) t.span.start).drop (t.span.start.column - 1).toNat := by
  obtain ⟨⟨rest, hstart⟩, -⟩ := h
  rw [← hstart.takeWhile_eq fun l => lineFeed_not_mem_of_mem_linesOf, List.takeWhile_append]
  split
  · next hall =>
    rw [(List.takeWhile_prefix (· ≠ '\n')).eq_of_length hall]
    exact List.prefix_append _ _
  · exact List.prefix_refl _

/-- An error at the span of a token can be shown if the memory holds its source and its text. -/
theorem showable_of_placed {memory : ℕ} {message file : String}
    (h : t.Placed (linesOf source.toList)) (hsource : Fits memory source)
    (hfits : Fits memory ((LexError.mk message t.span source).render file)) :
    Showable memory (.mk message t.span source) file := by
  obtain ⟨rest, hstart⟩ := h.start
  have hplace := hstart.line_add_column_le
  have hlength := length_joinLines_linesOf_le source.toList
  have hline := hstart.genuine.one_le_line
  have hcolumn := hstart.genuine.one_le_column
  have hlt := hsource.1
  rw [String.length_toList] at hlength
  exact ⟨by simp only; omega, isShort_of_natAbs_lt (by simp only; omega), hfits⟩

end LexError

/-- The text draws a line, with carets below as many columns of it as given, from a column on and
nowhere else. Columns are counted from one. -/
def Underlined (text : String) (line : List Char) (column : Int) (width : ℕ) : Prop :=
  ∃ gutter front fifth, IsDrawing text gutter (front ++ line) fifth ∧ front.length = gutter + 2 ∧
    ∀ i : ℕ, fifth[i]? = some '^' ↔
      ∃ j : ℕ, i = front.length + j ∧ column ≤ j + 1 ∧ (j : Int) + 1 < column + width

/-- An error at the span of a token draws the line of the token and underlines the token on it. -/
theorem LexError.underlined_of_placed {message file source : String} {t : Token}
    (hmessage : '\n' ∉ message.toList) (hfile : '\n' ∉ file.toList)
    (h : t.Placed (linesOf source.toList)) :
    Underlined ((LexError.mk message t.span source).render file)
      (lineAt (linesOf source.toList) t.span.start) t.span.start.column t.width := by
  obtain ⟨rest, hstart⟩ := h.start
  have hcolumn := hstart.genuine.one_le_column
  have hdrawing := isDrawing_render (e := ⟨message, t.span, source⟩) hmessage hfile
  have hfourth : (LexError.mk message t.span source).sourceRow =
      ((toString t.span.start.line).toList ++ [' ', '|', ' ']) ++
        lineAt (linesOf source.toList) t.span.start := by
    rw [sourceRow, toList_sourceLine hstart.genuine.one_le_line]
    simp
  have hfront : ((toString t.span.start.line).toList ++ [' ', '|', ' ']).length =
      (LexError.mk message t.span source).gutter + 2 := by simp [gutter, String.length_toList]
  rw [hfourth] at hdrawing
  refine ⟨_, _, _, hdrawing, hfront, fun i => ?_⟩
  rw [getElem?_caretRow, caretCount_of_placed h, hfront]
  constructor
  · rintro ⟨hlow, hhigh⟩
    refine ⟨i - ((LexError.mk message t.span source).gutter + 2), ?_, ?_, ?_⟩ <;>
      simp only at hlow hhigh ⊢ <;> omega
  · rintro ⟨j, rfl, hlow, hhigh⟩
    simp only
    omega

/-- The message about an unknown character is on one line. -/
theorem lineFeed_not_mem_unknownCharacter (raw : String) :
    '\n' ∉ (unknownCharacter raw).toList := by
  intro h
  unfold unknownCharacter at h
  rw [String.toList_append, List.mem_append] at h
  rcases h with h | h
  · simp at h
  · have hone : OnOneLine (quoteChars raw.toList) :=
      onOneLine_of_isPrintable fun _ => isPrintable_of_mem_quoteChars
    exact hone '\n' (by simpa [quoted] using h) (by decide)

/-- **The caret points at the token.** Let the message and the name of the file be on one line each.
An error at any span whatever is shown exactly if its blanks can be counted, its line number can be
written and the memory holds the text, and then it is a drawing. An error at the span of a token
draws the line of the token and underlines the characters that the token has on it, and it is shown
if the memory holds the source and the text. The error of strict scanning has a single caret, below
the character that its message names. -/
theorem error_points_at_token {message file : String} (hmessage : '\n' ∉ message.toList)
    (hfile : '\n' ∉ file.toList) (memory : ℕ) (source : String) :
    (∀ span, let e := LexError.mk message span source
      ((∃ text, e.tryRender memory file = .ok text) ↔ e.Showable memory file) ∧
        ∀ text, e.tryRender memory file = .ok text →
          ∃ gutter fourth fifth, IsDrawing text gutter fourth fifth) ∧
      (∀ t ∈ scan source false,
        let e := LexError.mk message t.span source
        let shown := lineAt (linesOf source.toList) t.span.start
        Genuine (linesOf source.toList) t.span.start ∧
          (LexError.Fits memory source → LexError.Fits memory (e.render file) →
            ∃ text, e.tryRender memory file = .ok text) ∧
          ∀ text, e.tryRender memory file = .ok text →
            Underlined text shown t.span.start.column t.width) ∧
      ∀ significant e, tokenize source significant true = .error e →
        let shown := lineAt (linesOf source.toList) e.span.start
        ∃ c, e.message = "unknown character " ++ quoted (String.singleton c) ∧
          shown[(e.span.start.column - 1).toNat]? = some c ∧
          (LexError.Fits memory source → LexError.Fits memory (e.render file) →
            ∃ text, e.tryRender memory file = .ok text) ∧
          ∀ text, e.tryRender memory file = .ok text →
            Underlined text shown e.span.start.column 1 := by
  refine ⟨fun span => ⟨?_, fun text htext => ?_⟩, fun t ht => ?_, fun significant e he => ?_⟩
  · simp [LexError.tryRender_eq_ok_iff]
  · obtain ⟨-, rfl⟩ := LexError.tryRender_eq_ok_iff.1 htext
    exact ⟨_, _, _, LexError.isDrawing_render hmessage hfile⟩
  · have hplaced := Token.placed_of_mem_scan ht
    obtain ⟨rest, hstart⟩ := hplaced.start
    refine ⟨hstart.genuine, fun hsource hfits => ?_, fun text htext => ?_⟩
    · exact ⟨_, LexError.tryRender_eq_ok_iff.2
        ⟨LexError.showable_of_placed hplaced hsource hfits, rfl⟩⟩
    · obtain ⟨-, rfl⟩ := LexError.tryRender_eq_ok_iff.1 htext
      exact LexError.underlined_of_placed hmessage hfile hplaced
  · obtain ⟨t, ⟨before, after, hscan, hkind, -⟩, rfl⟩ := tokenize_strict_eq_error_iff.1 he
    have ht : t ∈ scan source false := by
      have hmem : t ∈ scan source significant := by simp [hscan]
      cases significant with
      | false => exact hmem
      | true => exact List.mem_of_mem_filter (scan_true source ▸ hmem)
    have hplaced := Token.placed_of_mem_scan ht
    obtain ⟨c, hraw, hfeed⟩ := Token.exists_raw_of_unknown ht hkind
    have hfirst : t.raw.toList.takeWhile (· ≠ '\n') = [c] := by simp [hraw, hfeed]
    have hwidth : t.width = 1 := by rw [Token.width, hfirst]; rfl
    refine ⟨c, by rw [← hraw]; rfl, ?_, fun hsource hfits => ?_, fun text htext => ?_⟩
    · obtain ⟨others, hothers⟩ := hfirst ▸ LexError.prefix_drop_of_placed hplaced
      have hhead := congrArg List.head? hothers
      rw [List.head?_drop] at hhead
      exact hhead.symm
    · exact ⟨_, LexError.tryRender_eq_ok_iff.2
        ⟨LexError.showable_of_placed hplaced hsource hfits, rfl⟩⟩
    · obtain ⟨-, rfl⟩ := LexError.tryRender_eq_ok_iff.1 htext
      rw [← hwidth]
      exact LexError.underlined_of_placed (lineFeed_not_mem_unknownCharacter t.raw) hfile hplaced

/-- The unknown character in the third column has one caret below it. -/
theorem error_points_at_token_questionMark :
    '\n' ∉ "m".toList ∧ '\n' ∉ "f".toList ∧
      ∃ text, (LexError.mk "m" ⟨⟨1, 3⟩, ⟨1, 4⟩⟩ "a ?").tryRender 1000 "f" = .ok text ∧
        Underlined text ['a', ' ', '?'] 3 1 := by
  have hmessage : '\n' ∉ "m".toList := by decide
  have hfile : '\n' ∉ "f".toList := by decide
  have htoken : (⟨.unknown, "", "?", ⟨⟨1, 3⟩, ⟨1, 4⟩⟩⟩ : Token) ∈ scan "a ?" false := by
    have hscan : scan "a ?" false = [⟨.identifier, "a", "a", ⟨⟨1, 1⟩, ⟨1, 2⟩⟩⟩,
        ⟨.whitespace, "", " ", ⟨⟨1, 2⟩, ⟨1, 3⟩⟩⟩, ⟨.unknown, "", "?", ⟨⟨1, 3⟩, ⟨1, 4⟩⟩⟩,
        .atEnd ⟨1, 4⟩] := by decide +kernel
    simp [hscan]
  obtain ⟨-, hshown, hunderlined⟩ := (error_points_at_token hmessage hfile 1000 "a ?").2.1 _ htoken
  obtain ⟨text, htext⟩ := hshown ⟨by decide, by decide⟩ ⟨by decide, by decide⟩
  exact ⟨hmessage, hfile, text, htext, hunderlined text htext⟩

/-- A column that is too far to the left for a word of 64 bits is not shown at all. -/
theorem tryRender_ne_ok_of_column :
    '\n' ∉ "m".toList ∧ '\n' ∉ "input.sdsl".toList ∧
      ∀ memory text, (LexError.mk "m" ⟨⟨1, -0x8000000000000000⟩, ⟨1, -0x8000000000000000⟩⟩
        "a").tryRender memory "input.sdsl" ≠ .ok text := by
  refine ⟨by decide, by decide, fun memory text => ?_⟩
  have hoverflow : (LexError.mk "m" ⟨⟨1, -0x8000000000000000⟩, ⟨1, -0x8000000000000000⟩⟩
      "a").tryRender memory "input.sdsl" = .error .overflow := rfl
  rw [hoverflow]
  exact fun h => by cases h

end FrontEnd
