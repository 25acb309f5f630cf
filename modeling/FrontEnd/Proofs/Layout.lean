import FrontEnd.Proofs.Drivers
import FrontEnd.Proofs.Span

/-!
# The tokens of a text from a place on

The tokens of a text and their spans depend on nothing but its characters and the place where it
begins. A scanner reads them from the place where it stands, and a text that begins some lines
further down has the same tokens, that many lines further down.
-/

namespace FrontEnd

/-- The token that a lexeme makes from a place on. -/
def Lexeme.tokenAt (l : Lexeme) (p : Position) : Token :=
  .ofChars l.kind l.chars ⟨p, p.advance l.chars⟩

/-- The token is of the kind of the lexeme. -/
@[simp] theorem Lexeme.kind_tokenAt (l : Lexeme) (p : Position) : (l.tokenAt p).kind = l.kind := rfl

/-- The token has the characters of the lexeme. -/
@[simp] theorem Lexeme.raw_tokenAt (l : Lexeme) (p : Position) :
    (l.tokenAt p).raw = String.ofList l.chars := rfl

/-- The token starts at the place. -/
@[simp] theorem Lexeme.start_tokenAt (l : Lexeme) (p : Position) :
    (l.tokenAt p).span.start = p := rfl

/-- The tokens of a text that begins at a place, without its end. -/
def layOut (p : Position) : List Char → List Token
  | [] => []
  | c :: cs =>
    (Lexeme.first c cs).tokenAt p ::
      layOut (p.advance (Lexeme.first c cs).chars) (cs.dropWhile (TokenKind.ofFirst c).continues)
termination_by cs => cs.length
decreasing_by exact Nat.lt_succ_of_le (List.dropWhile_suffix _).length_le

/-- A text without characters has no tokens. -/
@[simp] theorem layOut_nil (p : Position) : layOut p [] = [] := by
  rw [layOut]

/-- The first token is the longest lexeme at the front, and the others begin behind it. -/
theorem layOut_cons (p : Position) (c : Char) (cs : List Char) :
    layOut p (c :: cs) =
      (Lexeme.first c cs).tokenAt p ::
        layOut (p.advance (Lexeme.first c cs).chars)
          (cs.dropWhile (TokenKind.ofFirst c).continues) := by
  rw [layOut]

/-- The tokens of a text are lexemes that stand somewhere. -/
theorem exists_lexeme_of_mem_layOut {p : Position} {cs : List Char} {t : Token}
    (h : t ∈ layOut p cs) : ∃ l : Lexeme, ∃ q, l.WellFormed ∧ t = l.tokenAt q := by
  fun_induction layOut p cs with
  | case1 => cases h
  | case2 p c cs ih =>
    rcases List.mem_cons.1 h with rfl | h
    · exact ⟨Lexeme.first c cs, p, Lexeme.wellFormed_first c cs, rfl⟩
    · exact ih h

/-- After one character and others the place is that after the others from behind the first. -/
@[simp] theorem Position.advance_cons (p : Position) (c : Char) (cs : List Char) :
    p.advance (c :: cs) = (p.after c).advance cs := rfl

/-- After no characters the place is the same. -/
@[simp] theorem Position.advance_nil (p : Position) : p.advance [] = p := rfl

namespace Scanner

/-- An aligned scanner gives the longest lexeme from the place where it stands. -/
theorem Aligned.nextToken_eq {s : Scanner} (h : s.Aligned) {c : Char} {cs : List Char}
    (hs : s.upcoming = c :: cs) : s.nextToken.1 = (Lexeme.first c cs).tokenAt s.location := by
  have htoken := (nextToken_of_upcoming_cons hs).1
  have hraw : s.nextToken.1.raw.toList = (Lexeme.first c cs).chars :=
    congrArg Lexeme.chars (lexeme_nextToken hs)
  rw [h.of_nextToken.2.1, hraw] at htoken
  exact htoken

/-- An aligned scanner stands behind the lexeme that it gave. -/
theorem Aligned.location_nextToken {s : Scanner} (h : s.Aligned) {c : Char} {cs : List Char}
    (hs : s.upcoming = c :: cs) :
    s.nextToken.2.location = s.location.advance (Lexeme.first c cs).chars := by
  rw [h.of_nextToken.2.1, h.nextToken_eq hs]
  simp [Lexeme.tokenAt, Token.ofChars]

/-- An aligned scanner reads the tokens of the upcoming text from the place where it stands. -/
theorem ReadsAll.eq_layOut {s t : Scanner} {tokens : List Token} (h : ReadsAll s tokens t)
    (hs : s.Aligned) : tokens = layOut s.location s.upcoming := by
  obtain ⟨hreads, hmore, hend⟩ := h
  induction hreads with
  | nil s => simp [hend]
  | @cons s t tokens _ ih =>
    cases hup : s.upcoming with
    | nil => exact absurd (kind_nextToken_eq_endOfInput_iff.2 hup) (hmore _ List.mem_cons_self)
    | cons c cs =>
      have htoken := hs.nextToken_eq hup
      have hlocation := hs.location_nextToken hup
      have hrest := ih hs.of_nextToken.1
        (fun token hmem => hmore token (List.mem_cons_of_mem _ hmem)) hend
      rw [layOut_cons, ← htoken, ← hlocation, ← (nextToken_of_upcoming_cons hup).2, ← hrest]

/-- An aligned scanner that has read the upcoming text stands behind it. -/
theorem ReadsAll.location_eq {s t : Scanner} {tokens : List Token} (h : ReadsAll s tokens t)
    (hs : s.Aligned) : t.location = s.location.advance s.upcoming := by
  obtain ⟨hreads, hmore, hend⟩ := h
  induction hreads with
  | nil s => simp [hend]
  | @cons s t tokens _ ih =>
    cases hup : s.upcoming with
    | nil => exact absurd (kind_nextToken_eq_endOfInput_iff.2 hup) (hmore _ List.mem_cons_self)
    | cons c cs =>
      have hrest := ih hs.of_nextToken.1
        (fun token hmem => hmore token (List.mem_cons_of_mem _ hmem)) hend
      rw [hrest, hs.location_nextToken hup, (nextToken_of_upcoming_cons hup).2,
        ← Lexeme.chars_first_append c cs]
      exact (List.foldl_append ..).symm

end Scanner

/-- The place behind the last character of the last line of a source. -/
def endOf (source : String) : Position :=
  ⟨max 1 ((Text.linesOf source.toList).length : Int),
    ((Text.linesOf source.toList).getLast?.getD []).length + 1⟩

/-- The tokens of a source are those of the scanned text from the first place on, and its end. -/
theorem scan_eq_layOut (source : String) (significant : Bool) :
    scan source significant =
      Scanner.kept significant (layOut .origin (scannedText source)) ++
        [Token.atEnd (endOf source)] := by
  obtain ⟨tokens, t, h⟩ := (Scanner.ofSource source).exists_readsAll
  have haligned := Scanner.aligned_ofSource source
  obtain ⟨ht, hlines⟩ := h.reads.aligned haligned
  have htokens := h.eq_layOut haligned
  have hend := ht.location_of_upcoming_nil h.upcoming_eq
  rw [Scanner.upcoming_ofSource] at htokens
  rw [hlines] at hend
  rw [scan_of_readsAll h, htokens, hend]
  rfl

/-- The place behind the last character is where the scanned text leads to. -/
theorem endOf_eq_advance (source : String) :
    endOf source = Position.origin.advance (scannedText source) := by
  obtain ⟨tokens, t, h⟩ := (Scanner.ofSource source).exists_readsAll
  have haligned := Scanner.aligned_ofSource source
  obtain ⟨ht, hlines⟩ := h.reads.aligned haligned
  have hend := ht.location_of_upcoming_nil h.upcoming_eq
  rw [hlines, h.location_eq haligned, Scanner.upcoming_ofSource] at hend
  exact hend.symm

/-- Without a line feed each character is a column. -/
theorem Position.advance_of_not_mem {cs : List Char} (p : Position) (h : '\n' ∉ cs) :
    p.advance cs = ⟨p.line, p.column + cs.length⟩ := by
  induction cs generalizing p with
  | nil => simp
  | cons c cs ih =>
    simp only [List.mem_cons, not_or] at h
    rw [advance_cons, ih (p.after c) h.2, after, if_neg (Ne.symm h.1)]
    simp only [List.length_cons, mk.injEq, true_and]
    omega

/-- The place comes earlier: on a line above, or further to the left on the same line. -/
def Position.Before (p q : Position) : Prop :=
  p.line < q.line ∨ p.line = q.line ∧ p.column < q.column

/-- What comes before an earlier place comes before a later one. -/
theorem Position.Before.trans {p q r : Position} (hpq : p.Before q) (hqr : q.Before r) :
    p.Before r := by
  unfold Before at hpq hqr ⊢
  omega

/-- A character leads to a later place. -/
theorem Position.before_after (p : Position) (c : Char) : p.Before (p.after c) := by
  unfold Before after
  split
  · left
    simp only
    omega
  · right
    simp only [true_and]
    omega

/-- Characters lead to a later place if there are any. -/
theorem Position.before_advance (p : Position) {cs : List Char} (h : cs ≠ []) :
    p.Before (p.advance cs) := by
  induction cs generalizing p with
  | nil => exact absurd rfl h
  | cons c cs ih =>
    rw [advance_cons]
    cases cs with
    | nil => exact p.before_after c
    | cons d ds => exact (p.before_after c).trans (ih (p.after c) (List.cons_ne_nil d ds))

/-- No token starts before the place where its text begins. -/
theorem start_of_mem_layOut {p : Position} {cs : List Char} {t : Token} (ht : t ∈ layOut p cs) :
    t.span.start = p ∨ p.Before t.span.start := by
  fun_induction layOut p cs with
  | case1 => cases ht
  | case2 p c cs ih =>
    rcases List.mem_cons.1 ht with rfl | ht
    · exact .inl rfl
    · right
      have hfirst := p.before_advance (Lexeme.wellFormed_first c cs).chars_ne_nil
      rcases ih ht with heq | hbefore
      · rwa [heq]
      · exact hfirst.trans hbefore

/-- Every token starts before all that come after it. -/
theorem layOut_pairwise (p : Position) (cs : List Char) :
    (layOut p cs).Pairwise fun t u => t.span.start.Before u.span.start := by
  fun_induction layOut p cs with
  | case1 => exact .nil
  | case2 p c cs ih =>
    refine List.pairwise_cons.2 ⟨fun u hu => ?_, ih⟩
    have hfirst := p.before_advance (Lexeme.wellFormed_first c cs).chars_ne_nil
    rcases start_of_mem_layOut hu with heq | hbefore
    · rw [heq]
      exact hfirst
    · exact hfirst.trans hbefore

/-- The place a number of lines further down. -/
def Position.down (k : Nat) (p : Position) : Position := ⟨p.line + k, p.column⟩

/-- The token a number of lines further down. -/
def Token.down (k : Nat) (t : Token) : Token :=
  { t with span := ⟨t.span.start.down k, t.span.stop.down k⟩ }

/-- Characters lead as far from a place further down. -/
theorem Position.advance_down (k : Nat) (p : Position) (cs : List Char) :
    (p.down k).advance cs = (p.advance cs).down k := by
  induction cs generalizing p with
  | nil => rfl
  | cons c cs ih =>
    have hafter : (p.down k).after c = (p.after c).down k := by
      unfold Position.after Position.down
      split
      · simp only [Position.mk.injEq, and_true]
        omega
      · rfl
    rw [advance_cons, hafter, ih, advance_cons]

/-- A text further down has the same tokens, further down. -/
theorem layOut_down (k : Nat) (p : Position) (cs : List Char) :
    layOut (p.down k) cs = (layOut p cs).map (Token.down k) := by
  fun_induction layOut p cs with
  | case1 => simp
  | case2 p c cs ih =>
    have htoken : (Lexeme.first c cs).tokenAt (p.down k) =
        ((Lexeme.first c cs).tokenAt p).down k := by
      simp only [Lexeme.tokenAt, Position.advance_down]
      rfl
    rw [layOut_cons, Position.advance_down, ih, htoken, List.map_cons]

/-- Whether a token is passed over does not depend on where it stands. -/
theorem Scanner.kept_map_down (significant : Bool) (k : Nat) (tokens : List Token) :
    kept significant (tokens.map (Token.down k)) = (kept significant tokens).map (Token.down k) :=
  List.filter_map

end FrontEnd
