import FrontEnd.Proofs.Lexeme
import FrontEnd.Tokenize

/-!
# Reading token by token

A scanner that is asked for tokens again and again reads the text before it lexeme by lexeme.
The tokens of a source are what is read until nothing is left, followed by the end of the source;
without it they are the one lexing of the source, its lines joined by line feeds.
-/

namespace FrontEnd

/-- The kind and the characters of a token. -/
def Token.lexeme (t : Token) : Lexeme := ⟨t.kind, t.raw.toList⟩

/-- The text that is scanned for a source: its lines with a line feed between neighbours. -/
def scannedText (source : String) : List Char := Text.joinLines (Text.linesOf source.toList)

namespace Scanner

/-- With characters left, the next token is made of the longest lexeme at the front of them, and
what it leaves is to be read after it. -/
theorem nextToken_of_upcoming_cons {s : Scanner} {c : Char} {cs : List Char}
    (h : s.upcoming = c :: cs) :
    s.nextToken.1 = Token.ofChars (Lexeme.first c cs).kind (Lexeme.first c cs).chars
        ⟨s.location, s.nextToken.2.location⟩ ∧
      s.nextToken.2.upcoming = cs.dropWhile (TokenKind.ofFirst c).continues := by
  cases hpull : s.pull with
  | none => simp [pull_eq_none_iff.1 hpull] at h
  | some r =>
    obtain ⟨d, t⟩ := r
    have hd := (upcoming_of_pull hpull).1
    rw [h, List.cons.injEq] at hd
    obtain ⟨rfl, rfl⟩ := hd
    simp only [nextToken, hpull, Lexeme.first]
    cases hclass : (TokenKind.ofFirst c).runClass? with
    | none =>
      have hstop : (TokenKind.ofFirst c).continues = fun _ => false := by
        funext d
        simp [TokenKind.continues, hclass]
      have hdrop (ds : List Char) : ds.dropWhile (fun _ => false) = ds := by cases ds <;> rfl
      have htake (ds : List Char) : ds.takeWhile (fun _ => false) = [] := by cases ds <;> rfl
      simp [hstop, hdrop, htake]
    | some p =>
      have hp : (TokenKind.ofFirst c).continues = p := by
        funext d
        simp [TokenKind.continues, hclass]
      simp [hp, takeRun_eq p t]

/-- The kind and the characters of the next token are those of the longest lexeme. -/
theorem lexeme_nextToken {s : Scanner} {c : Char} {cs : List Char} (h : s.upcoming = c :: cs) :
    s.nextToken.1.lexeme = Lexeme.first c cs := by
  rw [(nextToken_of_upcoming_cons h).1]
  simp [Token.lexeme, Token.ofChars]

/-- The kind and the characters of the next token make a lexeme, with characters left. -/
theorem wellFormed_nextToken {s : Scanner} (h : s.upcoming ≠ []) :
    s.nextToken.1.lexeme.WellFormed := by
  obtain ⟨c, cs, hcs⟩ := List.exists_cons_of_ne_nil h
  rw [lexeme_nextToken hcs]
  exact Lexeme.wellFormed_first c cs

/-- A token takes its characters from the front of the text. -/
theorem upcoming_nextToken (s : Scanner) :
    s.upcoming = s.nextToken.1.raw.toList ++ s.nextToken.2.upcoming := by
  cases h : s.upcoming with
  | nil => simp [nextToken_of_upcoming_nil h, h, Token.atEnd]
  | cons c cs =>
    have hraw : s.nextToken.1.raw.toList = (Lexeme.first c cs).chars :=
      congrArg Lexeme.chars (lexeme_nextToken h)
    rw [hraw, (nextToken_of_upcoming_cons h).2]
    simp [Lexeme.first, List.takeWhile_append_dropWhile]

/-- A token carries its characters as a text if it is of a kind that does, else none. -/
theorem text_nextToken (s : Scanner) :
    s.nextToken.1.text = if s.nextToken.1.kind.carriesText then s.nextToken.1.raw else "" := by
  cases h : s.upcoming with
  | nil => simp [nextToken_of_upcoming_nil h, Token.atEnd, TokenKind.carriesText]
  | cons c cs =>
    rw [(nextToken_of_upcoming_cons h).1]
    rfl

/-- A token stands from where the scanner was up to where it is afterwards. -/
theorem span_nextToken (s : Scanner) :
    s.nextToken.1.span = ⟨s.location, s.nextToken.2.location⟩ := by
  cases h : s.upcoming with
  | nil => simp [nextToken_of_upcoming_nil h, Token.atEnd]
  | cons c cs =>
    rw [(nextToken_of_upcoming_cons h).1]
    rfl

/-- The next token is the end of the source exactly when nothing is left. -/
theorem kind_nextToken_eq_endOfInput_iff {s : Scanner} :
    s.nextToken.1.kind = .endOfInput ↔ s.upcoming = [] := by
  constructor
  · intro h
    by_contra hne
    exact (nextToken_of_upcoming_ne_nil hne).2 h
  · intro h
    rw [nextToken_of_upcoming_nil h]
    rfl

/-- Asked for tokens one after the other, the first scanner gives these and becomes the second
one. -/
inductive Reads : Scanner → List Token → Scanner → Prop
  /-- Without being asked it stays as it is. -/
  | nil (s : Scanner) : Reads s [] s
  /-- The next token comes first. -/
  | cons {s t : Scanner} {tokens : List Token} :
      Reads s.nextToken.2 tokens t → Reads s (s.nextToken.1 :: tokens) t

/-- A scanner has read all when nothing is left and no end of the source was among the tokens. -/
structure ReadsAll (s : Scanner) (tokens : List Token) (t : Scanner) : Prop where
  /-- The tokens are what the scanner gives. -/
  reads : Reads s tokens t
  /-- None of them is the end of the source. -/
  hasMore : ∀ token ∈ tokens, token.kind ≠ .endOfInput
  /-- Nothing is left after them. -/
  upcoming_eq : t.upcoming = []

namespace Reads

/-- The characters of the tokens are what was taken from the text. -/
theorem upcoming_eq {s t : Scanner} {tokens : List Token} (h : Reads s tokens t) :
    s.upcoming = (tokens.map fun token => token.raw.toList).flatten ++ t.upcoming := by
  induction h with
  | nil s => simp
  | @cons s t tokens _ ih =>
    rw [upcoming_nextToken s, ih]
    simp

/-- Reading can be stopped after any of the tokens. -/
theorem of_append {s u : Scanner} {before after : List Token} (h : Reads s (before ++ after) u) :
    ∃ t, Reads s before t ∧ Reads t after u := by
  induction before generalizing s with
  | nil => exact ⟨s, .nil s, h⟩
  | cons token before ih =>
    cases h with
    | cons hrest =>
      obtain ⟨t, hbefore, hafter⟩ := ih hrest
      exact ⟨t, .cons hbefore, hafter⟩

/-- Two readings of which the second begins where the first ends are one. -/
theorem append {s t u : Scanner} {before after : List Token} (h : Reads s before t)
    (hafter : Reads t after u) : Reads s (before ++ after) u := by
  induction h with
  | nil s => exact hafter
  | cons _ ih => exact .cons (ih hafter)

/-- Every token is given by a scanner that was reached by reading those before it. -/
theorem exists_nextToken {s t : Scanner} {before after : List Token} {token : Token}
    (h : Reads s (before ++ token :: after) t) :
    ∃ u, Reads s before u ∧ token = u.nextToken.1 ∧ Reads u.nextToken.2 after t := by
  obtain ⟨u, hbefore, hrest⟩ := h.of_append
  cases hrest with
  | cons hafter => exact ⟨u, hbefore, rfl, hafter⟩

/-- A token carries its characters as a text if it is of a kind that does, else none. -/
theorem text_eq {s t : Scanner} {tokens : List Token} (h : Reads s tokens t) {token : Token}
    (htoken : token ∈ tokens) :
    token.text = if token.kind.carriesText then token.raw else "" := by
  obtain ⟨before, after, rfl⟩ := List.append_of_mem htoken
  obtain ⟨u, -, rfl, -⟩ := h.exists_nextToken
  exact text_nextToken u

end Reads

/-- Every scanner comes to the end of its text. -/
theorem exists_readsAll (s : Scanner) : ∃ tokens t, ReadsAll s tokens t := by
  by_cases h : s.upcoming = []
  · exact ⟨[], s, .nil s, by simp, h⟩
  · obtain ⟨tokens, t, hreads, hmore, hend⟩ := exists_readsAll s.nextToken.2
    refine ⟨s.nextToken.1 :: tokens, t, .cons hreads, ?_, hend⟩
    intro token htoken
    rcases List.mem_cons.1 htoken with rfl | htoken
    · exact (nextToken_of_upcoming_ne_nil h).2
    · exact hmore token htoken
termination_by s.upcoming.length
decreasing_by exact (nextToken_of_upcoming_ne_nil h).1

/-- The end of the source is read as one more token. -/
theorem ReadsAll.reads_atEnd {s t : Scanner} {tokens : List Token} (h : ReadsAll s tokens t) :
    Reads s (tokens ++ [Token.atEnd t.location]) t := by
  have hlast : Reads t [t.nextToken.1] t.nextToken.2 := .cons (.nil _)
  rw [nextToken_of_upcoming_nil h.upcoming_eq] at hlast
  exact h.reads.append hlast

/-- What is read to the end is a lexing of the text. -/
theorem ReadsAll.lexing {s t : Scanner} {tokens : List Token} (h : ReadsAll s tokens t) :
    Lexing s.upcoming (tokens.map Token.lexeme) := by
  obtain ⟨hreads, hmore, hend⟩ := h
  induction hreads with
  | nil s =>
    rw [hend]
    exact .nil
  | @cons s t tokens _ ih =>
    cases hs : s.upcoming with
    | nil => exact absurd (kind_nextToken_eq_endOfInput_iff.2 hs) (hmore _ List.mem_cons_self)
    | cons c cs =>
      rw [List.map_cons, lexeme_nextToken hs]
      apply Lexing.cons
      rw [← (nextToken_of_upcoming_cons hs).2]
      exact ih (fun token htoken => hmore token (List.mem_cons_of_mem _ htoken)) hend

/-- A token that is not passed over is the next one. -/
theorem next_eq_nextToken {s : Scanner} {significant : Bool}
    (h : significant = true → s.nextToken.1.kind ≠ .whitespace) :
    s.next significant = s.nextToken := by
  cases significant with
  | false => rfl
  | true => rw [next, if_pos rfl, nextSignificant, if_neg (h rfl)]

/-- Whitespace that is passed over is as if it had been read. -/
theorem next_of_whitespace {s : Scanner} (h : s.nextToken.1.kind = .whitespace) :
    s.next true = s.nextToken.2.next true := by
  simp only [next, if_true]
  rw [nextSignificant, if_pos h]

/-- The tokens of a list that are not passed over. -/
def kept (significant : Bool) (tokens : List Token) : List Token :=
  tokens.filter fun token => !(significant && decide (token.kind = .whitespace))

/-- Without passing over whitespace all tokens are kept. -/
@[simp] theorem kept_false (tokens : List Token) : kept false tokens = tokens := by
  simp [kept]

/-- The tokens that are collected are those that are read and not passed over, and then the end
of the source. With `strict` it is instead the first unknown token of all that are read, if there
is one, that is reported. -/
theorem ReadsAll.collect_eq {s t : Scanner} {tokens : List Token} (h : ReadsAll s tokens t)
    (significant strict : Bool) (source : String) :
    s.collect significant strict source =
      match tokens.find? (fun token => strict && token.kind == .unknown) with
      | some token => .error ⟨unknownCharacter token.raw, token.span, source⟩
      | none => .ok (kept significant tokens ++ [Token.atEnd t.location]) := by
  obtain ⟨hreads, hmore, hend⟩ := h
  induction hreads with
  | nil s =>
    have hnext : s.next significant = (Token.atEnd s.location, s) := by
      rw [next_eq_nextToken, nextToken_of_upcoming_nil hend]
      simp [nextToken_of_upcoming_nil hend, Token.atEnd]
    rw [collect, hnext]
    simp [Token.atEnd, kept]
  | @cons s t tokens _ ih =>
    have ih := ih (fun token htoken => hmore token (List.mem_cons_of_mem _ htoken)) hend
    by_cases hskip : significant = true ∧ s.nextToken.1.kind = .whitespace
    · obtain ⟨rfl, hkind⟩ := hskip
      rw [collect, next_of_whitespace hkind, ← collect, ih]
      simp [kept, hkind]
    · have hnext : s.next significant = s.nextToken :=
        next_eq_nextToken fun hs hkind => hskip ⟨hs, hkind⟩
      have hkept : kept significant (s.nextToken.1 :: tokens) =
          s.nextToken.1 :: kept significant tokens := by
        apply List.filter_cons_of_pos
        cases significant with
        | false => rfl
        | true => simpa using hskip
      rw [collect, hnext, hkept, List.find?_cons]
      cases hunknown : strict && s.nextToken.1.kind == .unknown with
      | true => simp
      | false =>
        have hkind := hmore _ List.mem_cons_self
        simp only [Bool.false_eq_true, if_false, if_neg hkind, ih]
        split <;> rfl

/-- All tokens up to the end of the source are those that are read, and then the end. -/
theorem ReadsAll.drain_eq {s t : Scanner} {tokens : List Token} (h : ReadsAll s tokens t) :
    s.drain = (tokens ++ [Token.atEnd t.location], t) := by
  obtain ⟨hreads, hmore, hend⟩ := h
  induction hreads with
  | nil s =>
    rw [drain, nextToken_of_upcoming_nil hend]
    simp [Token.atEnd]
  | @cons s t tokens _ ih =>
    rw [drain, if_neg (hmore _ List.mem_cons_self),
      ih (fun token htoken => hmore token (List.mem_cons_of_mem _ htoken)) hend]
    rfl

end Scanner

/-- Without `strict` the tokens of a source are those that are read and not passed over, and then
the end. -/
theorem tokenize_of_readsAll {source : String} {tokens : List Token} {t : Scanner}
    (h : (Scanner.ofSource source).ReadsAll tokens t) (significant : Bool) :
    tokenize source significant false =
      .ok (Scanner.kept significant tokens ++ [Token.atEnd t.location]) := by
  have hnone : tokens.find? (fun token => false && token.kind == .unknown) = none :=
    List.find?_eq_none.2 (by simp)
  rw [tokenize, h.collect_eq, hnone]

/-- **Maximal munch.** Scanning ends with the end of the source and nowhere else, and the tokens
before it are the one and only lexing of the scanned text. Identifiers and numbers carry their
characters as a text, and no other token carries any. -/
theorem tokenize_lexing (source : String) :
    ∃ tokens last, tokenize source false false = .ok (tokens ++ [last]) ∧
      last.kind = .endOfInput ∧ last.raw = "" ∧
      (∀ lexemes, Lexing (scannedText source) lexemes ↔ lexemes = tokens.map Token.lexeme) ∧
      ∀ token ∈ tokens ++ [last],
        token.text =
          if token.kind = .identifier ∨ token.kind = .number then token.raw else "" := by
  obtain ⟨tokens, t, h⟩ := (Scanner.ofSource source).exists_readsAll
  have hlexing : Lexing (scannedText source) (tokens.map Token.lexeme) := by
    simpa [scannedText] using h.lexing
  have htokens := tokenize_of_readsAll h false
  rw [Scanner.kept_false] at htokens
  refine ⟨tokens, Token.atEnd t.location, htokens, rfl, rfl, ?_, ?_⟩
  · intro lexemes
    constructor
    · intro hlexemes
      exact hlexemes.unique hlexing
    · rintro rfl
      exact hlexing
  · intro token htoken
    rw [← if_congr TokenKind.carriesText_iff rfl rfl]
    rcases List.mem_append.1 htoken with htoken | htoken
    · exact h.reads.text_eq htoken
    · rw [List.mem_singleton.1 htoken]
      rfl

end FrontEnd
