import FrontEnd.Proofs.Misuse
import FrontEnd.Proofs.Schedule

/-!
# The end of scanning

Every token but the end of the source takes a character from the text still to be read, so there
are no more of them than characters. A run looks at one character more than it takes and gives it
back to be read again, so at most twice as many characters are read as there are. Whitespace goes
as far as it can, so a significant token is the next one or the one behind it. At the end of the
source a scanner stays as it is until it is given something to read.
-/

namespace FrontEnd

/-- The tokens end with the end of the source and have it nowhere else, all others have
characters, and these are at most as many as the given number. -/
def EndsWithin (n : ℕ) (tokens : List Token) : Prop :=
  tokens.length ≤ n + 1 ∧ ∃ before last, tokens = before ++ [last] ∧ last.hasMore = false ∧
    ∀ t ∈ before, t.hasMore = true ∧ t.raw ≠ ""

/-- Only the end of the source is not followed by other tokens. -/
theorem Token.hasMore_eq_true_iff {t : Token} : t.hasMore = true ↔ t.kind ≠ .endOfInput := by
  simp [hasMore]

/-- Nothing follows the end of the source. -/
theorem Token.hasMore_eq_false_iff {t : Token} : t.hasMore = false ↔ t.kind = .endOfInput := by
  simp [hasMore]

/-- Tokens with characters, followed by the end of the source, end within the number of the
characters. -/
theorem endsWithin_append_atEnd {tokens : List Token} {p : Position} {n : ℕ}
    (htokens : ∀ t ∈ tokens, t.kind ≠ .endOfInput ∧ t.raw ≠ "") (hlength : tokens.length ≤ n) :
    EndsWithin n (tokens ++ [Token.atEnd p]) := by
  refine ⟨by simpa using hlength, tokens, Token.atEnd p, rfl, rfl, fun t ht => ?_⟩
  obtain ⟨hkind, hraw⟩ := htokens t ht
  exact ⟨Token.hasMore_eq_true_iff.2 hkind, hraw⟩

namespace Scanner

/-- A token that is not the end of the source has characters. -/
theorem raw_nextToken_ne_empty {s : Scanner} (h : s.nextToken.1.kind ≠ .endOfInput) :
    s.nextToken.1.raw ≠ "" := by
  have hupcoming : s.upcoming ≠ [] := fun hnil => h (kind_nextToken_eq_endOfInput_iff.2 hnil)
  intro hraw
  apply (wellFormed_nextToken hupcoming).chars_ne_nil
  simp [Token.lexeme, hraw]

/-- Every token that is left has characters. -/
theorem ReadsAll.raw_ne_empty {s t : Scanner} {tokens : List Token} (h : ReadsAll s tokens t) :
    ∀ token ∈ tokens, token.raw ≠ "" := by
  intro token htoken
  have hkind := h.hasMore token htoken
  obtain ⟨before, after, rfl⟩ := List.append_of_mem htoken
  obtain ⟨u, -, rfl, -⟩ := h.reads.exists_nextToken
  exact raw_nextToken_ne_empty hkind

/-- The tokens that are left have as many characters as the text. -/
theorem ReadsAll.sum_length_raw {s t : Scanner} {tokens : List Token} (h : ReadsAll s tokens t) :
    (tokens.map fun token => token.raw.length).sum = s.upcoming.length := by
  rw [h.reads.upcoming_eq, h.upcoming_eq]
  simp [List.length_flatten, Function.comp_def, String.length_toList]

/-- There are no more tokens left than characters. -/
theorem ReadsAll.length_le {s t : Scanner} {tokens : List Token} (h : ReadsAll s tokens t) :
    tokens.length ≤ s.upcoming.length := by
  have hone : ∀ n ∈ tokens.map fun token => token.raw.length, 1 ≤ n := by
    intro n hn
    obtain ⟨token, htoken, rfl⟩ := List.mem_map.1 hn
    have hne : token.raw.length ≠ 0 := by simpa using h.raw_ne_empty token htoken
    omega
  have hle := List.length_le_sum_of_one_le _ hone
  rwa [h.sum_length_raw, List.length_map] at hle

/-- What is kept of the tokens that are left, followed by the end of the source, ends within the
number of characters. -/
theorem ReadsAll.endsWithin_kept {s t : Scanner} {tokens : List Token} (h : ReadsAll s tokens t)
    (significant : Bool) (p : Position) :
    EndsWithin s.upcoming.length (kept significant tokens ++ [Token.atEnd p]) := by
  apply endsWithin_append_atEnd
  · intro token htoken
    have hmem := List.mem_of_mem_filter htoken
    exact ⟨h.hasMore token hmem, h.raw_ne_empty token hmem⟩
  · exact (List.length_filter_le _ _).trans h.length_le

/-- To ask for all tokens that are left comes to an end. -/
theorem endsWithin_drain (s : Scanner) : EndsWithin s.upcoming.length s.drain.1 := by
  obtain ⟨tokens, t, h⟩ := s.exists_readsAll
  have hends := h.endsWithin_kept false t.location
  rw [kept_false] at hends
  rwa [h.drain_eq]

/-- To collect the tokens of a source comes to an end. -/
theorem endsWithin_scan (source : String) (significant : Bool) :
    EndsWithin (ofSource source).upcoming.length (scan source significant) := by
  obtain ⟨tokens, t, h⟩ := (ofSource source).exists_readsAll
  rw [scan_of_readsAll h]
  exact h.endsWithin_kept significant t.location

/-- Whitespace goes as far as it can, so the token behind it is another one. -/
theorem kind_nextToken_after_whitespace {s : Scanner} (h : s.nextToken.1.kind = .whitespace) :
    s.nextToken.2.nextToken.1.kind ≠ .whitespace := by
  cases hs : s.upcoming with
  | nil => simp [nextToken_of_upcoming_nil hs, Token.atEnd] at h
  | cons c cs =>
    obtain ⟨htoken, hrest⟩ := nextToken_of_upcoming_cons hs
    rw [htoken] at h
    replace h : TokenKind.ofFirst c = .whitespace := h
    rw [h] at hrest
    cases hbehind : s.nextToken.2.upcoming with
    | nil => simp [nextToken_of_upcoming_nil hbehind, Token.atEnd]
    | cons d ds =>
      -- the whitespace stopped in front of `d`
      have hstop := List.head?_dropWhile_not TokenKind.whitespace.continues cs
      rw [← hrest, hbehind] at hstop
      rw [(nextToken_of_upcoming_cons hbehind).1]
      intro hd
      have hblank : Unicode.isBlank d = true := TokenKind.ofFirst_eq_whitespace_iff.1 hd
      exact Bool.noConfusion (hblank.symm.trans hstop)

/-- The next significant token is the next token, or the one behind it if that is whitespace. -/
theorem nextSignificant_eq (s : Scanner) :
    s.nextSignificant =
      if s.nextToken.1.kind = .whitespace then s.nextToken.2.nextToken else s.nextToken := by
  rw [nextSignificant]
  split
  · next h => rw [nextSignificant, if_neg (kind_nextToken_after_whitespace h)]
  · rfl

/-- At most two tokens are scanned for a significant one. -/
theorem length_visit_nextSignificant (s : Scanner) : (s.visit .nextSignificant).length ≤ 2 := by
  have hpassed : s.passedOver.length ≤ 1 := by
    rw [passedOver]
    split
    · next h =>
      rw [passedOver, if_neg (kind_nextToken_after_whitespace h)]
      simp
    · simp
  simp only [visit, List.length_append, List.length_map, List.length_singleton]
  omega

/-- The scanner is given something to read: another source is begun or a character is taken
back. -/
def Event.GivesText (e : Event) : Prop :=
  (∃ source, e.op = .restart source) ∨ ∃ given, e.op = .pushBack given ∧ e.reply = .done

/-- With nothing left, the end of the source is the next significant token. -/
theorem nextSignificant_of_upcoming_nil {s : Scanner} (h : s.upcoming = []) :
    s.nextSignificant = (Token.atEnd s.location, s) := by
  rw [nextSignificant_eq, nextToken_of_upcoming_nil h]
  exact if_neg (by simp [Token.atEnd])

/-- With nothing left, the end of the source is the only token. -/
theorem drain_of_upcoming_nil {s : Scanner} (h : s.upcoming = []) :
    s.drain = ([Token.atEnd s.location], s) := by
  rw [drain, nextToken_of_upcoming_nil h]
  exact if_pos rfl

/-- With nothing left, an operation that gives nothing to read leaves the scanner as it is: it is
refused, or it returns the end of the source. -/
theorem perform_of_upcoming_nil {s : Scanner} {op : Operation} (h : s.upcoming = [])
    (hop : ¬ (s.event op).GivesText) :
    (s.perform op).2 = s ∧
      ((∃ given m, op = .pushBack given ∧ (s.perform op).1 = .refused m) ∨
        (s.perform op).1.returned = [Token.atEnd s.location]) := by
  cases op with
  | restart source => exact absurd (.inl ⟨source, rfl⟩) hop
  | pushBack given =>
    cases hpush : s.pushBack given with
    | ok t => exact absurd (.inr ⟨given, rfl, by simp [event, perform, hpush]⟩) hop
    | error m => exact ⟨by simp [perform, hpush], .inl ⟨given, m, rfl, by simp [perform, hpush]⟩⟩
  | nextToken => simp [perform, nextToken_of_upcoming_nil h, Reply.returned]
  | nextSignificant => simp [perform, nextSignificant_of_upcoming_nil h, Reply.returned]
  | drain => simp [perform, drain_of_upcoming_nil h, Reply.returned]

/-- With nothing left, nothing changes as long as nothing is given to read. -/
theorem events_of_upcoming_nil {s : Scanner} {ops : List Operation} (h : s.upcoming = [])
    (hops : ∀ e ∈ s.events ops, ¬ e.GivesText) :
    ∀ e ∈ s.events ops, e.location = s.location ∧ e.atEnd = true ∧
      ((∃ given m, e.op = .pushBack given ∧ e.reply = .refused m) ∨
        e.reply.returned = [Token.atEnd s.location]) := by
  induction ops with
  | nil => simp [events]
  | cons op ops ih =>
    obtain ⟨hafter, hreply⟩ := perform_of_upcoming_nil h (hops _ List.mem_cons_self)
    rw [events, hafter] at hops ⊢
    intro e he
    rcases List.mem_cons.1 he with rfl | he
    · refine ⟨?_, ?_, hreply⟩
      · simp only [event, hafter]
      · simp only [event, hafter]
        exact isAtEnd_iff.2 h
    · exact ih (fun e he => hops e (List.mem_cons_of_mem _ he)) e he

/-- A pull that returns the end of the source leaves nothing to be read, and the end is where the
scanner stands. -/
theorem nextToken_of_hasMore_eq_false {s : Scanner} (h : s.nextToken.1.hasMore = false) :
    s.nextToken.2.upcoming = [] ∧ s.nextToken.1 = Token.atEnd s.nextToken.2.location := by
  have hend := kind_nextToken_eq_endOfInput_iff.1 (Token.hasMore_eq_false_iff.1 h)
  rw [nextToken_of_upcoming_nil hend]
  exact ⟨hend, rfl⟩

/-- An operation that returns the end of the source leaves nothing to be read, and the end is
where the scanner stands. -/
theorem perform_of_returned_end {s : Scanner} {op : Operation} {t : Token}
    (ht : t ∈ (s.perform op).1.returned) (hmore : t.hasMore = false) :
    (s.perform op).2.upcoming = [] ∧ t = Token.atEnd (s.perform op).2.location := by
  cases op with
  | restart source => cases ht
  | pushBack given => cases hpush : s.pushBack given <;> simp [perform, hpush, Reply.returned] at ht
  | nextToken =>
    obtain rfl := List.mem_singleton.1 ht
    exact nextToken_of_hasMore_eq_false hmore
  | nextSignificant =>
    obtain rfl := List.mem_singleton.1 ht
    obtain ⟨u, hu⟩ := exists_nextToken_of_nextSignificant s
    simp only [perform, hu] at hmore ⊢
    exact nextToken_of_hasMore_eq_false hmore
  | drain =>
    obtain ⟨tokens, u, hall⟩ := s.exists_readsAll
    simp only [perform, Reply.returned, hall.drain_eq] at ht ⊢
    rcases List.mem_append.1 ht with ht | ht
    · exact absurd (Token.hasMore_eq_false_iff.1 hmore) (hall.hasMore t ht)
    · exact ⟨hall.upcoming_eq, List.mem_singleton.1 ht⟩

end Scanner

namespace WatchedScanner

/-- To read a character takes it from the text. -/
theorem length_pulled_of_pull {w v : WatchedScanner} {c : Char} (h : w.pull = .ok (some (c, v))) :
    v.pulled.length = w.pulled.length + 1 ∧
      w.scanner.upcoming.length = v.scanner.upcoming.length + 1 := by
  have hscanner := (Scanner.upcoming_of_pull (scanner_of_pull h)).1
  refine ⟨?_, by rw [hscanner, List.length_cons]⟩
  rw [pull] at h
  split at h
  · cases h
  · cases hpull : w.scanner.pull with
    | none => simp [hpull] at h
    | some r =>
      simp only [hpull, Option.map_some, Except.ok.injEq, Option.some.injEq, Prod.mk.injEq] at h
      rw [← h.2, List.length_cons]

/-- To take a character back puts it in front of the text, and reads none. -/
theorem length_pulled_of_pushBack {w v : WatchedScanner} {given : Datum}
    (h : w.pushBack given = .ok v) :
    v.pulled.length = w.pulled.length ∧
      v.scanner.upcoming.length = w.scanner.upcoming.length + 1 := by
  obtain ⟨text, c, -, -, hslot, hscanner⟩ := Scanner.pushBack_eq_ok_iff.1 (scanner_of_pushBack h)
  constructor
  · rw [pushBack] at h
    cases hpush : w.scanner.pushBack given with
    | error m => simp [hpush, Except.map] at h
    | ok s =>
      rw [hpush] at h
      cases h
      rfl
  · rw [hscanner, Scanner.upcoming_unread_of_slot hslot, List.length_cons]

/-- A run reads one character at most that is to be read again. -/
theorem length_pulled_of_takeRun {p : Char → Bool} {w u : WatchedScanner} {run : List Char}
    (h : w.takeRun p = .ok (run, u)) :
    u.pulled.length + u.scanner.upcoming.length ≤
      w.pulled.length + w.scanner.upcoming.length + 1 := by
  fun_induction takeRun p w generalizing run u with
  | case1 w b hpull => cases h
  | case2 w hpull =>
    cases h
    omega
  | case3 w c v hpull hc ih =>
    obtain ⟨⟨rest, t⟩, hrest, ht⟩ := exists_ok_of_bind h
    cases ht
    have hpulled := length_pulled_of_pull hpull
    have hrun := ih hrest
    omega
  | case4 w c v hpull hc =>
    obtain ⟨t, hpush, ht⟩ := exists_ok_of_bind h
    cases ht
    have hpulled := length_pulled_of_pull hpull
    cases hback : v.pushBack (.text (String.singleton c)) with
    | error m =>
      rw [hback] at hpush
      cases hpush
    | ok t =>
      rw [hback] at hpush
      cases hpush
      have hgiven := length_pulled_of_pushBack hback
      omega

/-- A token reads at most two characters for each one by which it shortens the text: the character
behind a run is paid for by the one in front of it. -/
theorem length_pulled_of_nextToken {w v : WatchedScanner} {t : ScannedToken}
    (h : w.nextToken = .ok (t, v)) :
    v.pulled.length + 2 * v.scanner.upcoming.length ≤
      w.pulled.length + 2 * w.scanner.upcoming.length := by
  obtain ⟨r, hpull, h⟩ := exists_ok_of_bind h
  cases r with
  | none =>
    cases h
    omega
  | some r =>
    obtain ⟨c, x⟩ := r
    obtain ⟨⟨run, u⟩, hrun, h⟩ := exists_ok_of_bind h
    cases h
    have hpulled := length_pulled_of_pull hpull
    cases hclass : (TokenKind.ofFirst c).runClass? with
    | none =>
      simp only [takeRest, hclass] at hrun
      cases hrun
      omega
    | some p =>
      simp only [takeRest, hclass] at hrun
      have hread := length_pulled_of_takeRun hrun
      have hrest := (Scanner.takeRun_eq p x.scanner).2
      simp only [scanner_of_takeRun hrun] at hrest
      have hshorter := (List.dropWhile_suffix p (l := x.scanner.upcoming)).length_le
      rw [← hrest] at hshorter
      omega

/-- All tokens that are left read at most two characters for each one that is left. -/
theorem length_pulled_of_drain {w v : WatchedScanner} {tokens : List Token}
    (h : w.drain = .ok (tokens, v)) :
    v.pulled.length + 2 * v.scanner.upcoming.length ≤
      w.pulled.length + 2 * w.scanner.upcoming.length := by
  fun_induction drain w generalizing tokens v with
  | case1 w b hnext => cases h
  | case2 w t u hnext hkind =>
    cases h
    have hlast := length_pulled_of_nextToken hnext
    exact hlast
  | case3 w t u hnext hkind ih =>
    obtain ⟨⟨rest, x⟩, hrest, hx⟩ := exists_ok_of_bind h
    cases hx
    have hfirst := length_pulled_of_nextToken hnext
    have hothers : v.pulled.length + 2 * v.scanner.upcoming.length ≤
        u.pulled.length + 2 * u.scanner.upcoming.length := ih hrest
    omega

/-- After any operations all tokens that are left can be asked for, and two characters at most are
read for each one that is left. -/
theorem exists_drain_after (source : String) (ops : List Scanner.Operation) :
    ∃ w v, (ofSource source).performAll ops =
        .ok ((Scanner.ofSource source).replies ops, w) ∧
      w.drain = .ok (((Scanner.ofSource source).after ops).drain.1, v) ∧
      v.pulled.length ≤
        w.pulled.length + 2 * ((Scanner.ofSource source).after ops).upcoming.length := by
  obtain ⟨w, hperform, hafter, hsound, -⟩ := (sound_ofSource source).exists_performAll ops
  obtain ⟨tokens, v, hdrain, -⟩ := hsound.exists_drain
  have hscanner : ((Scanner.ofSource source).after ops).drain = (tokens, v.scanner) := by
    rw [← scanner_of_drain hdrain, hafter]
    rfl
  have hread := length_pulled_of_drain hdrain
  rw [hafter] at hread
  refine ⟨w, v, hperform, ?_, ?_⟩
  · rw [hscanner]
    exact hdrain
  · exact (Nat.le_add_right _ _).trans hread

end WatchedScanner

open Scanner

/-- **Scanning ends, and ends cleanly.** To ask for all tokens that are left returns at most one
more than there are characters, the last of which and no other is the end of the source. Whitespace
is not followed by whitespace, so at most two tokens are looked at for a significant one. Once the
end of the source was returned it is returned by every operation that is not refused, and the place
and the end stay the same, until a source is begun or a character is taken back. To collect the
tokens of a source ends likewise, strictly or not, with whitespace or without; and whatever was done
with a scanner, at most twice as many characters are read to the end as there are left. -/
theorem scanning_ends (s : Scanner) :
    EndsWithin s.upcoming.length s.drain.1 ∧
      (s.nextToken.1.kind = .whitespace → s.nextToken.2.nextToken.1.kind ≠ .whitespace) ∧
      (s.nextSignificant =
        if s.nextToken.1.kind = .whitespace then s.nextToken.2.nextToken else s.nextToken) ∧
      (s.visit .nextSignificant).length ≤ 2 ∧
      (∀ op, ∀ t ∈ (s.perform op).1.returned, t.hasMore = false →
        (s.event op).atEnd = true ∧ t = Token.atEnd (s.event op).location ∧
          ∀ more, (∀ e ∈ (s.perform op).2.events more, ¬ e.GivesText) →
            ∀ e ∈ (s.perform op).2.events more,
              e.location = (s.event op).location ∧ e.atEnd = true ∧
                ((∃ given m, e.op = .pushBack given ∧ e.reply = .refused m) ∨
                  e.reply.returned = [t])) ∧
      ∀ source,
        (∀ significant,
          (∃ tokens, tokenize source significant false = .ok tokens ∧
            EndsWithin (ofSource source).upcoming.length tokens) ∧
          ∀ tokens, tokenize source significant true = .ok tokens →
            EndsWithin (ofSource source).upcoming.length tokens) ∧
        ∀ ops, ∃ w v, (WatchedScanner.ofSource source).performAll ops =
            .ok ((ofSource source).replies ops, w) ∧
          w.drain = .ok (((ofSource source).after ops).drain.1, v) ∧
          v.pulled.length ≤
            w.pulled.length + 2 * ((ofSource source).after ops).upcoming.length := by
  refine ⟨s.endsWithin_drain, kind_nextToken_after_whitespace, s.nextSignificant_eq,
    s.length_visit_nextSignificant, fun op t ht hmore => ?_, fun source => ⟨?_, ?_⟩⟩
  · obtain ⟨hend, rfl⟩ := perform_of_returned_end ht hmore
    exact ⟨isAtEnd_iff.2 hend, rfl, fun more hmore => events_of_upcoming_nil hend hmore⟩
  · intro significant
    refine ⟨⟨_, tokenize_eq_ok_scan source significant, endsWithin_scan source significant⟩, ?_⟩
    intro tokens htokens
    obtain ⟨rfl, -⟩ := tokenize_strict_eq_ok_iff.1 htokens
    exact endsWithin_scan source significant
  · exact WatchedScanner.exists_drain_after source

end FrontEnd
