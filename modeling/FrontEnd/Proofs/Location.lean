import FrontEnd.Proofs.Watched

/-!
# Where a scanner stands

A character can be given back that the source does not have, and after the end of the source, so
the place of the slot need not be the one in front of the cursor. It is always the place of the
character that was read last, which is a place of the source and never behind the cursor. So the
place where the scanner stands is never in front of the last character read, and the tokens are
returned in the order of their places, but for the end of the source, which reads no character.
-/

namespace FrontEnd

/-- The place comes no later: it is the same, or it comes before. -/
def Position.NotAfter (p q : Position) : Prop :=
  p.line < q.line ∨ p.line = q.line ∧ p.column ≤ q.column

instance (p q : Position) : Decidable (p.NotAfter q) :=
  inferInstanceAs (Decidable (_ ∨ _ ∧ _))

/-- Every place comes no later than itself. -/
theorem Position.NotAfter.refl (p : Position) : p.NotAfter p := .inr ⟨rfl, Int.le_refl _⟩

/-- What comes no later than an earlier place comes no later than a later one. -/
theorem Position.NotAfter.trans {p q r : Position} (hpq : p.NotAfter q) (hqr : q.NotAfter r) :
    p.NotAfter r := by
  unfold NotAfter at hpq hqr ⊢
  omega

namespace Scanner

/-- A scanner remembers a place that it has passed, and the slot counts as standing there. -/
structure Placed (s : Scanner) : Prop where
  /-- The lines are those of the source. -/
  lines_eq : s.lines = Text.linesOf s.source.toList
  /-- The cursor is on a line. -/
  inside : s.Inside
  /-- The character read last stands at a place of the lines. -/
  last_genuine : Genuine s.lines s.last
  /-- The cursor has passed that place, or is there. -/
  last_notAfter : s.last.NotAfter s.cursor
  /-- A character in the slot counts as standing there. -/
  slot : ∀ c p, s.slot = some (c, p) → p = s.last

/-- A scanner at the beginning of a source has passed nothing. -/
theorem placed_ofSource (source : String) : (ofSource source).Placed := by
  have hinside := (aligned_ofSource source).inside
  exact ⟨rfl, hinside, hinside.cursor_standsBefore.genuine, .refl _, by simp [ofSource]⟩

/-- Where a line is looked up there is one. -/
theorem Inside.getElem?_line {s : Scanner} (h : s.Inside) (hlook : s.looksUpLine = true) :
    s.lines[s.line]? ≠ none := by
  have hline := h.line_lt
  simp only [looksUpLine, cursorAtEnd, Bool.and_eq_true, Bool.not_eq_true',
    Bool.and_eq_false_iff, decide_eq_false_iff_not] at hlook
  intro hnone
  have hout := List.getElem?_eq_none_iff.1 hnone
  -- only a source without lines has no line for the cursor, and then the cursor is at the end
  have hcurrent : s.currentLine.length = 0 := by simp [currentLine, hnone]
  omega

namespace Placed

variable {s t : Scanner} {c : Char}

/-- The scanner stands at a place of its lines. -/
theorem genuine_location (h : s.Placed) : Genuine s.lines s.location := by
  cases hslot : s.slot with
  | some held =>
    obtain ⟨d, p⟩ := held
    simpa only [location, hslot, h.slot d p hslot] using h.last_genuine
  | none => simpa only [location, hslot] using h.inside.cursor_standsBefore.genuine

/-- The scanner does not stand in front of the character read last. -/
theorem last_notAfter_location (h : s.Placed) : s.last.NotAfter s.location := by
  cases hslot : s.slot with
  | some held =>
    obtain ⟨d, p⟩ := held
    simpa only [location, hslot, h.slot d p hslot] using Position.NotAfter.refl s.last
  | none => simpa only [location, hslot] using h.last_notAfter

/-- Reading passes the place where the scanner stood. -/
theorem of_pull (h : s.Placed) (hpull : s.pull = some (c, t)) : t.Placed := by
  have hinside := h.inside.of_pull hpull
  have hgenuine := h.genuine_location
  rcases pull_cases hpull with ⟨p, hslot, rfl⟩ | ⟨hslot, -, rfl⟩ | ⟨hslot, -, -, -, rfl⟩
  · have hp := h.slot c p hslot
    refine ⟨h.lines_eq, hinside, ?_, ?_, by simp⟩
    · exact hp ▸ h.last_genuine
    · exact hp ▸ h.last_notAfter
  all_goals
    simp only [location, hslot] at hgenuine
    refine ⟨h.lines_eq, hinside, hgenuine, ?_, by simp [hslot]⟩
    simp only [Position.NotAfter, cursor, true_and]
    omega

/-- A character given back counts as standing where the one read last stands. -/
theorem unread (h : s.Placed) (c : Char) : (s.unread c).Placed where
  lines_eq := h.lines_eq
  inside := ⟨h.inside.line_lt, h.inside.column_le⟩
  last_genuine := h.last_genuine
  last_notAfter := h.last_notAfter
  slot := by simp [Scanner.unread]

end Placed

end Scanner

namespace WatchedScanner

open Scanner (Operation Reply)

/-- The records of a watched scanner are true to where it stood. -/
structure Sound (w : WatchedScanner) : Prop where
  /-- The scanner remembers a place that it has passed. -/
  placed : w.scanner.Placed
  /-- That is the place of the character read last, or the first place if none was read. -/
  last_eq : w.scanner.last = (w.pulled.head?.map Prod.snd).getD .origin
  /-- The tokens stand between the places where the scanner stood. -/
  spans : ∀ t ∈ w.returned, t.token.span = ⟨t.before, t.after⟩ ∧ t.before.NotAfter t.after
  /-- No token starts behind the character read last, but for the end of the source. -/
  start_notAfter_last : ∀ t ∈ w.returned, t.token.kind ≠ .endOfInput →
    t.token.span.start.NotAfter w.scanner.last
  /-- No token starts before one that was returned earlier, but for the end of the source. -/
  ordered : w.returned.Pairwise fun later earlier =>
    earlier.token.kind ≠ .endOfInput → earlier.token.span.start.NotAfter later.token.span.start

/-- At the beginning of a source nothing is recorded. -/
theorem sound_ofSource (source : String) : (ofSource source).Sound where
  placed := Scanner.placed_ofSource source
  last_eq := rfl
  spans := by simp [ofSource]
  start_notAfter_last := by simp [ofSource]
  ordered := .nil

/-- The scanner goes on without returning a token, and without remembering an earlier place. -/
structure Continues (w v : WatchedScanner) : Prop where
  /-- The records stay true. -/
  sound : v.Sound
  /-- No token is returned. -/
  returned_eq : v.returned = w.returned
  /-- The place of the character read last comes no earlier. -/
  last_notAfter : w.scanner.last.NotAfter v.scanner.last

namespace Sound

variable {w v u : WatchedScanner} {c : Char}

/-- Without an operation the scanner goes on as it is. -/
theorem refl (h : w.Sound) : w.Continues w := ⟨h, rfl, .refl _⟩

end Sound

/-- To go on twice is to go on. -/
theorem Continues.trans {w v u : WatchedScanner} (h : w.Continues v) (h' : v.Continues u) :
    w.Continues u where
  sound := h'.sound
  returned_eq := h'.returned_eq.trans h.returned_eq
  last_notAfter := h.last_notAfter.trans h'.last_notAfter

namespace Sound

variable {w v : WatchedScanner} {c : Char}

/-- The scanner goes on with the same tokens returned if its place does. -/
theorem continues_of_placed (h : w.Sound) (hplaced : v.scanner.Placed)
    (hpulled : v.scanner.last = (v.pulled.head?.map Prod.snd).getD .origin)
    (hreturned : v.returned = w.returned) (hlast : w.scanner.last.NotAfter v.scanner.last) :
    w.Continues v where
  sound := ⟨hplaced, hpulled, hreturned ▸ h.spans,
    fun t ht hkind => (h.start_notAfter_last t (hreturned ▸ ht) hkind).trans hlast,
    hreturned ▸ h.ordered⟩
  returned_eq := hreturned
  last_notAfter := hlast

/-- Reading a character does not break off, and remembers where the scanner stood. -/
theorem exists_pull (h : w.Sound) : ∃ r, w.pull = .ok r ∧
    ∀ c v, r = some (c, v) → w.Continues v ∧ v.scanner.last = w.scanner.location := by
  have hline : ¬(w.scanner.looksUpLine ∧ w.scanner.lines[w.scanner.line]? = none) :=
    fun hlook => h.placed.inside.getElem?_line hlook.1 hlook.2
  refine ⟨_, if_neg hline, fun c v hv => ?_⟩
  obtain ⟨⟨d, s⟩, hpull, hs⟩ := Option.map_eq_some_iff.1 hv
  have hlast := Scanner.last_of_pull hpull
  cases hs
  refine ⟨h.continues_of_placed (h.placed.of_pull hpull) hlast rfl ?_, hlast⟩
  rw [hlast]
  exact h.placed.last_notAfter_location

/-- What is taken back changes nothing that was recorded. -/
theorem continues_of_pushBack (h : w.Sound) {given : Datum} (hpush : w.pushBack given = .ok v) :
    w.Continues v := by
  rw [pushBack] at hpush
  cases hscanner : w.scanner.pushBack given with
  | error m => simp [hscanner, Except.map] at hpush
  | ok s =>
    obtain ⟨text, c, -, -, -, rfl⟩ := Scanner.pushBack_eq_ok_iff.1 hscanner
    rw [hscanner] at hpush
    cases hpush
    exact h.continues_of_placed (h.placed.unread c) h.last_eq rfl (.refl _)

/-- A run does not break off: behind the character that ends it the slot is free. -/
theorem exists_takeRun (p : Char → Bool) (h : w.Sound) :
    ∃ run u, w.takeRun p = .ok (run, u) ∧ w.Continues u := by
  fun_induction takeRun p w with
  | case1 w b hpull =>
    obtain ⟨r, hr, -⟩ := h.exists_pull
    simp [hr] at hpull
  | case2 w hpull => exact ⟨[], w, rfl, h.refl⟩
  | case3 w c v hpull hc ih =>
    obtain ⟨r, hr, hv⟩ := h.exists_pull
    obtain ⟨hcontinues, -⟩ := hv c v (Except.ok.inj (hr.symm.trans hpull))
    obtain ⟨run, u, hrun, hu⟩ := ih hcontinues.sound
    refine ⟨c :: run, u, ?_, hcontinues.trans hu⟩
    rw [hrun]
    rfl
  | case4 w c v hpull hc =>
    obtain ⟨r, hr, hv⟩ := h.exists_pull
    obtain ⟨hcontinues, -⟩ := hv c v (Except.ok.inj (hr.symm.trans hpull))
    have hslot := (Scanner.upcoming_of_pull (scanner_of_pull hpull)).2
    have hpush : v.pushBack (.text (String.singleton c)) =
        .ok { v with scanner := v.scanner.unread c } := by
      rw [pushBack, Scanner.pushBack_eq_ok_iff.2 ⟨_, c, rfl, by simp, hslot, rfl⟩]
      rfl
    refine ⟨[], _, ?_, hcontinues.trans (hcontinues.sound.continues_of_pushBack hpush)⟩
    rw [hpush]
    rfl

end Sound

/-- The scanner goes on behind a token, which it has not returned yet. -/
structure Scans (w : WatchedScanner) (t : ScannedToken) (v : WatchedScanner) : Prop
    extends w.Continues v where
  /-- The token stands between the places where the scanner stood. -/
  span_eq : t.token.span = ⟨t.before, t.after⟩
  /-- The scanner did not go back. -/
  before_notAfter_after : t.before.NotAfter t.after
  /-- The token does not start in front of the character read before it. -/
  last_notAfter_before : w.scanner.last.NotAfter t.before
  /-- If the token has characters, it does not start behind the one read last. -/
  before_notAfter_last : t.token.kind ≠ .endOfInput → t.before.NotAfter v.scanner.last

/-- Before a token is scanned, others can be. -/
theorem Continues.scans {w v u : WatchedScanner} {t : ScannedToken} (h : w.Continues v)
    (h' : v.Scans t u) : w.Scans t u where
  toContinues := h.trans h'.toContinues
  span_eq := h'.span_eq
  before_notAfter_after := h'.before_notAfter_after
  last_notAfter_before := h.last_notAfter.trans h'.last_notAfter_before
  before_notAfter_last := h'.before_notAfter_last

/-- A token that was scanned can be returned. -/
theorem Scans.sound_record {w v : WatchedScanner} {t : ScannedToken} (h : w.Scans t v)
    (hw : w.Sound) : (v.record t).Sound where
  placed := h.sound.placed
  last_eq := h.sound.last_eq
  spans := by
    intro u hu
    rcases List.mem_cons.1 hu with rfl | hu
    · exact ⟨h.span_eq, h.before_notAfter_after⟩
    · exact h.sound.spans u hu
  start_notAfter_last := by
    intro u hu hkind
    rcases List.mem_cons.1 hu with rfl | hu
    · rw [h.span_eq]
      exact h.before_notAfter_last hkind
    · exact h.sound.start_notAfter_last u hu hkind
  ordered := by
    refine List.pairwise_cons.2 ⟨fun u hu hkind => ?_, h.sound.ordered⟩
    rw [h.span_eq]
    exact (hw.start_notAfter_last u (h.returned_eq ▸ hu) hkind).trans h.last_notAfter_before

/-- The tokens that were returned, the first one first. -/
def tokens (w : WatchedScanner) : List Token := w.returned.reverse.map ScannedToken.token

/-- A token that is recorded is the last one. -/
theorem Scans.tokens_record {w v : WatchedScanner} {t : ScannedToken} (h : w.Scans t v) :
    (v.record t).tokens = w.tokens ++ [t.token] := by
  simp [tokens, record, h.returned_eq]

namespace Sound

variable {w : WatchedScanner}

/-- A token does not break off. -/
theorem exists_nextToken (h : w.Sound) : ∃ t v, w.nextToken = .ok (t, v) ∧ w.Scans t v := by
  obtain ⟨r, hr, hv⟩ := h.exists_pull
  cases r with
  | none =>
    refine ⟨_, w, by rw [nextToken, hr]; rfl, h.refl, rfl, .refl _, ?_, ?_⟩
    · exact h.placed.last_notAfter_location
    · exact fun hkind => absurd rfl hkind
  | some r =>
    obtain ⟨c, v⟩ := r
    obtain ⟨hcontinues, hlast⟩ := hv c v rfl
    have hrest : ∃ rest u, v.takeRest (.ofFirst c) = .ok (rest, u) ∧ v.Continues u := by
      rw [takeRest]
      split
      · exact ⟨[], v, rfl, hcontinues.sound.refl⟩
      · next p _ => exact hcontinues.sound.exists_takeRun p
    obtain ⟨rest, u, hrest, hu⟩ := hrest
    have hstart : w.scanner.location.NotAfter u.scanner.last := hlast ▸ hu.last_notAfter
    have hnext : w.nextToken = .ok (⟨.ofChars (.ofFirst c) (c :: rest)
        ⟨w.scanner.location, u.scanner.location⟩, w.scanner.location, u.scanner.location⟩, u) := by
      simp only [nextToken, hr, hrest, bind, Except.bind, pure, Except.pure]
    refine ⟨_, u, hnext, hcontinues.trans hu, rfl, ?_, ?_, fun _ => hstart⟩
    · exact hstart.trans hu.sound.placed.last_notAfter_location
    · exact h.placed.last_notAfter_location

/-- A significant token does not break off. -/
theorem exists_nextSignificant (h : w.Sound) :
    ∃ t v, w.nextSignificant = .ok (t, v) ∧ w.Scans t v := by
  fun_induction nextSignificant w with
  | case1 w b hnext =>
    obtain ⟨t, v, ht, -⟩ := h.exists_nextToken
    simp [ht] at hnext
  | case2 w t v hnext hkind ih =>
    obtain ⟨x, y, hx, hscans⟩ := h.exists_nextToken
    cases hx.symm.trans hnext
    obtain ⟨u, z, hu, hrest⟩ := ih hscans.sound
    exact ⟨u, z, hu, hscans.toContinues.scans hrest⟩
  | case3 w t v hnext hkind =>
    obtain ⟨x, y, hx, hscans⟩ := h.exists_nextToken
    cases hx.symm.trans hnext
    exact ⟨t, v, rfl, hscans⟩

/-- All tokens that are left do not break off. -/
theorem exists_drain (h : w.Sound) :
    ∃ tokens v, w.drain = .ok (tokens, v) ∧ v.Sound ∧ v.tokens = w.tokens ++ tokens := by
  fun_induction drain w with
  | case1 w b hnext =>
    obtain ⟨t, v, ht, -⟩ := h.exists_nextToken
    simp [ht] at hnext
  | case2 w t v hnext hkind =>
    obtain ⟨x, y, hx, hscans⟩ := h.exists_nextToken
    cases hx.symm.trans hnext
    exact ⟨[t.token], v.record t, rfl, hscans.sound_record h, hscans.tokens_record⟩
  | case3 w t v hnext hkind ih =>
    obtain ⟨x, y, hx, hscans⟩ := h.exists_nextToken
    cases hx.symm.trans hnext
    obtain ⟨rest, u, hu, hsound, hrest⟩ := ih (hscans.sound_record h)
    refine ⟨t.token :: rest, u, ?_, hsound, ?_⟩
    · rw [hu]
      rfl
    · rw [hrest, hscans.tokens_record, List.append_assoc, List.singleton_append]

/-- No operation breaks off, and the tokens that it returns are recorded. -/
theorem exists_perform (h : w.Sound) (op : Operation) :
    ∃ reply v, w.perform op = .ok (reply, v) ∧ v.Sound ∧
      v.tokens = op.keeps w.tokens ++ reply.returned := by
  cases op with
  | restart source => exact ⟨.done, ofSource source, rfl, sound_ofSource source, rfl⟩
  | pushBack given =>
    cases hpush : w.pushBack given with
    | ok v =>
      have hcontinues := h.continues_of_pushBack hpush
      refine ⟨.done, v, by simp only [perform, hpush], hcontinues.sound, ?_⟩
      simp [tokens, hcontinues.returned_eq, Operation.keeps, Reply.returned]
    | error m =>
      refine ⟨.refused m, w, by simp only [perform, hpush], h, ?_⟩
      simp [Operation.keeps, Reply.returned]
  | nextToken =>
    obtain ⟨t, v, ht, hscans⟩ := h.exists_nextToken
    exact ⟨.token t.token, v.record t, by rw [perform, ht]; rfl, hscans.sound_record h,
      hscans.tokens_record⟩
  | nextSignificant =>
    obtain ⟨t, v, ht, hscans⟩ := h.exists_nextSignificant
    exact ⟨.token t.token, v.record t, by rw [perform, ht]; rfl, hscans.sound_record h,
      hscans.tokens_record⟩
  | drain =>
    obtain ⟨tokens, v, hdrain, hsound, htokens⟩ := h.exists_drain
    exact ⟨.tokens tokens, v, by rw [perform, hdrain]; rfl, hsound, htokens⟩

/-- No operations break off, whichever they are. -/
theorem exists_performAll (h : w.Sound) (ops : List Operation) :
    ∃ v, w.performAll ops = .ok (w.scanner.replies ops, v) ∧ v.scanner = w.scanner.after ops ∧
      v.Sound ∧ v.tokens = w.scanner.returned w.tokens ops := by
  induction ops generalizing w with
  | nil => exact ⟨w, rfl, rfl, h, rfl⟩
  | cons op ops ih =>
    obtain ⟨reply, v, hop, hv, htokens⟩ := h.exists_perform op
    obtain ⟨u, hops, -, hu, hrest⟩ := ih hv
    have hall : w.performAll (op :: ops) = .ok (reply :: v.scanner.replies ops, u) := by
      simp only [performAll, hop, hops, bind, Except.bind, pure, Except.pure]
    obtain ⟨hreplies, hafter⟩ := scanner_of_performAll hall
    refine ⟨u, by rw [hall, hreplies], hafter.symm, hu, ?_⟩
    rw [hrest, htokens, Scanner.returned, scanner_of_perform hop]

end Sound

end WatchedScanner

/-- **Places stay in order.** Whatever operations are performed on a scanner, none of them looks
up a line that is not there. The scanner always stands at a place of its source. With a character
in the slot that is the place of the character read last, or the first place if none was read, and
never behind the cursor. Every token that was returned stands between the places where the scanner
stood just before it was scanned and just after, and the first place is not behind the second; no
token of a source starts before one that was returned earlier, but for the end of the source. -/
theorem locations_valid_and_ordered (source : String) (ops : List Scanner.Operation) :
    ∃ w : WatchedScanner,
      (WatchedScanner.ofSource source).performAll ops =
          .ok ((Scanner.ofSource source).replies ops, w) ∧
        w.scanner = (Scanner.ofSource source).after ops ∧
        w.returned.reverse.map ScannedToken.token = (Scanner.ofSource source).returned [] ops ∧
        Genuine (Text.linesOf w.scanner.source.toList) w.scanner.location ∧
        (w.scanner.slot.isSome →
          w.scanner.location = (w.pulled.head?.map Prod.snd).getD .origin ∧
            w.scanner.location.NotAfter w.scanner.cursor) ∧
        (∀ t ∈ w.returned,
          t.token.span = ⟨t.before, t.after⟩ ∧ t.before.NotAfter t.after) ∧
        w.returned.Pairwise fun later earlier =>
          earlier.token.kind ≠ .endOfInput →
            earlier.token.span.start.NotAfter later.token.span.start := by
  obtain ⟨w, hperform, hafter, hsound, htokens⟩ :=
    (WatchedScanner.sound_ofSource source).exists_performAll ops
  have hgenuine := hsound.placed.genuine_location
  rw [hsound.placed.lines_eq] at hgenuine
  refine ⟨w, hperform, hafter, htokens, hgenuine, fun hslot => ?_, hsound.spans, hsound.ordered⟩
  obtain ⟨⟨c, p⟩, hheld⟩ := Option.isSome_iff_exists.1 hslot
  have hlocation : w.scanner.location = w.scanner.last := by
    simpa only [Scanner.location, hheld] using hsound.placed.slot c p hheld
  rw [hlocation]
  exact ⟨hsound.last_eq, hsound.placed.last_notAfter⟩

/-- The end of a source can be returned before a token that starts further to the front. -/
example : ((Scanner.ofSource "a").returned [] [.nextToken, .nextToken, .pushBack (.text "b"),
    .nextToken]).map (fun t => t.span.start) = [⟨1, 1⟩, ⟨1, 2⟩, ⟨1, 1⟩] := by cbv

end FrontEnd
