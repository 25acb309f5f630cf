import FrontEnd.Proofs.Location

/-!
# Giving back

Whether a character can be given back is seen from the last operation that was not refused. The
slot is taken after a character was taken back, and after a run that ended at a character and not
at the end of the source; it is free after every other operation. A refusal leaves the scanner as
it was, so what is refused might as well not have been tried.
-/

namespace FrontEnd

/-- What was given is one character. -/
def Datum.IsOneCharacter (given : Datum) : Prop :=
  ∃ text c, given = .text text ∧ text.toList = [c]

namespace Scanner

/-- An operation of a run, and what a client can see of it. -/
structure Event where
  /-- The operation. -/
  op : Operation
  /-- The answer to it. -/
  reply : Reply
  /-- Where the scanner stands after it. -/
  location : Position
  /-- Whether nothing is left to be read after it. -/
  atEnd : Bool

/-- What can be seen of an operation. -/
def event (s : Scanner) (op : Operation) : Event :=
  let (reply, t) := s.perform op
  ⟨op, reply, t.location, t.isAtEnd⟩

/-- What can be seen of operations performed one after the other. -/
def events (s : Scanner) : List Operation → List Event
  | [] => []
  | op :: ops => s.event op :: (s.perform op).2.events ops

namespace Event

/-- Whether the operation was not refused. -/
def isAccepted (e : Event) : Bool :=
  match e.reply with
  | .refused _ => false
  | _ => true

/-- A character was taken back, or the last token that was returned is a run and does not end with
the source. -/
def FillsSlot (e : Event) : Prop :=
  (∃ given, e.op = .pushBack given ∧ e.reply = .done) ∨
    ∃ t, e.reply.returned.getLast? = some t ∧
      (t.kind = .identifier ∨ t.kind = .number ∨ t.kind = .whitespace) ∧ e.atEnd = false

end Event

/-- What can be seen of the last operation that was not refused. -/
def lastAccepted? (s : Scanner) (ops : List Operation) : Option Event :=
  ((s.events ops).filter Event.isAccepted).getLast?

/-- Something is refused if it is not one character, and one character if the slot is taken. -/
theorem pushBack_eq_error_iff {s : Scanner} {given : Datum} {r : Refusal} :
    s.pushBack given = .error r ↔
      ¬ given.IsOneCharacter ∧ r = s.complaint given ∨
        given.IsOneCharacter ∧ s.slot.isSome ∧ r = .misuse ⟨.slotOccupied, s.location⟩ := by
  by_cases hone : given.IsOneCharacter
  · obtain ⟨text, c, rfl, hchars⟩ := id hone
    simp only [pushBack, hchars, hone, not_true_eq_false, false_and, true_and, false_or]
    cases s.slot.isSome with
    | false => simp
    | true => simp [@eq_comm _ r]
  · have hrefused : s.pushBack given = .error (s.complaint given) := by
      cases given with
      | text text =>
        simp only [pushBack]
        split
        · next c hchars => exact absurd ⟨text, c, rfl, hchars⟩ hone
        · rfl
      | _ => rfl
    simp [hrefused, hone, @eq_comm _ r]

/-- A complaint shows what was given, or says why that cannot be shown. -/
theorem eq_complaint_iff {s : Scanner} {given : Datum} {r : Refusal} :
    r = s.complaint given ↔
      (∃ shown, given.display = .ok shown ∧ r = .misuse ⟨.notOneCharacter shown, s.location⟩) ∨
        ∃ f, given.display = .error f ∧ r = .unshown f := by
  cases hdisplay : given.display with
  | ok shown => simp [complaint, hdisplay]
  | error f => simp [complaint, hdisplay]

/-- Nothing is in the slot when no character is left. -/
theorem slot_of_upcoming_nil {s : Scanner} (h : s.upcoming = []) : s.slot = none := by
  cases hslot : s.slot with
  | none => rfl
  | some held => simp [upcoming, hslot] at h

/-- A run gives a character back unless it ends with the source. -/
theorem slot_takeRun (p : Char → Bool) (s : Scanner) :
    (s.takeRun p).2.slot.isSome = !(s.takeRun p).2.isAtEnd := by
  fun_induction takeRun p s with
  | case1 s hpull =>
    have hend := pull_eq_none_iff.1 hpull
    rw [isAtEnd_iff.2 hend, slot_of_upcoming_nil hend]
    rfl
  | case2 s c t hpull hc run u hrun ih =>
    rwa [hrun] at ih
  | case3 s c t hpull hc => rfl

/-- The slot is taken after a run that does not end with the source, and free after every other
token. -/
theorem slot_nextToken (s : Scanner) :
    s.nextToken.2.slot.isSome ↔
      (s.nextToken.1.kind = .identifier ∨ s.nextToken.1.kind = .number ∨
        s.nextToken.1.kind = .whitespace) ∧ s.nextToken.2.isAtEnd = false := by
  cases hpull : s.pull with
  | none =>
    have hend := pull_eq_none_iff.1 hpull
    simp [nextToken_of_upcoming_nil hend, slot_of_upcoming_nil hend, Token.atEnd]
  | some r =>
    obtain ⟨c, t⟩ := r
    have hslot := (upcoming_of_pull hpull).2
    simp only [nextToken, hpull]
    cases hclass : (TokenKind.ofFirst c).runClass? with
    | none =>
      simp only [hslot, Token.ofChars]
      cases hkind : TokenKind.ofFirst c <;> simp_all [TokenKind.runClass?]
    | some p =>
      simp only [slot_takeRun p t, Token.ofChars]
      cases hkind : TokenKind.ofFirst c <;> simp_all [TokenKind.runClass?]

/-- The last token that is returned, if any, is the last one that was scanned. -/
theorem exists_nextToken_of_drain (s : Scanner) :
    ∃ u : Scanner, s.drain.1.getLast? = some u.nextToken.1 ∧ s.drain.2 = u.nextToken.2 := by
  fun_induction drain s with
  | case1 s hkind => exact ⟨s, rfl, rfl⟩
  | case2 s hkind tokens t hdrain ih =>
    obtain ⟨u, hlast, hu⟩ := ih
    rw [hdrain] at hlast hu
    exact ⟨u, by simp [List.getLast?_cons, hlast], hu⟩

/-- A significant token is the last one that was scanned. -/
theorem exists_nextToken_of_nextSignificant (s : Scanner) :
    ∃ u : Scanner, s.nextSignificant = u.nextToken := by
  fun_induction nextSignificant s with
  | case1 s hkind ih => exact ih
  | case2 s hkind => exact ⟨s, rfl⟩

/-- Where tokens are returned, the slot is taken if the last of them is a run that does not end
with the source. -/
theorem fillsSlot_of_returned {s u : Scanner} {op : Operation}
    (hop : ∀ given, op ≠ .pushBack given)
    (hlast : (s.perform op).1.returned.getLast? = some u.nextToken.1)
    (hafter : (s.perform op).2 = u.nextToken.2) :
    (s.event op).FillsSlot ↔ (s.perform op).2.slot.isSome := by
  rw [hafter, slot_nextToken, Event.FillsSlot]
  simp only [event, hlast, hafter, Option.some.injEq]
  constructor
  · rintro (⟨given, hgiven, -⟩ | ⟨t, rfl, ht⟩)
    · exact absurd hgiven (hop given)
    · exact ht
  · exact fun h => .inr ⟨_, rfl, h⟩

/-- After an operation that was not refused the slot is taken if what is seen of it says so. -/
theorem fillsSlot_event {s : Scanner} {op : Operation} (h : (s.event op).isAccepted = true) :
    (s.event op).FillsSlot ↔ (s.perform op).2.slot.isSome := by
  cases op with
  | restart source => simp [event, perform, Event.FillsSlot, Reply.returned, ofSource]
  | pushBack given =>
    cases hpush : s.pushBack given with
    | error m => simp [event, perform, hpush, Event.isAccepted] at h
    | ok t =>
      obtain ⟨text, c, -, -, -, rfl⟩ := pushBack_eq_ok_iff.1 hpush
      simp [event, perform, hpush, Event.FillsSlot, unread]
  | nextToken => exact fillsSlot_of_returned (u := s) (by simp) rfl rfl
  | nextSignificant =>
    obtain ⟨u, hu⟩ := exists_nextToken_of_nextSignificant s
    exact fillsSlot_of_returned (u := u) (by simp) (by simp [perform, Reply.returned, hu])
      (by simp [perform, hu])
  | drain =>
    obtain ⟨u, hlast, hu⟩ := exists_nextToken_of_drain s
    exact fillsSlot_of_returned (u := u) (by simp) hlast hu

/-- A refusal leaves the scanner as it was. -/
theorem perform_of_refused {s : Scanner} {op : Operation} (h : (s.event op).isAccepted = false) :
    (s.perform op).2 = s := by
  cases op with
  | pushBack given =>
    cases hpush : s.pushBack given with
    | error m => simp [perform, hpush]
    | ok t => simp [event, perform, hpush, Event.isAccepted] at h
  | _ => simp [event, perform, Event.isAccepted] at h

/-- The slot is taken if the last operation that was not refused says so, and without such an
operation if it was taken before. -/
theorem slot_after (s : Scanner) (ops : List Operation) :
    (s.after ops).slot.isSome ↔
      match s.lastAccepted? ops with
      | some e => e.FillsSlot
      | none => s.slot.isSome := by
  induction ops generalizing s with
  | nil => rfl
  | cons op ops ih =>
    rw [after, ih]
    cases haccepted : (s.event op).isAccepted with
    | false => simp [lastAccepted?, events, haccepted, perform_of_refused haccepted]
    | true =>
      have hlast : s.lastAccepted? (op :: ops) =
          some (((s.perform op).2.lastAccepted? ops).getD (s.event op)) := by
        simp [lastAccepted?, events, haccepted, List.getLast?_cons]
      rw [hlast]
      cases (s.perform op).2.lastAccepted? ops with
      | some e => rfl
      | none => exact (fillsSlot_event haccepted).symm

/-- Operations that were refused can be left out, and nothing else is seen of the others. -/
theorem events_of_sublist {s : Scanner} {ops : List Operation} {es : List Event}
    (hes : es.Sublist (s.events ops))
    (haccepted : es.filter Event.isAccepted = (s.events ops).filter Event.isAccepted) :
    s.events (es.map Event.op) = es := by
  induction ops generalizing s es with
  | nil =>
    obtain rfl := List.sublist_nil.1 hes
    rfl
  | cons op ops ih =>
    rw [events] at hes haccepted
    cases hes with
    | cons _ hes =>
      -- an operation that is left out was refused: the others have no event to stand for it
      have hrefused : (s.event op).isAccepted = false := by
        by_contra h
        rw [List.filter_cons_of_pos (by simpa using h)] at haccepted
        have hle := (hes.filter Event.isAccepted).length_le
        rw [haccepted, List.length_cons] at hle
        omega
      rw [List.filter_cons_of_neg (by simp [hrefused])] at haccepted
      have hrest := ih hes haccepted
      rwa [perform_of_refused hrefused] at hrest
    | @cons_cons rest _ _ hes =>
      have htail : rest.filter Event.isAccepted =
          ((s.perform op).2.events ops).filter Event.isAccepted := by
        simp only [List.filter_cons] at haccepted
        split at haccepted
        · exact (List.cons.inj haccepted).2
        · exact haccepted
      exact congrArg (s.event op :: ·) (ih hes htail)

end Scanner

open Scanner

/-- **Misuse is detected exactly.** Whatever operations are performed on a scanner, the tokens are
returned without anything being refused within. Something is refused if it is not one character,
and one character if the slot is taken, as is seen of the last operation that was not refused. The
misuse is reported with the place where the scanner stands, and only if what is not one character
cannot be shown the report fails. Operations that were refused can be left out, some or all of
them, and what is seen of the others stays the same. -/
theorem misuse_exact_and_harmless (source : String) (ops : List Operation) :
    (∃ w, (WatchedScanner.ofSource source).performAll ops =
        .ok ((ofSource source).replies ops, w)) ∧
      (∀ given r, ((ofSource source).after ops).pushBack given = .error r ↔
        ¬ given.IsOneCharacter ∧
            (∃ shown, given.display = .ok shown ∧ r = .misuse
              ⟨.notOneCharacter shown, ((ofSource source).after ops).location⟩) ∨
          ¬ given.IsOneCharacter ∧ (∃ f, given.display = .error f ∧ r = .unshown f) ∨
          given.IsOneCharacter ∧
            (∃ e, (ofSource source).lastAccepted? ops = some e ∧ e.FillsSlot) ∧
            r = .misuse ⟨.slotOccupied, ((ofSource source).after ops).location⟩) ∧
      ∀ es, es.Sublist ((ofSource source).events ops) →
        es.filter Event.isAccepted = ((ofSource source).events ops).filter Event.isAccepted →
        (ofSource source).events (es.map Event.op) = es := by
  refine ⟨?_, fun given r => ?_, fun es => events_of_sublist⟩
  · obtain ⟨w, hperform, -⟩ := (WatchedScanner.sound_ofSource source).exists_performAll ops
    exact ⟨w, hperform⟩
  · have hslot : ((ofSource source).after ops).slot.isSome ↔
        ∃ e, (ofSource source).lastAccepted? ops = some e ∧ e.FillsSlot := by
      rw [slot_after]
      cases (ofSource source).lastAccepted? ops with
      | some e => simp
      | none => simp [ofSource]
    rw [pushBack_eq_error_iff, hslot, eq_complaint_iff, and_or_left, or_assoc]

end FrontEnd
