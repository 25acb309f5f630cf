import FrontEnd.Proofs.Misuse

/-!
# Giving a token back

A token that is a single character can be given back as long as the slot is free, and then nothing
has happened: the scanner stands where the token starts, and the next token is the same token and
leaves the same scanner. It makes no difference whether the character was read from a line, between
two lines, or out of the slot, because in each case the scanner remembers the place that it was
read at, and a character taken back counts as standing there.
-/

namespace FrontEnd

namespace Scanner

/-- A character in the slot is read again, and the scanner is as it was before it was taken
back. -/
theorem pull_unread {s : Scanner} (h : s.slot = none) (c : Char) :
    (s.unread c).pull = some (c, s) := by
  cases s
  cases h
  rfl

/-- A token is decided by the place where the scanner stands and by the character that is read
there. -/
theorem nextToken_eq_of_pull {s s' t : Scanner} {c : Char} (h : s.pull = some (c, t))
    (h' : s'.pull = some (c, t)) (hlocation : s'.location = s.location) :
    s'.nextToken = s.nextToken := by
  simp only [nextToken, h, h', hlocation]

/-- A run without characters that leaves the slot free has read nothing at all. -/
theorem takeRun_eq_self {p : Char → Bool} {s : Scanner} (hrun : (s.takeRun p).1 = [])
    (hslot : (s.takeRun p).2.slot = none) : (s.takeRun p).2 = s := by
  cases hpull : s.pull with
  | none => rw [takeRun_of_pull_eq_none p hpull]
  | some r =>
    obtain ⟨c, t⟩ := r
    rw [takeRun_of_pull_eq_some p hpull] at hrun hslot
    split at hrun
    · cases hrun
    · next hc =>
      -- the character behind an empty run is in the slot
      rw [if_neg hc] at hslot
      cases hslot

/-- A token of one character that leaves the slot free is the character that was read, and nothing
behind it was looked at. -/
theorem pull_of_oneCharacter {s : Scanner} (hraw : s.nextToken.1.raw.length = 1)
    (hslot : s.nextToken.2.slot = none) :
    ∃ c, s.nextToken.1.raw.toList = [c] ∧ s.pull = some (c, s.nextToken.2) := by
  cases hpull : s.pull with
  | none =>
    rw [nextToken_of_upcoming_nil (pull_eq_none_iff.1 hpull)] at hraw
    cases hraw
  | some r =>
    obtain ⟨c, t⟩ := r
    refine ⟨c, ?_⟩
    simp only [nextToken, hpull] at hraw hslot ⊢
    cases hclass : (TokenKind.ofFirst c).runClass? with
    | none => exact ⟨by simp [Token.ofChars], rfl⟩
    | some p =>
      simp only [hclass] at hraw hslot
      have hrun : (t.takeRun p).1 = [] := by
        simpa [Token.ofChars, ← String.length_toList] using hraw
      exact ⟨by simp [Token.ofChars, hrun], by simp only [takeRun_eq_self hrun hslot]⟩

/-- A token of one character is taken back if it is not a run. -/
theorem exists_pushBack_of_oneCharacter {s : Scanner} (hraw : s.nextToken.1.raw.length = 1)
    (hkind : s.nextToken.1.kind = .unknown ∨
      s.nextToken.1.kind ∈ TokenKind.punctuation.map Prod.snd) :
    ∃ v, s.nextToken.2.pushBack (.text s.nextToken.1.raw) = .ok v := by
  have hslot : s.nextToken.2.slot = none := by
    rw [← Option.not_isSome_iff_eq_none, slot_nextToken]
    rintro ⟨hrun, -⟩
    have hruns : ∀ kind ∈ TokenKind.punctuation.map Prod.snd,
        ¬ (kind = .identifier ∨ kind = .number ∨ kind = .whitespace) := by decide
    rcases hkind with hunknown | hmark
    · simp [hunknown] at hrun
    · exact hruns _ hmark hrun
  obtain ⟨c, hchars, -⟩ := pull_of_oneCharacter hraw hslot
  exact ⟨_, pushBack_eq_ok_iff.2 ⟨_, c, rfl, hchars, hslot, rfl⟩⟩

end Scanner

open Scanner

/-- **To give a token back is to undo it.** Whatever was done with a scanner before, a token of
one character that is unknown or a mark can be given back. Once a token of one character has been
taken back, the scanner stands where the token starts, something is left to be read, and the next
token is that very token; all that is done with the scanner afterwards is seen as it would have
been after the token was returned for the first time. -/
theorem oneCharacter_pushBack_undoes {s : Scanner} (hraw : s.nextToken.1.raw.length = 1) :
    ((s.nextToken.1.kind = .unknown ∨
        s.nextToken.1.kind ∈ TokenKind.punctuation.map Prod.snd) →
      ∃ v, s.nextToken.2.pushBack (.text s.nextToken.1.raw) = .ok v) ∧
      ∀ v, s.nextToken.2.pushBack (.text s.nextToken.1.raw) = .ok v →
        v.location = s.nextToken.1.span.start ∧ v.isAtEnd = false ∧
          v.nextToken.1 = s.nextToken.1 ∧
          ∀ more, v.nextToken.2.events more = s.nextToken.2.events more := by
  refine ⟨exists_pushBack_of_oneCharacter hraw, fun v hpush => ?_⟩
  obtain ⟨text, d, htext, hd, hslot, rfl⟩ := pushBack_eq_ok_iff.1 hpush
  obtain ⟨c, hc, hpull⟩ := pull_of_oneCharacter hraw hslot
  cases htext
  obtain rfl : d = c := List.singleton_inj.1 (hd.symm.trans hc)
  have hlocation : (s.nextToken.2.unread d).location = s.location := last_of_pull hpull
  have hagain : (s.nextToken.2.unread d).nextToken = s.nextToken :=
    nextToken_eq_of_pull hpull (pull_unread hslot d) hlocation
  rw [hagain, hlocation, span_nextToken]
  exact ⟨rfl, rfl, rfl, fun more => rfl⟩

/-- A letter that a client has put in front of the end of the source can be given back, and stays
where it counted as standing. -/
theorem oneCharacter_pushBack_undoes_clientLetter :
    ((ofSource "(").after [.nextToken, .pushBack (.text "q")]).nextToken.1 =
        ⟨.identifier, "q", "q", ⟨⟨1, 1⟩, ⟨1, 2⟩⟩⟩ ∧
      ∃ v, ((ofSource "(").after [.nextToken, .pushBack (.text "q"), .nextToken]).pushBack
          (.text "q") = .ok v ∧
        v.location = ⟨1, 1⟩ ∧ v.isAtEnd = false ∧
        v.nextToken.1 = ⟨.identifier, "q", "q", ⟨⟨1, 1⟩, ⟨1, 2⟩⟩⟩ := by
  have htoken : ((ofSource "(").after [.nextToken, .pushBack (.text "q")]).nextToken.1 =
      ⟨.identifier, "q", "q", ⟨⟨1, 1⟩, ⟨1, 2⟩⟩⟩ := by decide +kernel
  have hafter : (ofSource "(").after [.nextToken, .pushBack (.text "q"), .nextToken] =
      ⟨"(", [['(']], 0, 1, none, ⟨1, 1⟩⟩ := by decide +kernel
  have hpush : ((ofSource "(").after [.nextToken, .pushBack (.text "q"), .nextToken]).pushBack
      (.text "q") = .ok ⟨"(", [['(']], 0, 1, some ('q', ⟨1, 1⟩), ⟨1, 1⟩⟩ := by
    rw [hafter]
    rfl
  have hundone := (oneCharacter_pushBack_undoes
    (s := (ofSource "(").after [.nextToken, .pushBack (.text "q")]) (by rw [htoken]; rfl)).2
  rw [htoken] at hundone
  obtain ⟨hlocation, hend, hnext, -⟩ := hundone _ hpush
  exact ⟨htoken, _, hpush, hlocation, hend, hnext⟩

end FrontEnd
