import FrontEnd.Scanner.State
import FrontEnd.Token

/-!
# Scanning

The next token is decided by the next character: its kind says whether a run goes on after it.
Only a run looks ahead, so after a single-character token the slot is free. Every token but the
end of the source takes at least one character, which is why the loops end.
-/

namespace FrontEnd

namespace Scanner

/-- The next token, and the scanner after it; the end of the source once nothing is left. -/
def nextToken (s : Scanner) : Token × Scanner :=
  match s.pull with
  | none => (Token.atEnd s.location, s)
  | some (c, t) =>
    let kind := TokenKind.ofFirst c
    match kind.runClass? with
    | none => (Token.ofChars kind [c] ⟨s.location, t.location⟩, t)
    | some p =>
      let (run, u) := t.takeRun p
      (Token.ofChars kind (c :: run) ⟨s.location, u.location⟩, u)

/-- With nothing left, the next token is the end of the source. -/
theorem nextToken_of_upcoming_nil {s : Scanner} (h : s.upcoming = []) :
    s.nextToken = (Token.atEnd s.location, s) := by
  simp [nextToken, pull_eq_none_iff.2 h]

/-- With characters left, the next token takes at least one of them and is not the end. -/
theorem nextToken_of_upcoming_ne_nil {s : Scanner} (h : s.upcoming ≠ []) :
    s.nextToken.2.upcoming.length < s.upcoming.length ∧
      s.nextToken.1.kind ≠ .endOfInput := by
  cases hp : s.pull with
  | none => exact absurd (pull_eq_none_iff.1 hp) h
  | some r =>
    obtain ⟨c, t⟩ := r
    have hs := (upcoming_of_pull hp).1
    have hkind := TokenKind.ofFirst_ne_endOfInput c
    simp only [nextToken, hp]
    cases hc : (TokenKind.ofFirst c).runClass? with
    | none => exact ⟨by simp [hs], hkind⟩
    | some p =>
      refine ⟨?_, hkind⟩
      have hle := (List.dropWhile_suffix p (l := t.upcoming)).length_le
      simp only [(takeRun_eq p t).2, hs, List.length_cons]
      omega

/-- A token that is not the end of the source makes the upcoming text shorter. -/
theorem upcoming_nextToken_lt {s : Scanner} (h : s.nextToken.1.kind ≠ .endOfInput) :
    s.nextToken.2.upcoming.length < s.upcoming.length := by
  by_cases hs : s.upcoming = []
  · rw [nextToken_of_upcoming_nil hs] at h
    exact absurd rfl h
  · exact (nextToken_of_upcoming_ne_nil hs).1

/-- The next token that is not whitespace, and the scanner after it. -/
def nextSignificant (s : Scanner) : Token × Scanner :=
  if s.nextToken.1.kind = .whitespace then s.nextToken.2.nextSignificant else s.nextToken
termination_by s.upcoming.length
decreasing_by exact upcoming_nextToken_lt (by simp [*])

/-- A significant token that is not the end of the source makes the upcoming text shorter. -/
theorem upcoming_nextSignificant_lt {s : Scanner}
    (h : s.nextSignificant.1.kind ≠ .endOfInput) :
    s.nextSignificant.2.upcoming.length < s.upcoming.length := by
  fun_induction nextSignificant s with
  | case1 s hw ih =>
    have hlt := upcoming_nextToken_lt (s := s) (by simp [hw])
    have := ih h
    omega
  | case2 s hw => exact upcoming_nextToken_lt h

/-- The next token, or with `significant` the next one that is not whitespace. -/
def next (significant : Bool) (s : Scanner) : Token × Scanner :=
  if significant then s.nextSignificant else s.nextToken

/-- A token that is not the end of the source makes the upcoming text shorter. -/
theorem upcoming_next_lt {significant : Bool} {s : Scanner}
    (h : (s.next significant).1.kind ≠ .endOfInput) :
    (s.next significant).2.upcoming.length < s.upcoming.length := by
  cases significant with
  | false => exact upcoming_nextToken_lt h
  | true => exact upcoming_nextSignificant_lt h

/-- All tokens that are left, up to and with the end of the source, and the scanner there. -/
def drain (s : Scanner) : List Token × Scanner :=
  if s.nextToken.1.kind = .endOfInput then ([s.nextToken.1], s.nextToken.2)
  else
    let (tokens, t) := s.nextToken.2.drain
    (s.nextToken.1 :: tokens, t)
termination_by s.upcoming.length
decreasing_by exact upcoming_nextToken_lt (by assumption)

end Scanner

end FrontEnd
