import FrontEnd.LexError
import FrontEnd.Scanner

/-!
# Tokens of a whole source

A source is scanned to its end, with whitespace or without. Strict scanning stops at the first
character that begins no token and reports it.
-/

namespace FrontEnd

/-- The message about a character that begins no token. -/
def unknownCharacter (raw : String) : String := "unknown character " ++ Text.quoted raw

/-- The tokens that a scanner has left, or with `strict` the first character it cannot classify. -/
def Scanner.collect (significant strict : Bool) (source : String) (s : Scanner) :
    Except LexError (List Token) :=
  let token := (s.next significant).1
  if strict && token.kind == .unknown then
    .error ⟨unknownCharacter token.raw, token.span, source⟩
  else if token.kind = .endOfInput then .ok [token]
  else (token :: ·) <$> (s.next significant).2.collect significant strict source
termination_by s.upcoming.length
decreasing_by exact Scanner.upcoming_next_lt (by assumption)

/-- The tokens of a source, the last of which is its end. -/
def tokenize (source : String) (significant strict : Bool) : Except LexError (List Token) :=
  (Scanner.ofSource source).collect significant strict source

/-- The tokens of a source; nothing is refused. -/
def scan (source : String) (significant : Bool) : List Token :=
  match tokenize source significant false with
  | .ok tokens => tokens
  | .error _ => []

/-- Scanning that is not strict refuses nothing. -/
theorem Scanner.exists_collect_eq_ok (significant : Bool) (source : String) (s : Scanner) :
    ∃ tokens, s.collect significant false source = .ok tokens := by
  rw [collect]
  by_cases hend : (s.next significant).1.kind = .endOfInput
  · exact ⟨[(s.next significant).1], by simp [hend]⟩
  · obtain ⟨tokens, htokens⟩ :=
      exists_collect_eq_ok significant source (s.next significant).2
    exact ⟨(s.next significant).1 :: tokens, by simp [hend, htokens, Functor.map, Except.map]⟩
termination_by s.upcoming.length
decreasing_by exact Scanner.upcoming_next_lt hend

/-- The tokens of a source are those that scanning finds when it is not strict. -/
theorem tokenize_eq_ok_scan (source : String) (significant : Bool) :
    tokenize source significant false = .ok (scan source significant) := by
  obtain ⟨tokens, htokens⟩ :=
    (Scanner.ofSource source).exists_collect_eq_ok significant source
  simp [scan, tokenize, htokens]

end FrontEnd
