import FrontEnd.Scanner

/-!
# Operations on a scanner

A client may begin another source, give something back, and ask for tokens, in any order. Every
operation is answered, a refusal to take something back included, and leads to a scanner on which
the next operation is performed.
-/

namespace FrontEnd.Scanner

/-- What a client can do with a scanner. -/
inductive Operation where
  /-- Begin a source; whatever was before is forgotten. -/
  | restart (source : String)
  /-- Give something back. -/
  | pushBack (given : Datum)
  /-- Ask for the next token. -/
  | nextToken
  /-- Ask for the next token that is not whitespace. -/
  | nextSignificant
  /-- Ask for all tokens up to and with the end of the source. -/
  | drain

/-- What a client is answered. -/
inductive Reply where
  /-- It is done. -/
  | done
  /-- It is refused, and the scanner stays as it was. -/
  | refused (r : Refusal)
  /-- The token asked for. -/
  | token (t : Token)
  /-- The tokens asked for. -/
  | tokens (ts : List Token)

/-- The tokens that a reply returns. -/
def Reply.returned : Reply → List Token
  | .token t => [t]
  | .tokens ts => ts
  | .done | .refused _ => []

/-- The answer to an operation and the scanner after it. -/
def perform (s : Scanner) : Operation → Reply × Scanner
  | .restart source => (.done, ofSource source)
  | .pushBack given =>
    match s.pushBack given with
    | .ok t => (.done, t)
    | .error r => (.refused r, s)
  | .nextToken => (.token s.nextToken.1, s.nextToken.2)
  | .nextSignificant => (.token s.nextSignificant.1, s.nextSignificant.2)
  | .drain => (.tokens s.drain.1, s.drain.2)

/-- The answers to operations performed one after the other. -/
def replies (s : Scanner) : List Operation → List Reply
  | [] => []
  | op :: ops => (s.perform op).1 :: (s.perform op).2.replies ops

/-- The scanner after operations performed one after the other. -/
def after (s : Scanner) : List Operation → Scanner
  | [] => s
  | op :: ops => (s.perform op).2.after ops

/-- The tokens of a source are forgotten when another one is begun. -/
def Operation.keeps (tokens : List Token) : Operation → List Token
  | .restart _ => []
  | _ => tokens

/-- The tokens that operations return of the source that was begun last, behind those that were
returned of it before. -/
def returned (s : Scanner) (before : List Token) : List Operation → List Token
  | [] => before
  | op :: ops => (s.perform op).2.returned (op.keeps before ++ (s.perform op).1.returned) ops

/-- Something is taken back exactly when it is one character and the slot is free. -/
theorem pushBack_eq_ok_iff {s t : Scanner} {given : Datum} :
    s.pushBack given = .ok t ↔
      ∃ text c, given = .text text ∧ text.toList = [c] ∧ s.slot = none ∧ t = s.unread c := by
  constructor
  · intro h
    cases given with
    | text text =>
      cases hchars : text.toList with
      | nil => simp [pushBack, hchars] at h
      | cons c cs =>
        cases cs with
        | cons d ds => simp [pushBack, hchars] at h
        | nil =>
          cases hslot : s.slot with
          | some held => simp [pushBack, hchars, hslot] at h
          | none =>
            simp only [pushBack, hchars, hslot, Option.isSome_none, Bool.false_eq_true, if_false,
              Except.ok.injEq] at h
            exact ⟨text, c, rfl, hchars, rfl, h.symm⟩
    | _ => simp [pushBack] at h
  · rintro ⟨text, c, rfl, hchars, hslot, rfl⟩
    simp [pushBack, hchars, hslot]

end FrontEnd.Scanner
