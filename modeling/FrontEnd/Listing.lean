import FrontEnd.Tokenize

/-!
# Token listings

A listing has one line for each token: its place, the name of its kind, and the text of an
identifier or a number. Characters that carry no text are shown in quotes, so that no line holds
a line end.
-/

namespace FrontEnd

/-- The line for a token. -/
def Token.listingLine (t : Token) : String :=
  let head := t.span.start.display ++ " " ++ t.kind.name
  if t.text ≠ "" then head ++ " " ++ t.text
  else if t.kind = .unknown ∨ t.kind = .whitespace then head ++ " " ++ Text.quoted t.raw
  else head

/-- The lines for a list of tokens, each with its end. -/
def listing (tokens : List Token) : String :=
  String.join (tokens.map fun t => t.listingLine ++ "\n")

end FrontEnd
