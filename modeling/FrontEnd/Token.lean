import FrontEnd.Position
import FrontEnd.Token.Kind

/-!
# Tokens

A token is a classified piece of a source. It keeps every character it was made of, so a source
can be put together again from its tokens.
-/

namespace FrontEnd

/-- A classified piece of a source. -/
structure Token where
  /-- What the piece is. -/
  kind : TokenKind
  /-- The characters of an identifier or a number; empty for every other kind. -/
  text : String
  /-- Every character of the piece. -/
  raw : String
  /-- Where the piece stands. -/
  span : Span
  deriving DecidableEq, Repr

namespace Token

/-- Whether other tokens follow: only the end of the source is the last. -/
def hasMore (t : Token) : Bool := t.kind != .endOfInput

/-- The token of a kind that is made of the given characters. -/
def ofChars (kind : TokenKind) (cs : List Char) (span : Span) : Token :=
  let raw := String.ofList cs
  ⟨kind, if kind.carriesText then raw else "", raw, span⟩

/-- The token that ends a source. -/
def atEnd (p : Position) : Token := ⟨.endOfInput, "", "", ⟨p, p⟩⟩

end Token

end FrontEnd
