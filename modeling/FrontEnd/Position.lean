/-!
# Positions and spans

A position is a line and a column, both counted from one; columns count characters. Positions
that a caller makes up may hold any integers.
-/

namespace FrontEnd

/-- A place in a source. -/
structure Position where
  /-- The line, counted from one. -/
  line : Int
  /-- The column in the line, counted from one. -/
  column : Int
  deriving DecidableEq, Repr

/-- The place of the first character of a source. -/
def Position.origin : Position := ⟨1, 1⟩

/-- The place after a character: a line feed leads to the next line. -/
def Position.after (p : Position) (c : Char) : Position :=
  if c = '\n' then ⟨p.line + 1, 1⟩ else ⟨p.line, p.column + 1⟩

/-- The line and the column with a colon between them. -/
def Position.display (p : Position) : String := s!"{p.line}:{p.column}"

/-- A stretch of a source from one place up to another. -/
structure Span where
  /-- The place of the first character. -/
  start : Position
  /-- The place after the last character. -/
  stop : Position
  deriving DecidableEq, Repr

end FrontEnd
