import FrontEnd.Text.Numeral

/-!
# Faults of TOML documents

A text that is not formed as a document is refused as a whole. An integer in base ten may be well
formed and still too long, and arrays and inline tables may be nested too deep: such a document is
refused at that place, before anything that stands after it.
-/

namespace FrontEnd.Toml

/-- The ways in which a text is no document. -/
inductive Fault where
  /-- It is not formed as a document is. -/
  | malformed
  /-- An integer in base ten has too many digits. -/
  | longInteger (digits : Nat)
  /-- Values are nested deeper than the stack allows. -/
  | tooDeep
  deriving DecidableEq, Repr

/-- What has been read, if it is formed as it should be. -/
def require {α : Type} : Option α → Except Fault α
  | some a => .ok a
  | none => .error .malformed

end FrontEnd.Toml
