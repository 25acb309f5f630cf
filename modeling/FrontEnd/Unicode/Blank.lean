import FrontEnd.Unicode.CodeRange

/-!
# Whitespace

The whitespace characters: the separators of category Zs, the characters of the bidirectional
classes WS, B and S among the controls, and the line and paragraph separators.
-/

namespace FrontEnd.Unicode

/-- The ranges of the whitespace characters. -/
def blankRanges : List CodeRange :=
  [(0x0009, 0x000D), (0x001C, 0x0020), (0x0085, 0x0085), (0x00A0, 0x00A0), (0x1680, 0x1680),
    (0x2000, 0x200A), (0x2028, 0x2029), (0x202F, 0x202F), (0x205F, 0x205F), (0x3000, 0x3000)]

/-- Whether a character is whitespace. -/
def isBlank (c : Char) : Bool := inRanges blankRanges c.toNat

end FrontEnd.Unicode
