import FrontEnd.CharacterClass

/-!
# Kinds of token

The kind of a token is decided by its first character. Identifiers, numbers and whitespace are
runs, which go on as long as characters of their class follow; every other token is a single
character.
-/

namespace FrontEnd

/-- The kinds of token. -/
inductive TokenKind where
  /-- A character that begins no other token. -/
  | unknown
  /-- A run of whitespace. -/
  | whitespace
  /-- A letter and the letters, digits and underscores after it. -/
  | identifier
  /-- A run of digits. -/
  | number
  /-- An opening parenthesis. -/
  | leftParen
  /-- A closing parenthesis. -/
  | rightParen
  /-- An opening brace. -/
  | leftCurly
  /-- A closing brace. -/
  | rightCurly
  /-- An opening bracket. -/
  | leftSquare
  /-- A closing bracket. -/
  | rightSquare
  /-- The less-than sign. -/
  | lessThan
  /-- The plus sign. -/
  | plus
  /-- The minus sign. -/
  | minus
  /-- The comma. -/
  | comma
  /-- The semicolon. -/
  | semicolon
  /-- The end of the source. -/
  | endOfInput
  deriving DecidableEq, Repr

namespace TokenKind

/-- The kinds in order. -/
def all : List TokenKind :=
  [unknown, whitespace, identifier, number, leftParen, rightParen, leftCurly, rightCurly,
    leftSquare, rightSquare, lessThan, plus, minus, comma, semicolon, endOfInput]

/-- The name of a kind in listings. -/
def name : TokenKind → String
  | unknown => "UNKNOWN"
  | whitespace => "WHITESPACE"
  | identifier => "IDENTIFIER"
  | number => "NUMBER"
  | leftParen => "LEFT_PAREN"
  | rightParen => "RIGHT_PAREN"
  | leftCurly => "LEFT_CURLY"
  | rightCurly => "RIGHT_CURLY"
  | leftSquare => "LEFT_SQUARE"
  | rightSquare => "RIGHT_SQUARE"
  | lessThan => "LESS_THAN"
  | plus => "PLUS"
  | minus => "MINUS"
  | comma => "COMMA"
  | semicolon => "SEMICOLON"
  | endOfInput => "EOF"

/-- The characters that are tokens by themselves. -/
def punctuation : List (Char × TokenKind) :=
  [('(', leftParen), (')', rightParen), ('{', leftCurly), ('}', rightCurly), ('[', leftSquare),
    (']', rightSquare), ('<', lessThan), ('+', plus), ('-', minus), (',', comma),
    (';', semicolon)]

/-- The kind of the token that a character begins. -/
def ofFirst (c : Char) : TokenKind :=
  match punctuation.lookup c with
  | some kind => kind
  | none =>
    if beginsIdentifier c then identifier
    else if isDigit c then number
    else if Unicode.isBlank c then whitespace
    else unknown

/-- The class of the characters that go on with a token of this kind, if it is a run. -/
def runClass? : TokenKind → Option (Char → Bool)
  | identifier => some continuesIdentifier
  | number => some isDigit
  | whitespace => some Unicode.isBlank
  | _ => none

/-- Whether tokens of this kind carry their characters as a text. -/
def carriesText : TokenKind → Bool
  | identifier | number => true
  | _ => false

/-- Every kind is in the list of kinds. -/
theorem mem_all (kind : TokenKind) : kind ∈ all := by
  cases kind <;> decide

/-- No character begins the token that ends the source. -/
theorem ofFirst_ne_endOfInput (c : Char) : ofFirst c ≠ endOfInput := by
  have hmarks : ∀ e ∈ punctuation, e.2 ≠ endOfInput := by decide
  unfold ofFirst
  split
  · next kind h =>
    obtain ⟨before, after, heq, -⟩ := List.lookup_eq_some_iff.1 h
    exact hmarks (c, kind) (by simp [heq])
  · repeat' split
    all_goals simp

end TokenKind

end FrontEnd
