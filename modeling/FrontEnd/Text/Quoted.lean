import FrontEnd.Unicode.Printable

/-!
# Quoted text

A text in quotes, on one line and in printable characters only. Single quotes are used unless
the text holds a single quote and no double quote. A backslash stands before the quote in use,
before a backslash, and begins the escape of every character that is not printable.
-/

namespace FrontEnd.Text

/-- The `width` lowest hexadecimal digits of a number, in lower case. -/
def hexDigits : Nat → Nat → List Char
  | 0, _ => []
  | width + 1, n => hexDigits width (n / 16) ++ [Nat.digitChar (n % 16)]

/-- The quotation mark that encloses a text. -/
def quoteMark (cs : List Char) : Char :=
  if cs.contains '\'' && !cs.contains '"' then '"' else '\''

/-- A character as it is written between the given quotation marks. -/
def escapeChar (quote c : Char) : List Char :=
  if c = quote ∨ c = '\\' then ['\\', c]
  else if c = '\n' then ['\\', 'n']
  else if c = '\r' then ['\\', 'r']
  else if c = '\t' then ['\\', 't']
  else if Unicode.isPrintable c then [c]
  else if c.toNat < 0x100 then '\\' :: 'x' :: hexDigits 2 c.toNat
  else if c.toNat < 0x10000 then '\\' :: 'u' :: hexDigits 4 c.toNat
  else '\\' :: 'U' :: hexDigits 8 c.toNat

/-- The characters of a text in quotes. -/
def quoteChars (cs : List Char) : List Char :=
  let quote := quoteMark cs
  quote :: cs.flatMap (escapeChar quote) ++ [quote]

/-- A text in quotes. -/
def quoted (s : String) : String := String.ofList (quoteChars s.toList)

/-- Each of the digits asked for is written. -/
theorem length_hexDigits (width n : Nat) : (hexDigits width n).length = width := by
  induction width generalizing n with
  | zero => rfl
  | succ width ih => simp [hexDigits, ih]

end FrontEnd.Text
