import FrontEnd.Unicode.Blank
import FrontEnd.Unicode.Letter

/-!
# Character classes of the language

An identifier begins with a letter of any script and goes on with letters, ASCII digits and
underscores; a number is made of ASCII digits. The same tests are given for whole texts, where a
digit is any text that stands between "0" and "9" in dictionary order.
-/

namespace FrontEnd

/-- Whether a character is an ASCII digit. -/
def isDigit (c : Char) : Bool := '0' ≤ c && c ≤ '9'

/-- Whether a character may begin an identifier. -/
def beginsIdentifier (c : Char) : Bool := Unicode.isLetter c

/-- Whether a character may go on with an identifier. -/
def continuesIdentifier (c : Char) : Bool := Unicode.isLetter c || isDigit c || c == '_'

/-- Whether a text stands between "0" and "9" in dictionary order. -/
def isDigitText (s : String) : Bool := decide ("0" ≤ s) && decide (s ≤ "9")

/-- Whether a text is made of letters only, of which there is at least one. -/
def beginsIdentifierText (s : String) : Bool := !s.isEmpty && s.toList.all Unicode.isLetter

/-- Whether a text is made of letters, stands between "0" and "9", or is the underscore. -/
def continuesIdentifierText (s : String) : Bool :=
  beginsIdentifierText s || isDigitText s || s == "_"

end FrontEnd
