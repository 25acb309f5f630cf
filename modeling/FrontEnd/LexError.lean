import FrontEnd.Position
import FrontEnd.Text.Lines
import FrontEnd.Text.Numeral

/-!
# Lexical errors

An error is shown as five lines: the message, the place, and the line of the source under which
carets underline the span. The bar of the gutter stands in one column. A span that ends on
another line is underlined to the end of its first line, and there is always a caret. The
coordinates may be any integers: a line that does not exist is shown empty. An error is not shown
if its margin or its carets are beyond what can be counted, if its line has too long a numeral, or
if the text does not fit into memory.
-/

namespace FrontEnd

/-- An error in a source. -/
structure LexError where
  /-- What is wrong. -/
  message : String
  /-- Where it is. -/
  span : Span
  /-- The source it is in. -/
  source : String
  deriving DecidableEq, Repr

namespace LexError

/-- The name a source is given when its file is not known. -/
def defaultFile : String := "input.sdsl"

/-- A number of copies of a character; none if the number is negative. -/
def copies (n : Int) (c : Char) : String := String.ofList (List.replicate n.toNat c)

/-- The line of the source that the span starts on; empty if there is none. -/
def sourceLine (e : LexError) : String :=
  let index := e.span.start.line - 1
  if index < 0 then "" else (Text.splitLines e.source)[index.toNat]?.getD ""

/-- The number of carets. -/
def caretCount (e : LexError) : Int :=
  let column := e.span.start.column
  if e.span.stop.line = e.span.start.line then max 1 (e.span.stop.column - column)
  else max 1 (e.sourceLine.length - column + 1)

/-- The five lines that show the error. -/
def lines (e : LexError) (file : String) : List String :=
  let number := toString e.span.start.line
  let margin := copies (number.length + 1) ' '
  ["error: " ++ e.message,
    margin ++ "--> " ++ file ++ ":" ++ e.span.start.display,
    margin ++ "|",
    number ++ " | " ++ e.sourceLine,
    margin ++ "| " ++ copies (e.span.start.column - 1) ' ' ++ copies e.caretCount '^']

/-- The text that shows the error, in a file of the given name. -/
def render (e : LexError) (file : String) : String := "\n".intercalate (e.lines file)

/-- The ways in which an error cannot be shown. -/
inductive Unshowable where
  /-- A number of characters does not fit into a signed word of 64 bits. -/
  | overflow
  /-- There are more characters than fit into memory. -/
  | outOfMemory
  /-- The number of the line has too many digits. -/
  | longNumeral (f : Text.LongNumeral)
  deriving DecidableEq, Repr

/-- The wording of a refusal. -/
def Unshowable.message : Unshowable → String
  | overflow => "cannot fit 'int' into an index-sized integer"
  | outOfMemory => ""
  | longNumeral f => f.message

/-- Refuse a number of characters that cannot be counted or do not fit into memory; a negative one
makes an empty text. -/
def checkCount (memory : Nat) (n : Int) : Except Unshowable Unit :=
  if n < -0x8000000000000000 ∨ 0x8000000000000000 ≤ n then .error .overflow
  else if (memory : Int) < n then .error .outOfMemory
  else .ok ()

/-- The text that shows the error, if it can be made in a memory of that many characters. The
column needs no check of its own: the numeral of one that can be counted is short. -/
def tryRender (memory : Nat) (e : LexError) (file : String) : Except Unshowable String := do
  checkCount memory (e.span.start.column - 1)
  checkCount memory e.caretCount
  let _ ← (Text.numeral e.span.start.line).mapError .longNumeral
  let text := e.render file
  checkCount memory text.length
  return text

/-- Some caret is shown whatever the span. -/
theorem one_le_caretCount (e : LexError) : 1 ≤ e.caretCount := by
  unfold caretCount
  dsimp only
  split <;> omega

end LexError

end FrontEnd
