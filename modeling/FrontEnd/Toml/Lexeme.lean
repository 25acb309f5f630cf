import FrontEnd.CharacterClass

/-!
# The small parts of a TOML document

Blanks, comments, strings and keys. A reader takes what it reads from the front of the text and
returns it with the rest, or nothing if the text does not begin as it should. Control characters
other than the tab stand nowhere in a document, except for line feeds between statements, in
arrays and in strings of several lines.
-/

namespace FrontEnd.Toml

/-- Whether a character separates the parts of a line. -/
def isBlank (c : Char) : Bool := c == ' ' || c == '\t'

/-- Whether a character is a control character other than the tab. -/
def isForbidden (c : Char) : Bool := (c.toNat < 0x20 || c.toNat == 0x7F) && c != '\t'

/-- The text after its leading blanks. -/
def dropBlanks (cs : List Char) : List Char := cs.dropWhile isBlank

/-- The text after its leading blanks and line feeds. -/
def dropBlankLines (cs : List Char) : List Char := cs.dropWhile fun c => isBlank c || c == '\n'

/-- The text after a comment, if there is one; the line feed that ends it stays. -/
def dropComment? : List Char → Option (List Char)
  | '#' :: cs =>
    if (cs.takeWhile (· != '\n')).any isForbidden then none
    else some (cs.dropWhile (· != '\n'))
  | cs => some cs

/-- The text after blanks, line feeds and comments; the flag tells whether a comment has begun. -/
def dropFiller? : Bool → List Char → Option (List Char)
  | _, [] => some []
  | true, c :: cs =>
    if c = '\n' then dropFiller? false cs
    else if isForbidden c then none
    else dropFiller? true cs
  | false, c :: cs =>
    if c = '#' then dropFiller? true cs
    else if isBlank c || c == '\n' then dropFiller? false cs
    else some (c :: cs)

/-! ## Strings -/

/-- The value of a hexadecimal digit. -/
def hexValue? (c : Char) : Option Nat :=
  if isDigit c then some (c.toNat - '0'.toNat)
  else if 'a' ≤ c ∧ c ≤ 'f' then some (c.toNat - 'a'.toNat + 10)
  else if 'A' ≤ c ∧ c ≤ 'F' then some (c.toNat - 'A'.toNat + 10)
  else none

/-- The character whose code point the next `width` hexadecimal digits spell. -/
def codePoint? (width : Nat) (cs : List Char) : Option (Char × List Char) := do
  let digits ← (cs.take width).mapM hexValue?
  let n := digits.foldl (fun n d => 16 * n + d) 0
  if digits.length = width ∧ n.isValidChar then some (Char.ofNat n, cs.drop width) else none

/-- The character that a letter after a backslash stands for. -/
def escape? : Char → Option Char
  | 'b' => some '\x08'
  | 't' => some '\t'
  | 'n' => some '\n'
  | 'f' => some '\x0c'
  | 'r' => some '\r'
  | '"' => some '"'
  | '\\' => some '\\'
  | _ => none

/-- The text after a line that ends with a backslash and blanks, and the blank lines below it. -/
def continueLine? : List Char → Option (List Char)
  | '\n' :: cs => some (dropBlankLines cs)
  | cs =>
    match dropBlanks cs with
    | '\n' :: rest => some (dropBlankLines rest)
    | _ => none

/-- The rest of a string in double quotes, of one line or of several. The bound on the number of
steps is never reached if it is at least the length of the text. -/
def basicRest? (multiline : Bool) : Nat → List Char → Option (List Char × List Char)
  | 0, _ => none
  | _, [] => none
  | steps + 1, '"' :: cs =>
    if multiline then
      match cs with
      | '"' :: '"' :: rest => some ([], rest)
      | _ => (basicRest? multiline steps cs).map fun (s, rest) => ('"' :: s, rest)
    else some ([], cs)
  | steps + 1, '\\' :: cs =>
    match cs with
    | [] => none
    | c :: after =>
      if multiline && (isBlank c || c == '\n') then
        (continueLine? cs).bind (basicRest? multiline steps)
      else do
        let (d, rest) ←
          if c = 'u' then codePoint? 4 after
          else if c = 'U' then codePoint? 8 after
          else (escape? c).map (·, after)
        let (s, rest) ← basicRest? multiline steps rest
        return (d :: s, rest)
  | steps + 1, c :: cs =>
    if isForbidden c && !(multiline && c == '\n') then none
    else (basicRest? multiline steps cs).map fun (s, rest) => (c :: s, rest)

/-- The rest of a string in double quotes. -/
def basicString? (cs : List Char) : Option (List Char × List Char) :=
  basicRest? false cs.length cs

/-- The rest of a string in single quotes. -/
def literalString? (cs : List Char) : Option (List Char × List Char) :=
  let s := cs.takeWhile (· != '\'')
  if s.any isForbidden then none
  else match cs.dropWhile (· != '\'') with
    | [] => none
    | _ :: rest => some (s, rest)

/-- The rest of a string of several lines in single quotes. -/
def literalLines? : List Char → Option (List Char × List Char)
  | [] => none
  | '\'' :: '\'' :: '\'' :: rest => some ([], rest)
  | c :: cs =>
    if isForbidden c && c != '\n' then none
    else (literalLines? cs).map fun (s, rest) => (c :: s, rest)

/-- The text without a line feed at its front. -/
def dropLineFeed : List Char → List Char
  | '\n' :: cs => cs
  | cs => cs

/-- A string of several lines takes up to two more quotation marks after its end. -/
def takeQuotes (quote : Char) : List Char × List Char → List Char × List Char
  | (s, a :: b :: rest) =>
    if a = quote ∧ b = quote then (s ++ [a, b], rest)
    else if a = quote then (s ++ [a], b :: rest)
    else (s, a :: b :: rest)
  | (s, [a]) => if a = quote then (s ++ [a], []) else (s, [a])
  | (s, []) => (s, [])

/-- A string of any form. -/
def string? : List Char → Option (List Char × List Char)
  | '"' :: '"' :: '"' :: cs =>
    let body := dropLineFeed cs
    (basicRest? true body.length body).map (takeQuotes '"')
  | '"' :: cs => basicString? cs
  | '\'' :: '\'' :: '\'' :: cs => (literalLines? (dropLineFeed cs)).map (takeQuotes '\'')
  | '\'' :: cs => literalString? cs
  | _ => none

/-! ## Keys -/

/-- Whether a character may stand in a key without quotes. -/
def isBareKey (c : Char) : Bool :=
  isDigit c || ('a' ≤ c && c ≤ 'z') || ('A' ≤ c && c ≤ 'Z') || c == '-' || c == '_'

/-- One part of a key, bare or in quotes. -/
def keyPart? : List Char → Option (String × List Char)
  | '"' :: cs => (basicString? cs).map fun (s, rest) => (String.ofList s, rest)
  | '\'' :: cs => (literalString? cs).map fun (s, rest) => (String.ofList s, rest)
  | cs =>
    let s := cs.takeWhile isBareKey
    if s.isEmpty then none else some (String.ofList s, cs.dropWhile isBareKey)

/-- The parts of a key with dots between them. -/
def keyParts? : Nat → List Char → Option (List String × List Char)
  | 0, _ => none
  | steps + 1, cs => do
    let (part, rest) ← keyPart? cs
    match dropBlanks rest with
    | '.' :: rest =>
      let (parts, rest) ← keyParts? steps (dropBlanks rest)
      return (part :: parts, rest)
    | rest => return ([part], rest)

/-- A key and the blanks after it. -/
def key? (cs : List Char) : Option (List String × List Char) := keyParts? (cs.length + 1) cs

end FrontEnd.Toml
