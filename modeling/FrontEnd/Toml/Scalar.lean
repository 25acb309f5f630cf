import FrontEnd.Toml.Fault
import FrontEnd.Toml.Lexeme
import FrontEnd.Toml.Value

/-!
# Numbers, dates and times

Scalars without quotes. Digits may be grouped by single underscores, which do not count as
digits of an integer in base ten, whose number is bounded. A date has to be one of the
calendar; a time of day may follow it after a letter T or a single space, and an offset from
universal time after that.
-/

namespace FrontEnd.Toml

/-! ## Numbers -/

/-- The digits of a class at the front of a text, each of which may follow an underscore. -/
def moreDigits (p : Char → Bool) : List Char → List Char × List Char
  | [] => ([], [])
  | [c] => if p c then ([c], []) else ([], [c])
  | c :: d :: cs =>
    if p c then
      let (digits, rest) := moreDigits p (d :: cs)
      (c :: digits, rest)
    else if c = '_' ∧ p d then
      let (digits, rest) := moreDigits p cs
      (d :: digits, rest)
    else ([], c :: d :: cs)

/-- The number that digits spell in a base. -/
def ofDigits (base : Nat) (digits : List Char) : Nat :=
  digits.foldl (fun n c => base * n + (hexValue? c).getD 0) 0

/-- The base that a letter after a zero announces, and its digits. -/
def radix? : Char → Option (Nat × (Char → Bool))
  | 'x' => some (16, fun c => (hexValue? c).isSome)
  | 'o' => some (8, fun c => '0' ≤ c && c ≤ '7')
  | 'b' => some (2, fun c => c == '0' || c == '1')
  | _ => none

/-- The text after a fraction, if there is one. -/
def dropFraction : List Char → List Char
  | '.' :: c :: cs => if isDigit c then (moreDigits isDigit cs).2 else '.' :: c :: cs
  | cs => cs

/-- The text after a sign, if there is one. -/
def dropSign : List Char → List Char
  | '+' :: cs => cs
  | '-' :: cs => cs
  | cs => cs

/-- The text after an exponent, if there is one. -/
def dropExponent (cs : List Char) : List Char :=
  match cs with
  | e :: rest =>
    match dropSign rest with
    | c :: after => if (e = 'e' ∨ e = 'E') ∧ isDigit c then (moreDigits isDigit after).2 else cs
    | [] => cs
  | [] => cs

/-- What stands in a text before a rest of it. -/
def written (cs rest : List Char) : String := String.ofList (cs.take (cs.length - rest.length))

/-- A number without its sign: its digits, and the text after them. -/
def wholePart? : List Char → Option (List Char × List Char)
  | '0' :: cs => some (['0'], cs)
  | c :: cs =>
    if isDigit c then
      let (digits, rest) := moreDigits isDigit cs
      some (c :: digits, rest)
    else none
  | [] => none

/-- The integer that digits in base ten spell. -/
def integer (negative : Bool) (digits : List Char) : Except Fault Value :=
  if Text.maxDigits < digits.length then .error (.longInteger digits.length)
  else
    let n : Int := ofDigits 10 digits
    .ok (.integer (if negative then -n else n))

/-- A decimal number, or an infinity, or a value that is no number. -/
def decimal (cs : List Char) : Except Fault (Value × List Char) :=
  let unsigned := dropSign cs
  match wholePart? unsigned with
  | some (digits, rest) =>
    let after := dropExponent (dropFraction rest)
    if after.length < rest.length then .ok (.float (written cs after), after)
    else (integer (cs.head? == some '-') digits).map (·, rest)
  | none =>
    match unsigned with
    | 'i' :: 'n' :: 'f' :: rest => .ok (.float (written cs rest), rest)
    | 'n' :: 'a' :: 'n' :: rest => .ok (.float (written cs rest), rest)
    | _ => .error .malformed

/-- A number in any base. -/
def number (cs : List Char) : Except Fault (Value × List Char) :=
  match cs with
  | '0' :: x :: c :: rest =>
    match radix? x with
    | some (base, p) =>
      if p c then
        let (digits, rest) := moreDigits p rest
        .ok (.integer (ofDigits base (c :: digits)), rest)
      else decimal cs
    | none => decimal cs
  | _ => decimal cs

/-! ## Dates and times -/

/-- A number of exactly `width` digits that lies in a range. -/
def digitsBetween? (width low high : Nat) (cs : List Char) : Option (Nat × List Char) :=
  let digits := cs.take width
  let n := ofDigits 10 digits
  if digits.length = width ∧ digits.all isDigit ∧ low ≤ n ∧ n ≤ high then
    some (n, cs.drop width)
  else none

/-- The text after a character that has to be there. -/
def expect? (c : Char) : List Char → Option (List Char)
  | d :: cs => if d = c then some cs else none
  | [] => none

/-- Whether a year has a 29th of February. -/
def isLeapYear (year : Nat) : Bool := year % 4 == 0 && (year % 100 != 0 || year % 400 == 0)

/-- The number of days of a month. -/
def daysIn (year month : Nat) : Nat :=
  if month = 2 then (if isLeapYear year then 29 else 28)
  else if month = 4 ∨ month = 6 ∨ month = 9 ∨ month = 11 then 30
  else 31

/-- Year, month and day as a date writes them, whether or not the calendar has that day. -/
def dateParts? (cs : List Char) : Option ((Nat × Nat × Nat) × List Char) := do
  let (year, cs) ← digitsBetween? 4 0 9999 cs
  let (month, cs) ← digitsBetween? 2 1 12 (← expect? '-' cs)
  let (day, cs) ← digitsBetween? 2 1 31 (← expect? '-' cs)
  return ((year, month, day), cs)

/-- The text after the decimal places of a second, if there are any. -/
def dropPlaces : List Char → List Char
  | '.' :: c :: cs => if isDigit c then cs.dropWhile isDigit else '.' :: c :: cs
  | cs => cs

/-- The text after hours and minutes. -/
def afterMinutes? (cs : List Char) : Option (List Char) := do
  let (_, cs) ← digitsBetween? 2 0 23 cs
  let (_, cs) ← digitsBetween? 2 0 59 (← expect? ':' cs)
  return cs

/-- The text after a time of day. -/
def afterTime? (cs : List Char) : Option (List Char) := do
  let (_, cs) ← digitsBetween? 2 0 59 (← expect? ':' (← afterMinutes? cs))
  return dropPlaces cs

/-- The text after an offset from universal time, if there is one. -/
def dropOffset (cs : List Char) : List Char :=
  match cs with
  | 'Z' :: rest => rest
  | 'z' :: rest => rest
  | '+' :: rest => (afterMinutes? rest).getD cs
  | '-' :: rest => (afterMinutes? rest).getD cs
  | _ => cs

/-- The text after the time of day that follows a date, if one does. -/
def afterDateTime? : List Char → Option (List Char)
  | c :: cs =>
    if c = 'T' ∨ c = 't' ∨ c = ' ' then (afterTime? cs).map dropOffset else none
  | [] => none

/-- A date, a time of day, both, or a number. -/
def scalar (cs : List Char) : Except Fault (Value × List Char) :=
  match dateParts? cs with
  | some ((year, month, day), rest) =>
    if year = 0 ∨ daysIn year month < day then .error .malformed
    else match afterDateTime? rest with
      | some after => .ok (.dateTime (written cs after), after)
      | none => .ok (.date (written cs rest), rest)
  | none =>
    match afterTime? cs with
    | some rest => .ok (.time (written cs rest), rest)
    | none => number cs

end FrontEnd.Toml
