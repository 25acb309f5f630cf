import FrontEnd.Text.Numeral
import FrontEnd.Text.Quoted

/-!
# Loosely typed data

Values that a caller hands over where one of a narrower type was expected. They are shown in the
messages that refuse them, unless showing them fails.
-/

namespace FrontEnd

/-- The ways in which a value cannot be shown. -/
inductive DisplayFault where
  /-- An integer in it has too many digits. -/
  | longNumeral (f : Text.LongNumeral)
  /-- It is nested deeper than the stack allows. -/
  | tooDeep
  /-- Its own display raises an error. -/
  | raised (kind message : String)
  deriving DecidableEq, Repr

namespace DisplayFault

/-- The kind of error that a fault shows up as. -/
def kind : DisplayFault → String
  | longNumeral _ => "ValueError"
  | tooDeep => "RecursionError"
  | raised kind _ => kind

/-- The wording of a fault. -/
def message : DisplayFault → String
  | longNumeral f => f.message
  | tooDeep => "maximum recursion depth exceeded while getting the repr of an object"
  | raised _ message => message

end DisplayFault

/-- A value of no fixed type. -/
inductive Datum where
  /-- The absent value. -/
  | none
  /-- A truth value. -/
  | bool (b : Bool)
  /-- An integer. -/
  | int (n : Int)
  /-- A text of any length. -/
  | text (s : String)
  /-- A list of values. The stack may run out while it is shown. -/
  | list (tooDeep : Bool) (items : List Datum)
  /-- Any other value, which shows itself. -/
  | other (shown : Except DisplayFault String)

mutual

/-- A value as messages show it: texts are quoted, lists bracketed. -/
def Datum.display : Datum → Except DisplayFault String
  | .none => .ok "None"
  | .bool true => .ok "True"
  | .bool false => .ok "False"
  | .int n => (Text.numeral n).mapError .longNumeral
  | .text s => .ok (Text.quoted s)
  | .list true _ => .error .tooDeep
  | .list false items => (Datum.displayItems items).map fun shown => "[" ++ shown ++ "]"
  | .other shown => shown

/-- The items of a list as messages show them, with a comma between neighbours. -/
def Datum.displayItems : List Datum → Except DisplayFault String
  | [] => .ok ""
  | [d] => d.display
  | d :: e :: rest => do
    let first ← d.display
    let others ← Datum.displayItems (e :: rest)
    return first ++ ", " ++ others

end

end FrontEnd
