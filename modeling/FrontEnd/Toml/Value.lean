/-!
# TOML values

The values of a TOML document. Numbers with a fraction or an exponent, dates and times are kept
as they are written: what they amount to is left to whoever needs it.
-/

namespace FrontEnd.Toml

/-- A value of a TOML document. -/
inductive Value where
  /-- A string. -/
  | text (s : String)
  /-- An integer. -/
  | integer (n : Int)
  /-- A number with a fraction or an exponent, an infinity, or a value that is no number. -/
  | float (written : String)
  /-- A truth value. -/
  | bool (b : Bool)
  /-- A date with a time of day. -/
  | dateTime (written : String)
  /-- A date. -/
  | date (written : String)
  /-- A time of day. -/
  | time (written : String)
  /-- An array. -/
  | array (items : List Value)
  /-- A table. -/
  | table (entries : List (String × Value))

/-- Names with their values, in the order in which they were first given. -/
abbrev Table := List (String × Value)

/-- The value of a name. -/
def Table.get? (t : Table) (name : String) : Option Value := t.lookup name

/-- The table with a value for a name, in the place of an earlier one if there is one. -/
def Table.set (t : Table) (name : String) (v : Value) : Table :=
  if (t.get? name).isSome then t.map fun e => if e.1 = name then (name, v) else e
  else t ++ [(name, v)]

/-- Whether a value has parts, so that it is closed once it is written. -/
def Value.isContainer : Value → Bool
  | .array _ | .table _ => true
  | _ => false

end FrontEnd.Toml
