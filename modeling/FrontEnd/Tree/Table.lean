import FrontEnd.Text.Numeral
import FrontEnd.Tree
import FrontEnd.Unicode.CaseFold

/-!
# The function table

Functions in the order they were added. A function is found by its name, the first one whose
name differs at most in case; an index is accepted only if it is neither negative nor too large,
so the index that stands for "not found" selects nothing. The refusal of a negative index shows it,
unless its numeral is too long. Of the indices behind the last function, those that do not fit
into a signed word of 64 bits are refused as such.
-/

namespace FrontEnd

/-- Functions in the order they were added. -/
structure FunctionTable where
  /-- The functions. -/
  functions : List FunctionDefinition

/-- The ways in which an index selects no function. -/
inductive FunctionTable.IndexFault where
  /-- The index is negative. -/
  | negative (index : Int)
  /-- The index is negative, and too long to be shown. -/
  | longNumeral (f : Text.LongNumeral)
  /-- The index does not fit into a word. -/
  | tooLarge
  /-- The index is not below the number of functions. -/
  | pastEnd
  deriving DecidableEq, Repr

namespace FunctionTable

/-- The wording of a fault. -/
def IndexFault.message : IndexFault → String
  | negative index => s!"function index out of range: {index}"
  | longNumeral f => f.message
  | tooLarge => "cannot fit 'int' into an index-sized integer"
  | pastEnd => "list index out of range"

/-- The item at an index of a list. -/
def select {α : Type} (items : List α) (index : Int) : Except IndexFault α :=
  if index < 0 then
    match Text.numeral index with
    | .ok _ => .error (.negative index)
    | .error f => .error (.longNumeral f)
  else match items[index.toNat]? with
    | some item => .ok item
    | none => .error (if 0x8000000000000000 ≤ index then .tooLarge else .pastEnd)

/-- The table without functions. -/
def empty : FunctionTable := ⟨[]⟩

/-- The number of functions. -/
def size (table : FunctionTable) : Nat := table.functions.length

/-- The table with one more function; its index is the size before. -/
def add (table : FunctionTable) (f : FunctionDefinition) : FunctionTable :=
  ⟨table.functions ++ [f]⟩

/-- The names of the functions. -/
def names (table : FunctionTable) : List String := table.functions.map FunctionDefinition.name

/-- The index that stands for a function that was not found. -/
def notFound : Int := -1

/-- The index of the first function whose name differs from the given one at most in case. -/
def find? (table : FunctionTable) (name : String) : Option Nat :=
  table.names.findIdx? fun n => Unicode.caseFold n == Unicode.caseFold name

/-- The index of the first function of that name in any case, or the one for "not found". -/
def indexOf (table : FunctionTable) (name : String) : Int :=
  match table.find? name with
  | some i => i
  | none => notFound

/-- The function at an index. -/
def get (table : FunctionTable) (index : Int) : Except IndexFault FunctionDefinition :=
  select table.functions index

/-- The names in the table, in brackets. -/
def display (table : FunctionTable) : String :=
  "FunctionTable([" ++ ", ".intercalate table.names ++ "])"

/-- The names in the table, as the root of a tree shows them. -/
def displayTree (table : FunctionTable) : String := "SyntaxTree(" ++ table.display ++ ")"

end FunctionTable

end FrontEnd
