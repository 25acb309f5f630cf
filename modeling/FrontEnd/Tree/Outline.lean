import FrontEnd.Tree.Table
import FrontEnd.Tree.Written

/-!
# Outlines of syntax trees

A tree is shown as an outline: one line for each node that counts, two spaces further in than
the node it belongs to. Absent parts show nothing, and of an expression only its operands are
shown. A reference is shown by the name it resolves to, or by its number if there is none. The
lines are written one after another, each by a call as deep as the line stands far in, so the first
line that is too deep for the stack, or whose number is too long, ends the text.
-/

namespace FrontEnd

/-- What a line says, with one number at most. -/
structure Label where
  /-- The text before the number. -/
  before : String
  /-- The number, if there is one. -/
  number : Option Int
  /-- The text after the number. -/
  after : String
  deriving DecidableEq, Repr

namespace Label

/-- A label without a number. -/
def plain (text : String) : Label := ⟨text, none, ""⟩

/-- A label between two texts. -/
def within (opening closing : String) (l : Label) : Label :=
  ⟨opening ++ l.before, l.number, l.after ++ closing⟩

/-- The text of a label, if its number can be written. -/
def display (l : Label) : Except Text.LongNumeral String :=
  match l.number with
  | none => .ok (l.before ++ l.after)
  | some n => (Text.numeral n).map fun digits => l.before ++ digits ++ l.after

end Label

/-- A line of an outline. -/
structure OutlineLine where
  /-- How far in it stands. -/
  depth : Nat
  /-- What it says. -/
  label : Label
  deriving DecidableEq, Repr

namespace OutlineLine

/-- The text of a line, with its end. -/
def render (depth : Nat) (text : String) : String :=
  String.ofList (List.replicate (2 * depth) ' ') ++ text ++ "\n"

/-- Write a line, where the stack has room for lines so far in. -/
def write (deepest : Nat) (l : OutlineLine) : Written :=
  if deepest < l.depth then .failed .tooDeep
  else match l.label.display with
    | .ok text => .complete (render l.depth text)
    | .error f => .failed (.longNumeral f)

end OutlineLine

/-- The names that references resolve to. -/
structure Scope where
  /-- The parameters of the enclosing function. -/
  parameters : List String
  /-- The functions of the table. -/
  functions : List String

/-- The name at an index, or the index itself if there is none. -/
def nameAt (names : List String) (index : Int) : Label :=
  let number : Label := ⟨"#", some index, ""⟩
  if index < 0 then number else (names[index.toNat]?.map Label.plain).getD number

/-- The line that opens an expression. -/
def BinaryOp.heading (op : BinaryOp) : String :=
  match op.sign? with
  | .some sign => "Expression " ++ sign
  | .none => "Expression"

/-- What the line of a term says; of a call it is the name of the function. -/
def Term.label (scope : Scope) : Term → Label
  | .constant value => ⟨"Constant(", some value, ")"⟩
  | .parameter index => (nameAt scope.parameters index).within "Variable(" ")"
  | .call target _ => (nameAt scope.functions target).within "Call(" ")"

mutual

/-- The outline of a term. -/
def Term.outline (scope : Scope) (depth : Nat) : Term → List OutlineLine
  | .constant value => [⟨depth, Term.label scope (.constant value)⟩]
  | .parameter index => [⟨depth, Term.label scope (.parameter index)⟩]
  | .call target arguments =>
    ⟨depth, Term.label scope (.call target arguments)⟩ ::
      Expression.outlineAll scope (depth + 1) arguments

/-- The outline of an expression. -/
def Expression.outline (scope : Scope) (depth : Nat) : Expression → List OutlineLine
  | .mk none _ op => [⟨depth, .plain op.heading⟩]
  | .mk (some t) none op => ⟨depth, .plain op.heading⟩ :: t.outline scope (depth + 1)
  | .mk (some t) (some _) .none =>
    ⟨depth, .plain (BinaryOp.heading .none)⟩ :: t.outline scope (depth + 1)
  | .mk (some t) (some u) op =>
    ⟨depth, .plain op.heading⟩ :: (t.outline scope (depth + 1) ++ u.outline scope (depth + 1))

/-- The outlines of expressions one after another. -/
def Expression.outlineAll (scope : Scope) (depth : Nat) : List Expression → List OutlineLine
  | [] => []
  | e :: es => e.outline scope depth ++ Expression.outlineAll scope depth es

end

/-- The outline of an expression that may be absent. -/
def Expression.outlineOption (scope : Scope) (depth : Nat) : Option Expression → List OutlineLine
  | none => []
  | some e => e.outline scope depth

mutual

/-- The outline of a statement. -/
def Statement.outline (scope : Scope) (depth : Nat) : Statement → List OutlineLine
  | .conditional condition thenBlock elseBlock =>
    ⟨depth, .plain "If"⟩ :: (Expression.outlineOption scope (depth + 1) condition ++
      Block.outlineBranch scope depth "Then" thenBlock ++
      Block.outlineBranch scope depth "Else" elseBlock)
  | .returning value => ⟨depth, .plain "Return"⟩ :: Expression.outlineOption scope (depth + 1) value

/-- The outlines of statements one after another. -/
def Statement.outlineAll (scope : Scope) (depth : Nat) : List Statement → List OutlineLine
  | [] => []
  | s :: ss => s.outline scope depth ++ Statement.outlineAll scope depth ss

/-- The outline of a block. -/
def Block.outline (scope : Scope) (depth : Nat) : Block → List OutlineLine
  | .mk statements => ⟨depth, .plain "Block"⟩ :: Statement.outlineAll scope (depth + 1) statements

/-- The outline of a branch under its title, or nothing if the branch is absent. -/
def Block.outlineBranch (scope : Scope) (depth : Nat) (title : String) :
    Option Block → List OutlineLine
  | none => []
  | some b => ⟨depth, .plain title⟩ :: b.outline scope (depth + 1)

end

/-- The line that opens a function: its name, its parameters, and its tags if it has any. -/
def FunctionDefinition.heading (f : FunctionDefinition) : String :=
  "Function " ++ f.name ++ "(" ++ ", ".intercalate f.parameters ++ ")" ++
    if f.attributes.isEmpty then "" else " [" ++ ", ".intercalate f.attributes ++ "]"

/-- The outline of a function in a table with these names. -/
def FunctionDefinition.outline (names : List String) (f : FunctionDefinition) :
    List OutlineLine :=
  ⟨1, .plain f.heading⟩ ::
    match f.body with
    | none => []
    | some b => b.outline ⟨f.parameters, names⟩ 2

/-- The outline of a table: a title, then its functions in order. -/
def FunctionTable.outline (table : FunctionTable) : List OutlineLine :=
  ⟨0, .plain "SyntaxTree"⟩ :: table.functions.flatMap (FunctionDefinition.outline table.names)

/-- What is written of a table's outline, where the stack has room for lines so far in. -/
def FunctionTable.dump (deepest : Nat) (table : FunctionTable) : Written :=
  .join (table.outline.map (OutlineLine.write deepest))

/-- An expression is shown by its heading and the outlines of its operands. -/
theorem Expression.outline_eq (scope : Scope) (depth : Nat) (e : Expression) :
    e.outline scope depth =
      ⟨depth, .plain e.op.heading⟩ :: e.operands.flatMap (Term.outline scope (depth + 1)) := by
  obtain ⟨first, second, op⟩ := e
  cases first <;> cases second <;> cases op <;>
    simp [Expression.outline, Expression.operands, Expression.op]

end FrontEnd
