import FrontEnd.Assembly.Cell
import FrontEnd.Assembly.Tag
import FrontEnd.Tree.Outline

/-!
# Assembling a syntax tree

A tree under construction is a store of cells, numbered in the order of their creation, and a
table of the functions added so far. Cells are shared by reference: an edit is seen wherever the
cell is attached. The value of a cell is the node it stands for, with everything below it.
-/

namespace FrontEnd

/-- A tree under construction. -/
structure Assembly where
  /-- The nodes created so far. -/
  cells : Array Cell
  /-- The functions added to the table, in order; one may be added twice. -/
  entries : List Ref

namespace Assembly

/-- The assembly without nodes. -/
def empty : Assembly := ⟨#[], []⟩

/-! ## Creating and changing nodes -/

/-- Create a node in a new cell. -/
def create (a : Assembly) (cell : Cell) : Ref × Assembly :=
  (a.cells.size, { a with cells := a.cells.push cell })

/-- Create an empty block. -/
def createBlock (a : Assembly) : Ref × Assembly := a.create (.block [])

/-- Create an expression without terms. -/
def createExpression (a : Assembly) : Ref × Assembly := a.create (.expression none none .none)

/-- Create a function without name, parameters and body. -/
def createFunction (a : Assembly) : Ref × Assembly := a.create (.function "" [] [] none)

/-- The empty statement of a kind. -/
def emptyStatement : StatementKind → Cell
  | .conditional => .conditional none none none
  | .returning => .returning none

/-- The empty term of a kind. -/
def emptyTerm : TermKind → Cell
  | .constant => .constant 0
  | .parameter => .parameter 0
  | .call => .call 0 []

/-- Create a statement of the kind that a tag names. -/
def createStatement (a : Assembly) : Tag → Except CreationFault (Ref × Assembly)
  | .statement k => .ok (a.create (emptyStatement k))
  | tag => .error (.ofTag .unexpectedStatementKind tag)

/-- Create a term of the kind that a tag names. -/
def createTerm (a : Assembly) : Tag → Except CreationFault (Ref × Assembly)
  | .term k => .ok (a.create (emptyTerm k))
  | tag => .error (.ofTag .unexpectedTermKind tag)

/-- Change one part of a node, if it has that part. -/
def edit? (a : Assembly) (r : Ref) (e : Edit) : Option Assembly := do
  let cell ← (← a.cells[r]?).edit? e
  return { a with cells := a.cells.setIfInBounds r cell }

/-- Add a function to the table; its index is the number of entries before. -/
def addFunction? (a : Assembly) (r : Ref) : Option (Nat × Assembly) :=
  match a.cells[r]? with
  | some (.function _ _ _ _) => some (a.entries.length, { a with entries := a.entries ++ [r] })
  | _ => none

/-! ## The values of cells

A node is read with everything below it, to a depth that no tree without cycles exceeds: the
number of cells. -/

mutual

/-- The term in a cell. -/
def termAt (cells : Array Cell) : Nat → Ref → Option Term
  | 0, _ => none
  | depth + 1, r =>
    match cells[r]? with
    | some (.constant value) => some (.constant value)
    | some (.parameter index) => some (.parameter index)
    | some (.call target arguments) =>
      some (.call target (arguments.filterMap (expressionAt cells depth)))
    | _ => none

/-- The expression in a cell. -/
def expressionAt (cells : Array Cell) : Nat → Ref → Option Expression
  | 0, _ => none
  | depth + 1, r =>
    match cells[r]? with
    | some (.expression first second op) =>
      some (.mk (first.bind (termAt cells depth)) (second.bind (termAt cells depth)) op)
    | _ => none

end

mutual

/-- The statement in a cell. -/
def statementAt (cells : Array Cell) : Nat → Ref → Option Statement
  | 0, _ => none
  | depth + 1, r =>
    match cells[r]? with
    | some (.conditional condition thenBlock elseBlock) =>
      some (.conditional (condition.bind (expressionAt cells depth))
        (thenBlock.bind (blockAt cells depth)) (elseBlock.bind (blockAt cells depth)))
    | some (.returning value) => some (.returning (value.bind (expressionAt cells depth)))
    | _ => none

/-- The block in a cell. -/
def blockAt (cells : Array Cell) : Nat → Ref → Option Block
  | 0, _ => none
  | depth + 1, r =>
    match cells[r]? with
    | some (.block statements) => some (.mk (statements.filterMap (statementAt cells depth)))
    | _ => none

end

/-- The function in a cell. -/
def functionAt (cells : Array Cell) (r : Ref) : Option FunctionDefinition :=
  match cells[r]? with
  | some (.function name attributes parameters body) =>
    some ⟨name, attributes, parameters, body.bind (blockAt cells cells.size)⟩
  | _ => none

/-- The node in a cell, with everything below it. -/
def value? (a : Assembly) (r : Ref) : Option Node :=
  match a.cells[r]? with
  | none => none
  | some (.constant _) | some (.parameter _) | some (.call _ _) =>
    (termAt a.cells a.cells.size r).map .term
  | some (.expression _ _ _) => (expressionAt a.cells a.cells.size r).map .expression
  | some (.conditional _ _ _) | some (.returning _) =>
    (statementAt a.cells a.cells.size r).map .statement
  | some (.block _) => (blockAt a.cells a.cells.size r).map .block
  | some (.function _ _ _ _) => (functionAt a.cells r).map .function

/-- The table of the functions added so far, each as it is now. -/
def table (a : Assembly) : FunctionTable := ⟨a.entries.filterMap (functionAt a.cells)⟩

/-- The cell that an index of the table denotes. -/
def entry (a : Assembly) (index : Int) : Except FunctionTable.IndexFault Ref :=
  FunctionTable.select a.entries index

end Assembly

end FrontEnd
