import FrontEnd.Tree

/-!
# Cells

A node under construction lives in a cell. A cell holds the node's own data and refers to the
nodes below it, so a node may be attached before it is complete, and in several places. An edit
changes one part of one cell. The lists of a node are values and not cells: every node is created
with empty lists of its own, which are appended to and never replaced, so no two nodes share one.
-/

namespace FrontEnd

/-- The number of a cell. -/
abbrev Ref := Nat

/-- A node under construction. -/
inductive Cell where
  /-- An integer. -/
  | constant (value : Int)
  /-- A parameter, by its index. -/
  | parameter (index : Int)
  /-- A call of a function, by its index. -/
  | call (target : Int) (arguments : List Ref)
  /-- An expression. -/
  | expression (first second : Option Ref) (op : BinaryOp)
  /-- A choice between two blocks. -/
  | conditional (condition thenBlock elseBlock : Option Ref)
  /-- The end of a function. -/
  | returning (value : Option Ref)
  /-- Statements one after another. -/
  | block (statements : List Ref)
  /-- A function. -/
  | function (name : String) (attributes parameters : List String) (body : Option Ref)

/-- A change to one part of a node. -/
inductive Edit where
  /-- Set the value of a constant. -/
  | setValue (value : Int)
  /-- Set the index of a parameter. -/
  | setIndex (index : Int)
  /-- Set the index of the function called. -/
  | setTarget (target : Int)
  /-- Append an argument to a call. -/
  | addArgument (argument : Ref)
  /-- Set or remove the first term of an expression. -/
  | setFirst (term : Option Ref)
  /-- Set or remove the second term of an expression. -/
  | setSecond (term : Option Ref)
  /-- Set the operator of an expression. -/
  | setOp (op : BinaryOp)
  /-- Set or remove the condition of a conditional. -/
  | setCondition (condition : Option Ref)
  /-- Set or remove the block for a condition that holds. -/
  | setThen (block : Option Ref)
  /-- Set or remove the block for a condition that fails. -/
  | setElse (block : Option Ref)
  /-- Set or remove the value that is returned. -/
  | setReturned (value : Option Ref)
  /-- Append a statement to a block. -/
  | addStatement (statement : Ref)
  /-- Set the name of a function. -/
  | setName (name : String)
  /-- Append a tag to a function. -/
  | addAttribute (tag : String)
  /-- Append a parameter to a function. -/
  | addParameter (parameter : String)
  /-- Set or remove the body of a function. -/
  | setBody (body : Option Ref)

namespace Cell

/-- The cells that a cell refers to. -/
def children : Cell → List Ref
  | constant _ | parameter _ => []
  | call _ arguments => arguments
  | expression first second _ => first.toList ++ second.toList
  | conditional condition thenBlock elseBlock =>
    condition.toList ++ thenBlock.toList ++ elseBlock.toList
  | returning value => value.toList
  | block statements => statements
  | function _ _ _ body => body.toList

/-- The cell after an edit, if the edit changes a part that the cell has. -/
def edit? : Cell → Edit → Option Cell
  | constant _, .setValue value => some (constant value)
  | parameter _, .setIndex index => some (parameter index)
  | call _ as, .setTarget target => some (call target as)
  | call target as, .addArgument a => some (call target (as ++ [a]))
  | expression _ u op, .setFirst t => some (expression t u op)
  | expression t _ op, .setSecond u => some (expression t u op)
  | expression t u _, .setOp op => some (expression t u op)
  | conditional _ a b, .setCondition c => some (conditional c a b)
  | conditional c _ b, .setThen a => some (conditional c a b)
  | conditional c a _, .setElse b => some (conditional c a b)
  | returning _, .setReturned e => some (returning e)
  | block ss, .addStatement s => some (block (ss ++ [s]))
  | function _ as ps b, .setName name => some (function name as ps b)
  | function name as ps b, .addAttribute a => some (function name (as ++ [a]) ps b)
  | function name as ps b, .addParameter p => some (function name as (ps ++ [p]) b)
  | function name as ps _, .setBody b => some (function name as ps b)
  | _, _ => none

end Cell

end FrontEnd
