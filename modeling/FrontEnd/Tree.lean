/-!
# Syntax trees

A program is a list of functions, whose bodies are blocks of statements. Parts that a program
leaves out are absent, which differs from being present and empty. Parameters and functions are
referred to by index; an index need not refer to anything.
-/

namespace FrontEnd

/-- The kinds of term. -/
inductive TermKind where
  /-- An integer. -/
  | constant
  /-- A parameter of the enclosing function. -/
  | parameter
  /-- A call of a function. -/
  | call
  deriving DecidableEq, Repr

/-- The kinds of statement. -/
inductive StatementKind where
  /-- A choice between two blocks. -/
  | conditional
  /-- The end of a function. -/
  | returning
  deriving DecidableEq, Repr

/-- The operators that join two terms. -/
inductive BinaryOp where
  /-- No operator: the expression is its first term. -/
  | none
  /-- Addition. -/
  | add
  /-- Subtraction. -/
  | subtract
  /-- Comparison. -/
  | lessThan
  deriving DecidableEq, Repr

mutual

/-- A value that an expression is made of. -/
inductive Term where
  /-- An integer. -/
  | constant (value : Int)
  /-- A parameter of the enclosing function, by its index. -/
  | parameter (index : Int)
  /-- A call of the function at an index of the function table. -/
  | call (target : Int) (arguments : List Expression)

/-- One term, or two joined by an operator. -/
inductive Expression where
  /-- The terms that are there, and the operator. -/
  | mk (first second : Option Term) (op : BinaryOp)

end

mutual

/-- A step of a block. -/
inductive Statement where
  /-- One block if the condition holds, and another if not. -/
  | conditional (condition : Option Expression) (thenBlock elseBlock : Option Block)
  /-- Leave the function with a value. -/
  | returning (value : Option Expression)

/-- Statements one after another. -/
inductive Block where
  /-- The statements in order. -/
  | mk (statements : List Statement)

end

/-- A function of a program. -/
structure FunctionDefinition where
  /-- Its name. -/
  name : String
  /-- Its tags. -/
  attributes : List String
  /-- The names of its parameters. -/
  parameters : List String
  /-- What it does, if that is given. -/
  body : Option Block

/-- A node of a syntax tree, of whatever sort. -/
inductive Node where
  /-- A term. -/
  | term (t : Term)
  /-- An expression. -/
  | expression (e : Expression)
  /-- A statement. -/
  | statement (s : Statement)
  /-- A block. -/
  | block (b : Block)
  /-- A function. -/
  | function (f : FunctionDefinition)

namespace TermKind

/-- The kinds in order. -/
def all : List TermKind := [constant, parameter, call]

/-- The name of a kind. -/
def name : TermKind → String
  | constant => "CONSTANT"
  | parameter => "VARIABLE"
  | call => "FUNCTION_CALL"

end TermKind

namespace StatementKind

/-- The kinds in order. -/
def all : List StatementKind := [conditional, returning]

/-- The name of a kind. -/
def name : StatementKind → String
  | conditional => "IF"
  | returning => "RETURN"

end StatementKind

namespace BinaryOp

/-- The operators in order. -/
def all : List BinaryOp := [none, add, subtract, lessThan]

/-- The name of an operator. -/
def name : BinaryOp → String
  | none => "NONE"
  | add => "ADD"
  | subtract => "SUBTRACT"
  | lessThan => "LESS_THAN"

/-- The sign of an operator. -/
def sign? : BinaryOp → Option String
  | none => Option.none
  | add => some "+"
  | subtract => some "-"
  | lessThan => some "<"

end BinaryOp

/-- The kind of a term. -/
def Term.kind : Term → TermKind
  | constant _ => .constant
  | parameter _ => .parameter
  | call _ _ => .call

/-- The kind of a statement. -/
def Statement.kind : Statement → StatementKind
  | conditional _ _ _ => .conditional
  | returning _ => .returning

/-- The operator of an expression. -/
def Expression.op : Expression → BinaryOp
  | mk _ _ op => op

/-- The terms that take part in an expression: a second one only beside a first one and with an
operator. -/
def Expression.operands : Expression → List Term
  | mk none _ _ => []
  | mk (some t) none _ => [t]
  | mk (some t) (some _) .none => [t]
  | mk (some t) (some u) _ => [t, u]

/-- The number of parameters. -/
def FunctionDefinition.arity (f : FunctionDefinition) : Nat := f.parameters.length

end FrontEnd
