import FrontEnd.Tree

/-!
# Equality of syntax trees

Two nodes are equal when they are of one sort and equal in all their parts, those included that
take no part in an expression.
-/

namespace FrontEnd

mutual

/-- Whether two terms are equal. -/
def Term.same : Term → Term → Bool
  | .constant m, .constant n => m == n
  | .parameter i, .parameter j => i == j
  | .call f as, .call g bs => f == g && Expression.sameAll as bs
  | _, _ => false

/-- Whether two terms are both absent, or equal. -/
def Term.sameOption : Option Term → Option Term → Bool
  | none, none => true
  | some t, some u => t.same u
  | _, _ => false

/-- Whether two expressions are equal. -/
def Expression.same : Expression → Expression → Bool
  | .mk t u p, .mk v w q => Term.sameOption t v && Term.sameOption u w && p == q

/-- Whether two lists hold equal expressions in the same order. -/
def Expression.sameAll : List Expression → List Expression → Bool
  | [], [] => true
  | d :: ds, e :: es => d.same e && Expression.sameAll ds es
  | _, _ => false

end

/-- Whether two expressions are both absent, or equal. -/
def Expression.sameOption : Option Expression → Option Expression → Bool
  | none, none => true
  | some d, some e => d.same e
  | _, _ => false

mutual

/-- Whether two statements are equal. -/
def Statement.same : Statement → Statement → Bool
  | .conditional c a b, .conditional d x y =>
    Expression.sameOption c d && Block.sameOption a x && Block.sameOption b y
  | .returning d, .returning e => Expression.sameOption d e
  | _, _ => false

/-- Whether two lists hold equal statements in the same order. -/
def Statement.sameAll : List Statement → List Statement → Bool
  | [], [] => true
  | s :: ss, t :: ts => s.same t && Statement.sameAll ss ts
  | _, _ => false

/-- Whether two blocks are equal. -/
def Block.same : Block → Block → Bool
  | .mk ss, .mk ts => Statement.sameAll ss ts

/-- Whether two blocks are both absent, or equal. -/
def Block.sameOption : Option Block → Option Block → Bool
  | none, none => true
  | some a, some b => a.same b
  | _, _ => false

end

/-- Whether two functions are equal. -/
def FunctionDefinition.same (f g : FunctionDefinition) : Bool :=
  f.name == g.name && f.attributes == g.attributes && f.parameters == g.parameters &&
    Block.sameOption f.body g.body

/-- Whether two nodes are equal. -/
def Node.same : Node → Node → Bool
  | .term t, .term u => t.same u
  | .expression d, .expression e => d.same e
  | .statement s, .statement t => s.same t
  | .block a, .block b => a.same b
  | .function f, .function g => f.same g
  | _, _ => false

/-- Whether two nodes are both absent, or equal. -/
def Node.sameOption : Option Node → Option Node → Bool
  | none, none => true
  | some m, some n => m.same n
  | _, _ => false

end FrontEnd
