import FrontEnd.Tree.Table

/-!
# Normal forms of syntax trees

The second term of an expression takes no part in it without an operator or without a first
term. A tree is in normal form when no expression in it, at any depth, has such a term.
-/

namespace FrontEnd

mutual

/-- The term with all its arguments in normal form. -/
def Term.normal : Term → Term
  | .constant value => .constant value
  | .parameter index => .parameter index
  | .call target arguments => .call target (Expression.normalAll arguments)

/-- The term in normal form, if there is one. -/
def Term.normalOption : Option Term → Option Term
  | none => none
  | some t => some t.normal

/-- The expression with its terms in normal form, and its second one dropped if it has no
operator or no first term. -/
def Expression.normal : Expression → Expression
  | .mk first second op =>
    .mk (Term.normalOption first)
      (if op = .none ∨ first.isNone then none else Term.normalOption second) op

/-- The expressions in normal form. -/
def Expression.normalAll : List Expression → List Expression
  | [] => []
  | e :: es => e.normal :: Expression.normalAll es

end

mutual

/-- The statement with all its expressions in normal form. -/
def Statement.normal : Statement → Statement
  | .conditional condition thenBlock elseBlock =>
    .conditional (condition.map Expression.normal) (Block.normalOption thenBlock)
      (Block.normalOption elseBlock)
  | .returning value => .returning (value.map Expression.normal)

/-- The statements with all their expressions in normal form. -/
def Statement.normalAll : List Statement → List Statement
  | [] => []
  | s :: ss => s.normal :: Statement.normalAll ss

/-- The block with all its expressions in normal form. -/
def Block.normal : Block → Block
  | .mk statements => .mk (Statement.normalAll statements)

/-- The block with all its expressions in normal form, if there is one. -/
def Block.normalOption : Option Block → Option Block
  | none => none
  | some b => some b.normal

end

/-- The function with all its expressions in normal form. -/
def FunctionDefinition.normal (f : FunctionDefinition) : FunctionDefinition :=
  { f with body := f.body.map Block.normal }

/-- The table with all its expressions in normal form. -/
def FunctionTable.normal (table : FunctionTable) : FunctionTable :=
  ⟨table.functions.map FunctionDefinition.normal⟩

/-- The normal form of a term that may be absent. -/
@[simp] theorem Term.normalOption_eq_map (t : Option Term) :
    Term.normalOption t = t.map Term.normal := by
  cases t <;> rfl

/-- The normal forms of expressions, one by one. -/
@[simp] theorem Expression.normalAll_eq_map (es : List Expression) :
    Expression.normalAll es = es.map Expression.normal := by
  induction es with
  | nil => rfl
  | cons e es ih => rw [Expression.normalAll, ih, List.map_cons]

/-- The normal forms of statements, one by one. -/
@[simp] theorem Statement.normalAll_eq_map (ss : List Statement) :
    Statement.normalAll ss = ss.map Statement.normal := by
  induction ss with
  | nil => rfl
  | cons s ss ih => rw [Statement.normalAll, ih, List.map_cons]

/-- The normal form of a block that may be absent. -/
@[simp] theorem Block.normalOption_eq_map (b : Option Block) :
    Block.normalOption b = b.map Block.normal := by
  cases b <;> rfl

/-! ## Arguments and operands -/

/-- The arguments of a call; other terms have none. -/
def Term.arguments : Term → List Expression
  | .call _ arguments => arguments
  | _ => []

/-- An argument is smaller than its term. -/
theorem Term.sizeOf_lt_of_mem_arguments {t : Term} {e : Expression} (h : e ∈ t.arguments) :
    sizeOf e < sizeOf t := by
  cases t with
  | constant => simp [arguments] at h
  | parameter => simp [arguments] at h
  | call target arguments =>
    have := List.sizeOf_lt_of_mem (show e ∈ arguments from h)
    simp only [Term.call.sizeOf_spec]
    omega

/-- An operand is smaller than its expression. -/
theorem Expression.sizeOf_lt_of_mem_operands {e : Expression} {t : Term} (h : t ∈ e.operands) :
    sizeOf t < sizeOf e := by
  obtain ⟨first, second, op⟩ := e
  have hmem : first = some t ∨ second = some t := by
    cases first <;> cases second <;> cases op <;> simp_all [operands]
    all_goals grind
  rcases hmem with rfl | rfl <;> simp only [mk.sizeOf_spec, Option.some.sizeOf_spec] <;> omega

/-- Terms have one property and expressions another if a term inherits its own from its arguments
and an expression from its operands. -/
theorem Term.induction {P : Term → Prop} {Q : Expression → Prop}
    (term : ∀ t, (∀ e ∈ t.arguments, Q e) → P t)
    (expression : ∀ e, (∀ t ∈ e.operands, P t) → Q e) : (∀ t, P t) ∧ ∀ e, Q e := by
  have key (n : Nat) : (∀ t, sizeOf t < n → P t) ∧ ∀ e, sizeOf e < n → Q e := by
    induction n with
    | zero => exact ⟨fun t h => absurd h (by omega), fun e h => absurd h (by omega)⟩
    | succ n ih =>
      refine ⟨fun t ht => term t fun e he => ih.2 e ?_,
        fun e he => expression e fun t ht => ih.1 t ?_⟩
      · have := sizeOf_lt_of_mem_arguments he
        omega
      · have := Expression.sizeOf_lt_of_mem_operands ht
        omega
  exact ⟨fun t => (key (sizeOf t + 1)).1 t (by omega), fun e => (key (sizeOf e + 1)).2 e (by omega)⟩

/-- A normal form has the arguments in normal form. -/
@[simp] theorem Term.arguments_normal (t : Term) :
    t.normal.arguments = t.arguments.map Expression.normal := by
  cases t <;> simp [normal, arguments]

/-- A normal form has the same operator. -/
@[simp] theorem Expression.op_normal (e : Expression) : e.normal.op = e.op := by
  obtain ⟨first, second, op⟩ := e
  rfl

/-- A normal form has the operands in normal form, and none of them is lost. -/
@[simp] theorem Expression.operands_normal (e : Expression) :
    e.normal.operands = e.operands.map Term.normal := by
  obtain ⟨first, second, op⟩ := e
  cases first <;> cases second <;> cases op <;> simp [normal, operands]

/-- The normal form of an expression is given by its operator and its operands. -/
theorem Expression.normal_eq {d e : Expression} (hop : d.op = e.op)
    (hoperands : d.operands.map Term.normal = e.operands.map Term.normal) :
    d.normal = e.normal := by
  obtain ⟨first, second, op⟩ := d
  obtain ⟨first', second', op'⟩ := e
  obtain rfl : op = op' := hop
  cases first <;> cases second <;> cases first' <;> cases second' <;> cases op <;>
    simp_all [normal, operands]

/-- The names of the functions are not touched by normal forms. -/
@[simp] theorem FunctionTable.names_normal (table : FunctionTable) :
    table.normal.names = table.names := by
  simp [normal, names, FunctionDefinition.normal]

end FrontEnd
