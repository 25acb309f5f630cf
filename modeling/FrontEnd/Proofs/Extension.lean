import FrontEnd.Proofs.Readability

/-!
# Dumps of growing tables

A dump is a title and one section for each function, up to the first section that is cut off. A
section shows a function with the names of the functions that are called in it, so it stays as it is
while these names do: other functions may be changed but for their names, and further ones may be
added, unless a call refers past the end of the table and so to one of them.
-/

namespace FrontEnd

/-! ## Calls -/

mutual

/-- A term calls the function at an index, itself or in an argument. -/
inductive Term.Calls : Term → Int → Prop
  /-- A call calls its target. -/
  | target (index : Int) (arguments : List Expression) : Term.Calls (.call index arguments) index
  /-- What an argument calls, the term calls. -/
  | argument {t : Term} {e : Expression} {index : Int} : e ∈ t.arguments → e.Calls index →
      t.Calls index

/-- An expression calls what its operands call. -/
inductive Expression.Calls : Expression → Int → Prop
  /-- What an operand calls, the expression calls. -/
  | operand {e : Expression} {t : Term} {index : Int} : t ∈ e.operands → t.Calls index →
      e.Calls index

end

mutual

/-- A statement calls the function at an index. -/
inductive Statement.Calls : Statement → Int → Prop
  /-- It is called in the condition of a choice. -/
  | condition {e : Expression} {index : Int} (thenBlock elseBlock : Option Block) :
      e.Calls index → Statement.Calls (.conditional (some e) thenBlock elseBlock) index
  /-- It is called in the first branch of a choice. -/
  | thenBlock {b : Block} {index : Int} (condition : Option Expression)
      (elseBlock : Option Block) : b.Calls index →
      Statement.Calls (.conditional condition (some b) elseBlock) index
  /-- It is called in the second branch of a choice. -/
  | elseBlock {b : Block} {index : Int} (condition : Option Expression)
      (thenBlock : Option Block) : b.Calls index →
      Statement.Calls (.conditional condition thenBlock (some b)) index
  /-- It is called in the value that is returned. -/
  | value {e : Expression} {index : Int} : e.Calls index →
      Statement.Calls (.returning (some e)) index

/-- A block calls what its statements call. -/
inductive Block.Calls : Block → Int → Prop
  /-- What a statement calls, the block calls. -/
  | statement {s : Statement} {ss : List Statement} {index : Int} : s ∈ ss → s.Calls index →
      Block.Calls (.mk ss) index

end

/-- A function calls what its body calls. -/
def FunctionDefinition.Calls (f : FunctionDefinition) (index : Int) : Prop :=
  ∃ b, f.body = some b ∧ b.Calls index

/-- The functions that are called are shown by the same names in both lists. -/
def SameNames (names names' : List String) (calls : Int → Prop) : Prop :=
  ∀ index, calls index → nameAt names index = nameAt names' index

section Names

variable (parameters : List String) {names names' : List String}

/-- The outlines of terms and expressions depend on the names of the functions they call. -/
theorem Term.outline_congr :
    (∀ t : Term, SameNames names names' t.Calls → ∀ depth,
        t.outline ⟨parameters, names⟩ depth = t.outline ⟨parameters, names'⟩ depth) ∧
      ∀ e : Expression, SameNames names names' e.Calls → ∀ depth,
        e.outline ⟨parameters, names⟩ depth = e.outline ⟨parameters, names'⟩ depth := by
  refine Term.induction (fun t ih h depth => ?_) fun e ih h depth => ?_
  · have hlabel : t.label ⟨parameters, names⟩ = t.label ⟨parameters, names'⟩ := by
      cases t with
      | constant => rfl
      | parameter => rfl
      | call index arguments =>
        have hname := h index (.target index arguments)
        simp only [label, hname]
    rw [Term.outline_eq, Term.outline_eq, hlabel]
    exact congrArg _ (List.flatMap_congr fun e he =>
      ih e he (fun index hcalls => h index (.argument he hcalls)) (depth + 1))
  · rw [Expression.outline_eq, Expression.outline_eq]
    exact congrArg _ (List.flatMap_congr fun t ht =>
      ih t ht (fun index hcalls => h index (.operand ht hcalls)) (depth + 1))

/-- The outline of an expression that may be absent depends on the names it calls. -/
theorem Expression.outlineOption_congr {e : Option Expression}
    (h : ∀ d ∈ e, SameNames names names' d.Calls) (depth : Nat) :
    Expression.outlineOption ⟨parameters, names⟩ depth e =
      Expression.outlineOption ⟨parameters, names'⟩ depth e := by
  cases e with
  | none => rfl
  | some e => exact (Term.outline_congr parameters).2 e (h e rfl) depth

mutual

/-- The outline of a statement depends on the names of the functions it calls. -/
theorem Statement.outline_congr : (s : Statement) → SameNames names names' s.Calls →
    (depth : Nat) → s.outline ⟨parameters, names⟩ depth = s.outline ⟨parameters, names'⟩ depth
  | .conditional condition thenBlock elseBlock, h, depth => by
    have hcondition := Expression.outlineOption_congr parameters
      (fun e (he : condition = some e) index hcalls =>
        h index (he ▸ .condition thenBlock elseBlock hcalls)) (depth + 1)
    have hthen := Block.outlineBranch_congr thenBlock
      (fun b (hb : thenBlock = some b) index hcalls =>
        h index (hb ▸ .thenBlock condition elseBlock hcalls)) depth "Then"
    have helse := Block.outlineBranch_congr elseBlock
      (fun b (hb : elseBlock = some b) index hcalls =>
        h index (hb ▸ .elseBlock condition thenBlock hcalls)) depth "Else"
    rw [Statement.outline, Statement.outline, hcondition, hthen, helse]
  | .returning value, h, depth => by
    have hvalue := Expression.outlineOption_congr parameters
      (fun e (he : value = some e) index hcalls => h index (he ▸ .value hcalls)) (depth + 1)
    rw [Statement.outline, Statement.outline, hvalue]

/-- The outlines of statements depend on the names of the functions they call. -/
theorem Statement.outlineAll_congr : (ss : List Statement) →
    (∀ s ∈ ss, SameNames names names' s.Calls) → (depth : Nat) →
    Statement.outlineAll ⟨parameters, names⟩ depth ss =
      Statement.outlineAll ⟨parameters, names'⟩ depth ss
  | [], _, _ => rfl
  | s :: ss, h, depth => by
    rw [List.forall_mem_cons] at h
    rw [Statement.outlineAll, Statement.outlineAll, s.outline_congr h.1 depth,
      Statement.outlineAll_congr ss h.2 depth]

/-- The outline of a block depends on the names of the functions it calls. -/
theorem Block.outline_congr : (b : Block) → SameNames names names' b.Calls →
    (depth : Nat) → b.outline ⟨parameters, names⟩ depth = b.outline ⟨parameters, names'⟩ depth
  | .mk statements, h, depth => by
    rw [Block.outline, Block.outline, Statement.outlineAll_congr statements
      (fun s hs index hcalls => h index (.statement hs hcalls)) (depth + 1)]

/-- The outline of a branch depends on the names of the functions it calls. -/
theorem Block.outlineBranch_congr : (b : Option Block) →
    (∀ c, b = some c → SameNames names names' c.Calls) → (depth : Nat) → (title : String) →
    Block.outlineBranch ⟨parameters, names⟩ depth title b =
      Block.outlineBranch ⟨parameters, names'⟩ depth title b
  | none, _, _, _ => rfl
  | some b, h, depth, title => by
    rw [Block.outlineBranch, Block.outlineBranch, b.outline_congr (h b rfl) (depth + 1)]

end

/-- The outline of a function depends on the names of the functions it calls. -/
theorem FunctionDefinition.outline_congr {f : FunctionDefinition}
    (h : SameNames names names' f.Calls) : f.outline names = f.outline names' := by
  cases hbody : f.body with
  | none => simp [outline, hbody]
  | some b =>
    have hblock := Block.outline_congr f.parameters b
      (fun index hcalls => h index ⟨b, hbody, hcalls⟩) 2
    simp only [outline, hbody, hblock]

end Names

/-! ## Sections -/

/-- The section that shows a function in a table with these names. -/
def FunctionDefinition.dump (deepest : Nat) (names : List String) (f : FunctionDefinition) :
    Written :=
  .join ((f.outline names).map (OutlineLine.write deepest))

end FrontEnd
