import FrontEnd.Proofs.Labels
import Mathlib.Data.List.Basic

/-!
# What an outline shows

The outline of a tree is that of its normal form, and reads as the list of lines of nested entries.
Where names are distinctive the entries determine the normal form: a call nests its arguments, an
expression its operands, and a choice takes those branches among the entries after it whose
titles belong to it.
-/

namespace FrontEnd

/-- Lists with the same images under one pair of functions have the same images under another if
items do. -/
theorem map_eq_map_of_forall {α β γ : Type} {f g : α → β} {k : α → γ} {as bs : List α}
    (h : ∀ a ∈ as, ∀ b ∈ bs, f a = g b → k a = k b) (heq : as.map f = bs.map g) :
    as.map k = bs.map k := by
  induction as generalizing bs with
  | nil =>
    cases bs with
    | nil => rfl
    | cons b bs => simp at heq
  | cons a as ih =>
    cases bs with
    | nil => simp at heq
    | cons b bs =>
      obtain ⟨hhead, htail⟩ := List.cons.inj heq
      rw [List.map_cons, List.map_cons, h a (by simp) b (by simp) hhead,
        ih (fun a ha b hb => h a (by simp [ha]) b (by simp [hb])) htail]

/-- The same of items that may be absent. -/
theorem option_map_eq_map_of_forall {α β γ : Type} {f g : α → β} {k : α → γ} {a b : Option α}
    (h : ∀ x ∈ a, ∀ y ∈ b, f x = g y → k x = k y) (heq : a.toList.map f = b.toList.map g) :
    a.map k = b.map k := by
  cases a <;> cases b <;> simp_all

/-! ## Expressions -/

/-- A term is shown by its line and the outlines of its arguments. -/
theorem Term.outline_eq (scope : Scope) (depth : Nat) (t : Term) :
    t.outline scope depth =
      ⟨depth, t.label scope⟩ :: t.arguments.flatMap (Expression.outline scope (depth + 1)) := by
  have hall (es : List Expression) : Expression.outlineAll scope (depth + 1) es =
      es.flatMap (Expression.outline scope (depth + 1)) := by
    induction es with
    | nil => rfl
    | cons e es ih => rw [Expression.outlineAll, ih, List.flatMap_cons]
  cases t with
  | constant => rfl
  | parameter => rfl
  | call target arguments =>
    rw [outline, hall]
    rfl

mutual

/-- The entry of a term: its line, and below it the entries of its arguments. -/
def Term.entry (scope : Scope) (t : Term) : OutlineEntry :=
  .mk (t.label scope).text (t.arguments.attach.map fun e => e.1.entry scope)
termination_by sizeOf t
decreasing_by exact Term.sizeOf_lt_of_mem_arguments e.2

/-- The entry of an expression: its line, and below it the entries of its operands. -/
def Expression.entry (scope : Scope) (e : Expression) : OutlineEntry :=
  .mk e.op.heading (e.operands.attach.map fun t => t.1.entry scope)
termination_by sizeOf e
decreasing_by exact Expression.sizeOf_lt_of_mem_operands t.2

end

/-- The entry of a term, one argument at a time. -/
theorem Term.entry_eq (scope : Scope) (t : Term) :
    t.entry scope = .mk (t.label scope).text (t.arguments.map (Expression.entry scope)) := by
  rw [entry, List.attach_map_val]

/-- The entry of an expression, one operand at a time. -/
theorem Expression.entry_eq (scope : Scope) (e : Expression) :
    e.entry scope = .mk e.op.heading (e.operands.map (Term.entry scope)) := by
  rw [entry, List.attach_map_val]

/-- The outlines of terms and expressions read as the lines of their entries. -/
theorem Term.outline_eq_lines (scope : Scope) :
    (∀ (t : Term) depth,
        (t.outline scope depth).map OutlineLine.plain = (t.entry scope).lines depth) ∧
      ∀ (e : Expression) depth,
        (e.outline scope depth).map OutlineLine.plain = (e.entry scope).lines depth := by
  refine Term.induction (fun t ih depth => ?_) fun e ih depth => ?_
  · rw [Term.outline_eq, Term.entry_eq, OutlineEntry.lines, OutlineEntry.linesAll_eq_flatMap,
      List.flatMap_map, List.map_cons, List.map_flatMap,
      List.flatMap_congr fun e he => ih e he (depth + 1)]
    rfl
  · rw [Expression.outline_eq, Expression.entry_eq, OutlineEntry.lines,
      OutlineEntry.linesAll_eq_flatMap, List.flatMap_map, List.map_cons, List.map_flatMap,
      List.flatMap_congr fun t ht => ih t ht (depth + 1), OutlineLine.plain, Label.text_plain]

/-- Normal forms have the same outlines. -/
theorem Term.outline_normal (scope : Scope) :
    (∀ (t : Term) depth, t.normal.outline scope depth = t.outline scope depth) ∧
      ∀ (e : Expression) depth, e.normal.outline scope depth = e.outline scope depth := by
  refine Term.induction (fun t ih depth => ?_) fun e ih depth => ?_
  · rw [outline_eq, outline_eq, label_normal, arguments_normal, List.flatMap_map]
    exact congrArg _ (List.flatMap_congr fun e he => ih e he (depth + 1))
  · rw [Expression.outline_eq, Expression.outline_eq, Expression.op_normal,
      Expression.operands_normal, List.flatMap_map]
    exact congrArg _ (List.flatMap_congr fun t ht => ih t ht (depth + 1))

/-- The entries of terms and expressions determine their normal forms. -/
theorem Term.normal_eq_of_entry_eq {scope : Scope} (h : scope.Distinctive) :
    (∀ t u : Term, t.entry scope = u.entry scope → t.normal = u.normal) ∧
      ∀ d e : Expression, d.entry scope = e.entry scope → d.normal = e.normal := by
  refine Term.induction (fun t ih u heq => ?_) fun d ih e heq => ?_
  · rw [entry_eq, entry_eq, OutlineEntry.mk.injEq] at heq
    obtain ⟨hlabel, harguments⟩ := heq
    exact Term.normal_eq h hlabel
      (map_eq_map_of_forall (fun a ha b _ => ih a ha b) harguments)
  · rw [Expression.entry_eq, Expression.entry_eq, OutlineEntry.mk.injEq] at heq
    obtain ⟨hheading, hoperands⟩ := heq
    exact Expression.normal_eq (BinaryOp.heading_inj hheading)
      (map_eq_map_of_forall (fun a ha b _ => ih a ha b) hoperands)

/-- All labels of terms and expressions are legible. -/
theorem Term.legible_outline {scope : Scope} (h : scope.Distinctive) :
    (∀ (t : Term) depth, ∀ l ∈ t.outline scope depth, Legible l.label.text) ∧
      ∀ (e : Expression) depth, ∀ l ∈ e.outline scope depth, Legible l.label.text := by
  refine Term.induction (fun t ih depth => ?_) fun e ih depth => ?_
  · rw [Term.outline_eq, List.forall_mem_cons]
    refine ⟨t.legible_label h, fun l hl => ?_⟩
    obtain ⟨e, he, hmem⟩ := List.mem_flatMap.mp hl
    exact ih e he (depth + 1) l hmem
  · rw [Expression.outline_eq, List.forall_mem_cons]
    refine ⟨Label.legible_plain e.op.legible_heading, fun l hl => ?_⟩
    obtain ⟨t, ht, hmem⟩ := List.mem_flatMap.mp hl
    exact ih t ht (depth + 1) l hmem

/-! ## Statements -/

mutual

/-- The entries of a statement, one after another: a choice has one for its condition, and one
for each branch that is there. -/
def Statement.entries (scope : Scope) : Statement → List OutlineEntry
  | .conditional condition thenBlock elseBlock =>
    .mk "If" (condition.toList.map (Expression.entry scope)) ::
      (Block.branchEntry scope "Then" thenBlock ++ Block.branchEntry scope "Else" elseBlock)
  | .returning value => [.mk "Return" (value.toList.map (Expression.entry scope))]

/-- The entries of statements one after another. -/
def Statement.entriesAll (scope : Scope) : List Statement → List OutlineEntry
  | [] => []
  | s :: ss => s.entries scope ++ Statement.entriesAll scope ss

/-- The entry of a block. -/
def Block.entry (scope : Scope) : Block → OutlineEntry
  | .mk statements => .mk "Block" (Statement.entriesAll scope statements)

/-- The entry of a branch under its title, or none if the branch is absent. -/
def Block.branchEntry (scope : Scope) (title : String) : Option Block → List OutlineEntry
  | none => []
  | some b => [.mk title [b.entry scope]]

end

/-- A normal form that may be absent has the same outline. -/
theorem Expression.outlineOption_normal (scope : Scope) (depth : Nat) (e : Option Expression) :
    Expression.outlineOption scope depth (e.map Expression.normal) =
      Expression.outlineOption scope depth e := by
  cases e with
  | none => rfl
  | some e => exact (Term.outline_normal scope).2 e depth

/-- The outline of an expression that may be absent reads as the lines of its entry. -/
theorem Expression.outlineOption_eq_lines (scope : Scope) (depth : Nat) (e : Option Expression) :
    (Expression.outlineOption scope depth e).map OutlineLine.plain =
      OutlineEntry.linesAll depth (e.toList.map (Expression.entry scope)) := by
  cases e with
  | none => rfl
  | some e =>
    rw [outlineOption, (Term.outline_eq_lines scope).2]
    simp [OutlineEntry.linesAll]

mutual

/-- The outline of a statement reads as the lines of its entries. -/
theorem Statement.outline_eq_lines (scope : Scope) (depth : Nat) : (s : Statement) →
    (s.outline scope depth).map OutlineLine.plain =
      OutlineEntry.linesAll depth (s.entries scope)
  | .conditional condition thenBlock elseBlock => by
    rw [Statement.outline, Statement.entries, OutlineEntry.linesAll, OutlineEntry.lines,
      OutlineEntry.linesAll_append, ← Expression.outlineOption_eq_lines,
      ← Block.outlineBranch_eq_lines scope depth "Then",
      ← Block.outlineBranch_eq_lines scope depth "Else", List.map_cons, List.map_append,
      List.map_append, OutlineLine.plain, Label.text_plain, List.cons_append, List.append_assoc]
  | .returning value => by
    rw [Statement.outline, Statement.entries, OutlineEntry.linesAll, OutlineEntry.lines,
      OutlineEntry.linesAll, ← Expression.outlineOption_eq_lines, List.map_cons,
      OutlineLine.plain, Label.text_plain, List.append_nil]

/-- The outlines of statements read as the lines of their entries. -/
theorem Statement.outlineAll_eq_lines (scope : Scope) (depth : Nat) : (ss : List Statement) →
    (Statement.outlineAll scope depth ss).map OutlineLine.plain =
      OutlineEntry.linesAll depth (Statement.entriesAll scope ss)
  | [] => rfl
  | s :: ss => by
    rw [Statement.outlineAll, Statement.entriesAll, OutlineEntry.linesAll_append,
      List.map_append, s.outline_eq_lines scope depth,
      Statement.outlineAll_eq_lines scope depth ss]

/-- The outline of a block reads as the lines of its entry. -/
theorem Block.outline_eq_lines (scope : Scope) (depth : Nat) : (b : Block) →
    (b.outline scope depth).map OutlineLine.plain = (b.entry scope).lines depth
  | .mk statements => by
    rw [Block.outline, Block.entry, OutlineEntry.lines, List.map_cons, OutlineLine.plain,
      Label.text_plain, Statement.outlineAll_eq_lines scope (depth + 1) statements]

/-- The outline of a branch reads as the lines of its entry. -/
theorem Block.outlineBranch_eq_lines (scope : Scope) (depth : Nat) (title : String) :
    (b : Option Block) → (Block.outlineBranch scope depth title b).map OutlineLine.plain =
      OutlineEntry.linesAll depth (Block.branchEntry scope title b)
  | none => rfl
  | some b => by
    simp [Block.outlineBranch, Block.branchEntry, OutlineEntry.linesAll, OutlineEntry.lines,
      OutlineLine.plain, b.outline_eq_lines scope (depth + 1)]

end

mutual

/-- A normal form has the same outline. -/
theorem Statement.outline_normal (scope : Scope) (depth : Nat) : (s : Statement) →
    s.normal.outline scope depth = s.outline scope depth
  | .conditional condition thenBlock elseBlock => by
    rw [Statement.normal, Statement.outline, Statement.outline, Expression.outlineOption_normal,
      Block.outlineBranch_normal scope depth "Then" thenBlock,
      Block.outlineBranch_normal scope depth "Else" elseBlock]
  | .returning value => by
    rw [Statement.normal, Statement.outline, Statement.outline, Expression.outlineOption_normal]

/-- Normal forms have the same outlines. -/
theorem Statement.outlineAll_normal (scope : Scope) (depth : Nat) : (ss : List Statement) →
    Statement.outlineAll scope depth (Statement.normalAll ss) =
      Statement.outlineAll scope depth ss
  | [] => rfl
  | s :: ss => by
    rw [Statement.normalAll, Statement.outlineAll, Statement.outlineAll,
      s.outline_normal scope depth, Statement.outlineAll_normal scope depth ss]

/-- A normal form has the same outline. -/
theorem Block.outline_normal (scope : Scope) (depth : Nat) : (b : Block) →
    b.normal.outline scope depth = b.outline scope depth
  | .mk statements => by
    rw [Block.normal, Block.outline, Block.outline,
      Statement.outlineAll_normal scope (depth + 1) statements]

/-- The normal form of a branch has the same outline. -/
theorem Block.outlineBranch_normal (scope : Scope) (depth : Nat) (title : String) :
    (b : Option Block) → Block.outlineBranch scope depth title (Block.normalOption b) =
      Block.outlineBranch scope depth title b
  | none => rfl
  | some b => by
    rw [Block.normalOption, Block.outlineBranch, Block.outlineBranch,
      b.outline_normal scope (depth + 1)]

end

/-- The entries begin no branch: the first of them, if there is one, opens a statement. -/
def OpensStatement (es : List OutlineEntry) : Prop :=
  ∀ e ∈ es.head?, e.label = "If" ∨ e.label = "Return"

/-- The entries of statements begin no branch. -/
theorem Statement.opensStatement_entriesAll (scope : Scope) (ss : List Statement) :
    OpensStatement (Statement.entriesAll scope ss) := by
  intro e he
  cases ss with
  | nil => simp [entriesAll] at he
  | cons s ss =>
    cases s with
    | conditional condition thenBlock elseBlock =>
      obtain rfl : _ = e := by simpa [entriesAll, entries] using he
      exact .inl rfl
    | returning value =>
      obtain rfl : _ = e := by simpa [entriesAll, entries] using he
      exact .inr rfl

/-- A branch is there if its title is, so that a branch that may be absent and the entries after
it are given by all of them, if those after it do not begin with the same title. -/
theorem Block.branchEntry_append_inj {scope : Scope} {title : String} {a b : Option Block}
    {rest rest' : List OutlineEntry} (hrest : ∀ e ∈ rest.head?, e.label ≠ title)
    (hrest' : ∀ e ∈ rest'.head?, e.label ≠ title)
    (h : Block.branchEntry scope title a ++ rest = Block.branchEntry scope title b ++ rest') :
    a.map (Block.entry scope) = b.map (Block.entry scope) ∧ rest = rest' := by
  cases a with
  | none =>
    cases b with
    | none => exact ⟨rfl, h⟩
    | some b =>
      exact absurd rfl
        (hrest (.mk title [b.entry scope]) (by simp [show rest = _ from h, branchEntry]))
  | some a =>
    cases b with
    | none =>
      exact absurd rfl
        (hrest' (.mk title [a.entry scope]) (by simp [show rest' = _ from h.symm, branchEntry]))
    | some b => simpa [branchEntry] using h

/-- The entries of the branches of a choice and of what follows it give both branches and what
follows it: a branch that is absent is told from one that is there by the title of what comes
next. -/
theorem Block.branchEntries_append_inj {scope : Scope} {a b x y : Option Block}
    {rest rest' : List OutlineEntry} (hrest : OpensStatement rest) (hrest' : OpensStatement rest')
    (h : Block.branchEntry scope "Then" a ++ Block.branchEntry scope "Else" b ++ rest =
      Block.branchEntry scope "Then" x ++ Block.branchEntry scope "Else" y ++ rest') :
    a.map (Block.entry scope) = x.map (Block.entry scope) ∧
      b.map (Block.entry scope) = y.map (Block.entry scope) ∧ rest = rest' := by
  have helse {es : List OutlineEntry} (hes : OpensStatement es) :
      ∀ e ∈ es.head?, e.label ≠ "Else" := by
    intro e he
    rcases hes e he with hlabel | hlabel <;> rw [hlabel] <;> decide
  have hthen {es : List OutlineEntry} (hes : OpensStatement es) (b : Option Block) :
      ∀ e ∈ (Block.branchEntry scope "Else" b ++ es).head?, e.label ≠ "Then" := by
    intro e he
    cases b with
    | none => rcases hes e he with hlabel | hlabel <;> rw [hlabel] <;> decide
    | some b =>
      obtain rfl : .mk "Else" [b.entry scope] = e := by simpa [branchEntry] using he
      simp [OutlineEntry.label]
  rw [List.append_assoc, List.append_assoc] at h
  obtain ⟨ha, hafter⟩ := branchEntry_append_inj (hthen hrest b) (hthen hrest' y) h
  exact ⟨ha, branchEntry_append_inj (helse hrest) (helse hrest') hafter⟩

/-- The entry of an expression that may be absent determines its normal form. -/
theorem Expression.map_normal_eq {scope : Scope} (h : scope.Distinctive) {d e : Option Expression}
    (heq : d.toList.map (Expression.entry scope) = e.toList.map (Expression.entry scope)) :
    d.map Expression.normal = e.map Expression.normal :=
  option_map_eq_map_of_forall (fun d _ e _ => (Term.normal_eq_of_entry_eq h).2 d e) heq

mutual

/-- A statement in normal form and the entries after its own are given by all of them. -/
theorem Statement.entries_append_inj {scope : Scope} (h : scope.Distinctive) :
    (s t : Statement) → {rest rest' : List OutlineEntry} → OpensStatement rest →
      OpensStatement rest' → s.entries scope ++ rest = t.entries scope ++ rest' →
      s.normal = t.normal ∧ rest = rest'
  | .conditional c a b, .conditional d x y, rest, rest', hrest, hrest', heq => by
    rw [Statement.entries, Statement.entries, List.cons_append, List.cons_append,
      List.cons.injEq, OutlineEntry.mk.injEq] at heq
    obtain ⟨⟨-, hcondition⟩, hbranches⟩ := heq
    obtain ⟨hthen, helse, hafter⟩ := Block.branchEntries_append_inj hrest hrest' hbranches
    rw [Statement.normal, Statement.normal, Expression.map_normal_eq h hcondition,
      Block.normalOption_eq_of_map_entry_eq h a x hthen,
      Block.normalOption_eq_of_map_entry_eq h b y helse]
    exact ⟨rfl, hafter⟩
  | .returning d, .returning e, rest, rest', _, _, heq => by
    rw [Statement.entries, Statement.entries, List.cons_append, List.cons_append,
      List.cons.injEq, OutlineEntry.mk.injEq] at heq
    obtain ⟨⟨-, hvalue⟩, hafter⟩ := heq
    rw [Statement.normal, Statement.normal, Expression.map_normal_eq h hvalue]
    exact ⟨rfl, hafter⟩
  | .conditional .., .returning _, _, _, _, _, heq => by
    simp [Statement.entries] at heq
  | .returning _, .conditional .., _, _, _, _, heq => by
    simp [Statement.entries] at heq

/-- Statements in normal form are given by their entries. -/
theorem Statement.normalAll_eq_of_entriesAll_eq {scope : Scope} (h : scope.Distinctive) :
    (ss ts : List Statement) →
      Statement.entriesAll scope ss = Statement.entriesAll scope ts →
      Statement.normalAll ss = Statement.normalAll ts
  | [], [], _ => rfl
  | [], t :: _, heq => by cases t <;> simp [Statement.entriesAll, Statement.entries] at heq
  | s :: _, [], heq => by cases s <;> simp [Statement.entriesAll, Statement.entries] at heq
  | s :: ss, t :: ts, heq => by
    obtain ⟨hhead, htail⟩ := Statement.entries_append_inj h s t
      (Statement.opensStatement_entriesAll scope ss)
      (Statement.opensStatement_entriesAll scope ts) heq
    rw [Statement.normalAll, Statement.normalAll, hhead,
      Statement.normalAll_eq_of_entriesAll_eq h ss ts htail]

/-- A block in normal form is given by its entry. -/
theorem Block.normal_eq_of_entry_eq {scope : Scope} (h : scope.Distinctive) :
    (a b : Block) → a.entry scope = b.entry scope → a.normal = b.normal
  | .mk ss, .mk ts, heq => by
    rw [Block.entry, Block.entry, OutlineEntry.mk.injEq] at heq
    rw [Block.normal, Block.normal, Statement.normalAll_eq_of_entriesAll_eq h ss ts heq.2]

/-- A block in normal form that may be absent is given by its entry. -/
theorem Block.normalOption_eq_of_map_entry_eq {scope : Scope} (h : scope.Distinctive) :
    (a b : Option Block) → a.map (Block.entry scope) = b.map (Block.entry scope) →
      Block.normalOption a = Block.normalOption b
  | none, none, _ => rfl
  | none, some _, heq => by simp at heq
  | some _, none, heq => by simp at heq
  | some a, some b, heq => by
    rw [Block.normalOption, Block.normalOption,
      Block.normal_eq_of_entry_eq h a b (Option.some.inj heq)]

end

/-- All labels of an expression that may be absent are legible. -/
theorem Expression.legible_outlineOption {scope : Scope} (h : scope.Distinctive) (depth : Nat)
    (e : Option Expression) :
    ∀ l ∈ Expression.outlineOption scope depth e, Legible l.label.text := by
  cases e with
  | none => simp [outlineOption]
  | some e => exact (Term.legible_outline h).2 e depth

mutual

/-- All labels of a statement are legible. -/
theorem Statement.legible_outline {scope : Scope} (h : scope.Distinctive) (depth : Nat) :
    (s : Statement) → ∀ l ∈ s.outline scope depth, Legible l.label.text
  | .conditional condition thenBlock elseBlock => by
    rw [Statement.outline, List.forall_mem_cons, List.forall_mem_append, List.forall_mem_append]
    exact ⟨Label.legible_plain (by decide),
      ⟨Expression.legible_outlineOption h (depth + 1) condition,
        Block.legible_outlineBranch h depth (by decide) thenBlock⟩,
      Block.legible_outlineBranch h depth (by decide) elseBlock⟩
  | .returning value => by
    rw [Statement.outline, List.forall_mem_cons]
    exact ⟨Label.legible_plain (by decide),
      Expression.legible_outlineOption h (depth + 1) value⟩

/-- All labels of statements are legible. -/
theorem Statement.legible_outlineAll {scope : Scope} (h : scope.Distinctive) (depth : Nat) :
    (ss : List Statement) → ∀ l ∈ Statement.outlineAll scope depth ss, Legible l.label.text
  | [] => by simp [Statement.outlineAll]
  | s :: ss => by
    rw [Statement.outlineAll, List.forall_mem_append]
    exact ⟨s.legible_outline h depth, Statement.legible_outlineAll h depth ss⟩

/-- All labels of a block are legible. -/
theorem Block.legible_outline {scope : Scope} (h : scope.Distinctive) (depth : Nat) :
    (b : Block) → ∀ l ∈ b.outline scope depth, Legible l.label.text
  | .mk statements => by
    rw [Block.outline, List.forall_mem_cons]
    exact ⟨Label.legible_plain (by decide),
      Statement.legible_outlineAll h (depth + 1) statements⟩

/-- All labels of a branch under a legible title are legible. -/
theorem Block.legible_outlineBranch {scope : Scope} (h : scope.Distinctive) (depth : Nat)
    {title : String} (htitle : Legible title) :
    (b : Option Block) → ∀ l ∈ Block.outlineBranch scope depth title b, Legible l.label.text
  | none => by simp [Block.outlineBranch]
  | some b => by
    rw [Block.outlineBranch, List.forall_mem_cons]
    exact ⟨Label.legible_plain htitle, b.legible_outline h (depth + 1)⟩

end

end FrontEnd
