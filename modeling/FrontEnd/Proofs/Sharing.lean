import FrontEnd.Proofs.Lookup
import Mathlib.Data.Finset.Card
import Mathlib.Data.Finset.Range
import Mathlib.Logic.Relation
import Mathlib.Tactic.IntervalCases

/-!
# Shared nodes

Nodes are shared by reference, so an edit may be seen in many places. The value of a node consists
of its own data and the values of the nodes that it refers to, and is read to a depth that no chain
of references exceeds if none comes back to where it began. So the value depends on the cells below
the node and on no others: an edit is seen exactly through the places that the edited node is
attached to, and to create a node changes no value.
-/

namespace FrontEnd

namespace Node

/-- The term, if the node is one. -/
def term? : Node → Option Term
  | term t => some t
  | _ => none

/-- The expression, if the node is one. -/
def expression? : Node → Option Expression
  | expression e => some e
  | _ => none

/-- The statement, if the node is one. -/
def statement? : Node → Option Statement
  | statement s => some s
  | _ => none

/-- The block, if the node is one. -/
def block? : Node → Option Block
  | block b => some b
  | _ => none

/-- The function, if the node is one. -/
def function? : Node → Option FunctionDefinition
  | function f => some f
  | _ => none

end Node

namespace Cell

/-- The node that a cell stands for when the cells that it refers to have these values. -/
def node (value : Ref → Option Node) : Cell → Node
  | constant v => .term (.constant v)
  | parameter i => .term (.parameter i)
  | call target arguments =>
    .term (.call target (arguments.filterMap fun r => (value r).bind Node.expression?))
  | expression first second op =>
    .expression (.mk (first.bind fun r => (value r).bind Node.term?)
      (second.bind fun r => (value r).bind Node.term?) op)
  | conditional condition thenBlock elseBlock =>
    .statement (.conditional (condition.bind fun r => (value r).bind Node.expression?)
      (thenBlock.bind fun r => (value r).bind Node.block?)
      (elseBlock.bind fun r => (value r).bind Node.block?))
  | returning v => .statement (.returning (v.bind fun r => (value r).bind Node.expression?))
  | block statements => .block (.mk (statements.filterMap fun r => (value r).bind Node.statement?))
  | function name attributes parameters body =>
    .function ⟨name, attributes, parameters, body.bind fun r => (value r).bind Node.block?⟩

/-- What a cell stands for depends on the values of the cells that it refers to. -/
theorem node_congr {cell : Cell} {value value' : Ref → Option Node}
    (h : ∀ n ∈ cell.children, value n = value' n) : cell.node value = cell.node value' := by
  have hoption {α : Type} (get : Node → Option α) {field : Option Ref}
      (hfield : ∀ n ∈ field.toList, value n = value' n) :
      (field.bind fun r => (value r).bind get) = field.bind fun r => (value' r).bind get := by
    cases field with
    | none => rfl
    | some n => simp [hfield n (by simp)]
  have hlist {α : Type} (get : Node → Option α) {field : List Ref}
      (hfield : ∀ n ∈ field, value n = value' n) :
      (field.filterMap fun r => (value r).bind get) =
        field.filterMap fun r => (value' r).bind get :=
    List.filterMap_congr fun n hn => by rw [hfield n hn]
  cases cell with
  | constant | parameter => rfl
  | call target arguments =>
    simp only [children] at h
    simp only [node, hlist _ h]
  | expression first second op =>
    simp only [children, List.mem_append] at h
    simp only [node, hoption _ fun n hn => h n (.inl hn), hoption _ fun n hn => h n (.inr hn)]
  | conditional condition thenBlock elseBlock =>
    simp only [children, List.mem_append] at h
    simp only [node, hoption _ fun n hn => h n (.inl (.inl hn)),
      hoption _ fun n hn => h n (.inl (.inr hn)), hoption _ fun n hn => h n (.inr hn)]
  | returning v => simp only [node, hoption _ h]
  | block statements =>
    simp only [children] at h
    simp only [node, hlist _ h]
  | function name attributes parameters body => simp only [node, hoption _ h]

end Cell

namespace Assembly

/-! ## Reading nodes of all sorts alike -/

/-- The node in a cell, read to a depth. -/
def nodeAt (cells : Array Cell) : Nat → Ref → Option Node
  | 0, _ => none
  | depth + 1, r => cells[r]?.map (Cell.node (nodeAt cells depth))

variable {cells cells' : Array Cell}

/-- Terms and expressions are the nodes of these sorts. -/
theorem nodeAt_bind_term (cells : Array Cell) (depth : ℕ) :
    (∀ r, (nodeAt cells depth r).bind Node.term? = termAt cells depth r) ∧
      ∀ r, (nodeAt cells depth r).bind Node.expression? = expressionAt cells depth r := by
  induction depth with
  | zero => exact ⟨fun r => by simp [nodeAt, termAt], fun r => by simp [nodeAt, expressionAt]⟩
  | succ depth ih =>
    refine ⟨fun r => ?_, fun r => ?_⟩
    · rw [nodeAt, termAt]
      rcases cells[r]? with - | cell
      · rfl
      · cases cell <;> simp [Cell.node, Node.term?, ih.2]
    · rw [nodeAt, expressionAt]
      rcases cells[r]? with - | cell
      · rfl
      · cases cell <;> simp [Cell.node, Node.expression?, ih.1]

/-- Statements and blocks are the nodes of these sorts. -/
theorem nodeAt_bind_statement (cells : Array Cell) (depth : ℕ) :
    (∀ r, (nodeAt cells depth r).bind Node.statement? = statementAt cells depth r) ∧
      ∀ r, (nodeAt cells depth r).bind Node.block? = blockAt cells depth r := by
  induction depth with
  | zero => exact ⟨fun r => by simp [nodeAt, statementAt], fun r => by simp [nodeAt, blockAt]⟩
  | succ depth ih =>
    have hexpression := (nodeAt_bind_term cells depth).2
    refine ⟨fun r => ?_, fun r => ?_⟩
    · rw [nodeAt, statementAt]
      rcases cells[r]? with - | cell
      · rfl
      · cases cell <;> simp [Cell.node, Node.statement?, ih.2, hexpression]
    · rw [nodeAt, blockAt]
      rcases cells[r]? with - | cell
      · rfl
      · cases cell <;> simp [Cell.node, Node.block?, ih.1]

/-- A function is read one step deeper than other nodes. -/
theorem nodeAt_bind_function (cells : Array Cell) (r : Ref) :
    (nodeAt cells (cells.size + 1) r).bind Node.function? = functionAt cells r := by
  rw [nodeAt, functionAt]
  rcases cells[r]? with - | cell
  · rfl
  · cases cell <;> simp [Cell.node, Node.function?, (nodeAt_bind_statement cells cells.size).2]

/-- The value of a node is read to a depth of at least the number of nodes. -/
theorem exists_value?_eq (a : Assembly) (r : Ref) :
    ∃ d, a.cells.size ≤ d ∧ a.value? r = nodeAt a.cells d r := by
  cases hcell : a.cells[r]? with
  | none => exact ⟨a.cells.size + 1, Nat.le_succ _, by simp [value?, nodeAt, hcell]⟩
  | some cell =>
    obtain ⟨k, hk⟩ : ∃ k, a.cells.size = k + 1 :=
      ⟨a.cells.size - 1, by have := (Array.getElem?_eq_some_iff.1 hcell).1; omega⟩
    have hnode (d : ℕ) : nodeAt a.cells (d + 1) r = some (cell.node (nodeAt a.cells d)) := by
      rw [nodeAt, hcell, Option.map_some]
    cases cell with
    | function =>
      refine ⟨a.cells.size + 1, Nat.le_succ _, ?_⟩
      simp [value?, hcell, ← nodeAt_bind_function, hnode, Cell.node, Node.function?]
    | constant | parameter | call | expression =>
      refine ⟨a.cells.size, le_rfl, ?_⟩
      simp [value?, hcell, ← (nodeAt_bind_term _ _).1, ← (nodeAt_bind_term _ _).2, hk, hnode,
        Cell.node, Node.term?, Node.expression?]
    | conditional | returning | block =>
      refine ⟨a.cells.size, le_rfl, ?_⟩
      simp [value?, hcell, ← (nodeAt_bind_statement _ _).1, ← (nodeAt_bind_statement _ _).2, hk,
        hnode, Cell.node, Node.statement?, Node.block?]

/-- The function in a cell is its value, if that is a function. -/
theorem functionAt_eq (a : Assembly) (r : Ref) :
    functionAt a.cells r = (a.value? r).bind Node.function? := by
  rw [value?]
  cases hcell : a.cells[r]? with
  | none => simp [functionAt, hcell]
  | some cell =>
    cases cell <;>
      simp [functionAt, hcell, Option.bind_map, Function.comp_def, Node.function?]

/-! ## References -/

/-- A cell refers to another. -/
def Refers (cells : Array Cell) (m n : Ref) : Prop :=
  ∃ cell, cells[m]? = some cell ∧ n ∈ cell.children

/-- A cell is another one or leads to it by references. -/
def Leads (cells : Array Cell) : Ref → Ref → Prop := Relation.ReflTransGen (Refers cells)

/-- References never lead back to where they began. -/
def Acyclic (a : Assembly) : Prop := ∀ m, ¬ Relation.TransGen (Refers a.cells) m m

/-- References lead to nodes. -/
theorem Sound.lt_of_leads {a : Assembly} (h : a.Sound) {m n : Ref} (hm : m < a.cells.size)
    (hleads : Leads a.cells m n) : n < a.cells.size := by
  induction hleads with
  | refl => exact hm
  | tail _ hrefers _ =>
    obtain ⟨cell, hcell, hn⟩ := hrefers
    exact h.children_lt _ cell hcell _ hn

/-- References that lead only to nodes created later never lead back. -/
theorem acyclic_of_lt {a : Assembly} (h : ∀ m n, Refers a.cells m n → m < n) : a.Acyclic := by
  intro m hcycle
  have hlt : ∀ n, Relation.TransGen (Refers a.cells) m n → m < n := fun n hn => by
    induction hn with
    | single hm => exact h _ _ hm
    | tail _ hn ih => exact ih.trans (h _ _ hn)
  exact Nat.lt_irrefl m (hlt m hcycle)

/-- The number of nodes below a node. -/
noncomputable def countBelow (cells : Array Cell) (r : Ref) : ℕ :=
  open Classical in
  ((Finset.range cells.size).filter fun n => Relation.TransGen (Refers cells) r n).card

section Depth

variable {a : Assembly} (hacyclic : a.Acyclic)
include hacyclic

/-- A node below another one has fewer nodes below it. -/
theorem countBelow_lt (h : a.Sound) {m n : Ref} (hrefers : Refers a.cells m n) :
    countBelow a.cells n < countBelow a.cells m := by
  classical
  obtain ⟨cell, hcell, hmem⟩ := hrefers
  have hn : n < a.cells.size := h.children_lt m cell hcell n hmem
  refine Finset.card_lt_card ⟨fun r hr => ?_, fun hsub => ?_⟩
  · simp only [Finset.mem_filter] at hr ⊢
    exact ⟨hr.1, .head ⟨cell, hcell, hmem⟩ hr.2⟩
  · have hself := hsub (Finset.mem_filter.2 ⟨Finset.mem_range.2 hn, .single ⟨cell, hcell, hmem⟩⟩)
    exact hacyclic n (Finset.mem_filter.1 hself).2

/-- There are fewer nodes below a node than there are nodes. -/
theorem countBelow_lt_size {r : Ref} (hr : r < a.cells.size) :
    countBelow a.cells r < a.cells.size := by
  classical
  have hproper : (Finset.range a.cells.size).filter
      (fun n => Relation.TransGen (Refers a.cells) r n) ⊂ Finset.range a.cells.size :=
    Finset.filter_ssubset.2 ⟨r, Finset.mem_range.2 hr, hacyclic r⟩
  simpa [countBelow] using Finset.card_lt_card hproper

/-- **The value of a node is given by the cells that it leads to.** If these are the same in
another store, the node is read alike there, to any two depths beyond the number of nodes below
it. -/
theorem nodeAt_eq (h : a.Sound) {cells' : Array Cell} {d d' : ℕ} {r : Ref}
    (hsame : ∀ n, Leads a.cells r n → cells'[n]? = a.cells[n]?)
    (hd : countBelow a.cells r < d) (hd' : countBelow a.cells r < d') :
    nodeAt cells' d' r = nodeAt a.cells d r := by
  -- A reference leads to fewer nodes below, so both depths stay beyond their number.
  induction d generalizing d' r with
  | zero => omega
  | succ d ih =>
    obtain ⟨d', rfl⟩ : ∃ k, d' = k + 1 := ⟨d' - 1, by omega⟩
    rw [nodeAt, nodeAt, hsame r .refl]
    cases hcell : a.cells[r]? with
    | none => rfl
    | some cell =>
      rw [Option.map_some, Option.map_some, Option.some.injEq]
      refine Cell.node_congr fun n hn => ?_
      have hrefers : Refers a.cells r n := ⟨cell, hcell, hn⟩
      have hlt := countBelow_lt hacyclic h hrefers
      exact ih (fun m hm => hsame m (.head hrefers hm)) (by omega) (by omega)

/-- The value of a node is given by the cells that it leads to. -/
theorem value?_eq_of_same (h : a.Sound) {b : Assembly} {r : Ref}
    (hsize : a.cells.size ≤ b.cells.size)
    (hsame : ∀ n, Leads a.cells r n → b.cells[n]? = a.cells[n]?) : b.value? r = a.value? r := by
  obtain ⟨d, hd, ha⟩ := exists_value?_eq a r
  obtain ⟨d', hd', hb⟩ := exists_value?_eq b r
  by_cases hr : r < a.cells.size
  · have hcount := countBelow_lt_size hacyclic hr
    rw [ha, hb]
    exact nodeAt_eq hacyclic h hsame (by omega) (by omega)
  · have hcell : a.cells[r]? = none := Array.getElem?_eq_none (Nat.le_of_not_lt hr)
    rw [value?, value?, hsame r .refl, hcell]

/-- **A node consists of its own data and the values of the nodes that it refers to.** -/
theorem value?_eq (h : a.Sound) (r : Ref) :
    a.value? r = a.cells[r]?.map (Cell.node a.value?) := by
  have hvalue (n : Ref) (depth : ℕ) (hn : n < a.cells.size) (hdepth : a.cells.size ≤ depth) :
      a.value? n = nodeAt a.cells depth n := by
    obtain ⟨d, hd, ha⟩ := exists_value?_eq a n
    have hcount := countBelow_lt_size hacyclic hn
    rw [ha]
    exact nodeAt_eq hacyclic h (fun _ _ => rfl) (by omega) (by omega)
  cases hcell : a.cells[r]? with
  | none => simp [value?, hcell]
  | some cell =>
    have hr := (Array.getElem?_eq_some_iff.1 hcell).1
    rw [hvalue r _ hr (Nat.le_succ _), nodeAt, hcell, Option.map_some, Option.map_some,
      Option.some.injEq]
    exact Cell.node_congr fun n hn => (hvalue n _ (h.children_lt r cell hcell n hn) le_rfl).symm

end Depth

/-! ## What a request changes -/

/-- What a request may change. An edit changes its cell, and the values of nodes that lead to it. A
new node lies in a further cell and refers to nothing. A function becomes the last entry of the
table. A refusal changes nothing. -/
def Confined (a : Assembly) (request : Request) : Response → Assembly → Prop
  | .edited, b => ∃ n e, request = .edit n e ∧ b.entries = a.entries ∧
      b.cells[n]? = a.cells[n]?.bind (Cell.edit? · e) ∧
      (∀ m, m ≠ n → b.cells[m]? = a.cells[m]?) ∧
      ∀ m, b.value? m ≠ a.value? m → Leads a.cells m n
  | .created n, b => n = a.cells.size ∧ b.entries = a.entries ∧
      (∃ cell, cell.children = [] ∧ b.cells = a.cells.push cell) ∧
      ∀ m, m < n → b.value? m = a.value? m
  | .added index, b => index = a.entries.length ∧ b.cells = a.cells ∧
      ∃ r, request = .addFunction r ∧ b.entries = a.entries ++ [r] ∧ b.entry index = .ok r
  | .refused _, b => b = a
  | .impossible, b => b = a

/-- A request on a tree without cycles changes no more than it may. -/
theorem Step.confined {a b : Assembly} {request : Request} {response : Response}
    (hstep : a.Step request response b) (h : a.Sound) (hacyclic : a.Acyclic) :
    a.Confined request response b := by
  cases hstep with
  | @created _ cell hchildren =>
    refine ⟨rfl, rfl, ⟨cell, hchildren, rfl⟩, fun m hm =>
      value?_eq_of_same hacyclic h (by simp) fun k hk => ?_⟩
    rw [Array.getElem?_push, if_neg (Nat.ne_of_lt (h.lt_of_leads hm hk))]
  | @edited n e cell cell' hcell hedit hattached =>
    have hsame : ∀ m, m ≠ n → (a.cells.setIfInBounds n cell')[m]? = a.cells[m]? := fun m hm =>
      Array.getElem?_setIfInBounds_ne (Ne.symm hm)
    have hn := (Array.getElem?_eq_some_iff.1 hcell).1
    have hnew : (a.cells.setIfInBounds n cell')[n]? = a.cells[n]?.bind (Cell.edit? · e) := by
      rw [Array.getElem?_setIfInBounds_self, if_pos hn, hcell, Option.bind_some, hedit]
    refine ⟨n, e, rfl, rfl, hnew, hsame, fun m hm => ?_⟩
    by_contra hleads
    refine hm (value?_eq_of_same hacyclic h (by simp) fun k hk => hsame k ?_)
    rintro rfl
    exact hleads hk
  | @added r _ _ => exact ⟨rfl, rfl, r, rfl, rfl, FunctionTable.select_natCast (by simp)⟩
  | refused => exact rfl
  | impossible => exact rfl

/-- An index of the table denotes the same node, whatever is asked for. -/
theorem entry_after {a : Assembly} {index : Int} {r : Ref} (h : a.entry index = .ok r)
    (requests : List Request) : (a.after requests).entry index = .ok r := by
  rw [entry, FunctionTable.select_eq_ok_iff] at h ⊢
  obtain ⟨hindex, hr⟩ := h
  obtain ⟨hlt, rfl⟩ := List.getElem?_eq_some_iff.1 hr
  exact ⟨hindex, List.prefix_iff_getElem?.1 (a.prefix_entries_after requests) _ hlt⟩

end Assembly

open Assembly

/-- Two functions share a block, which is attached before it has a statement. -/
def sharedBody : List Request :=
  [.createFunction, .createFunction, .createBlock, .edit 0 (.setBody (some 2)),
    .edit 1 (.setBody (some 2)), .addFunction 0, .addFunction 1,
    .createStatement (.statement .returning)]

/-- **A change is seen through references and nowhere else.** If after some requests no reference
leads back to where it began, every node consists of its own data and the values of the nodes that
it refers to, and the table shows the value of each entry. A further request changes the values of
those nodes only that lead to the edited one; to create a node, or to be refused, changes none. An
index of the table denotes the same node ever after. -/
theorem changes_confined (requests : List Request)
    (h : (Assembly.empty.after requests).Acyclic) :
    let a := Assembly.empty.after requests
    (∀ m, a.value? m = a.cells[m]?.map (Cell.node a.value?)) ∧
      a.entries.map (fun r => (a.value? r).bind Node.function?) = a.table.functions.map some ∧
      (∀ request, a.Confined request (a.perform request).1 (a.perform request).2) ∧
      ∀ more index r, a.entry index = .ok r → (a.after more).entry index = .ok r := by
  intro a
  have hsound : a.Sound := sound_empty.after requests
  refine ⟨value?_eq h hsound, ?_, fun request => (a.step_perform request).confined hsound h,
    fun more index r hentry => entry_after hentry more⟩
  rw [← hsound.map_entries]
  exact List.map_congr_left fun r _ => (functionAt_eq a r).symm

/-- A statement that is appended to a shared block is seen in both functions, and is itself as
before. -/
theorem changes_confined_sharedBody :
    (Assembly.empty.after sharedBody).Acyclic ∧
      let b := (Assembly.empty.after sharedBody).after [.edit 2 (.addStatement 3)]
      b.table.functions.map FunctionDefinition.body =
          [some (.mk [.returning none]), some (.mk [.returning none])] ∧
        b.value? 3 = (Assembly.empty.after sharedBody).value? 3 := by
  have hcells : (Assembly.empty.after sharedBody).cells =
      #[.function "" [] [] (some 2), .function "" [] [] (some 2), .block [], .returning none] := rfl
  have hrefers : ∀ m n, Refers (Assembly.empty.after sharedBody).cells m n → m < 2 ∧ n = 2 := by
    rintro m n ⟨cell, hcell, hn⟩
    have hm : m < 4 := (Array.getElem?_eq_some_iff.1 hcell).1
    rw [hcells] at hcell
    interval_cases m <;> cases hcell <;> simp_all [Cell.children]
  have hacyclic : (Assembly.empty.after sharedBody).Acyclic :=
    acyclic_of_lt fun m n hmn => (hrefers m n hmn).2 ▸ (hrefers m n hmn).1
  refine ⟨hacyclic, rfl, ?_⟩
  obtain ⟨n, e, hrequest, -, -, -, hvalue⟩ :=
    (changes_confined sharedBody hacyclic).2.2.1 (.edit 2 (.addStatement 3))
  by_contra hchanged
  obtain rfl : 2 = n := by injection hrequest
  rcases Relation.ReflTransGen.cases_head (hvalue 3 hchanged) with heq | ⟨k, hk, -⟩
  · cases heq
  · exact absurd (hrefers 3 k hk).1 (by decide)

end FrontEnd
