import FrontEnd.Assembly

/-!
# Building a tree

A client creates nodes, changes parts of them and adds functions to the table, in any order. It can
name only nodes that there are, and change only parts that a node has. What one request can do to a
tree under construction is listed once, and all that holds after any requests follows from it: the
entries of the table are functions, nodes refer to nodes, and entries stay where they are.
-/

namespace FrontEnd

/-- The node that an edit attaches, if it attaches one. -/
def Edit.attached? : Edit → Option Ref
  | addArgument r | addStatement r => some r
  | setFirst r | setSecond r | setCondition r | setThen r | setElse r | setReturned r
  | setBody r => r
  | setValue _ | setIndex _ | setTarget _ | setOp _ | setName _ | addAttribute _
  | addParameter _ => none

/-- The name of a function under construction. -/
def Cell.name? : Cell → Option String
  | function name _ _ _ => some name
  | _ => none

/-- The name that an edit gives to a function. -/
def Edit.name? : Edit → Option String
  | setName name => some name
  | _ => none

namespace Cell

variable {cell cell' : Cell} {e : Edit}

/-- After an edit a node refers to the nodes that it referred to before, and to the one that was
attached. -/
theorem mem_children_of_edit? (h : cell.edit? e = some cell') {r : Ref} (hr : r ∈ cell'.children) :
    r ∈ cell.children ∨ e.attached? = some r := by
  fun_cases Cell.edit? cell e <;> simp only [Cell.edit?, Option.some.injEq, reduceCtorEq] at h <;>
    subst h <;> simp [children, Edit.attached?] at hr ⊢ <;> grind

/-- An edit makes nothing a function, and changes the name of one only if it gives it a name. -/
theorem name?_of_edit? (h : cell.edit? e = some cell') :
    cell'.name? = cell.name?.map fun name => e.name?.getD name := by
  fun_cases Cell.edit? cell e <;> simp only [Cell.edit?, Option.some.injEq, reduceCtorEq] at h <;>
    subst h <;> rfl

end Cell

namespace Assembly

/-- What a client asks for. -/
inductive Request where
  /-- A block without statements. -/
  | createBlock
  /-- An expression without terms. -/
  | createExpression
  /-- A function without name, parameters and body. -/
  | createFunction
  /-- A statement of the kind that a tag names. -/
  | createStatement (tag : Tag)
  /-- A term of the kind that a tag names. -/
  | createTerm (tag : Tag)
  /-- A change to one part of a node. -/
  | edit (r : Ref) (e : Edit)
  /-- A further entry of the table. -/
  | addFunction (r : Ref)

/-- What a client is answered. -/
inductive Response where
  /-- A node was created. -/
  | created (r : Ref)
  /-- No node was created. -/
  | refused (fault : CreationFault)
  /-- The part was changed. -/
  | edited
  /-- The function was added at an index. -/
  | added (index : Nat)
  /-- The request names a node or a part that there is not. -/
  | impossible

/-- The answer for a node that was created. -/
def Response.ofCreated (created : Ref × Assembly) : Response × Assembly :=
  (.created created.1, created.2)

/-- The answer to a request and the tree after it. -/
def perform (a : Assembly) : Request → Response × Assembly
  | .createBlock => Response.ofCreated a.createBlock
  | .createExpression => Response.ofCreated a.createExpression
  | .createFunction => Response.ofCreated a.createFunction
  | .createStatement tag =>
    match a.createStatement tag with
    | .ok created => Response.ofCreated created
    | .error fault => (.refused fault, a)
  | .createTerm tag =>
    match a.createTerm tag with
    | .ok created => Response.ofCreated created
    | .error fault => (.refused fault, a)
  | .edit r e =>
    if e.attached?.all (· < a.cells.size) then
      match a.edit? r e with
      | some b => (.edited, b)
      | none => (.impossible, a)
    else (.impossible, a)
  | .addFunction r =>
    match a.addFunction? r with
    | some (index, b) => (.added index, b)
    | none => (.impossible, a)

/-- The tree after requests, one after the other. -/
def after (a : Assembly) : List Request → Assembly
  | [] => a
  | request :: requests => (a.perform request).2.after requests

/-- The name that a node has now, if it is a function. -/
def nameOf? (a : Assembly) (r : Ref) : Option String := a.cells[r]?.bind Cell.name?

/-- All that a request can do. -/
inductive Step (a : Assembly) : Request → Response → Assembly → Prop
  /-- A new cell holds a node without parts. -/
  | created {request : Request} {cell : Cell} : cell.children = [] →
      Step a request (.created a.cells.size) { a with cells := a.cells.push cell }
  /-- A tag that names no kind of node is refused. -/
  | refused {request : Request} {fault : CreationFault} : Step a request (.refused fault) a
  /-- A node is changed in its cell. -/
  | edited {r : Ref} {e : Edit} {cell cell' : Cell} : a.cells[r]? = some cell →
      cell.edit? e = some cell' → (∀ n, e.attached? = some n → n < a.cells.size) →
      Step a (.edit r e) .edited { a with cells := a.cells.setIfInBounds r cell' }
  /-- A function becomes the last entry of the table. -/
  | added {r : Ref} {name : String} : a.nameOf? r = some name →
      Step a (.addFunction r) (.added a.entries.length) { a with entries := a.entries ++ [r] }
  /-- What names no node or no part changes nothing. -/
  | impossible {request : Request} : Step a request .impossible a

/-- A request does one of these. -/
theorem step_perform (a : Assembly) (request : Request) :
    a.Step request (a.perform request).1 (a.perform request).2 := by
  cases request with
  | createBlock => exact .created rfl
  | createExpression => exact .created rfl
  | createFunction => exact .created rfl
  | createStatement tag =>
    cases tag with
    | statement k => cases k <;> exact .created rfl
    | _ => exact .refused
  | createTerm tag =>
    cases tag with
    | term k => cases k <;> exact .created rfl
    | _ => exact .refused
  | edit r e =>
    rw [perform]
    split
    · next hattached =>
      cases hcell : a.cells[r]? with
      | none => simpa [edit?, hcell] using Step.impossible
      | some cell =>
        cases hedit : cell.edit? e with
        | none => simpa [edit?, hcell, hedit] using Step.impossible
        | some cell' =>
          simp only [edit?, hcell, hedit, Option.bind_eq_bind, Option.bind_some, pure]
          exact .edited hcell hedit fun n hn => by simpa [hn] using hattached
    · exact .impossible
  | addFunction r =>
    cases hcell : a.cells[r]? with
    | none => simpa [perform, addFunction?, hcell] using Step.impossible
    | some cell =>
      cases cell with
      | function name attributes parameters body =>
        have hname : a.nameOf? r = some name := by simp [nameOf?, hcell, Cell.name?]
        simp only [perform, addFunction?, hcell]
        exact .added hname
      | _ => simpa [perform, addFunction?, hcell] using Step.impossible

/-- What holds of a tree under construction, whatever was asked for. -/
structure Sound (a : Assembly) : Prop where
  /-- The entries of the table are functions. -/
  entries : ∀ r ∈ a.entries, ∃ name, a.nameOf? r = some name
  /-- Nodes refer to nodes. -/
  children_lt : ∀ (r : Ref) (cell : Cell), a.cells[r]? = some cell →
    ∀ n ∈ cell.children, n < a.cells.size

/-- Without nodes nothing is referred to. -/
theorem sound_empty : empty.Sound := ⟨by simp [empty], by simp [empty]⟩

namespace Step

variable {a b : Assembly} {request : Request} {response : Response}

/-- Cells stay, and there may be one more. -/
theorem size_le (h : a.Step request response b) : a.cells.size ≤ b.cells.size := by
  cases h <;> simp

/-- Entries stay where they are, and there may be one more behind them. -/
theorem prefix_entries (h : a.Step request response b) : a.entries <+: b.entries := by
  cases h with
  | added => exact List.prefix_append _ _
  | _ => exact List.prefix_refl _

/-- A function stays a function. -/
theorem exists_name (h : a.Step request response b) {r : Ref} {name : String}
    (hname : a.nameOf? r = some name) : ∃ name', b.nameOf? r = some name' := by
  obtain ⟨cell, hcell, hcellname⟩ := Option.bind_eq_some_iff.1 hname
  have hlt := (Array.getElem?_eq_some_iff.1 hcell).1
  cases h with
  | created _ =>
    refine ⟨name, ?_⟩
    simp [nameOf?, Array.getElem?_push, Nat.ne_of_lt hlt, hcell, hcellname]
  | @edited n e old new hold hedit _ =>
    by_cases hn : n = r
    · subst hn
      obtain rfl := Option.some.inj (hold.symm.trans hcell)
      have hnew := Cell.name?_of_edit? hedit
      rw [hcellname] at hnew
      exact ⟨_, by simp only [nameOf?, Array.getElem?_setIfInBounds_self, if_pos hlt]; exact hnew⟩
    · exact ⟨name, by rw [nameOf?, Array.getElem?_setIfInBounds_ne hn]; exact hname⟩
  | _ => exact ⟨name, hname⟩

/-- A request keeps a tree sound. -/
theorem sound (h : a.Step request response b) (ha : a.Sound) : b.Sound where
  entries := by
    intro r hr
    have hname : ∃ name, a.nameOf? r = some name := by
      cases h with
      | @added n name hadded =>
        rcases List.mem_append.1 hr with hr | hr
        · exact ha.entries r hr
        · exact ⟨name, List.mem_singleton.1 hr ▸ hadded⟩
      | _ => exact ha.entries r hr
    obtain ⟨name, hname⟩ := hname
    exact h.exists_name hname
  children_lt := by
    intro r cell hcell n hn
    refine Nat.lt_of_lt_of_le ?_ h.size_le
    cases h with
    | @created _ cell' hchildren =>
      rw [Array.getElem?_push] at hcell
      split at hcell
      · obtain rfl := Option.some.inj hcell
        simp [hchildren] at hn
      · exact ha.children_lt r cell hcell n hn
    | @edited m e old new hold hedit hattached =>
      by_cases hm : m = r
      · subst hm
        have hlt := (Array.getElem?_eq_some_iff.1 hold).1
        simp only [Array.getElem?_setIfInBounds_self, if_pos hlt, Option.some.injEq] at hcell
        rcases Cell.mem_children_of_edit? hedit (hcell ▸ hn) with hn | hn
        · exact ha.children_lt m old hold n hn
        · exact hattached n hn
      · rw [Array.getElem?_setIfInBounds_ne hm] at hcell
        exact ha.children_lt r cell hcell n hn
    | _ => exact ha.children_lt r cell hcell n hn

end Step

/-- Requests keep a tree sound. -/
theorem Sound.after {a : Assembly} (h : a.Sound) (requests : List Request) :
    (a.after requests).Sound := by
  induction requests generalizing a with
  | nil => exact h
  | cons request requests ih => exact ih ((a.step_perform request).sound h)

/-- Entries stay where they are, whatever is asked for. -/
theorem prefix_entries_after (a : Assembly) (requests : List Request) :
    a.entries <+: (a.after requests).entries := by
  induction requests generalizing a with
  | nil => exact List.prefix_refl _
  | cons request requests ih => exact (a.step_perform request).prefix_entries.trans (ih _)

end Assembly

end FrontEnd
