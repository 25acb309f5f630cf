import FrontEnd.Proofs.Building
import FrontEnd.Proofs.CaseFold
import Mathlib.Order.Bounds.Basic

/-!
# Finding functions

The table does not copy names: it is searched by the names that its functions have when it is asked.
A name is found at the least index of a function whose name folds to the same text, and to fold a
text twice is to fold it once, so the case in which a name is asked for makes no difference. The
index for "not found" selects nothing, and a further function is found only by those names that were
not found before.
-/

namespace FrontEnd

open Unicode

namespace FunctionTable

variable {table : FunctionTable} {q : String} {i : ℕ}

/-- The first function of a name is the least one whose name folds to the same text. -/
theorem find?_eq_some_iff : table.find? q = some i ↔
    IsLeast {j | ∃ name, table.names[j]? = some name ∧ caseFold name = caseFold q} i := by
  rw [find?, List.findIdx?_eq_some_iff_getElem]
  constructor
  · rintro ⟨hi, hmatch, hbefore⟩
    refine ⟨⟨_, List.getElem?_eq_getElem hi, by simpa using hmatch⟩, fun j hj => ?_⟩
    obtain ⟨name, hname, hfold⟩ := hj
    obtain ⟨hlt, rfl⟩ := List.getElem?_eq_some_iff.1 hname
    by_contra hji
    exact hbefore j (by omega) (by simpa using hfold)
  · rintro ⟨⟨name, hname, hfold⟩, hleast⟩
    obtain ⟨hi, rfl⟩ := List.getElem?_eq_some_iff.1 hname
    refine ⟨hi, by simpa using hfold, fun j hj hmatch => ?_⟩
    have hle : i ≤ j := hleast
      ⟨_, List.getElem?_eq_getElem (by omega), by simpa using hmatch⟩
    omega

/-- A function is not found if no name folds to the same text. -/
theorem find?_eq_none_iff :
    table.find? q = none ↔ ∀ name ∈ table.names, caseFold name ≠ caseFold q := by
  simp [find?, List.findIdx?_eq_none_iff]

/-- The index is that of the function that is found. -/
theorem indexOf_eq_natCast_iff : table.indexOf q = i ↔ table.find? q = some i := by
  unfold indexOf notFound
  cases table.find? q with
  | none => simp
  | some j => simp only [Int.natCast_inj, Option.some.injEq]

/-- The index for "not found" is given if no function is found. -/
theorem indexOf_eq_notFound_iff : table.indexOf q = notFound ↔ table.find? q = none := by
  unfold indexOf notFound
  cases table.find? q with
  | none => simp
  | some j => simp

/-- Names that fold to the same text are found alike. -/
theorem indexOf_congr {q' : String} (h : caseFold q' = caseFold q) :
    table.indexOf q' = table.indexOf q := by
  simp only [indexOf, find?, h]

/-- A further function is found by a name that was not found before. -/
theorem find?_add (f : FunctionDefinition) : (table.add f).find? q =
    (table.find? q).or (if caseFold f.name = caseFold q then some table.size else none) := by
  simp only [find?, add, names, size, List.map_append, List.map_cons, List.map_nil,
    List.findIdx?_append, List.length_map]
  congr 1
  by_cases hfold : caseFold f.name = caseFold q <;> simp [hfold]

/-- An index that is not negative selects the item there, and no other selects any. -/
theorem select_eq_ok_iff {α : Type} {items : List α} {index : Int} {item : α} :
    select items index = .ok item ↔ 0 ≤ index ∧ items[index.toNat]? = some item := by
  by_cases hneg : index < 0
  · rw [select, if_pos hneg]
    cases Text.numeral index with
    | ok shown => simp [hneg]
    | error f => simp [hneg]
  · rw [select, if_neg hneg]
    cases items[index.toNat]? with
    | none => simp
    | some other => simp [Int.not_lt.1 hneg]

/-- An item of a list is selected by its index. -/
theorem select_natCast {α : Type} {items : List α} {item : α} (h : items[i]? = some item) :
    select items (i : Int) = .ok item :=
  select_eq_ok_iff.2 ⟨by omega, by rwa [Int.toNat_natCast]⟩

/-- The index for "not found" is refused, and shown. -/
theorem select_notFound {α : Type} (items : List α) :
    select items notFound = .error (.negative notFound) := by
  rw [select, if_pos (by decide), Text.numeral_of_isShort (Text.isShort_of_natAbs_lt (by decide))]

end FunctionTable

namespace Assembly

/-- The function at an index of the table has a name now that folds to the same text. -/
def Matches (a : Assembly) (q : String) (i : ℕ) : Prop :=
  ∃ r name, a.entries[i]? = some r ∧ a.nameOf? r = some name ∧ caseFold name = caseFold q

variable {a : Assembly}

/-- The name of a function that is read from a cell is the one that it has now. -/
theorem name_functionAt (a : Assembly) (r : Ref) :
    (functionAt a.cells r).map FunctionDefinition.name = a.nameOf? r := by
  rw [functionAt, nameOf?]
  cases a.cells[r]? with
  | none => rfl
  | some cell => cases cell <;> rfl

/-- A node with a name is a function. -/
theorem exists_functionAt {r : Ref} {name : String} (h : a.nameOf? r = some name) :
    ∃ f, functionAt a.cells r = some f ∧ f.name = name := by
  rw [← name_functionAt] at h
  exact Option.map_eq_some_iff.1 h

/-- The table shows the function of every entry and nothing else. -/
theorem Sound.map_entries (h : a.Sound) :
    a.entries.map (functionAt a.cells) = a.table.functions.map some := by
  have hentries := h.entries
  rw [table]
  generalize a.entries = entries at hentries ⊢
  induction entries with
  | nil => rfl
  | cons r entries ih =>
    obtain ⟨name, hname⟩ := hentries r List.mem_cons_self
    obtain ⟨f, hf, -⟩ := exists_functionAt hname
    rw [List.map_cons, List.filterMap_cons_some hf, List.map_cons, hf,
      ih fun r hr => hentries r (List.mem_cons_of_mem _ hr)]

/-- The table has as many functions as entries. -/
theorem Sound.size_table (h : a.Sound) : a.table.size = a.entries.length := by
  simpa [FunctionTable.size] using (congrArg List.length h.map_entries).symm

/-- The function at an index of the table is that of the entry there. -/
theorem Sound.functions_getElem? (h : a.Sound) (i : ℕ) :
    a.table.functions[i]? = a.entries[i]?.bind (functionAt a.cells) := by
  have hi : a.entries[i]?.map (functionAt a.cells) = a.table.functions[i]?.map some := by
    rw [← List.getElem?_map, ← List.getElem?_map, h.map_entries]
  cases hr : a.entries[i]? <;> cases hf : a.table.functions[i]? <;> rw [hr, hf] at hi
  · rfl
  · cases hi
  · cases hi
  · exact (Option.some.inj hi).symm

/-- The names in the table are those that the entries have now. -/
theorem Sound.names_getElem? (h : a.Sound) (i : ℕ) :
    a.table.names[i]? = a.entries[i]?.bind a.nameOf? := by
  rw [FunctionTable.names, List.getElem?_map, h.functions_getElem?]
  cases a.entries[i]? with
  | none => rfl
  | some r => exact a.name_functionAt r

/-- A name in the table folds to the same text if the entry there does. -/
theorem Sound.exists_names_iff (h : a.Sound) {q : String} {i : ℕ} :
    (∃ name, a.table.names[i]? = some name ∧ caseFold name = caseFold q) ↔ a.Matches q i := by
  simp only [h.names_getElem?, Option.bind_eq_some_iff, Matches]
  constructor
  · rintro ⟨name, ⟨r, hr, hname⟩, hfold⟩
    exact ⟨r, name, hr, hname, hfold⟩
  · rintro ⟨r, name, hr, hname, hfold⟩
    exact ⟨name, ⟨r, hr, hname⟩, hfold⟩

/-- A name is found at an index of the table if no function before it has that name. -/
theorem Sound.indexOf_eq_natCast_iff (h : a.Sound) {q : String} {i : ℕ} :
    a.table.indexOf q = i ↔ IsLeast {j | a.Matches q j} i := by
  simp only [FunctionTable.indexOf_eq_natCast_iff, FunctionTable.find?_eq_some_iff,
    h.exists_names_iff]

/-- A name is not found if no function of the table has it. -/
theorem Sound.indexOf_eq_notFound_iff (h : a.Sound) {q : String} :
    a.table.indexOf q = FunctionTable.notFound ↔ ∀ j, ¬ a.Matches q j := by
  simp only [FunctionTable.indexOf_eq_notFound_iff, FunctionTable.find?_eq_none_iff,
    ← h.exists_names_iff, List.mem_iff_getElem?]
  grind

/-- What is found is selected by its index, and has the name that was asked for. -/
theorem Sound.exists_get (h : a.Sound) {q : String}
    (hfound : a.table.indexOf q ≠ FunctionTable.notFound) :
    ∃ r f, a.entry (a.table.indexOf q) = .ok r ∧ functionAt a.cells r = some f ∧
      a.table.get (a.table.indexOf q) = .ok f ∧ caseFold f.name = caseFold q := by
  obtain ⟨i, hi⟩ : ∃ i, a.table.find? q = some i :=
    Option.ne_none_iff_exists'.1 (mt FunctionTable.indexOf_eq_notFound_iff.2 hfound)
  have hindex := FunctionTable.indexOf_eq_natCast_iff.2 hi
  obtain ⟨⟨r, name, hr, hname, hfold⟩, -⟩ := h.indexOf_eq_natCast_iff.1 hindex
  obtain ⟨f, hf, rfl⟩ := exists_functionAt hname
  refine ⟨r, f, ?_, hf, ?_, hfold⟩
  · rw [hindex]
    exact FunctionTable.select_natCast hr
  · rw [hindex]
    exact FunctionTable.select_natCast (by rw [h.functions_getElem?, hr, Option.bind_some, hf])

/-- A function becomes the last one of the table, which is otherwise as it was. -/
theorem table_append {r : Ref} {f : FunctionDefinition} (hf : functionAt a.cells r = some f) :
    ({ a with entries := a.entries ++ [r] } : Assembly).table = a.table.add f := by
  simp [table, FunctionTable.add, hf]

/-- A function is added behind the others. It is found by those names that it has and that were
not found before, and all that was found is found where it was. -/
theorem Sound.perform_addFunction (h : a.Sound) {r : Ref} {name : String}
    (hname : a.nameOf? r = some name) :
    ∃ b, a.perform (.addFunction r) = (.added a.table.size, b) ∧
      b.entries = a.entries ++ [r] ∧ b.cells = a.cells ∧
      ∀ q, b.table.indexOf q =
        if a.table.indexOf q = FunctionTable.notFound ∧ caseFold name = caseFold q
        then (a.table.size : Int) else a.table.indexOf q := by
  obtain ⟨f, hf, rfl⟩ := exists_functionAt hname
  refine ⟨{ a with entries := a.entries ++ [r] }, ?_, rfl, rfl, fun q => ?_⟩
  · obtain ⟨cell, hcell, hcellname⟩ := Option.bind_eq_some_iff.1 hname
    rw [h.size_table]
    cases cell with
    | function => simp [perform, addFunction?, hcell]
    | _ => simp [Cell.name?] at hcellname
  · simp only [table_append hf, FunctionTable.indexOf_eq_notFound_iff]
    unfold FunctionTable.indexOf
    rw [FunctionTable.find?_add]
    cases a.table.find? q with
    | some i => simp
    | none => by_cases hfold : caseFold f.name = caseFold q <;> simp [hfold]

/-- To name a function changes its name and no other one, and no entry of the table. -/
theorem perform_setName {r : Ref} {old : String} (hold : a.nameOf? r = some old) (name : String) :
    ∃ b, a.perform (.edit r (.setName name)) = (.edited, b) ∧ b.entries = a.entries ∧
      ∀ n, b.nameOf? n = if n = r then some name else a.nameOf? n := by
  obtain ⟨cell, hcell, hcellname⟩ := Option.bind_eq_some_iff.1 hold
  have hlt := (Array.getElem?_eq_some_iff.1 hcell).1
  cases cell with
  | function old attributes parameters body =>
    refine ⟨{ a with cells := a.cells.setIfInBounds r (.function name attributes parameters body) },
      by simp [perform, edit?, Edit.attached?, hcell, Cell.edit?], rfl, fun n => ?_⟩
    by_cases hn : n = r
    · subst hn
      simp [nameOf?, hlt, Cell.name?]
    · simp [nameOf?, hn, Ne.symm hn]
  | _ => simp [Cell.name?] at hcellname

end Assembly

open Assembly FunctionTable

/-- **Functions are found by the names that they have now.** After any requests the answer for a
name is the least index of a function whose name folds to the same text, and the index for "not
found" if there is none, so the case in which it is asked for makes no difference. The answer
selects a function of that name, or nothing. A function is added at the index that was the size of
the table, and is found only by names that were not found before. A function that gets a name has
it from then on, and the others keep theirs. -/
theorem lookup_follows_names (requests : List Request) :
    let a := Assembly.empty.after requests
    (∀ q, (∀ i : ℕ, a.table.indexOf q = i ↔ IsLeast {j | a.Matches q j} i) ∧
        (a.table.indexOf q = notFound ↔ ∀ j, ¬ a.Matches q j)) ∧
      (∀ q q', caseFold q' = caseFold q → a.table.indexOf q' = a.table.indexOf q) ∧
      (∀ q, caseFold (caseFold q) = caseFold q ∧
        a.table.indexOf (caseFold q) = a.table.indexOf q) ∧
      (∀ q, a.table.indexOf q ≠ notFound →
        ∃ r f, a.entry (a.table.indexOf q) = .ok r ∧ functionAt a.cells r = some f ∧
          a.table.get (a.table.indexOf q) = .ok f ∧ caseFold f.name = caseFold q) ∧
      (∀ q, a.table.indexOf q = notFound →
        a.entry (a.table.indexOf q) = .error (.negative notFound) ∧
          a.table.get (a.table.indexOf q) = .error (.negative notFound)) ∧
      (a.table.size = a.entries.length ∧
        ∀ r name, a.nameOf? r = some name →
          ∃ b, a.perform (.addFunction r) = (.added a.table.size, b) ∧
            b.entries = a.entries ++ [r] ∧ b.cells = a.cells ∧
            ∀ q, b.table.indexOf q =
              if a.table.indexOf q = notFound ∧ caseFold name = caseFold q
              then (a.table.size : Int) else a.table.indexOf q) ∧
      ∀ r old name, a.nameOf? r = some old →
        ∃ b, a.perform (.edit r (.setName name)) = (.edited, b) ∧ b.entries = a.entries ∧
          ∀ n, b.nameOf? n = if n = r then some name else a.nameOf? n := by
  intro a
  have hsound : a.Sound := sound_empty.after requests
  refine ⟨fun q => ⟨fun i => hsound.indexOf_eq_natCast_iff, hsound.indexOf_eq_notFound_iff⟩,
    fun q q' => indexOf_congr,
    fun q => ⟨caseFold_caseFold q, indexOf_congr (caseFold_caseFold q)⟩,
    fun q => hsound.exists_get, fun q hq => ?_,
    ⟨hsound.size_table, fun r name => hsound.perform_addFunction⟩,
    fun r old name hold => perform_setName hold name⟩
  rw [hq]
  exact ⟨select_notFound a.entries, select_notFound a.table.functions⟩

end FrontEnd
