import FrontEnd.Proofs.Readability

/-!
# What a dump shows

The dump of a program shows its normal form and nothing else: programs with the same normal form
have the same dump, and where names are distinctive words the dump tells the normal form. What was
written when a dump was cut off, at a line too deep for the stack or a number too long, is not its
text, and tells nothing about what would have come after.
-/

namespace FrontEnd

/-- All names in the table are words, no two functions have the same name, and no two parameters
of a function have. -/
structure FunctionTable.WellNamed (table : FunctionTable) : Prop where
  /-- So it is in each function. -/
  functions : ∀ f ∈ table.functions, f.WellNamed
  /-- No two functions have the same name. -/
  distinct : table.names.Nodup

/-- The names of well-named functions tell what they name. -/
theorem FunctionTable.WellNamed.distinctive {table : FunctionTable} (h : table.WellNamed) :
    Distinctive table.names where
  words w hw := by
    obtain ⟨f, hf, rfl⟩ := List.mem_map.mp hw
    exact (h.functions f hf).name
  distinct := h.distinct

/-- The names in a well-named function tell what they name. -/
theorem FunctionDefinition.WellNamed.scope {f : FunctionDefinition} (h : f.WellNamed)
    {names : List String} (hnames : Distinctive names) : Scope.Distinctive ⟨f.parameters, names⟩ :=
  ⟨h.parameters, hnames⟩

/-! ## Functions -/

/-- The entry of a function: its line, and below it the entry of its body. -/
def FunctionDefinition.entry (names : List String) (f : FunctionDefinition) : OutlineEntry :=
  .mk f.heading (f.body.toList.map (Block.entry ⟨f.parameters, names⟩))

/-- The outline of a function reads as the lines of its entry. -/
theorem FunctionDefinition.outline_eq_lines (names : List String) (f : FunctionDefinition) :
    (f.outline names).map OutlineLine.plain = (f.entry names).lines 1 := by
  obtain ⟨name, attributes, parameters, body⟩ := f
  cases body with
  | none => simp [outline, entry, OutlineEntry.lines, OutlineEntry.linesAll, OutlineLine.plain]
  | some body =>
    simp [outline, entry, OutlineEntry.lines, OutlineEntry.linesAll, OutlineLine.plain,
      Block.outline_eq_lines]

/-- A normal form has the same outline. -/
theorem FunctionDefinition.outline_normal (names : List String) (f : FunctionDefinition) :
    f.normal.outline names = f.outline names := by
  obtain ⟨name, attributes, parameters, body⟩ := f
  cases body with
  | none => rfl
  | some body => simp [outline, normal, heading, Block.outline_normal]

/-- A well-named function in normal form is given by its entry. -/
theorem FunctionDefinition.normal_eq_of_entry_eq {names : List String} (h : Distinctive names)
    {f g : FunctionDefinition} (hf : f.WellNamed) (hg : g.WellNamed)
    (heq : f.entry names = g.entry names) : f.normal = g.normal := by
  rw [entry, entry, OutlineEntry.mk.injEq] at heq
  obtain ⟨hheading, hbody⟩ := heq
  obtain ⟨hname, hparameters, hattributes⟩ := heading_inj hf hg hheading
  rw [hparameters] at hbody
  have hnormal : f.body.map Block.normal = g.body.map Block.normal :=
    option_map_eq_map_of_forall
      (fun a _ b _ => Block.normal_eq_of_entry_eq (hg.scope h) a b) hbody
  rw [normal, normal, hname, hparameters, hattributes, hnormal]

/-- All labels of a well-named function are legible. -/
theorem FunctionDefinition.legible_outline {names : List String} (h : Distinctive names)
    {f : FunctionDefinition} (hf : f.WellNamed) : ∀ l ∈ f.outline names, Legible l.label.text := by
  rw [outline, List.forall_mem_cons]
  refine ⟨Label.legible_plain (legible_heading hf), ?_⟩
  cases f.body with
  | none => simp
  | some body => exact body.legible_outline (hf.scope h) 2

/-! ## Tables -/

/-- The entries of the functions of a table. -/
def FunctionTable.entries (table : FunctionTable) : List OutlineEntry :=
  table.functions.map (FunctionDefinition.entry table.names)

/-- The outline of a table reads as a title and the lines of the entries of its functions. -/
theorem FunctionTable.outline_eq_lines (table : FunctionTable) :
    table.outline.map OutlineLine.plain =
      ⟨0, "SyntaxTree"⟩ :: OutlineEntry.linesAll 1 table.entries := by
  rw [outline, entries, OutlineEntry.linesAll_eq_flatMap, List.flatMap_map, List.map_cons,
    List.map_flatMap, List.flatMap_congr fun f _ => f.outline_eq_lines table.names,
    OutlineLine.plain, Label.text_plain]

/-- A normal form has the same outline. -/
theorem FunctionTable.outline_normal (table : FunctionTable) :
    table.normal.outline = table.outline := by
  rw [outline, names_normal, normal, List.flatMap_map, outline]
  exact congrArg _ (List.flatMap_congr fun f _ => f.outline_normal table.names)

/-- All labels of a well-named table are legible. -/
theorem FunctionTable.WellNamed.legible_outline {table : FunctionTable} (h : table.WellNamed) :
    ∀ l ∈ table.outline, Legible l.label.text := by
  rw [outline, List.forall_mem_cons]
  refine ⟨Label.legible_plain (by decide), fun l hl => ?_⟩
  obtain ⟨f, hf, hmem⟩ := List.mem_flatMap.mp hl
  exact FunctionDefinition.legible_outline h.distinctive (h.functions f hf) l hmem

/-- A function that returns a constant. -/
def constantTable (value : Int) : FunctionTable :=
  ⟨[⟨"f", [], [], some (.mk [.returning (some (.mk (some (.constant value)) none .none))])⟩]⟩

/-- Dumps that are cut off tell nothing about what comes after: constants that are too long to be
written cannot be told apart. -/
theorem FunctionTable.dump_constantTable_of_not_isShort {m n : Int} (hm : ¬Text.IsShort m)
    (hn : ¬Text.IsShort n) (deepest : Nat) :
    (constantTable m).dump deepest = (constantTable n).dump deepest := by
  have hwrite : OutlineLine.write deepest ⟨5, ⟨"Constant(", some m, ")"⟩⟩ =
      OutlineLine.write deepest ⟨5, ⟨"Constant(", some n, ")"⟩⟩ := by
    simp only [OutlineLine.write, Label.display, Text.numeral_of_not_isShort hm,
      Text.numeral_of_not_isShort hn]
  have houtline (value : Int) : (constantTable value).outline =
      [⟨0, .plain "SyntaxTree"⟩, ⟨1, .plain "Function f()"⟩, ⟨2, .plain "Block"⟩,
        ⟨3, .plain "Return"⟩, ⟨4, .plain "Expression"⟩, ⟨5, ⟨"Constant(", some value, ")"⟩⟩] := rfl
  simp only [dump, houtline, List.map_cons, List.map_nil, hwrite]

end FrontEnd
