import FrontEnd.Tree.Outline

/-!
# Reading an outline back

An outline is written to its end if each of its lines can be written. Its text then determines its
lines, if no label begins with a space or contains a line feed. The lines determine how the labels
are nested: what stands below a line is what follows it and is further in. Both readings cut a list
after its longest beginning of some sort.
-/

namespace FrontEnd

/-- Where a list begins with a run of items with a property and goes on with none of them, the
run and what follows are given by the list. -/
theorem run_append_inj {α : Type} {p : α → Prop} {run run' rest rest' : List α}
    (hrun : ∀ a ∈ run, p a) (hrun' : ∀ a ∈ run', p a)
    (hrest : ∀ a ∈ rest.head?, ¬p a) (hrest' : ∀ a ∈ rest'.head?, ¬p a)
    (h : run ++ rest = run' ++ rest') : run = run' ∧ rest = rest' := by
  induction run generalizing run' with
  | nil =>
    cases run' with
    | nil => exact ⟨rfl, h⟩
    | cons a run' =>
      have ha : rest.head? = some a := by simp [show rest = a :: (run' ++ rest') from h]
      exact absurd (hrun' a (by simp)) (hrest a ha)
  | cons a run ih =>
    cases run' with
    | nil =>
      have ha : rest'.head? = some a := by simp [show rest' = a :: (run ++ rest) from h.symm]
      exact absurd (hrun a (by simp)) (hrest' a ha)
    | cons b run' =>
      obtain ⟨rfl, htail⟩ := List.cons.inj h
      obtain ⟨rfl, rfl⟩ := ih (fun a ha => hrun a (by simp [ha]))
        (fun a ha => hrun' a (by simp [ha])) htail
      exact ⟨rfl, rfl⟩

/-! ## Lines that can be written -/

/-- The text of a label, however long its number. -/
def Label.text (l : Label) : String :=
  l.before ++ (l.number.map Int.repr).getD "" ++ l.after

/-- A label without a number is its text. -/
@[simp] theorem Label.text_plain (text : String) : (plain text).text = text := by
  simp [plain, Label.text]

/-- A label between two texts is shown between them. -/
@[simp] theorem Label.text_within (opening closing : String) (l : Label) :
    (l.within opening closing).text = opening ++ l.text ++ closing := by
  simp only [within, Label.text, String.append_assoc]

/-- A line of an outline as it is read. -/
structure PlainLine where
  /-- How far in it stands. -/
  depth : Nat
  /-- What it says. -/
  text : String
  deriving DecidableEq, Repr

/-- The text of a line that is read, with its end. -/
def PlainLine.render (l : PlainLine) : String := OutlineLine.render l.depth l.text

/-- A line as it is read when it is written. -/
def OutlineLine.plain (l : OutlineLine) : PlainLine := ⟨l.depth, l.label.text⟩

/-- The label can be told from the indentation before it and the line end after it. -/
structure Legible (label : String) : Prop where
  /-- It does not begin with a space. -/
  not_space : label.toList.head? ≠ some ' '
  /-- It contains no line feed. -/
  not_lineFeed : '\n' ∉ label.toList

instance (label : String) : Decidable (Legible label) :=
  decidable_of_iff (label.toList.head? ≠ some ' ' ∧ '\n' ∉ label.toList)
    ⟨fun h => ⟨h.1, h.2⟩, fun h => ⟨h.1, h.2⟩⟩

/-- The characters of a line. -/
theorem PlainLine.toList_render (l : PlainLine) :
    l.render.toList = List.replicate (2 * l.depth) ' ' ++ (l.text.toList ++ ['\n']) := by
  simp [render, OutlineLine.render]

/-- An outline as a tree: a label, and what stands below it. -/
inductive OutlineEntry where
  /-- A label with the entries below it. -/
  | mk (label : String) (below : List OutlineEntry)

namespace OutlineEntry

/-- What an entry says. -/
def label : OutlineEntry → String
  | mk label _ => label

mutual

/-- The lines of an entry. -/
def lines (depth : Nat) : OutlineEntry → List PlainLine
  | mk label below => ⟨depth, label⟩ :: linesAll (depth + 1) below

/-- The lines of entries one after another. -/
def linesAll (depth : Nat) : List OutlineEntry → List PlainLine
  | [] => []
  | e :: es => e.lines depth ++ linesAll depth es

end

/-- The lines of entries, one by one. -/
theorem linesAll_eq_flatMap (depth : Nat) (es : List OutlineEntry) :
    linesAll depth es = es.flatMap (lines depth) := by
  induction es with
  | nil => rfl
  | cons e es ih => rw [linesAll, ih, List.flatMap_cons]

/-- The lines of entries that stand in two lists. -/
theorem linesAll_append (depth : Nat) (es fs : List OutlineEntry) :
    linesAll depth (es ++ fs) = linesAll depth es ++ linesAll depth fs := by
  simp [linesAll_eq_flatMap]

end OutlineEntry

end FrontEnd
