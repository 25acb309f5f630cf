import FrontEnd.Position
import FrontEnd.Proofs.Lines
import Mathlib.Algebra.BigOperators.Group.List.Basic
import Mathlib.Algebra.Ring.Int.Defs
import Mathlib.Algebra.Ring.Nat

/-!
# Places in lines

A place counts a line and a column. Read in lines that are joined by line feeds, it is an offset:
the characters of the lines before it, each with its line feed, and those before it on its own
line. Behind the last character of a line is still a place of that line.
-/

namespace FrontEnd

open Text

/-- The line that a place is on; empty if there is none. -/
def lineAt (lines : List (List Char)) (p : Position) : List Char :=
  (lines[(p.line - 1).toNat]?).getD []

/-- The number of characters before a place in the joined lines. -/
def offset (lines : List (List Char)) (p : Position) : Int :=
  ((lines.take (p.line - 1).toNat).map fun l => (l.length : Int) + 1).sum + (p.column - 1)

/-- The place is one of the lines, or that behind the last character of one of them. Without
lines there is the first place only. -/
structure Genuine (lines : List (List Char)) (p : Position) : Prop where
  /-- Lines are counted from one. -/
  one_le_line : 1 ≤ p.line
  /-- There is no place below the last line. -/
  line_le : p.line ≤ max 1 (lines.length : Int)
  /-- Columns are counted from one. -/
  one_le_column : 1 ≤ p.column
  /-- There is no place further to the right than behind the last character. -/
  column_le : p.column ≤ (lineAt lines p).length + 1

/-- From a genuine place the rest of the joined lines is to be read. -/
structure StandsBefore (lines : List (List Char)) (p : Position) (rest : List Char) : Prop where
  /-- The place is one of the lines. -/
  genuine : Genuine lines p
  /-- As many characters as the offset counts are before the rest. -/
  split : ∃ before, joinLines lines = before ++ rest ∧ (before.length : Int) = offset lines p

namespace StandsBefore

variable {lines : List (List Char)} {p q : Position} {raw rest : List Char}

/-- The offset and the rest make up the joined lines. -/
theorem offset_add (h : StandsBefore lines p rest) :
    offset lines p + rest.length = (joinLines lines).length := by
  obtain ⟨before, hjoin, hbefore⟩ := h.split
  rw [hjoin, List.length_append, ← hbefore]
  omega

/-- A place is no further down and to the right than there are characters. -/
theorem line_add_column_le (h : StandsBefore lines p rest) :
    p.line + p.column ≤ (joinLines lines).length - rest.length + 2 := by
  have hsum (ls : List (List Char)) :
      (ls.length : Int) ≤ (ls.map fun l => (l.length : Int) + 1).sum := by
    induction ls with
    | nil => simp
    | cons l ls ih =>
      rw [List.length_cons, List.map_cons, List.sum_cons]
      omega
  have habove := hsum (lines.take (p.line - 1).toNat)
  have hoffset := h.offset_add
  have hone := h.genuine.one_le_line
  have hline := h.genuine.line_le
  rw [List.length_take] at habove
  rw [offset] at hoffset
  omega

/-- The rest is what the joined lines have from the offset on. -/
theorem drop_eq (h : StandsBefore lines p rest) :
    (joinLines lines).drop (offset lines p).toNat = rest := by
  obtain ⟨before, hjoin, hbefore⟩ := h.split
  rw [hjoin, ← hbefore]
  simp

/-- Two places are as far apart as the characters between them are many. -/
theorem offset_sub (hp : StandsBefore lines p (raw ++ rest)) (hq : StandsBefore lines q rest) :
    offset lines q = offset lines p + raw.length := by
  have hpadd := hp.offset_add
  have hqadd := hq.offset_add
  rw [List.length_append] at hpadd
  omega

/-- Between two places the joined lines have the characters that were read. -/
theorem take_drop_eq (hp : StandsBefore lines p (raw ++ rest)) (hq : StandsBefore lines q rest) :
    ((joinLines lines).drop (offset lines p).toNat).take
      (offset lines q - offset lines p).toNat = raw := by
  have hlength : (offset lines q - offset lines p).toNat = raw.length := by
    rw [hp.offset_sub hq]
    omega
  rw [hp.drop_eq, hlength, List.take_left]

end StandsBefore

/-- The joined lines, cut in front of a character of a line or behind the line. -/
theorem joinLines_split {lines : List (List Char)} {i j : Nat} (hi : i < max 1 lines.length)
    (hj : j ≤ (lines[i]?.getD []).length) :
    ∃ before, joinLines lines =
        before ++ ((lines[i]?.getD []).drop j ++ (lines.drop (i + 1)).flatMap ('\n' :: ·)) ∧
      (before.length : Int) = ((lines.take i).map fun l => (l.length : Int) + 1).sum + j := by
  induction lines generalizing i with
  | nil =>
    obtain rfl : i = 0 := by simp at hi; omega
    obtain rfl : j = 0 := by simpa using hj
    exact ⟨[], by simp⟩
  | cons l lines ih =>
    cases i with
    | zero =>
      have hj : j ≤ l.length := by simpa using hj
      refine ⟨l.take j, ?_, ?_⟩
      · simp [joinLines_cons, ← List.append_assoc]
      · simp [List.length_take_of_le hj]
    | succ i =>
      have hlt : i < lines.length := by simp at hi; omega
      obtain ⟨before, hjoin, hbefore⟩ := ih (i := i) (by omega) (by simpa using hj)
      refine ⟨l ++ '\n' :: before, ?_, ?_⟩
      · cases lines with
        | nil => simp at hlt
        | cons m ms =>
          have hnext : joinLines (l :: m :: ms) = l ++ '\n' :: joinLines (m :: ms) := by
            simp [joinLines_cons]
          rw [hnext, hjoin]
          simp
      · simp only [List.length_append, List.length_cons, List.take_succ_cons, List.map_cons,
          List.sum_cons]
        push_cast
        omega

end FrontEnd
