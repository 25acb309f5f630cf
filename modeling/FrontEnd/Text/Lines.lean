import FrontEnd.Text.Pieces

/-!
# Lines

A line ends with a line feed, a carriage return, or the two together; no other character
separates lines. A line end at the very end of a text begins no further line.
-/

namespace FrontEnd.Text

/-- The text with every line end written as one line feed. -/
def unifyLineEnds : List Char → List Char
  | [] => []
  | '\r' :: '\n' :: cs => '\n' :: unifyLineEnds cs
  | '\r' :: cs => '\n' :: unifyLineEnds cs
  | c :: cs => c :: unifyLineEnds cs

/-- The pieces of a text without a last one that is empty. -/
def dropEmptyLast (ps : List (List Char)) : List (List Char) :=
  if ps.getLast? = some [] then ps.dropLast else ps

/-- The lines of a text, without their ends. -/
def linesOf (cs : List Char) : List (List Char) :=
  dropEmptyLast (pieces '\n' (unifyLineEnds cs))

/-- Lines put together again, with a line feed between neighbours. -/
def joinLines (lines : List (List Char)) : List Char := ['\n'].intercalate lines

/-- The lines of a text, without their ends. -/
def splitLines (source : String) : List String := (linesOf source.toList).map String.ofList

/-- No lines make an empty text. -/
@[simp] theorem joinLines_nil : joinLines [] = [] := rfl

/-- Before every line but the first stands a line feed. -/
theorem joinLines_cons (l : List Char) (ls : List (List Char)) :
    joinLines (l :: ls) = l ++ ls.flatMap ('\n' :: ·) := by
  induction ls generalizing l with
  | nil => simp [joinLines, List.intercalate]
  | cons m ms ih =>
    have hnext : joinLines (l :: m :: ms) = l ++ '\n' :: joinLines (m :: ms) := by
      simp [joinLines, List.intercalate]
    rw [hnext, ih m]
    simp

/-- No line end is left but the line feed. -/
theorem not_mem_unifyLineEnds (cs : List Char) : '\r' ∉ unifyLineEnds cs := by
  fun_induction unifyLineEnds cs with
  | case1 => simp
  | case2 cs ih => simpa using ih
  | case3 cs _ ih => simpa using ih
  | case4 c cs _ hc ih => simpa [Ne.symm hc] using ih

end FrontEnd.Text
