/-!
# Pieces of a text

A separator cuts a text into pieces, one more than it occurs; joined by it again, the pieces are
the text.
-/

namespace FrontEnd.Text

/-- The pieces of a text between the occurrences of a separator. -/
def pieces (separator : Char) (cs : List Char) : List (List Char) :=
  cs.foldr (fun c ps => if c = separator then [] :: ps else ps.modifyHead (c :: ·)) [[]]

/-- An empty text has one piece, which is empty. -/
@[simp] theorem pieces_nil (separator : Char) : pieces separator [] = [[]] := rfl

/-- A separator opens a new piece; any other character extends the first one. -/
theorem pieces_cons (separator c : Char) (cs : List Char) :
    pieces separator (c :: cs) =
      if c = separator then [] :: pieces separator cs
      else (pieces separator cs).modifyHead (c :: ·) := rfl

/-- Every text has a piece. -/
theorem pieces_ne_nil (separator : Char) (cs : List Char) : pieces separator cs ≠ [] := by
  induction cs with
  | nil => simp
  | cons c cs ih =>
    rw [pieces_cons]
    split
    · simp
    · cases h : pieces separator cs with
      | nil => exact absurd h ih
      | cons p ps => simp

/-- The pieces of a text, joined, are the text. -/
theorem intercalate_pieces (separator : Char) (cs : List Char) :
    [separator].intercalate (pieces separator cs) = cs := by
  induction cs with
  | nil => rfl
  | cons c cs ih =>
    rw [pieces_cons]
    cases h : pieces separator cs with
    | nil => exact absurd h (pieces_ne_nil separator cs)
    | cons p ps =>
      rw [h] at ih
      split
      · next hc => subst hc; simpa [List.intercalate] using ih
      · cases ps with
        | nil => simpa [List.intercalate] using ih
        | cons q qs => simpa [List.intercalate] using ih

end FrontEnd.Text
