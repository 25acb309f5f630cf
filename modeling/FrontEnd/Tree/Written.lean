import FrontEnd.Text.Numeral

/-!
# Interrupted writing

A text is written piece by piece. A piece that cannot be written ends the writing: what came before
it stands, and nothing comes after it.
-/

namespace FrontEnd

/-- The ways in which a piece cannot be written. -/
inductive WriteFault where
  /-- It has a number whose numeral has too many digits. -/
  | longNumeral (f : Text.LongNumeral)
  /-- It is reached by more nested calls than the stack allows. -/
  | tooDeep
  deriving DecidableEq, Repr

/-- What has been written, and what ended the writing if it did not come to its end. -/
structure Written where
  /-- The text so far. -/
  text : String
  /-- What ended the writing, if anything did. -/
  fault : Option WriteFault
  deriving DecidableEq, Repr

namespace Written

/-- A text that was written to its end. -/
def complete (text : String) : Written := ⟨text, none⟩

/-- Nothing was written, for a fault. -/
def failed (f : WriteFault) : Written := ⟨"", some f⟩

instance : Append Written where
  append v w :=
    match v.fault with
    | none => ⟨v.text ++ w.text, w.fault⟩
    | some _ => v

/-- Pieces written one after another. -/
def join (pieces : List Written) : Written := pieces.foldr (· ++ ·) (complete "")

/-- It does not matter in which groups pieces are written. -/
theorem append_assoc (u v w : Written) : u ++ v ++ w = u ++ (v ++ w) := by
  obtain ⟨text, _ | f⟩ := u
  · obtain ⟨text', _ | f⟩ := v
    · exact congrArg (Written.mk · w.fault) String.append_assoc
    · rfl
  · rfl

end Written

end FrontEnd
