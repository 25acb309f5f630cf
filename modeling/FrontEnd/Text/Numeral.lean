/-!
# Decimal numerals

Integers are written and read in base ten, with a sign if they are negative. A numeral has a
bounded number of digits: a longer one is neither written nor read.
-/

namespace FrontEnd.Text

/-- The greatest number of digits of a numeral. -/
def maxDigits : Nat := 4300

/-- A numeral that has too many digits. -/
inductive LongNumeral where
  /-- It was to be written. -/
  | written
  /-- It was to be read, and has so many digits. -/
  | read (digits : Nat)
  deriving DecidableEq, Repr

/-- The wording of a refusal. -/
def LongNumeral.message (f : LongNumeral) : String :=
  s!"Exceeds the limit ({maxDigits} digits) for integer string conversion" ++
    (match f with
      | written => ""
      | read digits => s!": value has {digits} digits") ++
    "; use sys.set_int_max_str_digits() to increase the limit"

/-- The numeral of an integer is short enough to be written. -/
def IsShort (n : Int) : Prop := n.natAbs.repr.length ≤ maxDigits

instance (n : Int) : Decidable (IsShort n) := inferInstanceAs (Decidable (_ ≤ _))

/-- The numeral of an integer, if it is short enough. -/
def numeral (n : Int) : Except LongNumeral String :=
  if IsShort n then .ok (toString n) else .error .written

/-- A short numeral is written. -/
theorem numeral_of_isShort {n : Int} (h : IsShort n) : numeral n = .ok (toString n) := if_pos h

/-- A numeral that is not short is refused. -/
theorem numeral_of_not_isShort {n : Int} (h : ¬IsShort n) : numeral n = .error .written := if_neg h

/-- Numbers that fit into a word are written. -/
theorem isShort_of_natAbs_lt {n : Int} (h : n.natAbs < 0x10000000000000000) : IsShort n := by
  rw [IsShort]
  have hword : n.natAbs.repr.length ≤ 20 := (Nat.length_repr_le_iff (by decide)).2 (by omega)
  exact Nat.le_trans hword (by decide)

end FrontEnd.Text
