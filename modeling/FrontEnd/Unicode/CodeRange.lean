/-!
# Ranges of code points

A character property is tabulated as closed ranges of code points in increasing order. The
look-up stops at the first range that begins above the code point asked for.
-/

namespace FrontEnd.Unicode

/-- A closed range of code points, its first and its last. -/
abbrev CodeRange := Nat × Nat

/-- Whether a code point lies in one of the ranges, which stand in increasing order. -/
def inRanges : List CodeRange → Nat → Bool
  | [], _ => false
  | (first, last) :: rest, n =>
    if n < first then false else if n ≤ last then true else inRanges rest n

/-- A code point found in a list of ranges lies between the ends of one of them. -/
theorem exists_range_of_inRanges {ranges : List CodeRange} {n : Nat}
    (h : inRanges ranges n = true) : ∃ r ∈ ranges, r.1 ≤ n ∧ n ≤ r.2 := by
  induction ranges with
  | nil => simp [inRanges] at h
  | cons r rest ih =>
    obtain ⟨first, last⟩ := r
    rw [inRanges] at h
    split at h
    · simp at h
    · split at h
      · exact ⟨(first, last), by simp, by simp; omega⟩
      · obtain ⟨r, hr, hn⟩ := ih h
        exact ⟨r, by simp [hr], hn⟩

end FrontEnd.Unicode
