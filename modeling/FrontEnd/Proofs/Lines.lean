import FrontEnd.Text.Lines

/-!
# The lines of a text

No line holds a line end of any spelling, so a line feed in the joined lines is always one that
stands between two lines. The spelling of the line ends does not matter for the lines, and one
line end more or less behind the last line does not either, except that an empty text has no
line and a text that is one line end has an empty one.
-/

namespace FrontEnd.Text

/-- A piece does not hold the separator, and its characters are characters of the text. -/
theorem of_mem_pieces {separator : Char} {cs p : List Char} (h : p ∈ pieces separator cs) :
    separator ∉ p ∧ p ⊆ cs := by
  induction cs generalizing p with
  | nil =>
    obtain rfl : p = [] := by simpa using h
    simp
  | cons c cs ih =>
    rw [pieces_cons] at h
    split at h
    · rcases List.mem_cons.1 h with rfl | h
      · simp
      · exact ⟨(ih h).1, fun d hd => List.mem_cons_of_mem c ((ih h).2 hd)⟩
    · next hc =>
      cases hpieces : pieces separator cs with
      | nil => exact absurd hpieces (pieces_ne_nil separator cs)
      | cons q qs =>
        rw [hpieces, List.modifyHead_cons] at h
        rcases List.mem_cons.1 h with rfl | h
        · obtain ⟨hnot, hsubset⟩ := ih (p := q) (by simp [hpieces])
          refine ⟨by simp [hnot, Ne.symm hc], ?_⟩
          exact List.cons_subset_cons c hsubset
        · obtain ⟨hnot, hsubset⟩ := ih (p := p) (by simp [hpieces, h])
          exact ⟨hnot, fun d hd => List.mem_cons_of_mem c (hsubset hd)⟩

/-- Every line of a text is a piece of it. -/
theorem mem_pieces_of_mem_linesOf {cs l : List Char} (h : l ∈ linesOf cs) :
    l ∈ pieces '\n' (unifyLineEnds cs) := by
  rw [linesOf, dropEmptyLast] at h
  split at h
  · exact List.dropLast_subset _ h
  · exact h

/-- No line holds a line feed. -/
theorem lineFeed_not_mem_of_mem_linesOf {cs l : List Char} (h : l ∈ linesOf cs) : '\n' ∉ l :=
  (of_mem_pieces (mem_pieces_of_mem_linesOf h)).1

/-- No line holds a carriage return. -/
theorem carriageReturn_not_mem_of_mem_linesOf {cs l : List Char} (h : l ∈ linesOf cs) :
    '\r' ∉ l := by
  intro hmem
  exact not_mem_unifyLineEnds cs ((of_mem_pieces (mem_pieces_of_mem_linesOf h)).2 hmem)

/-- No line end of a text but the line feed is in its lines or between them. -/
theorem carriageReturn_not_mem_joinLines (cs : List Char) : '\r' ∉ joinLines (linesOf cs) := by
  cases hlines : linesOf cs with
  | nil => simp
  | cons l ls =>
    have hnot {m : List Char} (hm : m ∈ l :: ls) : '\r' ∉ m :=
      carriageReturn_not_mem_of_mem_linesOf (hlines ▸ hm)
    rw [joinLines_cons]
    simp only [List.mem_append, List.mem_flatMap, List.mem_cons, Char.reduceEq, false_or,
      not_or, not_exists, not_and]
    exact ⟨hnot List.mem_cons_self, fun m hm => hnot (List.mem_cons_of_mem l hm)⟩

/-- A text without the separator is its only piece. -/
theorem pieces_of_not_mem {separator : Char} {cs : List Char} (h : separator ∉ cs) :
    pieces separator cs = [cs] := by
  induction cs with
  | nil => rfl
  | cons c cs ih =>
    simp only [List.mem_cons, not_or] at h
    rw [pieces_cons, if_neg (Ne.symm h.1), ih h.2]
    rfl

/-- The text with a line feed for every carriage return and line feed in a row. -/
def mergePairs : List Char → List Char
  | [] => []
  | '\r' :: '\n' :: cs => '\n' :: mergePairs cs
  | c :: cs => c :: mergePairs cs

/-- The text with its line ends replaced in two passes: first the pairs of a carriage return and
a line feed, and then the carriage returns that are left. -/
def normalized (cs : List Char) : List Char :=
  (mergePairs cs).map fun c => if c = '\r' then '\n' else c

/-- Both passes can be made at once. -/
theorem normalized_eq (cs : List Char) : normalized cs = unifyLineEnds cs := by
  fun_induction unifyLineEnds cs with
  | case1 => rfl
  | case2 cs ih => simpa [normalized, mergePairs] using ih
  | case3 cs hpair ih =>
    have hmerge : mergePairs ('\r' :: cs) = '\r' :: mergePairs cs := by
      rw [mergePairs]
      rintro ds - rfl
      exact hpair ds rfl
    simpa [normalized, hmerge] using ih
  | case4 c cs _ hc ih =>
    have hmerge : mergePairs (c :: cs) = c :: mergePairs cs := by
      rw [mergePairs]
      rintro ds rfl
      exact absurd rfl hc
    rw [normalized, hmerge, List.map_cons, if_neg hc]
    exact congrArg (c :: ·) ih

example : normalized ['\r', '\r', '\n', '\r'] = ['\n', '\n', '\n'] := by decide

/-- A text without carriage returns is as it would be with every line end replaced. -/
theorem unifyLineEnds_of_not_mem {cs : List Char} (h : '\r' ∉ cs) : unifyLineEnds cs = cs := by
  fun_induction unifyLineEnds cs with
  | case1 => rfl
  | case2 cs _ => simp at h
  | case3 cs _ _ => simp at h
  | case4 c cs _ _ ih => rw [ih fun hmem => h (List.mem_cons_of_mem c hmem)]

/-- A text without line ends is one line, if it has characters. -/
theorem linesOf_of_not_mem {cs : List Char} (hfeed : '\n' ∉ cs) (hreturn : '\r' ∉ cs) :
    linesOf cs = if cs = [] then [] else [cs] := by
  rw [linesOf, unifyLineEnds_of_not_mem hreturn, pieces_of_not_mem hfeed, dropEmptyLast]
  simp

/-- Up to the first separator a text is one piece. -/
theorem pieces_append_cons {separator : Char} {cs : List Char} (h : separator ∉ cs)
    (ds : List Char) : pieces separator (cs ++ separator :: ds) = cs :: pieces separator ds := by
  induction cs with
  | nil => simp [pieces_cons]
  | cons c cs ih =>
    simp only [List.mem_cons, not_or] at h
    rw [List.cons_append, pieces_cons, if_neg (Ne.symm h.1), ih h.2, List.modifyHead_cons]

/-- A text of lines, each with a line feed at its end, has these lines. -/
theorem linesOf_flatMap {ls : List (List Char)} (h : ∀ l ∈ ls, '\n' ∉ l ∧ '\r' ∉ l) :
    linesOf (ls.flatMap (· ++ ['\n'])) = ls := by
  have hreturn : '\r' ∉ ls.flatMap (· ++ ['\n']) := by
    simp only [List.mem_flatMap, List.mem_append, List.mem_singleton, not_exists, not_and, not_or]
    exact fun l hl => ⟨(h l hl).2, by decide⟩
  have hpieces : pieces '\n' (ls.flatMap (· ++ ['\n'])) = ls ++ [[]] := by
    clear hreturn
    induction ls with
    | nil => rfl
    | cons l ls ih =>
      rw [List.forall_mem_cons] at h
      rw [List.flatMap_cons, List.append_assoc, List.singleton_append,
        pieces_append_cons h.1.1, ih h.2, List.cons_append]
  rw [linesOf, unifyLineEnds_of_not_mem hreturn, hpieces, dropEmptyLast]
  simp

/-- To replace the line ends again changes nothing. -/
@[simp] theorem unifyLineEnds_unifyLineEnds (cs : List Char) :
    unifyLineEnds (unifyLineEnds cs) = unifyLineEnds cs :=
  unifyLineEnds_of_not_mem (not_mem_unifyLineEnds cs)

/-- Two texts that differ in the spelling of their line ends only, or of which the second has
besides a line end behind the last line and the first has none. -/
inductive SameButLineEnds (cs ds : List Char) : Prop
  /-- The line ends are spelled in different ways. -/
  | spelling (h : normalized cs = normalized ds)
  /-- The second text has one more line end. -/
  | terminated (hopen : (normalized cs).getLast? ≠ some '\n')
      (h : normalized ds = normalized cs ++ ['\n'])

/-- A separator at the end of a text makes one more piece, which is empty. -/
theorem pieces_concat (separator : Char) (cs : List Char) :
    pieces separator (cs ++ [separator]) = pieces separator cs ++ [[]] := by
  induction cs with
  | nil => simp [pieces_cons]
  | cons c cs ih =>
    rw [List.cons_append, pieces_cons, pieces_cons, ih]
    split
    · rfl
    · cases hpieces : pieces separator cs with
      | nil => exact absurd hpieces (pieces_ne_nil separator cs)
      | cons p ps => simp

/-- The last piece is empty only in an empty text and behind a separator. -/
theorem of_getLast?_pieces {separator : Char} {cs : List Char}
    (h : (pieces separator cs).getLast? = some []) :
    cs = [] ∨ cs.getLast? = some separator := by
  induction cs with
  | nil => exact .inl rfl
  | cons c cs ih =>
    right
    cases hpieces : pieces separator cs with
    | nil => exact absurd hpieces (pieces_ne_nil separator cs)
    | cons p ps =>
      rw [pieces_cons, hpieces] at h
      split at h
      · next hc =>
        rcases ih (by simpa [hpieces] using h) with rfl | hlast
        · simp [hc]
        · simp [List.getLast?_cons, hlast]
      · cases ps with
        | nil => simp at h
        | cons q qs =>
          rcases ih (by simpa [hpieces] using h) with rfl | hlast
          · simp at hpieces
          · simp [List.getLast?_cons, hlast]

/-- Texts that differ in their line ends only have the same lines, or one has none and the other
an empty one. -/
theorem SameButLineEnds.linesOf_eq {cs ds : List Char} (h : SameButLineEnds cs ds) :
    linesOf cs = linesOf ds ∨ linesOf cs = [] ∧ linesOf ds = [[]] := by
  simp only [linesOf, ← normalized_eq]
  cases h with
  | spelling h => exact .inl (by rw [h])
  | terminated hopen h =>
    have hds : dropEmptyLast (pieces '\n' (normalized ds)) = pieces '\n' (normalized cs) := by
      rw [h, pieces_concat, dropEmptyLast]
      simp
    rw [hds, dropEmptyLast]
    split
    · next hlast =>
      right
      rcases of_getLast?_pieces hlast with hnil | hend
      · simp [hnil]
      · exact absurd hend hopen
    · exact .inl rfl

/-- The pieces of a text, joined, are the text but for one line feed at its end. -/
theorem eq_joinLines_dropEmptyLast (cs : List Char) :
    cs = joinLines (dropEmptyLast (pieces '\n' cs)) ∨
      cs = joinLines (dropEmptyLast (pieces '\n' cs)) ++ ['\n'] := by
  have hjoin : joinLines (pieces '\n' cs) = cs := intercalate_pieces '\n' cs
  rw [dropEmptyLast]
  split
  · next hlast =>
    obtain ⟨lines, hlines⟩ := List.getLast?_eq_some_iff.1 hlast
    rw [hlines] at hjoin ⊢
    rw [List.dropLast_concat]
    cases lines with
    | nil => exact .inl hjoin.symm
    | cons l ls =>
      right
      rw [List.cons_append, joinLines_cons, List.flatMap_append] at hjoin
      rw [joinLines_cons, ← hjoin, List.append_assoc]
      rfl
  · exact .inl hjoin.symm

/-- A text with every line end written as a line feed is not longer. -/
theorem length_unifyLineEnds_le (cs : List Char) : (unifyLineEnds cs).length ≤ cs.length := by
  fun_induction unifyLineEnds cs with
  | case1 => exact Nat.le_refl _
  | case2 cs ih =>
    rw [List.length_cons, List.length_cons, List.length_cons]
    omega
  | case3 cs _ ih => simpa using ih
  | case4 c cs _ _ ih => simpa using ih

/-- The lines of a text, joined, are not longer than the text. -/
theorem length_joinLines_linesOf_le (cs : List Char) :
    (joinLines (linesOf cs)).length ≤ cs.length := by
  have hjoined : (joinLines (linesOf cs)).length ≤ (unifyLineEnds cs).length := by
    rw [linesOf]
    rcases eq_joinLines_dropEmptyLast (unifyLineEnds cs) with h | h
    · exact Nat.le_of_eq (congrArg List.length h.symm)
    · have hlength := congrArg List.length h
      rw [List.length_append] at hlength
      omega
  exact Nat.le_trans hjoined (length_unifyLineEnds_le cs)

end FrontEnd.Text
