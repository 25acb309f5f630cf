import FrontEnd.Unicode.CaseFold
import Mathlib.Data.List.Basic

/-!
# Folding twice

No character that a character folds to folds to anything but itself, so folding a text a second
time changes nothing, although one character may become several. A run of characters folds to code
points from a least to a greatest one, all of them or every second one. That the tables hold none of
them is checked for each run and for each of the other foldings.
-/

namespace FrontEnd.Unicode

/-- Code points from a least to a greatest one, all of them or every second one. -/
structure Stride where
  /-- The least code point. -/
  low : Nat
  /-- The greatest code point. -/
  high : Nat
  /-- Whether only every second code point belongs to it. -/
  alternate : Bool

namespace Stride

/-- The code point is one of them. -/
def Holds (s : Stride) (n : Nat) : Prop :=
  s.low ≤ n ∧ n ≤ s.high ∧ (s.alternate = true → (n - s.low) % 2 = 0)

/-- One code point. -/
def single (n : Nat) : Stride := ⟨n, n, true⟩

/-- The code points that a run folds to. -/
def ofRun (r : FoldRun) : Stride :=
  ⟨r.target, r.target + (r.last - r.first), Nat.beq r.step 2 || Nat.beq r.first r.last⟩

/-- Whether none of the code points is in a run: they are beyond it, or between its members. -/
def avoids (s : Stride) (r : FoldRun) : Bool :=
  Nat.blt s.high r.first || Nat.blt r.last s.low ||
    (s.alternate && Nat.beq r.step 2 && Nat.beq ((s.low + r.first) % 2) 1)

/-- Whether none of the code points is found in runs; the search stops at the first run that
begins beyond them. -/
def avoidsRuns (s : Stride) : List FoldRun → Bool
  | [] => true
  | r :: rest => if Nat.blt s.high r.first then true else s.avoids r && s.avoidsRuns rest

/-- Whether none of the code points has a folding of several characters. -/
def avoidsExpansions (s : Stride) (expansions : List (Nat × List Nat)) : Bool :=
  expansions.all fun e => s.avoids ⟨e.1, e.1, 2, 0⟩

variable {s : Stride} {r : FoldRun} {n : Nat}

/-- A code point is one of a run's foldings if it is the folding of one of its members. -/
theorem holds_ofRun {m : Nat} (hfirst : r.first ≤ m) (hlast : m ≤ r.last)
    (hstep : (m - r.first) % r.step = 0) : (ofRun r).Holds (r.target + (m - r.first)) := by
  refine ⟨by simp [ofRun], by simp only [ofRun]; omega, fun halternate => ?_⟩
  simp only [ofRun, Bool.or_eq_true, Nat.beq_eq] at halternate ⊢
  rcases halternate with htwo | hone
  · rw [htwo] at hstep
    omega
  · omega

/-- One code point is itself. -/
theorem holds_single (n : Nat) : (single n).Holds n := by simp [Holds, single]

/-- What avoids a run is not in it. -/
theorem not_mem_of_avoids (havoids : s.avoids r = true) (h : s.Holds n) :
    ¬(r.first ≤ n ∧ n ≤ r.last ∧ (n - r.first) % r.step = 0) := by
  obtain ⟨hlow, hhigh, halternate⟩ := h
  simp only [avoids, Bool.or_eq_true, Bool.and_eq_true, Nat.blt_eq, Nat.beq_eq] at havoids
  rintro ⟨hfirst, hlast, hstep⟩
  rcases havoids with (hbelow | habove) | ⟨⟨hsecond, htwo⟩, hbetween⟩
  · omega
  · omega
  · have := halternate hsecond
    rw [htwo] at hstep
    omega

/-- What avoids runs has no folding by them. -/
theorem foldByRun_of_avoidsRuns {runs : List FoldRun} (havoids : s.avoidsRuns runs = true)
    (h : s.Holds n) : foldByRun runs n = none := by
  induction runs with
  | nil => rfl
  | cons r rest ih =>
    rw [foldByRun]
    split
    · rfl
    · next hfirst =>
      have hbeyond : ¬Nat.blt s.high r.first = true := by
        have := h.2.1
        simp only [Nat.blt_eq]
        omega
      rw [avoidsRuns, if_neg hbeyond, Bool.and_eq_true] at havoids
      have hmem := not_mem_of_avoids havoids.1 h
      rw [if_neg fun hin => hmem ⟨by omega, hin⟩]
      exact ih havoids.2

/-- What avoids the other foldings has none of them. -/
theorem lookup_of_avoidsExpansions {expansions : List (Nat × List Nat)}
    (havoids : s.avoidsExpansions expansions = true) (h : s.Holds n) :
    expansions.lookup n = none := by
  rw [List.lookup_eq_none_iff]
  intro e he
  have hmem := not_mem_of_avoids (List.all_eq_true.1 havoids e he) h
  rw [bne_iff_ne]
  rintro rfl
  exact hmem ⟨Nat.le_refl _, Nat.le_refl _, by simp⟩

end Stride

/-- No run folds to a character that is in a table. -/
theorem ofRun_avoids : (foldRuns.all fun r =>
    (Stride.ofRun r).avoidsRuns foldRuns && (Stride.ofRun r).avoidsExpansions foldExpansions) =
      true := by decide +kernel

/-- No folding of several characters holds one that is in a table. -/
theorem single_avoids : (foldExpansions.all fun e => e.2.all fun n =>
    (Stride.single n).avoidsRuns foldRuns && (Stride.single n).avoidsExpansions foldExpansions) =
      true := by decide +kernel

/-- A character folds to itself if the tables have nothing for it. -/
theorem foldChar_ofNat {n : Nat} (hrun : foldByRun foldRuns n = none)
    (hlookup : foldExpansions.lookup n = none) : foldChar (Char.ofNat n) = [Char.ofNat n] := by
  have hn : foldByRun foldRuns (Char.ofNat n).toNat = none ∧
      foldExpansions.lookup (Char.ofNat n).toNat = none := by
    by_cases hvalid : n.isValidChar
    · rw [Char.ofNat, dif_pos hvalid]
      exact ⟨hrun, hlookup⟩
    · rw [Char.ofNat, dif_neg hvalid]
      exact ⟨rfl, rfl⟩
  simp only [foldChar, hn]

/-- A run folds its members. -/
theorem of_foldByRun {runs : List FoldRun} {m n : Nat} (h : foldByRun runs m = some n) :
    ∃ r ∈ runs, (Stride.ofRun r).Holds n := by
  induction runs with
  | nil => cases h
  | cons r rest ih =>
    rw [foldByRun] at h
    split at h
    · cases h
    · next hfirst =>
      split at h
      · next hin =>
        obtain rfl := Option.some.inj h
        exact ⟨r, List.mem_cons_self, Stride.holds_ofRun (by omega) hin.1 hin.2⟩
      · obtain ⟨r', hr', hn⟩ := ih h
        exact ⟨r', List.mem_cons_of_mem _ hr', hn⟩

/-- Every character that a character folds to folds to itself. -/
theorem foldChar_of_mem {c d : Char} (h : d ∈ foldChar c) : foldChar d = [d] := by
  rw [foldChar] at h
  split at h
  · next n hrun =>
    obtain ⟨r, hr, hn⟩ := of_foldByRun hrun
    have havoids := List.all_eq_true.1 ofRun_avoids r hr
    rw [Bool.and_eq_true] at havoids
    rw [List.mem_singleton.1 h]
    exact foldChar_ofNat (Stride.foldByRun_of_avoidsRuns havoids.1 hn)
      (Stride.lookup_of_avoidsExpansions havoids.2 hn)
  · next hrun =>
    split at h
    · next ns hlookup =>
      obtain ⟨n, hn, rfl⟩ := List.mem_map.1 h
      obtain ⟨before, after, hsplit, -⟩ := List.lookup_eq_some_iff.1 hlookup
      have hmem : (c.toNat, ns) ∈ foldExpansions := by simp [hsplit]
      have havoids := List.all_eq_true.1 (List.all_eq_true.1 single_avoids _ hmem) n hn
      rw [Bool.and_eq_true] at havoids
      have hsingle := Stride.holds_single n
      exact foldChar_ofNat (Stride.foldByRun_of_avoidsRuns havoids.1 hsingle)
        (Stride.lookup_of_avoidsExpansions havoids.2 hsingle)
    · next hlookup =>
      rw [List.mem_singleton.1 h, foldChar, hrun, hlookup]

/-- To fold a text twice is to fold it once. -/
theorem caseFold_caseFold (s : String) : caseFold (caseFold s) = caseFold s := by
  have hfold (cs : List Char) : (cs.flatMap foldChar).flatMap foldChar = cs.flatMap foldChar := by
    rw [List.flatMap_assoc]
    congr 1
    funext c
    rw [List.flatMap_congr fun d hd => foldChar_of_mem hd, List.flatMap_singleton']
  rw [caseFold, caseFold, String.toList_ofList, hfold]

end FrontEnd.Unicode
