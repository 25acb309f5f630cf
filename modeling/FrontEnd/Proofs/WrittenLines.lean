import FrontEnd.Proofs.Lines
import Mathlib.Data.List.Chain

/-!
# Ways of writing lines

Lines are written one after another, each with an end of its own spelling behind it. However that
is done, they are read back, as long as the end of one line and the start of the next do not make
one line end together. Every text is written in such a way, and nothing in it but its line ends
decides where its lines are.
-/

namespace FrontEnd.Text

/-- The spellings of a line end. -/
inductive LineEnd where
  /-- A line feed. -/
  | lineFeed
  /-- A carriage return and a line feed. -/
  | pair
  /-- A carriage return alone. -/
  | carriageReturn
  deriving DecidableEq, Repr

/-- The text of a line end. -/
def LineEnd.text : LineEnd → String
  | lineFeed => "\n"
  | pair => "\r\n"
  | carriageReturn => "\r"

/-- A line as it is written. -/
structure WrittenLine where
  /-- The line itself. -/
  content : String
  /-- Its end, if it has one. -/
  ending : Option LineEnd
  deriving DecidableEq, Repr

/-- The text of a written line: the line and its end. -/
def WrittenLine.text (w : WrittenLine) : String :=
  w.content ++ (w.ending.map LineEnd.text).getD ""

/-- The text of lines that are written one after another. -/
def written (ws : List WrittenLine) : String := String.join (ws.map WrittenLine.text)

/-- The end of one line and that of the empty line behind it make one line end. -/
def WrittenLine.Merges (v w : WrittenLine) : Prop :=
  v.ending = some .carriageReturn ∧ w.content = "" ∧ w.ending = some .lineFeed

instance (v w : WrittenLine) : Decidable (v.Merges w) := inferInstanceAs (Decidable (_ ∧ _))

/-- Lines that are written so that they can be told apart. -/
structure WellWritten (ws : List WrittenLine) : Prop where
  /-- No line holds a line end. -/
  content : ∀ w ∈ ws, '\n' ∉ w.content.toList ∧ '\r' ∉ w.content.toList
  /-- Every line but the last has an end. -/
  ended : ∀ w ∈ ws.dropLast, w.ending ≠ none
  /-- The last line has an end, or it is not empty. -/
  last : ∀ w ∈ ws.getLast?, w.ending ≠ none ∨ w.content ≠ ""
  /-- No two line ends make one. -/
  apart : ws.IsChain fun v w => ¬ v.Merges w

/-- No lines are written well. -/
theorem wellWritten_nil : WellWritten [] := ⟨by simp, by simp, by simp, .nil⟩

/-- One more line in front is written well if it can be told apart from those behind it. -/
theorem wellWritten_cons {w : WrittenLine} {ws : List WrittenLine} :
    WellWritten (w :: ws) ↔
      ('\n' ∉ w.content.toList ∧ '\r' ∉ w.content.toList) ∧
        (w.ending = none → ws = [] ∧ w.content ≠ "") ∧
        (∀ v ∈ ws.head?, ¬ w.Merges v) ∧ WellWritten ws := by
  constructor
  · intro h
    have hcontent := List.forall_mem_cons.1 h.content
    have hapart := List.isChain_cons.1 h.apart
    cases ws with
    | nil =>
      have hlast := h.last w rfl
      exact ⟨hcontent.1, fun hopen => ⟨rfl, hlast.resolve_left (absurd hopen)⟩, hapart.1,
        wellWritten_nil⟩
    | cons v vs =>
      have hended := List.forall_mem_cons.1 (List.dropLast_cons_of_ne_nil
        (List.cons_ne_nil v vs) ▸ h.ended)
      exact ⟨hcontent.1, fun hopen => absurd hopen hended.1, hapart.1,
        ⟨hcontent.2, hended.2, h.last, hapart.2⟩⟩
  · rintro ⟨hcontent, hopen, hhead, h⟩
    have hapart := List.isChain_cons.2 ⟨hhead, h.apart⟩
    refine ⟨List.forall_mem_cons.2 ⟨hcontent, h.content⟩, ?_, ?_, hapart⟩
    · cases ws with
      | nil => simp
      | cons v vs =>
        rw [List.dropLast_cons_of_ne_nil (List.cons_ne_nil v vs), List.forall_mem_cons]
        exact ⟨fun hnone => by simpa using (hopen hnone).1, h.ended⟩
    · cases ws with
      | nil =>
        intro v hv
        obtain rfl : w = v := by simpa using hv
        by_cases hnone : w.ending = none
        · exact .inr (hopen hnone).2
        · exact .inl hnone
      | cons v vs => exact h.last

/-- The text of written lines begins with that of the first one. -/
theorem toList_written_cons (w : WrittenLine) (ws : List WrittenLine) :
    (written (w :: ws)).toList =
      w.content.toList ++ ((w.ending.map LineEnd.text).getD "").toList ++ (written ws).toList := by
  simp [written, String.toList_join, WrittenLine.text]

/-! ## Reading back -/

/-- Text without carriage returns stays as it is when line ends behind it are replaced. -/
theorem unifyLineEnds_append {l : List Char} (hreturn : '\r' ∉ l) (cs : List Char) :
    unifyLineEnds (l ++ cs) = l ++ unifyLineEnds cs := by
  induction l with
  | nil => rfl
  | cons c l ih =>
    rw [List.mem_cons, not_or] at hreturn
    have hcons : unifyLineEnds (c :: (l ++ cs)) = c :: unifyLineEnds (l ++ cs) := by
      rw [unifyLineEnds]
      · rintro ds rfl
        exact absurd rfl hreturn.1
      · rintro rfl
        exact absurd rfl hreturn.1
    rw [List.cons_append, hcons, ih hreturn.2]
    rfl

/-- Any line end is replaced by a line feed, if no part of it belongs to another one. -/
theorem unifyLineEnds_lineEnd {e : LineEnd} {cs : List Char}
    (h : e = .carriageReturn → cs.head? ≠ some '\n') :
    unifyLineEnds (e.text.toList ++ cs) = '\n' :: unifyLineEnds cs := by
  cases e with
  | lineFeed => exact unifyLineEnds_append (l := ['\n']) (by decide) cs
  | pair => rfl
  | carriageReturn =>
    change unifyLineEnds ('\r' :: cs) = _
    rw [unifyLineEnds]
    rintro ds rfl
    exact h rfl rfl

/-- What stands in front of the first line end is the first line. -/
theorem linesOf_append_lineEnd {l : List Char} {e : LineEnd} {cs : List Char}
    (hl : '\n' ∉ l ∧ '\r' ∉ l) (h : e = .carriageReturn → cs.head? ≠ some '\n') :
    linesOf (l ++ e.text.toList ++ cs) = l :: linesOf cs := by
  have hpieces : pieces '\n' (unifyLineEnds (l ++ e.text.toList ++ cs)) =
      l :: pieces '\n' (unifyLineEnds cs) := by
    rw [List.append_assoc, unifyLineEnds_append hl.2, unifyLineEnds_lineEnd h,
      pieces_append_cons hl.1]
  rw [linesOf, linesOf, hpieces]
  -- there is a piece behind the line, so the one that may be dropped is not the line itself
  obtain ⟨p, ps, hps⟩ := List.exists_cons_of_ne_nil (pieces_ne_nil '\n' (unifyLineEnds cs))
  rw [hps, dropEmptyLast, dropEmptyLast, List.getLast?_cons_cons]
  split
  · rw [List.dropLast_cons_of_ne_nil (List.cons_ne_nil p ps)]
  · rfl

/-- Well-written lines begin with a line feed only if the first one is empty and ends so. -/
theorem head?_written_ne_lineFeed {ws : List WrittenLine} (h : WellWritten ws)
    (hhead : ∀ v ∈ ws.head?, ¬ (v.content = "" ∧ v.ending = some .lineFeed)) :
    (written ws).toList.head? ≠ some '\n' := by
  cases ws with
  | nil => decide
  | cons v vs =>
    obtain ⟨hcontent, hopen, -, -⟩ := wellWritten_cons.1 h
    rw [toList_written_cons]
    cases hchars : v.content.toList with
    | cons c cs =>
      intro heq
      obtain rfl : c = '\n' := by simpa using heq
      exact hcontent.1 (hchars ▸ List.mem_cons_self)
    | nil =>
      have hempty : v.content = "" := String.toList_eq_nil_iff.1 hchars
      cases hending : v.ending with
      | none => exact absurd hempty (hopen hending).2
      | some e =>
        cases e with
        | lineFeed => exact absurd ⟨hempty, hending⟩ (hhead v rfl)
        | pair => simp [LineEnd.text]
        | carriageReturn => simp [LineEnd.text]

/-- Lines that are written well are the lines of what is written. -/
theorem linesOf_written {ws : List WrittenLine} (h : WellWritten ws) :
    linesOf (written ws).toList = ws.map fun w => w.content.toList := by
  induction ws with
  | nil => rfl
  | cons w ws ih =>
    obtain ⟨hcontent, hopen, hhead, hrest⟩ := wellWritten_cons.1 h
    rw [toList_written_cons, List.map_cons]
    cases hending : w.ending with
    | none =>
      obtain ⟨rfl, hne⟩ := hopen hending
      have hchars : w.content.toList ≠ [] := by simpa using hne
      have hline := linesOf_of_not_mem hcontent.1 hcontent.2
      rw [if_neg hchars] at hline
      simpa [written] using hline
    | some e =>
      have hbehind : e = .carriageReturn → (written ws).toList.head? ≠ some '\n' := by
        rintro rfl
        exact head?_written_ne_lineFeed hrest fun v hv hmerges => hhead v hv ⟨hending, hmerges⟩
      rw [← ih hrest]
      exact linesOf_append_lineEnd hcontent hbehind

/-! ## Every text is written so -/

/-- A text has no line end, or it is cut at the first one. -/
theorem exists_lineEnd (cs : List Char) :
    ('\n' ∉ cs ∧ '\r' ∉ cs) ∨
      ∃ (l : List Char) (e : LineEnd) (rest : List Char), cs = l ++ e.text.toList ++ rest ∧
        ('\n' ∉ l ∧ '\r' ∉ l) ∧ (e = .carriageReturn → rest.head? ≠ some '\n') := by
  induction cs with
  | nil => exact .inl (by simp)
  | cons c cs ih =>
    by_cases hfeed : c = '\n'
    · subst hfeed
      exact .inr ⟨[], .lineFeed, cs, rfl, by simp, by simp⟩
    · by_cases hreturn : c = '\r'
      · subst hreturn
        by_cases hpair : cs.head? = some '\n'
        · obtain ⟨rest, rfl⟩ := List.head?_eq_some_iff.1 hpair
          exact .inr ⟨[], .pair, rest, rfl, by simp, by simp⟩
        · exact .inr ⟨[], .carriageReturn, cs, rfl, by simp, fun _ => hpair⟩
      · have hcons {l : List Char} (hl : '\n' ∉ l ∧ '\r' ∉ l) : '\n' ∉ c :: l ∧ '\r' ∉ c :: l :=
          ⟨List.not_mem_cons_of_ne_of_not_mem (Ne.symm hfeed) hl.1,
            List.not_mem_cons_of_ne_of_not_mem (Ne.symm hreturn) hl.2⟩
        rcases ih with hclean | ⟨l, e, rest, rfl, hl, hbehind⟩
        · exact .inl (hcons hclean)
        · exact .inr ⟨c :: l, e, rest, rfl, hcons hl, hbehind⟩

/-- Every text is that of some lines that are written well. -/
theorem exists_written (cs : List Char) : ∃ ws, WellWritten ws ∧ (written ws).toList = cs := by
  -- by the length of the text, which is less behind the first line end
  induction hlength : cs.length using Nat.strong_induction_on generalizing cs with
  | h n ih =>
    rcases exists_lineEnd cs with hclean | ⟨l, e, rest, rfl, hl, hbehind⟩
    · by_cases hcs : cs = []
      · exact ⟨[], wellWritten_nil, by simp [hcs, written]⟩
      · refine ⟨[⟨String.ofList cs, none⟩],
          wellWritten_cons.2 ⟨?_, ?_, by simp, wellWritten_nil⟩, ?_⟩
        · simpa using hclean
        · simpa using hcs
        · simp [written, WrittenLine.text]
    · have hshort : rest.length < n := by
        have hpos : 0 < e.text.toList.length := by cases e <;> decide
        simp only [List.length_append] at hlength
        omega
      obtain ⟨ws, hws, rfl⟩ := ih rest.length hshort rest rfl
      refine ⟨⟨String.ofList l, some e⟩ :: ws, wellWritten_cons.2 ⟨?_, by simp, ?_, hws⟩, ?_⟩
      · simpa using hl
      · rintro v hv ⟨hend, hempty, hfeed⟩
        obtain ⟨vs, rfl⟩ := List.head?_eq_some_iff.1 hv
        apply hbehind (Option.some.inj hend)
        rw [toList_written_cons, hempty, hfeed]
        rfl
      · rw [toList_written_cons]
        simp

/-! ## Other characters -/

/-- A replacement of characters that leaves the line ends as they are and makes no others. -/
structure KeepsLineEnds (f : Char → Char) : Prop where
  /-- Line feeds stay, and there are no others. -/
  lineFeed : ∀ c, f c = '\n' ↔ c = '\n'
  /-- Carriage returns stay, and there are no others. -/
  carriageReturn : ∀ c, f c = '\r' ↔ c = '\r'

/-- Line ends are replaced whatever the other characters are. -/
theorem KeepsLineEnds.unifyLineEnds_map {f : Char → Char} (h : KeepsLineEnds f)
    (cs : List Char) : unifyLineEnds (cs.map f) = (unifyLineEnds cs).map f := by
  have hfeed : f '\n' = '\n' := (h.lineFeed _).2 rfl
  have hreturn : f '\r' = '\r' := (h.carriageReturn _).2 rfl
  fun_induction unifyLineEnds cs with
  | case1 => rfl
  | case2 cs ih => simp only [List.map_cons, hfeed, hreturn, unifyLineEnds, ih]
  | case3 cs hpair ih =>
    rw [List.map_cons, hreturn, List.map_cons, hfeed, ← ih, unifyLineEnds]
    intro ds hds
    obtain ⟨d, es, rfl, hd, -⟩ := List.map_eq_cons_iff.1 hds
    exact hpair es (by rw [(h.lineFeed d).1 hd])
  | case4 c cs _ hc ih =>
    have hfc : '\r' ∉ [f c] := by simpa [eq_comm, h.carriageReturn] using hc
    rw [List.map_cons, List.map_cons, ← ih]
    exact unifyLineEnds_append hfc (cs.map f)

/-- A text is cut at the line feeds whatever the other characters are. -/
theorem KeepsLineEnds.pieces_map {f : Char → Char} (h : KeepsLineEnds f) (cs : List Char) :
    pieces '\n' (cs.map f) = (pieces '\n' cs).map (List.map f) := by
  induction cs with
  | nil => rfl
  | cons c cs ih =>
    obtain ⟨p, ps, hps⟩ := List.exists_cons_of_ne_nil (pieces_ne_nil '\n' cs)
    rw [List.map_cons, pieces_cons, pieces_cons, ih, hps, if_congr (h.lineFeed c) rfl rfl]
    split <;> rfl

/-- A text has its lines whatever the other characters are. -/
theorem KeepsLineEnds.linesOf_map {f : Char → Char} (h : KeepsLineEnds f) (cs : List Char) :
    linesOf (cs.map f) = (linesOf cs).map (List.map f) := by
  rw [linesOf, linesOf, h.unifyLineEnds_map, h.pieces_map, dropEmptyLast, dropEmptyLast,
    List.getLast?_map]
  cases hlast : (pieces '\n' (unifyLineEnds cs)).getLast? with
  | none => rfl
  | some p =>
    cases p with
    | nil => simp [List.map_dropLast]
    | cons c p => simp

/-- **Lines.** The lines of a text are those that were written, in whatever way: each line has an
end of any spelling behind it, or none if it is the last one and not empty, and no two line ends
make one. Every text is written in such a way, and its lines hold no line ends. What the other
characters of a text are does not matter for where it is cut. Nor does it matter that the line
ends are found in one pass: two passes, first for the pairs, make the same lines. -/
theorem splitLines_inverts_writing :
    (∀ ws, WellWritten ws → splitLines (written ws) = ws.map WrittenLine.content) ∧
      (∀ source,
        (∀ line ∈ splitLines source, '\n' ∉ line.toList ∧ '\r' ∉ line.toList) ∧
        ∃ ws, WellWritten ws ∧ ws.map WrittenLine.content = splitLines source ∧
          written ws = source) ∧
      (∀ f, KeepsLineEnds f → ∀ source : String,
        splitLines (source.map f) = (splitLines source).map (String.map f)) ∧
      ∀ source,
        splitLines source =
          (dropEmptyLast (pieces '\n' (normalized source.toList))).map String.ofList := by
  have hread : ∀ ws, WellWritten ws → splitLines (written ws) = ws.map WrittenLine.content := by
    intro ws hws
    rw [splitLines, linesOf_written hws, List.map_map]
    exact List.map_congr_left fun w _ => String.ofList_toList
  refine ⟨hread, fun source => ⟨?_, ?_⟩, fun f hf source => ?_, fun source => ?_⟩
  · intro line hline
    obtain ⟨l, hl, rfl⟩ := List.mem_map.1 hline
    rw [String.toList_ofList]
    exact ⟨lineFeed_not_mem_of_mem_linesOf hl, carriageReturn_not_mem_of_mem_linesOf hl⟩
  · obtain ⟨ws, hws, hwritten⟩ := exists_written source.toList
    obtain rfl := String.toList_injective hwritten
    exact ⟨ws, hws, (hread ws hws).symm, rfl⟩
  · rw [splitLines, splitLines, String.toList_map, hf.linesOf_map, List.map_map, List.map_map]
    refine List.map_congr_left fun l _ => String.toList_injective ?_
    simp
  · rw [splitLines, linesOf, normalized_eq]

/-- Four lines with ends of all spellings; the first one holds a separator of another sort. -/
def mixedLines : List WrittenLine :=
  [⟨"a\u2028b", some .carriageReturn⟩, ⟨"", some .pair⟩, ⟨"", some .lineFeed⟩, ⟨"c", none⟩]

/-- A carriage return in front of a pair ends a line of its own, and so does a line feed behind the
pair; a separator of another sort stands inside its line like any character in its place. -/
theorem splitLines_inverts_writing_mixedLines :
    WellWritten mixedLines ∧ written mixedLines = "a\u2028b\r\r\n\nc" ∧
      splitLines "a\u2028b\r\r\n\nc" = ["a\u2028b", "", "", "c"] ∧
      KeepsLineEnds (fun c => if c = '\u2028' then '-' else c) ∧
      splitLines "a-b\r\r\n\nc" = ["a-b", "", "", "c"] := by
  obtain ⟨hread, -, hothers, -⟩ := splitLines_inverts_writing
  have hwritten : WellWritten mixedLines := ⟨by decide, by decide, by decide, by decide⟩
  have htext : written mixedLines = "a\u2028b\r\r\n\nc" := by decide
  have hlines := hread mixedLines hwritten
  rw [htext] at hlines
  have hkeeps : KeepsLineEnds (fun c => if c = '\u2028' then '-' else c) := by
    constructor
    all_goals
      intro c
      split
      · next hc => simp [hc]
      · rfl
  have hreplaced := hothers _ hkeeps "a\u2028b\r\r\n\nc"
  have hchars : ("a\u2028b\r\r\n\nc" : String).map (fun c => if c = '\u2028' then '-' else c) =
      "a-b\r\r\n\nc" := String.toList_injective (by rw [String.toList_map]; decide)
  rw [hlines, hchars] at hreplaced
  refine ⟨hwritten, htext, hlines, hkeeps, hreplaced.trans ?_⟩
  simp [mixedLines, ← String.toList_inj]

end FrontEnd.Text
