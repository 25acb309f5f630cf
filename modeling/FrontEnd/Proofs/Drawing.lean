import FrontEnd.LexError
import FrontEnd.Proofs.Listing

/-!
# The drawing of an error

An error is drawn on five lines if its message and the name of the file are on one line each. The
line number and the margins are free of bars, so the first bar of each of the last three lines is
that of the gutter, and it stands in the same column whatever the number. A drawing is refused only
if its blanks cannot be counted, its line number cannot be written, or the whole does not fit.
-/

namespace FrontEnd

open Text

/-- The pieces of a text are those that it is split into. -/
theorem Text.pieces_eq_splitOn (separator : Char) (cs : List Char) :
    pieces separator cs = cs.splitOn separator := by
  induction cs with
  | nil => rfl
  | cons c cs ih =>
    rw [pieces_cons, List.splitOn, List.splitOnP_cons_eq_if_modifyHead, ih]
    simp [List.splitOn]

/-- Lines that are joined by line feeds are cut into the same lines again. -/
theorem Text.pieces_joinLines {lines : List (List Char)} (hlines : lines ≠ [])
    (h : ∀ l ∈ lines, '\n' ∉ l) : pieces '\n' (joinLines lines) = lines := by
  rw [pieces_eq_splitOn, joinLines, List.splitOn_intercalate '\n' h hlines]

/-- Copies of a character behind others stand exactly where they were put. -/
theorem Text.getElem?_append_replicate {front : List Char} {c : Char} (h : c ∉ front) (n i : ℕ) :
    (front ++ List.replicate n c)[i]? = some c ↔ front.length ≤ i ∧ i < front.length + n := by
  rw [List.getElem?_append]
  split
  · next hi =>
    constructor
    · exact fun hc => absurd (List.mem_of_getElem? hc) h
    · omega
  · rw [List.getElem?_replicate]
    split <;> simp only [true_iff, reduceCtorEq, false_iff] <;> omega

/-- The first bar of a line stands behind a number of characters. -/
def BarAt (line : List Char) (column : ℕ) : Prop :=
  ∃ before after, line = before ++ '|' :: after ∧ '|' ∉ before ∧ before.length = column

/-- The text has five lines, of which the last has a caret, and on the last three of which the
first bar stands in the same column. -/
structure IsDrawing (text : String) (gutter : ℕ) (fourth fifth : List Char) : Prop where
  /-- These are its last two lines, and the bar stands on the third line. -/
  lines : ∃ first second third,
    pieces '\n' text.toList = [first, second, third, fourth, fifth] ∧ BarAt third gutter
  /-- The bar stands on the fourth line. -/
  fourth_bar : BarAt fourth gutter
  /-- The bar stands on the fifth line. -/
  fifth_bar : BarAt fifth gutter
  /-- A caret stands on the fifth line. -/
  caret : '^' ∈ fifth

namespace LexError

/-- The number of characters before the bar of the gutter. -/
def gutter (e : LexError) : ℕ := (toString e.span.start.line).length + 1

/-- The fourth line. -/
def sourceRow (e : LexError) : List Char :=
  (toString e.span.start.line).toList ++ ' ' :: '|' :: ' ' :: e.sourceLine.toList

/-- The fifth line. -/
def caretRow (e : LexError) : List Char :=
  List.replicate e.gutter ' ' ++ '|' :: ' ' ::
    (List.replicate (e.span.start.column - 1).toNat ' ' ++ List.replicate e.caretCount.toNat '^')

/-- A memory of that many characters holds the text. -/
def Fits (memory : ℕ) (text : String) : Prop :=
  text.length < 0x8000000000000000 ∧ text.length ≤ memory

/-- The error can be shown in a memory of that many characters. -/
structure Showable (memory : ℕ) (e : LexError) (file : String) : Prop where
  /-- The blanks before the carets, if negative in number, are not too few for a word of 64 bits. -/
  margin : -0x8000000000000000 ≤ e.span.start.column - 1
  /-- The number of the line can be written. -/
  line : IsShort e.span.start.line
  /-- The memory holds the text. -/
  fits : Fits memory (e.render file)

variable {e : LexError} {file text : String} {memory : ℕ}

/-- A number of characters is not refused if it can be counted and fits. -/
theorem exists_checkCount_iff {n : Int} : (∃ u, checkCount memory n = .ok u) ↔
    -0x8000000000000000 ≤ n ∧ n < 0x8000000000000000 ∧ n ≤ memory := by
  unfold checkCount
  split
  · simp only [reduceCtorEq, exists_false, false_iff]
    omega
  split
  · simp only [reduceCtorEq, exists_false, false_iff]
    omega
  · exact iff_of_true ⟨(), rfl⟩ (by omega)

/-- The number of a line is not refused if it is short. -/
theorem exists_numeral_iff {n : Int} :
    (∃ s, (numeral n).mapError Unshowable.longNumeral = .ok s) ↔ IsShort n := by
  by_cases h : IsShort n
  · simp [h, numeral_of_isShort h, Except.mapError]
  · simp [h, numeral_of_not_isShort h, Except.mapError]

/-- A step and what follows it have an outcome if both have. -/
theorem bind_eq_ok_iff {α β : Type} {x : Except Unshowable α} {f : α → Except Unshowable β}
    {b : β} : x >>= f = .ok b ↔ ∃ a, x = .ok a ∧ f a = .ok b := by
  cases x with
  | error u => simp [bind, Except.bind]
  | ok a => simp [bind, Except.bind]

/-- The text is its lines, joined. -/
theorem toList_render (e : LexError) (file : String) :
    (e.render file).toList = joinLines ((e.lines file).map String.toList) := by
  simp [render, joinLines]

/-- The line that is shown is one of the source, or empty. -/
theorem lineFeed_not_mem_sourceLine (e : LexError) : '\n' ∉ e.sourceLine.toList := by
  unfold sourceLine
  dsimp only
  split
  · simp
  · rw [splitLines, List.getElem?_map]
    cases hline : (linesOf e.source.toList)[(e.span.start.line - 1).toNat]? with
    | none => simp
    | some l => simpa using lineFeed_not_mem_of_mem_linesOf (List.mem_of_getElem? hline)

/-- The lines of the text, as characters. -/
theorem map_toList_lines (e : LexError) (file : String) : (e.lines file).map String.toList =
    [("error: " ++ e.message).toList,
      List.replicate e.gutter ' ' ++ ("--> " ++ file ++ ":" ++ e.span.start.display).toList,
      List.replicate e.gutter ' ' ++ ['|'], e.sourceRow, e.caretRow] := by
  simp [lines, copies, gutter, sourceRow, caretRow]

/-- The text is at least as long as its blanks before the carets are many, and as the carets
are. -/
theorem count_le_length_render (e : LexError) (file : String) :
    e.span.start.column - 1 ≤ (e.render file).length ∧
      e.caretCount ≤ (e.render file).length := by
  have hlength := congrArg List.length (e.toList_render file)
  rw [map_toList_lines, String.length_toList] at hlength
  simp only [joinLines_cons, caretRow, List.flatMap_cons, List.flatMap_nil, List.length_append,
    List.length_cons, List.length_replicate, List.length_nil] at hlength
  omega

/-- An error is shown if it can be, and then by its text. -/
theorem tryRender_eq_ok_iff :
    e.tryRender memory file = .ok text ↔ e.Showable memory file ∧ text = e.render file := by
  obtain ⟨hmargin, hcarets⟩ := e.count_le_length_render file
  have hone := e.one_le_caretCount
  simp only [tryRender, bind_eq_ok_iff, exists_and_right, exists_checkCount_iff,
    exists_numeral_iff, pure, Except.pure, Except.ok.injEq]
  constructor
  · rintro ⟨hmarginOk, -, hline, hlengthOk, rfl⟩
    exact ⟨⟨hmarginOk.1, hline, by omega, by omega⟩, rfl⟩
  · rintro ⟨⟨hmarginOk, hline, hlt, hle⟩, rfl⟩
    exact ⟨by omega, by omega, hline, by omega, rfl⟩

/-- The five lines make up the text. -/
theorem pieces_render (hmessage : '\n' ∉ e.message.toList) (hfile : '\n' ∉ file.toList) :
    pieces '\n' (e.render file).toList = (e.lines file).map String.toList := by
  rw [toList_render, pieces_joinLines (by simp [lines])]
  have hnumber := lineFeed_not_mem_repr e.span.start.line
  have hdisplay : '\n' ∉ e.span.start.display.toList := fun h => by
    rcases Position.of_mem_display h with hc | hc | hc <;> revert hc <;> decide
  have hline := e.lineFeed_not_mem_sourceLine
  rw [map_toList_lines]
  simp only [List.forall_mem_cons]
  refine ⟨?_, ?_, ?_, ?_, ?_, by simp⟩
  · simpa using hmessage
  · simp [hfile, hdisplay]
  · simp
  · simp [sourceRow, hnumber, hline]
  · simp [caretRow]

/-- **An error is drawn**, whatever its span, if its message and the name of the file are on one
line each. -/
theorem isDrawing_render (hmessage : '\n' ∉ e.message.toList) (hfile : '\n' ∉ file.toList) :
    IsDrawing (e.render file) e.gutter e.sourceRow e.caretRow where
  lines := by
    rw [pieces_render hmessage hfile, map_toList_lines]
    exact ⟨_, _, _, rfl, List.replicate e.gutter ' ', [], rfl, by simp, by simp⟩
  fourth_bar := by
    refine ⟨(toString e.span.start.line).toList ++ [' '], ' ' :: e.sourceLine.toList,
      by simp [sourceRow], ?_, by simp [gutter, String.length_toList]⟩
    simp only [List.mem_append, List.mem_singleton, not_or]
    refine ⟨fun h => ?_, by decide⟩
    rcases sign_or_digit_of_mem_repr h with hc | hc <;> revert hc <;> decide
  fifth_bar := ⟨List.replicate e.gutter ' ', _, rfl, by simp, by simp⟩
  caret := by
    have := e.one_le_caretCount
    simp [caretRow]
    omega

/-- The carets stand behind the blanks, and their number is the one counted. -/
theorem getElem?_caretRow (i : ℕ) : e.caretRow[i]? = some '^' ↔
    e.gutter + 2 + (e.span.start.column - 1).toNat ≤ i ∧
      i < e.gutter + 2 + (e.span.start.column - 1).toNat + e.caretCount.toNat := by
  have hrow : e.caretRow =
      (List.replicate e.gutter ' ' ++ ['|', ' '] ++
        List.replicate (e.span.start.column - 1).toNat ' ') ++
      List.replicate e.caretCount.toNat '^' := by simp [caretRow]
  rw [hrow, getElem?_append_replicate (by simp)]
  simp only [List.length_append, List.length_replicate, List.length_cons, List.length_nil,
    Nat.reduceAdd]

end LexError

end FrontEnd
