import FrontEnd.Datum
import FrontEnd.Position
import FrontEnd.Text.Lines

/-!
# The state of a scanner

A scanner holds the lines of a source and reads them one character at a time, with a line feed
where a line is left for the next one, and has one slot for a character that was read and given
back. The text still to be read is `upcoming`: the slot's character first, then what was never
read. Every operation is described by what it does to that text.
-/

namespace FrontEnd

/-- A scanner in the middle of a source. -/
structure Scanner where
  /-- The source as it was given. -/
  source : String
  /-- The lines of the source, without their ends. -/
  lines : List (List Char)
  /-- The number of lines before that of the cursor. -/
  line : Nat
  /-- The number of characters before the cursor on its line. -/
  column : Nat
  /-- The character given back, if any, and the place it counts as standing at. -/
  slot : Option (Char × Position)
  /-- The place of the character read last, at first that of the first character. -/
  last : Position
  deriving DecidableEq, Repr

/-- The ways of giving a character back that are refused. -/
inductive Misuse.Cause where
  /-- What was given back is not one character; it is shown like this. -/
  | notOneCharacter (shown : String)
  /-- The slot is taken. -/
  | slotOccupied

/-- A refusal to take a character back. -/
structure Misuse where
  /-- Why it is refused. -/
  cause : Misuse.Cause
  /-- Where the scanner stands. -/
  position : Position

namespace Misuse

/-- The wording of a cause. -/
def Cause.message : Cause → String
  | .notOneCharacter shown => "pushback takes exactly one character, got " ++ shown
  | .slotOccupied => "pushback buffer is already occupied"

/-- A message together with the place it speaks of. -/
def located (message : String) (p : Position) : String := message ++ " (at " ++ p.display ++ ")"

/-- The message of a refusal together with its place. -/
def message (m : Misuse) : String := located m.cause.message m.position

end Misuse

/-- What becomes of a character that is not taken back. -/
inductive Refusal where
  /-- The misuse is reported. -/
  | misuse (m : Misuse)
  /-- What was given cannot be shown, so the report fails. -/
  | unshown (f : DisplayFault)

namespace Scanner

/-- A scanner at the beginning of a source. -/
def ofSource (source : String) : Scanner where
  source := source
  lines := Text.linesOf source.toList
  line := 0
  column := 0
  slot := none
  last := .origin

/-- The place of the first character never read yet. -/
def cursor (s : Scanner) : Position := ⟨s.line + 1, s.column + 1⟩

/-- The place of the character to be read next. -/
def location (s : Scanner) : Position :=
  match s.slot with
  | some (_, p) => p
  | none => s.cursor

/-- The line that the cursor is on; empty if the source has no lines. -/
def currentLine (s : Scanner) : List Char := (s.lines[s.line]?).getD []

/-- Whether the cursor is behind the last character of the last line. -/
def cursorAtEnd (s : Scanner) : Bool :=
  decide (s.lines.length ≤ s.line + 1) && decide (s.currentLine.length ≤ s.column)

/-- Whether nothing is left to be read. -/
def isAtEnd (s : Scanner) : Bool := s.slot.isNone && s.cursorAtEnd

/-- Read one character, that in the slot first. Behind the last character of a line that is not
the last one stands a line feed. -/
def pull (s : Scanner) : Option (Char × Scanner) :=
  match s.slot with
  | some (c, p) => some (c, { s with slot := none, last := p })
  | none =>
    if s.cursorAtEnd then none
    else match s.currentLine[s.column]? with
      | some c => some (c, { s with column := s.column + 1, last := s.cursor })
      | none => some ('\n', { s with line := s.line + 1, column := 0, last := s.cursor })

/-- Put a character into the slot, at the place of the character read last. -/
def unread (s : Scanner) (c : Char) : Scanner := { s with slot := some (c, s.last) }

/-- Complain about what was given back and is not one character. -/
def complaint (s : Scanner) (given : Datum) : Refusal :=
  match given.display with
  | .ok shown => .misuse ⟨.notOneCharacter shown, s.location⟩
  | .error f => .unshown f

/-- Take back what a caller gives, if it is one character and the slot is free. -/
def pushBack (s : Scanner) (given : Datum) : Except Refusal Scanner :=
  match given with
  | .text t =>
    match t.toList with
    | [c] =>
      if s.slot.isSome then .error (.misuse ⟨.slotOccupied, s.location⟩) else .ok (s.unread c)
    | _ => .error (s.complaint given)
  | _ => .error (s.complaint given)

/-- The characters never read yet, with a line feed between the lines. -/
def remaining (s : Scanner) : List Char :=
  s.currentLine.drop s.column ++ (s.lines.drop (s.line + 1)).flatMap ('\n' :: ·)

/-- The characters still to be read, the one that was given back included. -/
def upcoming (s : Scanner) : List Char := (s.slot.map Prod.fst).toList ++ s.remaining

/-- A new scanner has the joined lines of its source before it. -/
@[simp] theorem upcoming_ofSource (source : String) :
    (ofSource source).upcoming = Text.joinLines (Text.linesOf source.toList) := by
  simp only [upcoming, ofSource, remaining, currentLine]
  cases Text.linesOf source.toList with
  | nil => rfl
  | cons l ls => simp [Text.joinLines_cons]

/-- A character in the slot is read before all others. -/
@[simp] theorem upcoming_unread {s : Scanner} (c : Char) :
    (s.unread c).upcoming = c :: s.remaining := rfl

/-- The cursor is at the end when no character is left for it. -/
theorem cursorAtEnd_iff {s : Scanner} : s.cursorAtEnd = true ↔ s.remaining = [] := by
  simp only [cursorAtEnd, remaining, Bool.and_eq_true, decide_eq_true_eq, List.append_eq_nil_iff,
    List.drop_eq_nil_iff, List.flatMap_eq_nil_iff, reduceCtorEq]
  constructor
  · rintro ⟨hline, hcolumn⟩
    refine ⟨hcolumn, fun l hl => ?_⟩
    rw [List.drop_eq_nil_of_le hline] at hl
    cases hl
  · rintro ⟨hcolumn, hlines⟩
    refine ⟨?_, hcolumn⟩
    cases hdrop : s.lines.drop (s.line + 1) with
    | nil => exact List.drop_eq_nil_iff.1 hdrop
    | cons l ls => exact absurd (by simp [hdrop]) (hlines l)

/-- The end is reached when no character is left. -/
theorem isAtEnd_iff {s : Scanner} : s.isAtEnd = true ↔ s.upcoming = [] := by
  cases hslot : s.slot with
  | some held => simp [isAtEnd, upcoming, hslot]
  | none => simp [isAtEnd, upcoming, hslot, cursorAtEnd_iff]

/-- Nothing is read when no character is left. -/
theorem pull_eq_none_iff {s : Scanner} : s.pull = none ↔ s.upcoming = [] := by
  cases hslot : s.slot with
  | some held => simp [pull, upcoming, hslot]
  | none =>
    simp only [pull, upcoming, hslot, Option.map_none, Option.toList_none, List.nil_append,
      ← cursorAtEnd_iff]
    split
    · next hend => simp [hend]
    · next hend => split <;> simp [hend]

/-- Inside a line the first of the remaining characters is that at the cursor. -/
theorem remaining_of_getElem? {s : Scanner} {c : Char} (h : s.currentLine[s.column]? = some c) :
    s.remaining = c :: { s with column := s.column + 1 : Scanner }.remaining := by
  obtain ⟨hlt, rfl⟩ := List.getElem?_eq_some_iff.1 h
  simp only [remaining, currentLine] at hlt ⊢
  rw [List.drop_eq_getElem_cons hlt, List.cons_append]

/-- Behind a line that is not the last one, a line feed and the next line remain. -/
theorem remaining_of_getElem?_none {s : Scanner} (h : s.currentLine[s.column]? = none)
    (hend : ¬ s.cursorAtEnd = true) :
    s.remaining = '\n' :: { s with line := s.line + 1, column := 0 : Scanner }.remaining := by
  have hcolumn : s.currentLine.length ≤ s.column := List.getElem?_eq_none_iff.1 h
  have hline : s.line + 1 < s.lines.length := by
    simp only [cursorAtEnd, Bool.and_eq_true, decide_eq_true_eq] at hend
    omega
  simp only [remaining, currentLine] at hcolumn ⊢
  rw [List.drop_eq_nil_of_le hcolumn, List.drop_eq_getElem_cons hline, List.flatMap_cons,
    List.getElem?_eq_getElem hline]
  rfl

/-- What reading a character does: it empties the slot, or moves the cursor along its line, or
behind the line to the next one. -/
theorem pull_cases {s t : Scanner} {c : Char} (h : s.pull = some (c, t)) :
    (∃ p, s.slot = some (c, p) ∧ t = { s with slot := none, last := p }) ∨
      (s.slot = none ∧ s.currentLine[s.column]? = some c ∧
        t = { s with column := s.column + 1, last := s.cursor }) ∨
      (s.slot = none ∧ ¬ s.cursorAtEnd = true ∧ s.currentLine[s.column]? = none ∧ c = '\n' ∧
        t = { s with line := s.line + 1, column := 0, last := s.cursor }) := by
  cases hslot : s.slot with
  | some held =>
    obtain ⟨d, p⟩ := held
    simp only [pull, hslot, Option.some.injEq, Prod.mk.injEq] at h
    obtain ⟨rfl, rfl⟩ := h
    exact .inl ⟨p, rfl, rfl⟩
  | none =>
    right
    simp only [pull, hslot] at h
    split at h
    · cases h
    · next hend =>
      split at h
      · next d hd =>
        simp only [Option.some.injEq, Prod.mk.injEq] at h
        obtain ⟨rfl, rfl⟩ := h
        exact .inl ⟨rfl, hd, rfl⟩
      · next hd =>
        simp only [Option.some.injEq, Prod.mk.injEq] at h
        obtain ⟨rfl, rfl⟩ := h
        exact .inr ⟨rfl, hend, hd, rfl, rfl⟩

/-- Reading takes the first of the upcoming characters and empties the slot. -/
theorem upcoming_of_pull {s t : Scanner} {c : Char} (h : s.pull = some (c, t)) :
    s.upcoming = c :: t.upcoming ∧ t.slot = none := by
  rcases pull_cases h with ⟨p, hslot, rfl⟩ | ⟨hslot, hget, rfl⟩ | ⟨hslot, hend, hget, rfl, rfl⟩
  · simp [upcoming, hslot, remaining, currentLine]
  · simpa [upcoming, hslot, remaining, currentLine] using remaining_of_getElem? hget
  · simpa [upcoming, hslot, remaining, currentLine] using remaining_of_getElem?_none hget hend

/-- Reading a character remembers where the scanner stood. -/
theorem last_of_pull {s t : Scanner} {c : Char} (h : s.pull = some (c, t)) :
    t.last = s.location := by
  rcases pull_cases h with ⟨p, hslot, rfl⟩ | ⟨hslot, -, rfl⟩ | ⟨hslot, -, -, -, rfl⟩
  all_goals simp only [location, hslot]

/-- With the slot free, a character given back comes before all others. -/
theorem upcoming_unread_of_slot {s : Scanner} (h : s.slot = none) (c : Char) :
    (s.unread c).upcoming = c :: s.upcoming := by
  rw [upcoming_unread, upcoming, h]
  rfl

/-- Read all characters of a class that come next, and give back the one that ends them. -/
def takeRun (p : Char → Bool) (s : Scanner) : List Char × Scanner :=
  match _hpull : s.pull with
  | none => ([], s)
  | some (c, t) =>
    if p c then
      let (run, u) := t.takeRun p
      (c :: run, u)
    else ([], t.unread c)
termination_by s.upcoming.length
decreasing_by simp [(upcoming_of_pull _hpull).1]

/-- No run is read when no character is left. -/
theorem takeRun_of_pull_eq_none (p : Char → Bool) {s : Scanner} (h : s.pull = none) :
    s.takeRun p = ([], s) := by
  rw [takeRun]
  split
  · rfl
  · next hpull => simp [h] at hpull

/-- A run goes on behind a character of the class, and any other one is given back. -/
theorem takeRun_of_pull_eq_some (p : Char → Bool) {s t : Scanner} {c : Char}
    (h : s.pull = some (c, t)) :
    s.takeRun p =
      if p c then (c :: (t.takeRun p).1, (t.takeRun p).2) else ([], t.unread c) := by
  rw [takeRun]
  split
  · next hpull => simp [h] at hpull
  · next d u hpull =>
    rw [h, Option.some.injEq, Prod.mk.injEq] at hpull
    obtain ⟨rfl, rfl⟩ := hpull
    rfl

/-- A run is what the class takes from the front, and the rest stays. -/
theorem takeRun_eq (p : Char → Bool) (s : Scanner) :
    (s.takeRun p).1 = s.upcoming.takeWhile p ∧
      (s.takeRun p).2.upcoming = s.upcoming.dropWhile p := by
  fun_induction takeRun p s with
  | case1 s h => simp [pull_eq_none_iff.1 h]
  | case2 s c t h hc run u hrun ih =>
    rw [(upcoming_of_pull h).1]
    rw [hrun] at ih
    simpa [hc] using ih
  | case3 s c t h hc =>
    obtain ⟨hs, ht⟩ := upcoming_of_pull h
    rw [hs]
    simp [hc, upcoming_unread_of_slot ht]

end Scanner

end FrontEnd
