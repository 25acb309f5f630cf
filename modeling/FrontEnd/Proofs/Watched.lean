import FrontEnd.Proofs.Layout
import FrontEnd.Proofs.Operation

/-!
# A scanner under watch

A watched scanner does what a scanner does, and checks what a scanner takes for granted: that the
line it looks up is there, and that the character behind a run is taken back. It records the
characters that it reads and the tokens that it returns, with the places where it stood. An
operation that passes the checks is the plain one, and from the beginning of a source on all
operations pass them.
-/

namespace FrontEnd

/-- The ways in which an operation could break off. -/
inductive Breach where
  /-- There is no line where the cursor is. -/
  | noLine
  /-- A character is not taken back. -/
  | refused (r : Refusal)

/-- A token, and where the scanner stood just before it was scanned and just after. -/
structure ScannedToken where
  /-- The token. -/
  token : Token
  /-- Where the scanner stood before. -/
  before : Position
  /-- Where the scanner stood after. -/
  after : Position

/-- A scanner with a record of what it has done since its source was begun, the latest first. -/
structure WatchedScanner where
  /-- The scanner. -/
  scanner : Scanner
  /-- The characters that were read, each with the place where it was read. -/
  pulled : List (Char × Position)
  /-- The tokens that were returned. -/
  returned : List ScannedToken

/-- Whether a line is looked up to read the next character. -/
def Scanner.looksUpLine (s : Scanner) : Bool := s.slot.isNone && !s.cursorAtEnd

namespace WatchedScanner

open Scanner (Operation Reply)

/-- A watched scanner at the beginning of a source. -/
def ofSource (source : String) : WatchedScanner := ⟨.ofSource source, [], []⟩

/-- Read one character, and break off if its line is looked up and is not there. -/
def pull (w : WatchedScanner) : Except Breach (Option (Char × WatchedScanner)) :=
  if w.scanner.looksUpLine ∧ w.scanner.lines[w.scanner.line]? = none then .error .noLine
  else .ok (w.scanner.pull.map fun (c, s) =>
    (c, { w with scanner := s, pulled := (c, w.scanner.location) :: w.pulled }))

/-- Take something back. -/
def pushBack (w : WatchedScanner) (given : Datum) : Except Refusal WatchedScanner :=
  (w.scanner.pushBack given).map fun s => { w with scanner := s }

/-- An action with an outcome after which another one is performed had an outcome itself. -/
theorem exists_ok_of_bind {ε α β : Type} {x : Except ε α} {f : α → Except ε β} {b : β}
    (h : x >>= f = .ok b) : ∃ a, x = .ok a ∧ f a = .ok b := by
  cases x with
  | error e => cases h
  | ok a => exact ⟨a, rfl, h⟩

/-- What is read by a watched scanner is what the scanner reads. -/
theorem scanner_of_pull {w : WatchedScanner} {r : Option (Char × WatchedScanner)}
    (h : w.pull = .ok r) : w.scanner.pull = r.map fun (c, v) => (c, v.scanner) := by
  rw [pull] at h
  split at h
  · cases h
  · cases h
    cases w.scanner.pull <;> rfl

/-- What is taken back by a watched scanner is taken back by the scanner. -/
theorem scanner_of_pushBack {w v : WatchedScanner} {given : Datum}
    (h : w.pushBack given = .ok v) : w.scanner.pushBack given = .ok v.scanner := by
  rw [pushBack] at h
  cases hpush : w.scanner.pushBack given with
  | error m => simp [hpush, Except.map] at h
  | ok s =>
    rw [hpush] at h
    cases h
    rfl

/-- Read all characters of a class that come next, and give back the one that ends them. -/
def takeRun (p : Char → Bool) (w : WatchedScanner) : Except Breach (List Char × WatchedScanner) :=
  match _hpull : w.pull with
  | .error b => .error b
  | .ok none => .ok ([], w)
  | .ok (some (c, v)) =>
    if p c then do
      let (run, u) ← v.takeRun p
      return (c :: run, u)
    else do
      let u ← (v.pushBack (.text (String.singleton c))).mapError .refused
      return ([], u)
termination_by w.scanner.upcoming.length
decreasing_by
  rw [(Scanner.upcoming_of_pull (scanner_of_pull _hpull)).1]
  exact Nat.lt_succ_self _

/-- Read what goes on with a token of a kind. -/
def takeRest (kind : TokenKind) (w : WatchedScanner) : Except Breach (List Char × WatchedScanner) :=
  match kind.runClass? with
  | none => .ok ([], w)
  | some p => w.takeRun p

/-- Scan the next token, and say where the scanner stood. -/
def nextToken (w : WatchedScanner) : Except Breach (ScannedToken × WatchedScanner) := do
  let start := w.scanner.location
  match ← w.pull with
  | none => return (⟨.atEnd start, start, start⟩, w)
  | some (c, v) =>
    let kind := TokenKind.ofFirst c
    let (rest, u) ← v.takeRest kind
    let stop := u.scanner.location
    return (⟨.ofChars kind (c :: rest) ⟨start, stop⟩, start, stop⟩, u)

/-- A run that is read under watch is the one that the scanner reads. -/
theorem scanner_of_takeRun {p : Char → Bool} {w u : WatchedScanner} {run : List Char}
    (h : w.takeRun p = .ok (run, u)) : w.scanner.takeRun p = (run, u.scanner) := by
  fun_induction takeRun p w generalizing run u with
  | case1 w b hpull => cases h
  | case2 w hpull =>
    cases h
    exact Scanner.takeRun_of_pull_eq_none p (scanner_of_pull hpull)
  | case3 w c v hpull hc ih =>
    obtain ⟨⟨rest, t⟩, hrest, ht⟩ := exists_ok_of_bind h
    cases ht
    rw [Scanner.takeRun_of_pull_eq_some p (scanner_of_pull hpull), if_pos hc, ih hrest]
  | case4 w c v hpull hc =>
    obtain ⟨t, hpush, ht⟩ := exists_ok_of_bind h
    cases ht
    rw [Scanner.takeRun_of_pull_eq_some p (scanner_of_pull hpull), if_neg hc]
    cases hback : v.pushBack (.text (String.singleton c)) with
    | error m =>
      rw [hback] at hpush
      cases hpush
    | ok t =>
      rw [hback] at hpush
      cases hpush
      obtain ⟨text, d, htext, hd, -, hu⟩ := Scanner.pushBack_eq_ok_iff.1 (scanner_of_pushBack hback)
      cases htext
      obtain rfl : c = d := by simpa using hd
      rw [hu]

/-- A token that is scanned under watch is the one that the scanner scans. -/
theorem scanner_of_nextToken {w v : WatchedScanner} {t : ScannedToken}
    (h : w.nextToken = .ok (t, v)) : w.scanner.nextToken = (t.token, v.scanner) := by
  obtain ⟨r, hpull, h⟩ := exists_ok_of_bind h
  have hscanner := scanner_of_pull hpull
  cases r with
  | none =>
    cases h
    exact Scanner.nextToken_of_upcoming_nil (Scanner.pull_eq_none_iff.1 hscanner)
  | some r =>
    obtain ⟨c, x⟩ := r
    obtain ⟨⟨run, u⟩, hrun, h⟩ := exists_ok_of_bind h
    cases h
    simp only [Option.map_some] at hscanner
    simp only [Scanner.nextToken, hscanner]
    cases hclass : (TokenKind.ofFirst c).runClass? with
    | none =>
      simp only [takeRest, hclass] at hrun
      cases hrun
      rfl
    | some p =>
      simp only [takeRest, hclass] at hrun
      have htake := scanner_of_takeRun hrun
      simp only [htake]

/-- A token under watch that is not the end of the source makes the upcoming text shorter. -/
theorem upcoming_nextToken_lt {w v : WatchedScanner} {t : ScannedToken}
    (h : w.nextToken = .ok (t, v)) (ht : t.token.kind ≠ .endOfInput) :
    v.scanner.upcoming.length < w.scanner.upcoming.length := by
  have hnext := scanner_of_nextToken h
  have hlt := Scanner.upcoming_nextToken_lt (s := w.scanner) (by rw [hnext]; exact ht)
  rwa [hnext] at hlt

/-- Scan the next token that is not whitespace. -/
def nextSignificant (w : WatchedScanner) : Except Breach (ScannedToken × WatchedScanner) :=
  match _hnext : w.nextToken with
  | .error b => .error b
  | .ok (t, v) => if t.token.kind = .whitespace then v.nextSignificant else .ok (t, v)
termination_by w.scanner.upcoming.length
decreasing_by exact upcoming_nextToken_lt _hnext (by simp [*])

/-- Record that a token is returned. -/
def record (w : WatchedScanner) (t : ScannedToken) : WatchedScanner :=
  { w with returned := t :: w.returned }

/-- Scan and return all tokens up to and with the end of the source. -/
def drain (w : WatchedScanner) : Except Breach (List Token × WatchedScanner) :=
  match _hnext : w.nextToken with
  | .error b => .error b
  | .ok (t, v) =>
    if t.token.kind = .endOfInput then .ok ([t.token], v.record t)
    else do
      let (tokens, u) ← (v.record t).drain
      return (t.token :: tokens, u)
termination_by w.scanner.upcoming.length
decreasing_by
  show v.scanner.upcoming.length < w.scanner.upcoming.length
  exact upcoming_nextToken_lt _hnext (by assumption)

/-- The answer to an operation and the watched scanner after it. -/
def perform (w : WatchedScanner) : Operation → Except Breach (Reply × WatchedScanner)
  | .restart source => .ok (.done, ofSource source)
  | .pushBack given =>
    match w.pushBack given with
    | .ok v => .ok (.done, v)
    | .error r => .ok (.refused r, w)
  | .nextToken => do
    let (t, v) ← w.nextToken
    return (.token t.token, v.record t)
  | .nextSignificant => do
    let (t, v) ← w.nextSignificant
    return (.token t.token, v.record t)
  | .drain => do
    let (tokens, v) ← w.drain
    return (.tokens tokens, v)

/-- The answers to operations performed one after the other, and the watched scanner after
them. -/
def performAll (w : WatchedScanner) : List Operation → Except Breach (List Reply × WatchedScanner)
  | [] => .ok ([], w)
  | op :: ops => do
    let (reply, v) ← w.perform op
    let (replies, u) ← v.performAll ops
    return (reply :: replies, u)

/-- A significant token that is scanned under watch is the one that the scanner scans. -/
theorem scanner_of_nextSignificant {w v : WatchedScanner} {t : ScannedToken}
    (h : w.nextSignificant = .ok (t, v)) :
    w.scanner.nextSignificant = (t.token, v.scanner) := by
  fun_induction nextSignificant w with
  | case1 w b hnext => cases h
  | case2 w x y hnext hkind ih =>
    have hscanner := scanner_of_nextToken hnext
    rw [Scanner.nextSignificant, hscanner, if_pos hkind]
    exact ih h
  | case3 w x y hnext hkind =>
    cases h
    have hscanner := scanner_of_nextToken hnext
    rw [Scanner.nextSignificant, hscanner, if_neg hkind]

/-- All tokens that are scanned under watch are those that the scanner has left. -/
theorem scanner_of_drain {w v : WatchedScanner} {tokens : List Token}
    (h : w.drain = .ok (tokens, v)) : w.scanner.drain = (tokens, v.scanner) := by
  fun_induction drain w generalizing tokens v with
  | case1 w b hnext => cases h
  | case2 w t u hnext hkind =>
    cases h
    rw [Scanner.drain, scanner_of_nextToken hnext, if_pos hkind]
    rfl
  | case3 w t u hnext hkind ih =>
    obtain ⟨⟨rest, x⟩, hrest, hx⟩ := exists_ok_of_bind h
    cases hx
    have hdrain : u.scanner.drain = (rest, v.scanner) := ih hrest
    rw [Scanner.drain, scanner_of_nextToken hnext, if_neg hkind, hdrain]

/-- An operation under watch is the one on the scanner. -/
theorem scanner_of_perform {w v : WatchedScanner} {op : Operation} {reply : Reply}
    (h : w.perform op = .ok (reply, v)) : w.scanner.perform op = (reply, v.scanner) := by
  cases op with
  | restart source =>
    cases h
    rfl
  | pushBack given =>
    cases hpush : w.pushBack given with
    | ok u =>
      simp only [perform, hpush] at h
      cases h
      simp only [Scanner.perform, scanner_of_pushBack hpush]
    | error m =>
      simp only [perform, hpush] at h
      cases h
      cases hscanner : w.scanner.pushBack given with
      | ok s => simp [pushBack, hscanner, Except.map] at hpush
      | error n =>
        simp only [pushBack, hscanner, Except.map, Except.error.injEq] at hpush
        simp only [Scanner.perform, hscanner, hpush]
  | nextToken =>
    obtain ⟨⟨t, u⟩, hnext, hu⟩ := exists_ok_of_bind h
    cases hu
    simp only [Scanner.perform, scanner_of_nextToken hnext]
    rfl
  | nextSignificant =>
    obtain ⟨⟨t, u⟩, hnext, hu⟩ := exists_ok_of_bind h
    cases hu
    simp only [Scanner.perform, scanner_of_nextSignificant hnext]
    rfl
  | drain =>
    obtain ⟨⟨tokens, u⟩, hdrain, hu⟩ := exists_ok_of_bind h
    cases hu
    simp only [Scanner.perform, scanner_of_drain hdrain]

/-- Operations under watch are those on the scanner. -/
theorem scanner_of_performAll {w v : WatchedScanner} {ops : List Operation}
    {replies : List Reply} (h : w.performAll ops = .ok (replies, v)) :
    w.scanner.replies ops = replies ∧ w.scanner.after ops = v.scanner := by
  induction ops generalizing w replies with
  | nil =>
    cases h
    exact ⟨rfl, rfl⟩
  | cons op ops ih =>
    obtain ⟨⟨reply, u⟩, hop, h⟩ := exists_ok_of_bind h
    obtain ⟨⟨rest, x⟩, hrest, h⟩ := exists_ok_of_bind h
    cases h
    obtain ⟨hreplies, hafter⟩ := ih hrest
    simp only [Scanner.replies, Scanner.after, scanner_of_perform hop, hreplies, hafter, and_self]

end WatchedScanner

end FrontEnd
