import FrontEnd.FileSystem

/-!
# Files that are read and written

To look for a file and to read one leaves the files as they are. A file that was written can be
read again by the same path, because no directory on the way to it is where it was put, and what
stands at every other place is what stood there before.
-/

namespace FrontEnd

namespace FileSystem

/-- What was put at a place stands there, and elsewhere what stood there before. -/
theorem find?_put {fs : FileSystem} {p : Place} (hp : p.names ≠ []) (e : Entry) (q : Place) :
    (fs.put p e).find? q = if q = p then some e else fs.find? q := by
  by_cases hq : q = p
  · subst hq
    simp [find?, put, hp]
  · have hlookup : List.lookup q ((p, e) :: fs.entries) = fs.entries.lookup q := by
      simp [List.lookup_cons, beq_false_of_ne hq]
    simp only [find?, put, hlookup, if_neg hq]

/-- Where no directory is, the way leads down from where it started. -/
theorem names_ne_nil {fs : FileSystem} {p : Place} (h : fs.find? p ≠ some .directory) :
    p.names ≠ [] :=
  fun hnil => h (by simp [find?, hnil])

/-- A file is written where its path leads to, if no directory is there. -/
theorem write_eq_ok_iff {fs after : FileSystem} {p : Path} {bytes : List UInt8} :
    fs.write p bytes = .ok after ↔
      ∃ place, fs.resolve p = .ok place ∧ fs.find? place ≠ some .directory ∧
        after = fs.put place (.file bytes) := by
  cases hresolve : fs.resolve p with
  | error f => simp [write, hresolve, bind, Except.bind]
  | ok place =>
    simp only [write, hresolve, bind, Except.bind, Except.ok.injEq, exists_eq_left']
    cases hfind : fs.find? place with
    | none => simp [eq_comm]
    | some e =>
      cases e with
      | file old => simp [eq_comm]
      | directory => simp

/-- The way to a place does not lead through it, so it stays the same when a file is put there. -/
theorem resolveFrom_put {fs : FileSystem} {here place : Place} {parts : List String}
    (e : Entry) (h : fs.resolveFrom here parts = .ok place)
    (hplace : fs.find? place ≠ some .directory) :
    (fs.put place e).resolveFrom here parts = .ok place := by
  induction parts generalizing here with
  | nil => simpa [resolveFrom] using h
  | cons part parts ih =>
    rw [resolveFrom] at h ⊢
    have hhere : fs.find? here = some .directory := by
      split at h
      · assumption
      all_goals cases h
    have hne : here ≠ place := by
      rintro rfl
      exact hplace hhere
    rw [find?_put (names_ne_nil hplace), if_neg hne]
    simp only [hhere] at h ⊢
    split at h
    · cases h
    · next hlength => rw [if_neg hlength, ih h]

/-- A file that was written can be read again. -/
theorem read_of_write {fs after : FileSystem} {p : Path} {bytes : List UInt8}
    (h : fs.write p bytes = .ok after) : after.read p = .ok bytes := by
  obtain ⟨place, hresolve, hplace, rfl⟩ := write_eq_ok_iff.1 h
  have hagain : (fs.put place (.file bytes)).resolve p = .ok place := by
    rw [resolve] at hresolve ⊢
    split at hresolve
    · cases hresolve
    · split at hresolve
      · cases hresolve
      · next hnull hlength =>
        rw [if_neg hnull, if_neg hlength]
        cases hfrom : fs.resolveFrom (Place.start p) p.parts with
        | error c =>
          rw [hfrom] at hresolve
          cases hresolve
        | ok q =>
          rw [hfrom] at hresolve
          cases hresolve
          rw [resolveFrom_put (.file bytes) hfrom hplace]
          rfl
  simp [read, hagain, find?_put (names_ne_nil hplace), bind, Except.bind]

end FileSystem

/-- An action goes on from what the one before it gave and left. -/
theorem run_bind_of_run {α β : Type} {x : StateM FileSystem α} {f : α → StateM FileSystem β}
    {before after : FileSystem} {a : α} (h : x.run before = (a, after)) :
    (x >>= f).run before = (f a).run after := by
  rw [StateT.run_bind, h]
  rfl

/-- An action that leaves the files as they are. -/
def ReadOnly {α : Type} (x : StateM FileSystem α) : Prop := ∀ fs, (x.run fs).2 = fs

namespace ReadOnly

variable {α β : Type}

/-- An action that does nothing leaves the files as they are. -/
theorem pure (a : α) : ReadOnly (Pure.pure a) := fun _ => rfl

/-- Two actions leave the files as they are if both of them do. -/
theorem bind {x : StateM FileSystem α} {f : α → StateM FileSystem β} (hx : ReadOnly x)
    (hf : ∀ a, ReadOnly (f a)) : ReadOnly (x >>= f) := by
  intro fs
  calc ((x >>= f).run fs).2
    _ = ((f (x.run fs).1).run (x.run fs).2).2 := rfl
    _ = (x.run fs).2 := hf _ _
    _ = fs := hx fs

/-- An action that leaves the files as they are gives its result beside them. -/
theorem run_eq {x : StateM FileSystem α} (hx : ReadOnly x) (fs : FileSystem) :
    x.run fs = ((x.run fs).1, fs) :=
  Prod.ext rfl (hx fs)

end ReadOnly

/-- Access to files held in memory that may be refused, for whatever reason, when a file is looked
for or opened. A file that was opened is read or written as a whole. -/
structure FileAccess.RefusesAtMost (files : FileAccess (StateM FileSystem)) : Prop where
  /-- To look for a file leaves the files as they are. -/
  readOnly_isFile : ∀ p, ReadOnly (files.isFile p)
  /-- A file is read, or it is not opened. -/
  read : ∀ p fs, (files.read p).run fs = (fs.read p, fs) ∨
    ∃ f, (files.read p).run fs = (.error f, fs)
  /-- A file is written, or it is not opened. -/
  write : ∀ p bytes fs,
    (∃ after, fs.write p bytes = .ok after ∧ (files.write p bytes).run fs = (.ok (), after)) ∨
      ∃ f, (files.write p bytes).run fs = (.error f, fs)

namespace FileAccess.RefusesAtMost

variable {files : FileAccess (StateM FileSystem)}

/-- To read a file leaves the files as they are. -/
theorem readOnly_read (h : files.RefusesAtMost) (p : Path) : ReadOnly (files.read p) := by
  intro fs
  obtain hread | ⟨f, hread⟩ := h.read p fs
  all_goals rw [hread]

/-- What was read stood there. -/
theorem read_eq_ok (h : files.RefusesAtMost) {p : Path} {fs : FileSystem} {bytes : List UInt8}
    (hread : (files.read p).run fs = (.ok bytes, fs)) : fs.read p = .ok bytes := by
  obtain hopened | ⟨f, hrefused⟩ := h.read p fs
  · exact (Prod.ext_iff.1 (hopened.symm.trans hread)).1
  · cases hrefused.symm.trans hread

end FileAccess.RefusesAtMost

/-- Files held in memory are opened whenever they can be. -/
theorem FileSystem.refusesAtMost_access : access.RefusesAtMost where
  readOnly_isFile _ _ := rfl
  read _ _ := .inl rfl
  write p bytes fs := by
    simp only [access, StateT.run_bind, StateT.run_get, pure_bind]
    cases fs.write p bytes with
    | ok after => exact .inl ⟨after, rfl, rfl⟩
    | error f => exact .inr ⟨f, rfl⟩

/-- To write a file held in memory changes the files if the file can be opened. -/
theorem FileSystem.run_access_write (fs : FileSystem) (p : Path) (bytes : List UInt8) :
    (access.write p bytes).run fs =
      match fs.write p bytes with
      | .ok after => (.ok (), after)
      | .error f => (.error f, fs) := by
  simp only [access, StateT.run_bind, StateT.run_get, pure_bind]
  cases fs.write p bytes <;> rfl

end FrontEnd
