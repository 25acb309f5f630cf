import FrontEnd.Token.Kind

/-!
# First characters

The classes of characters that begin a token have no character in common, so the kind of a token
is decided by its first character whatever the order in which the classes are tried.
-/

namespace FrontEnd

open Unicode

/-- No whitespace character is a letter. -/
theorem isLetter_of_isBlank {c : Char} (h : isBlank c = true) : isLetter c = false := by
  have hranges : ∀ r ∈ blankRanges, ∀ n ∈ List.range' r.1 (r.2 + 1 - r.1),
      inRanges letterRanges n = false := by decide +kernel
  obtain ⟨r, hr, hlow, hhigh⟩ := exists_range_of_inRanges h
  apply hranges r hr c.toNat
  rw [List.mem_range'_1]
  omega

/-- No letter is whitespace. -/
theorem isBlank_of_isLetter {c : Char} (h : isLetter c = true) : isBlank c = false := by
  apply Bool.eq_false_iff.2
  intro hblank
  simp [isLetter_of_isBlank hblank] at h

/-- The ASCII digits are ten neighbouring code points. -/
theorem isDigit_iff {c : Char} : isDigit c = true ↔ 0x30 ≤ c.toNat ∧ c.toNat ≤ 0x39 := by
  simp only [isDigit, Bool.and_eq_true, decide_eq_true_eq]
  rfl

/-- No ASCII digit is a letter. -/
theorem isLetter_of_isDigit {c : Char} (h : isDigit c = true) : isLetter c = false := by
  have hdigit := isDigit_iff.1 h
  rw [isLetter, letterRanges, inRanges, if_pos (by omega)]

/-- No ASCII digit is whitespace. -/
theorem isBlank_of_isDigit {c : Char} (h : isDigit c = true) : isBlank c = false := by
  have hranges : ∀ n ∈ List.range' 0x30 10, inRanges blankRanges n = false := by decide
  have hdigit := isDigit_iff.1 h
  apply hranges c.toNat
  rw [List.mem_range'_1]
  omega

namespace TokenKind

/-- Whether a character goes on with a token of this kind. -/
def continues (kind : TokenKind) (c : Char) : Bool :=
  match kind.runClass? with
  | some p => p c
  | none => false

/-- A character that is a token by itself is in no other class. -/
theorem classes_of_mem_punctuation {c : Char} {kind : TokenKind} (h : (c, kind) ∈ punctuation) :
    isLetter c = false ∧ isDigit c = false ∧ isBlank c = false := by
  have hmarks : ∀ e ∈ punctuation,
      isLetter e.1 = false ∧ isDigit e.1 = false ∧ isBlank e.1 = false := by decide
  exact hmarks (c, kind) h

/-- A character that is a token by itself begins a token of its own kind. -/
theorem ofFirst_of_mem_punctuation {c : Char} {kind : TokenKind} (h : (c, kind) ∈ punctuation) :
    ofFirst c = kind := by
  have hmarks : ∀ e ∈ punctuation, ofFirst e.1 = e.2 := by decide
  exact hmarks (c, kind) h

/-- A character of another class is not a token by itself. -/
theorem lookup_punctuation_eq_none {c : Char} (h : ∀ kind, (c, kind) ∉ punctuation) :
    punctuation.lookup c = none := by
  cases hlookup : punctuation.lookup c with
  | none => rfl
  | some kind =>
    obtain ⟨before, after, heq, -⟩ := List.lookup_eq_some_iff.1 hlookup
    exact absurd (by simp [heq]) (h kind)

/-- A letter begins an identifier. -/
theorem ofFirst_of_isLetter {c : Char} (h : isLetter c = true) : ofFirst c = identifier := by
  have hlookup : punctuation.lookup c = none := by
    apply lookup_punctuation_eq_none
    intro kind hmem
    simp [(classes_of_mem_punctuation hmem).1] at h
  simp [ofFirst, hlookup, beginsIdentifier, h]

/-- An ASCII digit begins a number. -/
theorem ofFirst_of_isDigit {c : Char} (h : isDigit c = true) : ofFirst c = number := by
  have hlookup : punctuation.lookup c = none := by
    apply lookup_punctuation_eq_none
    intro kind hmem
    simp [(classes_of_mem_punctuation hmem).2.1] at h
  simp [ofFirst, hlookup, beginsIdentifier, isLetter_of_isDigit h, h]

/-- A whitespace character begins whitespace. -/
theorem ofFirst_of_isBlank {c : Char} (h : isBlank c = true) : ofFirst c = whitespace := by
  have hlookup : punctuation.lookup c = none := by
    apply lookup_punctuation_eq_none
    intro kind hmem
    simp [(classes_of_mem_punctuation hmem).2.2] at h
  have hdigit : isDigit c = false := by
    apply Bool.eq_false_iff.2
    intro hc
    simp [isBlank_of_isDigit hc] at h
  simp [ofFirst, hlookup, beginsIdentifier, isLetter_of_isBlank h, hdigit, h]

/-- A character of no class begins a token that is unknown. -/
theorem ofFirst_of_no_class {c : Char} (hmark : ∀ e ∈ punctuation, e.1 ≠ c)
    (hletter : isLetter c = false) (hdigit : isDigit c = false) (hblank : isBlank c = false) :
    ofFirst c = unknown := by
  have hlookup : punctuation.lookup c = none :=
    lookup_punctuation_eq_none fun kind hmem => hmark (c, kind) hmem rfl
  simp [ofFirst, hlookup, beginsIdentifier, hletter, hdigit, hblank]

/-- Every character is a token by itself, or in one of the three classes, or in none. -/
theorem ofFirst_cases (c : Char) :
    (c, ofFirst c) ∈ punctuation ∨ (isLetter c = true ∧ ofFirst c = identifier) ∨
      (isDigit c = true ∧ ofFirst c = number) ∨ (isBlank c = true ∧ ofFirst c = whitespace) ∨
      ((∀ e ∈ punctuation, e.1 ≠ c) ∧ isLetter c = false ∧ isDigit c = false ∧
        isBlank c = false ∧ ofFirst c = unknown) := by
  by_cases hmark : ∃ e ∈ punctuation, e.1 = c
  · obtain ⟨⟨d, kind⟩, hmem, rfl⟩ := hmark
    left
    rwa [ofFirst_of_mem_punctuation hmem]
  right
  have hnone : ∀ e ∈ punctuation, e.1 ≠ c := fun e he heq => hmark ⟨e, he, heq⟩
  cases hletter : isLetter c with
  | true => exact .inl ⟨rfl, ofFirst_of_isLetter hletter⟩
  | false =>
    cases hdigit : isDigit c with
    | true => exact .inr (.inl ⟨rfl, ofFirst_of_isDigit hdigit⟩)
    | false =>
      cases hblank : isBlank c with
      | true => exact .inr (.inr (.inl ⟨rfl, ofFirst_of_isBlank hblank⟩))
      | false =>
        have hunknown := ofFirst_of_no_class hnone hletter hdigit hblank
        exact .inr (.inr (.inr ⟨hnone, rfl, rfl, rfl, hunknown⟩))

/-- Only an ASCII digit begins a number. -/
theorem ofFirst_eq_number_iff {c : Char} : ofFirst c = number ↔ isDigit c = true := by
  refine ⟨fun h => ?_, ofFirst_of_isDigit⟩
  rcases ofFirst_cases c with hmark | ⟨-, hkind⟩ | ⟨hc, -⟩ | ⟨-, hkind⟩ | ⟨-, -, -, -, hkind⟩
  · have hmarks : ∀ e ∈ punctuation, e.2 ≠ number := by decide
    exact absurd h (hmarks _ hmark)
  · simp [hkind] at h
  · exact hc
  all_goals simp [hkind] at h

/-- Only a whitespace character begins whitespace. -/
theorem ofFirst_eq_whitespace_iff {c : Char} : ofFirst c = whitespace ↔ isBlank c = true := by
  refine ⟨fun h => ?_, ofFirst_of_isBlank⟩
  rcases ofFirst_cases c with hmark | ⟨-, hkind⟩ | ⟨-, hkind⟩ | ⟨hc, -⟩ | ⟨-, -, -, -, hkind⟩
  · have hmarks : ∀ e ∈ punctuation, e.2 ≠ whitespace := by decide
    exact absurd h (hmarks _ hmark)
  · simp [hkind] at h
  · simp [hkind] at h
  · exact hc
  · simp [hkind] at h

/-- Identifiers and numbers carry their characters as a text. -/
theorem carriesText_iff {kind : TokenKind} :
    kind.carriesText = true ↔ kind = identifier ∨ kind = number := by
  cases kind <;> simp [carriesText]

/-- A token that is a single character is not gone on with. -/
theorem continues_of_mem_punctuation {c : Char} {kind : TokenKind} (h : (c, kind) ∈ punctuation)
    (d : Char) : kind.continues d = false := by
  have hmarks : ∀ e ∈ punctuation, e.2.runClass?.isNone = true := by decide
  have hnone : kind.runClass? = none := by simpa using hmarks (c, kind) h
  simp [continues, hnone]

end TokenKind

end FrontEnd
