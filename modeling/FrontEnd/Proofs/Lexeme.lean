import FrontEnd.Proofs.CharacterClass
import Mathlib.Data.List.Chain
import Mathlib.Data.List.TakeWhile

/-!
# The grammar of lexemes

A lexeme is a kind with the characters of that kind. A lexing of a text is a list of lexemes
that makes up the text and in which no two neighbours could have been one. Nothing here mentions
how a text is scanned: every text has at most one lexing, because its first character decides
the kind of the first lexeme and the class of that kind decides where it ends.
-/

namespace FrontEnd

/-- A kind of token and the characters that are read for it. -/
structure Lexeme where
  /-- What the characters are. -/
  kind : TokenKind
  /-- The characters. -/
  chars : List Char
  deriving DecidableEq, Repr

namespace Lexeme

/-- The characters are of the kind. -/
inductive WellFormed : Lexeme → Prop
  /-- A letter and the letters, ASCII digits and underscores after it. -/
  | identifier {c : Char} {cs : List Char} : Unicode.isLetter c →
      (∀ d ∈ cs, Unicode.isLetter d ∨ isDigit d ∨ d = '_') → WellFormed ⟨.identifier, c :: cs⟩
  /-- One or more ASCII digits. -/
  | number {cs : List Char} : cs ≠ [] → (∀ d ∈ cs, isDigit d) → WellFormed ⟨.number, cs⟩
  /-- One or more whitespace characters. -/
  | whitespace {cs : List Char} : cs ≠ [] → (∀ d ∈ cs, Unicode.isBlank d) →
      WellFormed ⟨.whitespace, cs⟩
  /-- A character that is a token by itself. -/
  | mark {c : Char} {kind : TokenKind} : (c, kind) ∈ TokenKind.punctuation → WellFormed ⟨kind, [c]⟩
  /-- A character of no class. -/
  | unknown {c : Char} : (∀ mark ∈ TokenKind.punctuation, mark.1 ≠ c) → ¬ Unicode.isLetter c →
      ¬ isDigit c → ¬ Unicode.isBlank c → WellFormed ⟨.unknown, [c]⟩

/-- The two lexemes, one after the other, could not have been one. -/
structure Apart (a b : Lexeme) : Prop where
  /-- Whitespace does not follow whitespace. -/
  whitespace : a.kind = .whitespace → b.kind ≠ .whitespace
  /-- A number does not follow a number. -/
  number : a.kind = .number → b.kind ≠ .number
  /-- After an identifier no character comes that could go on with it. -/
  identifier : a.kind = .identifier →
    ∀ d ∈ b.chars.head?, ¬ (Unicode.isLetter d ∨ isDigit d ∨ d = '_')

/-- The longest lexeme at the front of a text that begins with the given character. -/
def first (c : Char) (cs : List Char) : Lexeme :=
  ⟨.ofFirst c, c :: cs.takeWhile (TokenKind.ofFirst c).continues⟩

end Lexeme

/-- The lexemes make up the text, and none of them could be longer. -/
structure Lexing (text : List Char) (lexemes : List Lexeme) : Prop where
  /-- Put together, the lexemes are the text. -/
  joined : (lexemes.map Lexeme.chars).flatten = text
  /-- The characters of every lexeme are of its kind. -/
  wellFormed : ∀ l ∈ lexemes, l.WellFormed
  /-- No two neighbours could have been one lexeme. -/
  apart : lexemes.IsChain Lexeme.Apart

/-- The lexeme is the longest that stands at the front of the text. -/
structure MaximalMunch (text : List Char) (l : Lexeme) : Prop where
  /-- The characters are of the kind. -/
  wellFormed : l.WellFormed
  /-- The text begins with the characters. -/
  atFront : l.chars <+: text
  /-- No lexeme at the front of the text is longer. -/
  longest : ∀ m : Lexeme, m.WellFormed → m.chars <+: text → m.chars.length ≤ l.chars.length

/-- Identifiers go on with letters, ASCII digits and underscores. -/
theorem continuesIdentifier_iff {c : Char} :
    continuesIdentifier c = true ↔ Unicode.isLetter c ∨ isDigit c ∨ c = '_' := by
  simp [continuesIdentifier, or_assoc]

/-- The characters of a lexeme are one that begins its kind and others that go on with it. -/
theorem Lexeme.wellFormed_iff {kind : TokenKind} {c : Char} {cs : List Char} :
    (Lexeme.mk kind (c :: cs)).WellFormed ↔
      kind = .ofFirst c ∧ ∀ d ∈ cs, kind.continues d = true := by
  constructor
  · intro h
    cases h with
    | identifier hc hcs =>
      exact ⟨(TokenKind.ofFirst_of_isLetter hc).symm,
        fun d hd => continuesIdentifier_iff.2 (hcs d hd)⟩
    | number _ hcs =>
      exact ⟨(TokenKind.ofFirst_of_isDigit (hcs c (by simp))).symm,
        fun d hd => hcs d (by simp [hd])⟩
    | whitespace _ hcs =>
      exact ⟨(TokenKind.ofFirst_of_isBlank (hcs c (by simp))).symm,
        fun d hd => hcs d (by simp [hd])⟩
    | mark hmem => exact ⟨(TokenKind.ofFirst_of_mem_punctuation hmem).symm, by simp⟩
    | unknown hmark hletter hdigit hblank =>
      simp only [Bool.not_eq_true] at hletter hdigit hblank
      exact ⟨(TokenKind.ofFirst_of_no_class hmark hletter hdigit hblank).symm, by simp⟩
  · rintro ⟨rfl, hcs⟩
    rcases TokenKind.ofFirst_cases c with hmark | ⟨hc, hkind⟩ | ⟨hc, hkind⟩ | ⟨hc, hkind⟩ |
      ⟨hmark, hletter, hdigit, hblank, hkind⟩
    · have hnil : cs = [] := by
        apply List.eq_nil_iff_forall_not_mem.2
        intro d hd
        simpa [TokenKind.continues_of_mem_punctuation hmark] using hcs d hd
      rw [hnil]
      exact .mark hmark
    · rw [hkind] at hcs ⊢
      exact .identifier hc fun d hd => continuesIdentifier_iff.1 (hcs d hd)
    · rw [hkind] at hcs ⊢
      refine .number (by simp) fun d hd => ?_
      rcases List.mem_cons.1 hd with rfl | hd
      · exact hc
      · exact hcs d hd
    · rw [hkind] at hcs ⊢
      refine .whitespace (by simp) fun d hd => ?_
      rcases List.mem_cons.1 hd with rfl | hd
      · exact hc
      · exact hcs d hd
    · rw [hkind] at hcs ⊢
      have hnil : cs = [] := by
        apply List.eq_nil_iff_forall_not_mem.2
        intro d hd
        simpa [TokenKind.continues, TokenKind.runClass?] using hcs d hd
      rw [hnil]
      exact .unknown hmark (by simp [hletter]) (by simp [hdigit]) (by simp [hblank])

namespace Lexeme

/-- A lexeme has at least one character. -/
theorem WellFormed.chars_ne_nil {l : Lexeme} (h : l.WellFormed) : l.chars ≠ [] := by
  cases h with
  | number hne _ => exact hne
  | whitespace hne _ => exact hne
  | _ => simp

/-- No character of a lexeme is whitespace unless the lexeme is. -/
theorem WellFormed.isBlank_eq_false {l : Lexeme} (h : l.WellFormed) (hkind : l.kind ≠ .whitespace)
    {c : Char} (hc : c ∈ l.chars) : Unicode.isBlank c = false := by
  cases h with
  | identifier hd hds =>
    rcases List.mem_cons.1 hc with rfl | hc
    · exact isBlank_of_isLetter hd
    · rcases hds c hc with hletter | hdigit | rfl
      · exact isBlank_of_isLetter hletter
      · exact isBlank_of_isDigit hdigit
      · decide
  | number _ hds => exact isBlank_of_isDigit (hds c hc)
  | whitespace _ _ => exact absurd rfl hkind
  | mark hmem =>
    obtain rfl := List.mem_singleton.1 hc
    exact (TokenKind.classes_of_mem_punctuation hmem).2.2
  | unknown _ _ _ hblank =>
    obtain rfl := List.mem_singleton.1 hc
    simpa using hblank

/-- All characters of whitespace are whitespace. -/
theorem WellFormed.isBlank {l : Lexeme} (h : l.WellFormed) (hkind : l.kind = .whitespace)
    {c : Char} (hc : c ∈ l.chars) : Unicode.isBlank c = true := by
  cases h with
  | whitespace _ hds => exact hds c hc
  | mark hmem =>
    have hmarks : ∀ e ∈ TokenKind.punctuation, e.2 ≠ .whitespace := by decide
    exact absurd hkind (hmarks _ hmem)
  | _ => cases hkind

/-- The longest lexeme at the front of a text and what it leaves are the text. -/
theorem chars_first_append (c : Char) (cs : List Char) :
    (first c cs).chars ++ cs.dropWhile (TokenKind.ofFirst c).continues = c :: cs := by
  rw [first, List.cons_append, List.takeWhile_append_dropWhile]

/-- The longest lexeme at the front of a text is a lexeme. -/
theorem wellFormed_first (c : Char) (cs : List Char) : (first c cs).WellFormed :=
  wellFormed_iff.2 ⟨rfl, fun _ hd => List.mem_takeWhile_imp hd⟩

/-- Two lexemes are apart when the second one begins with a character that does not go on with
the first. -/
theorem apart_iff {a : Lexeme} {kind : TokenKind} {c : Char} {cs : List Char}
    (ha : a.WellFormed) (hb : (Lexeme.mk kind (c :: cs)).WellFormed) :
    Apart a ⟨kind, c :: cs⟩ ↔ a.kind.continues c = false := by
  obtain ⟨rfl, -⟩ := wellFormed_iff.1 hb
  cases ha with
  | identifier _ _ =>
    rw [← Bool.not_eq_true]
    constructor
    · intro h hc
      exact h.identifier rfl c (by simp) (continuesIdentifier_iff.1 hc)
    · intro hc
      refine ⟨by simp, by simp, fun _ d hd => ?_⟩
      obtain rfl : c = d := by simpa using hd
      exact fun hclass => hc (continuesIdentifier_iff.2 hclass)
  | number _ _ =>
    rw [← Bool.not_eq_true]
    constructor
    · intro h hc
      exact h.number rfl (TokenKind.ofFirst_eq_number_iff.2 hc)
    · intro hc
      exact ⟨by simp, fun _ hkind => hc (TokenKind.ofFirst_eq_number_iff.1 hkind), by simp⟩
  | whitespace _ _ =>
    rw [← Bool.not_eq_true]
    constructor
    · intro h hc
      exact h.whitespace rfl (TokenKind.ofFirst_eq_whitespace_iff.2 hc)
    · intro hc
      exact ⟨fun _ hkind => hc (TokenKind.ofFirst_eq_whitespace_iff.1 hkind), by simp, by simp⟩
  | mark hmem =>
    have hruns : ∀ e ∈ TokenKind.punctuation,
        e.2 ≠ .whitespace ∧ e.2 ≠ .number ∧ e.2 ≠ .identifier := by decide
    obtain ⟨hwhitespace, hnumber, hidentifier⟩ := hruns _ hmem
    simp only [TokenKind.continues_of_mem_punctuation hmem, iff_true]
    exact ⟨fun h => absurd h hwhitespace, fun h => absurd h hnumber,
      fun h => absurd h hidentifier⟩
  | unknown _ _ _ _ => exact ⟨fun _ => rfl, fun _ => ⟨by simp, by simp, by simp⟩⟩

end Lexeme

namespace Lexing

/-- A text without characters has the lexing without lexemes. -/
theorem nil : Lexing [] [] := ⟨rfl, by simp, .nil⟩

/-- Put before a lexing of what it leaves, the longest lexeme at the front makes a lexing. -/
theorem cons {c : Char} {cs : List Char} {lexemes : List Lexeme}
    (h : Lexing (cs.dropWhile (TokenKind.ofFirst c).continues) lexemes) :
    Lexing (c :: cs) (Lexeme.first c cs :: lexemes) := by
  refine ⟨?_, ?_, ?_⟩
  · simp [h.joined, Lexeme.first, List.takeWhile_append_dropWhile]
  · intro l hl
    rcases List.mem_cons.1 hl with rfl | hl
    · exact Lexeme.wellFormed_first c cs
    · exact h.wellFormed l hl
  · refine List.isChain_cons.2 ⟨fun l hl => ?_, h.apart⟩
    obtain ⟨rest, rfl⟩ : ∃ rest, lexemes = l :: rest := List.head?_eq_some_iff.1 hl
    obtain ⟨kind, chars⟩ := l
    have hl := h.wellFormed _ List.mem_cons_self
    obtain ⟨d, ds, rfl⟩ := List.exists_cons_of_ne_nil hl.chars_ne_nil
    apply (Lexeme.apart_iff (Lexeme.wellFormed_first c cs) hl).2
    -- `d` is where the longest lexeme ended
    have hhead := List.head?_dropWhile_not (TokenKind.ofFirst c).continues cs
    simpa [← h.joined, Lexeme.first] using hhead

/-- The first lexeme of a lexing is the longest one at the front, and the others are a lexing of
what it leaves. -/
theorem eq_cons {c : Char} {cs : List Char} {l : Lexeme} {lexemes : List Lexeme}
    (h : Lexing (c :: cs) (l :: lexemes)) :
    l = Lexeme.first c cs ∧
      Lexing (cs.dropWhile (TokenKind.ofFirst c).continues) lexemes := by
  obtain ⟨kind, chars⟩ := l
  have hl := h.wellFormed _ List.mem_cons_self
  obtain ⟨d, ds, rfl⟩ := List.exists_cons_of_ne_nil hl.chars_ne_nil
  have hjoined := h.joined
  simp only [List.map_cons, List.flatten_cons, List.cons_append, List.cons.injEq] at hjoined
  obtain ⟨rfl, hcs⟩ := hjoined
  obtain ⟨rfl, hds⟩ := Lexeme.wellFormed_iff.1 hl
  -- what follows the lexeme does not go on with it
  have hstop : ∀ e ∈ (lexemes.map Lexeme.chars).flatten.head?,
      (TokenKind.ofFirst d).continues e = false := by
    intro e he
    cases lexemes with
    | nil => simp at he
    | cons m rest =>
      obtain ⟨kind, chars⟩ := m
      have hm := h.wellFormed ⟨kind, chars⟩ (by simp)
      obtain ⟨f, fs, rfl⟩ := List.exists_cons_of_ne_nil hm.chars_ne_nil
      obtain rfl : f = e := by simpa using he
      exact (Lexeme.apart_iff hl hm).1 (List.isChain_cons_cons.1 h.apart).1
  have hsplit : cs.takeWhile (TokenKind.ofFirst d).continues = ds ∧
      cs.dropWhile (TokenKind.ofFirst d).continues = (lexemes.map Lexeme.chars).flatten := by
    rw [← hcs, List.takeWhile_append_of_pos hds, List.dropWhile_append_of_pos hds]
    cases hrest : (lexemes.map Lexeme.chars).flatten with
    | nil => simp
    | cons e es => simp [hstop e (by simp [hrest])]
  refine ⟨by rw [Lexeme.first, hsplit.1], hsplit.2.symm, ?_, ?_⟩
  · exact fun m hm => h.wellFormed m (by simp [hm])
  · exact (List.isChain_cons.1 h.apart).2

/-- A text without characters has no other lexing than that without lexemes. -/
theorem eq_nil {lexemes : List Lexeme} (h : Lexing [] lexemes) : lexemes = [] := by
  cases lexemes with
  | nil => rfl
  | cons l rest =>
    have hne := (h.wellFormed l (by simp)).chars_ne_nil
    have hjoined := h.joined
    simp only [List.map_cons, List.flatten_cons, List.append_eq_nil_iff] at hjoined
    exact absurd hjoined.1 hne

/-- A text has at most one lexing. -/
theorem unique {text : List Char} {ls ms : List Lexeme} (hl : Lexing text ls)
    (hm : Lexing text ms) : ls = ms := by
  induction ls generalizing text ms with
  | nil =>
    obtain rfl : text = [] := by simpa using hl.joined.symm
    exact hm.eq_nil.symm
  | cons l rest ih =>
    cases text with
    | nil => cases hl.eq_nil
    | cons c cs =>
      cases ms with
      | nil => cases hm.joined
      | cons m others =>
        obtain ⟨rfl, hrest⟩ := hl.eq_cons
        obtain ⟨rfl, hothers⟩ := hm.eq_cons
        rw [ih hrest hothers]

end Lexing

/-- Every lexeme at the front of a text is of the kind that the first character decides, and is
a beginning of the one that goes on as long as it can. -/
theorem Lexeme.WellFormed.prefix_first {c : Char} {cs : List Char} {l : Lexeme}
    (hl : l.WellFormed) (hfront : l.chars <+: c :: cs) :
    l.kind = .ofFirst c ∧ l.chars <+: (Lexeme.first c cs).chars := by
  obtain ⟨kind, chars⟩ := l
  obtain ⟨d, ds, rfl⟩ := List.exists_cons_of_ne_nil hl.chars_ne_nil
  obtain ⟨rest, hrest⟩ := hfront
  simp only [List.cons_append, List.cons.injEq] at hrest
  obtain ⟨rfl, rfl⟩ := hrest
  obtain ⟨rfl, hds⟩ := Lexeme.wellFormed_iff.1 hl
  refine ⟨rfl, ?_⟩
  simp only [Lexeme.first, List.takeWhile_append_of_pos hds]
  exact ⟨rest.takeWhile (TokenKind.ofFirst d).continues, rfl⟩

/-- The longest lexeme at the front of a text is the one that goes on as long as characters of
the class of its kind follow. -/
theorem maximalMunch_iff {c : Char} {cs : List Char} {l : Lexeme} :
    MaximalMunch (c :: cs) l ↔ l = Lexeme.first c cs := by
  have hfirst : (Lexeme.first c cs).chars <+: c :: cs :=
    (List.prefix_cons_inj c).2 (List.takeWhile_prefix _)
  constructor
  · intro h
    obtain ⟨hkind, hprefix⟩ := h.wellFormed.prefix_first h.atFront
    have hle := h.longest _ (Lexeme.wellFormed_first c cs) hfirst
    have hchars := hprefix.eq_of_length_le hle
    cases l
    simp only [Lexeme.first] at hkind hchars ⊢
    rw [hkind, hchars]
  · rintro rfl
    refine ⟨Lexeme.wellFormed_first c cs, hfirst, fun m hm hfront => ?_⟩
    exact (hm.prefix_first hfront).2.length_le

end FrontEnd
