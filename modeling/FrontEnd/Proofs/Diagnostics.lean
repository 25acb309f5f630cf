import FrontEnd.Diagnostic
import FrontEnd.Proofs.Locality
import Mathlib.Data.List.DropRight

/-!
# Exact diagnostics

A character of no class is reported wherever it stands, except for an underscore inside an
identifier. Whether an underscore is inside one is decided by the identifier characters to its
left: the first letter among them begins the identifier, and from there on it goes to the end of
them. The scanner sees this from left to right, so the description is compared with it at the
boundaries of its tokens.
-/

namespace FrontEnd

open Scanner (kept)

/-- No class of the language holds the character. -/
structure Unclassified (c : Char) : Prop where
  /-- It is not a token by itself. -/
  mark : ∀ mark ∈ TokenKind.punctuation, mark.1 ≠ c
  /-- It is not a letter. -/
  letter : Unicode.isLetter c = false
  /-- It is not an ASCII digit. -/
  digit : isDigit c = false
  /-- It is not whitespace. -/
  blank : Unicode.isBlank c = false

/-- Of the identifier characters right before a place, all that there are in a row, one is a
letter. -/
def InIdentifier (before : List Char) : Prop :=
  ∃ d ∈ before.rtakeWhile continuesIdentifier, Unicode.isLetter d = true

/-- A character is to be reported behind what is before it on its line: it is of no class, and
not an underscore inside an identifier. -/
def Flagged (before : List Char) (c : Char) : Prop :=
  Unclassified c ∧ ¬ (c = '_' ∧ InIdentifier before)

/-- The characters that begin an unknown token are those of no class. -/
theorem TokenKind.ofFirst_eq_unknown_iff {c : Char} : ofFirst c = unknown ↔ Unclassified c := by
  constructor
  · intro h
    rcases ofFirst_cases c with hmark | ⟨-, hkind⟩ | ⟨-, hkind⟩ | ⟨-, hkind⟩ |
      ⟨hmark, hletter, hdigit, hblank, -⟩
    · have hmarks : ∀ e ∈ punctuation, e.2 ≠ unknown := by decide
      exact absurd h (hmarks _ hmark)
    · simp [hkind] at h
    · simp [hkind] at h
    · simp [hkind] at h
    · exact ⟨hmark, hletter, hdigit, hblank⟩
  · rintro ⟨hmark, hletter, hdigit, hblank⟩
    exact ofFirst_of_no_class hmark hletter hdigit hblank

instance (c : Char) : Decidable (Unclassified c) :=
  decidable_of_iff _ TokenKind.ofFirst_eq_unknown_iff

instance (before : List Char) : Decidable (InIdentifier before) :=
  decidable_of_iff ((before.rtakeWhile continuesIdentifier).any Unicode.isLetter) List.any_eq_true

instance (before : List Char) (c : Char) : Decidable (Flagged before c) :=
  inferInstanceAs (Decidable (Unclassified c ∧ ¬ (c = '_' ∧ InIdentifier before)))

example : Flagged ['1'] '_' ∧ ¬ Flagged ['1', '_', 'a'] '_' := by decide

/-- An identifier goes on behind a character that can go on with it, and begins with a letter. -/
theorem inIdentifier_concat {before : List Char} {c : Char} :
    InIdentifier (before ++ [c]) ↔
      continuesIdentifier c = true ∧ (InIdentifier before ∨ Unicode.isLetter c = true) := by
  unfold InIdentifier
  rw [List.rtakeWhile_concat]
  split
  · next hc => simp [hc, or_and_right, exists_or]
  · next hc => simp [hc]

/-- A letter is of a class. -/
theorem not_unclassified_of_isLetter {c : Char} (h : Unicode.isLetter c = true) :
    ¬ Unclassified c := by
  intro hc
  simp [hc.letter] at h

/-- The unknown tokens that are to be expected for the flagged characters of a text, which begins
at a place behind what is before it on its line. -/
def flaggedTokens (p : Position) (before : List Char) : List Char → List Token
  | [] => []
  | c :: cs =>
    (if Flagged before c then [(Lexeme.mk .unknown [c]).tokenAt p] else []) ++
      flaggedTokens (p.after c) (before ++ [c]) cs

/-- The flagged characters of two texts, one behind the other, are those of both. -/
theorem flaggedTokens_append (p : Position) (before cs ds : List Char) :
    flaggedTokens p before (cs ++ ds) =
      flaggedTokens p before cs ++ flaggedTokens (p.advance cs) (before ++ cs) ds := by
  induction cs generalizing p before with
  | nil => simp [flaggedTokens]
  | cons c cs ih => simp [flaggedTokens, ih]

/-- The tokens that are expected stand where the flagged characters are. -/
theorem mem_flaggedTokens {p : Position} {before cs : List Char} {t : Token} :
    t ∈ flaggedTokens p before cs ↔
      ∃ pre c post, cs = pre ++ c :: post ∧ Flagged (before ++ pre) c ∧
        t = (Lexeme.mk .unknown [c]).tokenAt (p.advance pre) := by
  induction cs generalizing p before with
  | nil => simp [flaggedTokens]
  | cons c cs ih =>
    rw [flaggedTokens, List.mem_append, ih]
    constructor
    · rintro (hfirst | ⟨pre, d, post, rfl, hflagged, rfl⟩)
      · split at hfirst
        · next hflagged =>
          obtain rfl := List.mem_singleton.1 hfirst
          exact ⟨[], c, cs, rfl, by simpa using hflagged, rfl⟩
        · cases hfirst
      · exact ⟨c :: pre, d, post, rfl, by simpa using hflagged, rfl⟩
    · rintro ⟨pre, d, post, heq, hflagged, rfl⟩
      cases pre with
      | nil =>
        obtain ⟨rfl, rfl⟩ := List.cons.inj heq
        left
        rw [List.append_nil] at hflagged
        simp [hflagged]
      | cons e pre =>
        obtain ⟨rfl, rfl⟩ := List.cons.inj heq
        exact .inr ⟨pre, d, post, rfl, by simpa using hflagged, rfl⟩

/-- Of characters that are all of a class none is flagged. -/
theorem flaggedTokens_eq_nil {cs : List Char} (h : ∀ c ∈ cs, ¬ Unclassified c) (p : Position)
    (before : List Char) : flaggedTokens p before cs = [] := by
  apply List.eq_nil_iff_forall_not_mem.2
  intro t ht
  obtain ⟨pre, c, post, rfl, hflagged, -⟩ := mem_flaggedTokens.1 ht
  exact h c (by simp) hflagged.1

/-- What goes on with an identifier is not flagged. -/
theorem flaggedTokens_identifier {cs : List Char} (h : ∀ c ∈ cs, continuesIdentifier c = true)
    (p : Position) {before : List Char} (hbefore : InIdentifier before) :
    flaggedTokens p before cs = [] := by
  induction cs generalizing p before with
  | nil => rfl
  | cons c cs ih =>
    have hc := h c List.mem_cons_self
    have hnot : ¬ Flagged before c := by
      rintro ⟨hclass, hfree⟩
      rcases continuesIdentifier_iff.1 hc with hletter | hdigit | rfl
      · exact not_unclassified_of_isLetter hletter hclass
      · simp [hclass.digit] at hdigit
      · exact hfree ⟨rfl, hbefore⟩
    rw [flaggedTokens, if_neg hnot, List.nil_append]
    exact ih (fun d hd => h d (List.mem_cons_of_mem c hd)) _
      (inIdentifier_concat.2 ⟨hc, .inl hbefore⟩)

/-- What comes next does not go on with an identifier that stands before it. -/
def AtBoundary (before cs : List Char) : Prop :=
  ∀ c ∈ cs.head?, continuesIdentifier c = true → ¬ InIdentifier before

/-- Of the characters of a lexeme only that of an unknown one is flagged. -/
theorem flaggedTokens_lexeme {l : Lexeme} (hl : l.WellFormed) (p : Position) {before : List Char}
    (h : AtBoundary before l.chars) :
    flaggedTokens p before l.chars = if l.kind = .unknown then [l.tokenAt p] else [] := by
  cases hl with
  | @identifier c cs hc hcs =>
    have hrest : InIdentifier (before ++ [c]) :=
      inIdentifier_concat.2 ⟨continuesIdentifier_iff.2 (.inl hc), .inr hc⟩
    have hnot : ¬ Flagged before c := fun hflagged => not_unclassified_of_isLetter hc hflagged.1
    rw [flaggedTokens, if_neg hnot, List.nil_append]
    exact flaggedTokens_identifier (fun d hd => continuesIdentifier_iff.2 (hcs d hd)) _ hrest
  | number _ hcs =>
    exact flaggedTokens_eq_nil (fun c hc hclass => by simpa [hclass.digit] using hcs c hc) p before
  | whitespace _ hcs =>
    exact flaggedTokens_eq_nil (fun c hc hclass => by simpa [hclass.blank] using hcs c hc) p before
  | @mark c kind hmem =>
    have hmarks : ∀ e ∈ TokenKind.punctuation, e.2 ≠ .unknown := by decide
    rw [if_neg (hmarks _ hmem)]
    refine flaggedTokens_eq_nil (fun d hd hclass => ?_) p before
    obtain rfl := List.mem_singleton.1 hd
    exact hclass.mark _ hmem rfl
  | @unknown c hmark hletter hdigit hblank =>
    have hclass : Unclassified c := ⟨hmark, by simpa using hletter, by simpa using hdigit,
      by simpa using hblank⟩
    have hfree : ¬ (c = '_' ∧ InIdentifier before) := by
      rintro ⟨rfl, hbefore⟩
      exact h '_' rfl (by decide) hbefore
    simp [flaggedTokens, show Flagged before c from ⟨hclass, hfree⟩]

/-- Characters of which none is a letter do not begin an identifier. -/
theorem not_inIdentifier_append {before cs : List Char} (h : ¬ InIdentifier before)
    (hcs : ∀ c ∈ cs, Unicode.isLetter c = false) : ¬ InIdentifier (before ++ cs) := by
  induction cs generalizing before with
  | nil => simpa using h
  | cons c cs ih =>
    have hfirst : ¬ InIdentifier (before ++ [c]) := by
      rw [inIdentifier_concat, hcs c List.mem_cons_self]
      simp [h]
    have hrest := ih hfirst fun d hd => hcs d (List.mem_cons_of_mem c hd)
    rwa [List.append_assoc] at hrest

/-- Only an identifier has letters. -/
theorem Lexeme.WellFormed.isLetter_eq_false {l : Lexeme} (h : l.WellFormed)
    (hkind : l.kind ≠ .identifier) {c : Char} (hc : c ∈ l.chars) :
    Unicode.isLetter c = false := by
  cases h with
  | identifier _ _ => exact absurd rfl hkind
  | number _ hds => exact isLetter_of_isDigit (hds c hc)
  | whitespace _ hds => exact isLetter_of_isBlank (hds c hc)
  | mark hmem =>
    obtain rfl := List.mem_singleton.1 hc
    exact (TokenKind.classes_of_mem_punctuation hmem).1
  | unknown _ hletter _ _ =>
    obtain rfl := List.mem_singleton.1 hc
    simpa using hletter

/-- Behind the longest lexeme at the front of a text is a boundary again. -/
theorem AtBoundary.behind_first {before : List Char} {c : Char} {cs : List Char}
    (h : AtBoundary before (c :: cs)) :
    AtBoundary (before ++ (Lexeme.first c cs).chars)
      (cs.dropWhile (TokenKind.ofFirst c).continues) := by
  intro d hd hcontinues
  by_cases hkind : TokenKind.ofFirst c = .identifier
  · -- an identifier ends in front of a character that does not go on with it
    have hstop := List.head?_dropWhile_not (TokenKind.ofFirst c).continues cs
    rw [Option.mem_def.1 hd, hkind] at hstop
    exact absurd hcontinues (Bool.not_eq_true _ ▸ hstop)
  · have hletters := fun e he =>
      (Lexeme.wellFormed_first c cs).isLetter_eq_false (c := e) hkind he
    have hfirst : ¬ InIdentifier (before ++ [c]) := by
      rw [inIdentifier_concat, hletters c List.mem_cons_self]
      rintro ⟨hc, hbefore | hletter⟩
      · exact h c rfl hc hbefore
      · cases hletter
    have hrest := not_inIdentifier_append hfirst
      fun e he => hletters e (List.mem_cons_of_mem c he)
    rwa [List.append_assoc] at hrest

/-- Read from a boundary on, a text has the unknown tokens that its flagged characters make
expected. -/
theorem filter_unknown_layOut {p : Position} {before cs : List Char} (h : AtBoundary before cs) :
    (layOut p cs).filter (fun t => t.kind = .unknown) = flaggedTokens p before cs := by
  fun_induction layOut p cs generalizing before with
  | case1 => rfl
  | case2 p c cs ih =>
    have hfront : AtBoundary before (Lexeme.first c cs).chars := h
    have hlexeme := flaggedTokens_lexeme (Lexeme.wellFormed_first c cs) p hfront
    rw [← Lexeme.chars_first_append c cs, flaggedTokens_append, ← ih h.behind_first, hlexeme,
      List.filter_cons, Lexeme.kind_tokenAt]
    by_cases hkind : (Lexeme.first c cs).kind = .unknown <;> simp [hkind]

/-- A document position comes earlier: on a line above, or further to the left on its line. -/
def DocumentPosition.Before (p q : DocumentPosition) : Prop :=
  p.line < q.line ∨ p.line = q.line ∧ p.character < q.character

namespace Diagnostic

/-- The remark about a character of no class, with so many lines before its own and so many
characters before it on its line. -/
def marking (line character : Nat) (c : Char) : Diagnostic where
  start := ⟨line, character⟩
  stop := ⟨line, character + 1⟩
  message := "unknown character " ++ Text.quoted (String.singleton c)
  severity := warning
  source := "simpledsl"

/-- The diagnostics are those that a text with these lines is to have. -/
structure ExactFor (lines : List (List Char)) (diagnostics : List Diagnostic) : Prop where
  /-- They come in the order of the text, and no place is marked twice. -/
  increasing : diagnostics.Pairwise fun d e => d.start.Before e.start
  /-- The flagged characters of the lines are marked, each with its own name, and no others. -/
  mem_iff : ∀ d, d ∈ diagnostics ↔
    ∃ k before c after, lines[k]? = some (before ++ c :: after) ∧ Flagged before c ∧
      d = marking k before.length c

/-- The diagnostics say what strict scanning says: none if it succeeds, and else its error
first. -/
structure AgreesWith (diagnostics : List Diagnostic) (outcome : Except LexError (List Token)) :
    Prop where
  /-- There are none exactly when strict scanning succeeds. -/
  eq_nil_iff : diagnostics = [] ↔ ∃ tokens, outcome = .ok tokens
  /-- Otherwise the first one has the place and the message of the error. -/
  first_eq : ∀ e, outcome = .error e → ∃ d rest, diagnostics = d :: rest ∧
    d.start = ⟨e.span.start.line - 1, e.span.start.column - 1⟩ ∧ d.message = e.message

/-- A text is remarked upon at its unknown tokens. -/
theorem ofText_eq (text : String) :
    ofText text =
      ((scan text false).filter fun t => t.kind = .unknown).map ofUnknown := by
  rw [ofText, drain_ofSource]

/-- The end of a source is not unknown. -/
theorem filter_unknown_scan_eq_layOut (source : String) :
    (scan source false).filter (fun t => t.kind = .unknown) =
      (layOut .origin (scannedText source)).filter fun t => t.kind = .unknown := by
  rw [scan_eq_layOut, Scanner.kept_false, List.filter_append]
  simp [Token.atEnd]

/-- The remarks on a text come in its order. -/
theorem pairwise_ofText (text : String) :
    (ofText text).Pairwise fun d e => d.start.Before e.start := by
  rw [ofText_eq, filter_unknown_scan_eq_layOut, List.pairwise_map]
  refine ((layOut_pairwise _ _).filter _).imp fun {t u} h => ?_
  simp only [ofUnknown, DocumentPosition.Before]
  unfold Position.Before at h
  omega

/-- The unknown tokens of a source are those of its lines, each on its own line. -/
theorem filter_unknown_scan (source : String) :
    (scan source false).filter (fun t => t.kind = .unknown) =
      (Text.linesOf source.toList).zipIdx.flatMap fun (l, k) =>
        flaggedTokens ⟨k + 1, 1⟩ [] l := by
  have hkept (tokens : List Token) : (kept true tokens).filter (fun t => t.kind = .unknown) =
      tokens.filter fun t => t.kind = .unknown := by
    rw [kept, List.filter_filter]
    congr 1
    funext t
    cases t.kind <;> rfl
  have hscan : (scan source false).filter (fun t => t.kind = .unknown) =
      (significantTokens source).filter fun t => t.kind = .unknown := by
    rw [filter_unknown_scan_eq_layOut, significantTokens_eq, hkept]
  have hboundary (l : List Char) : AtBoundary [] l := fun c _ _ => by simp [InIdentifier]
  rw [hscan, significantTokens_eq_flatMap, List.filter_flatMap]
  apply List.flatMap_congr
  rintro ⟨l, k⟩ -
  simp only [hkept, filter_unknown_layOut (hboundary l)]

/-- The remark on an unknown token marks its character. -/
theorem ofUnknown_tokenAt (k : Nat) {before : List Char} (h : '\n' ∉ before) (c : Char) :
    ofUnknown ((Lexeme.mk .unknown [c]).tokenAt (Position.advance ⟨k + 1, 1⟩ before)) =
      marking k before.length c := by
  have hplace : Position.advance ⟨k + 1, 1⟩ before = ⟨k + 1, before.length + 1⟩ := by
    rw [Position.advance_of_not_mem _ h]
    simp only [Position.mk.injEq, true_and]
    omega
  simp only [ofUnknown, hplace, Lexeme.start_tokenAt, Lexeme.raw_tokenAt, add_sub_cancel_right]
  rfl

/-- The remarks on a text are exactly those on its flagged characters. -/
theorem mem_ofText_iff {text : String} {d : Diagnostic} :
    d ∈ ofText text ↔
      ∃ k before c after, (Text.linesOf text.toList)[k]? = some (before ++ c :: after) ∧
        Flagged before c ∧ d = marking k before.length c := by
  have hfeed {k : Nat} {before after : List Char} {c : Char}
      (h : (Text.linesOf text.toList)[k]? = some (before ++ c :: after)) : '\n' ∉ before :=
    fun hmem => Text.lineFeed_not_mem_of_mem_linesOf (List.mem_of_getElem? h)
      (List.mem_append_left _ hmem)
  rw [ofText_eq, filter_unknown_scan]
  constructor
  · intro hd
    obtain ⟨t, ht, rfl⟩ := List.mem_map.1 hd
    obtain ⟨⟨l, k⟩, hl, ht⟩ := List.mem_flatMap.1 ht
    obtain ⟨before, c, after, rfl, hflagged, rfl⟩ := mem_flaggedTokens.1 ht
    have hline := List.mem_zipIdx_iff_getElem?.1 hl
    exact ⟨k, before, c, after, hline, hflagged, ofUnknown_tokenAt k (hfeed hline) c⟩
  · rintro ⟨k, before, c, after, hline, hflagged, rfl⟩
    rw [← ofUnknown_tokenAt k (hfeed hline) c]
    apply List.mem_map_of_mem
    apply List.mem_flatMap.2
    exact ⟨(before ++ c :: after, k), List.mem_zipIdx_iff_getElem?.2 hline,
      mem_flaggedTokens.2 ⟨before, c, after, rfl, hflagged, rfl⟩⟩

/-- The remarks on a text agree with strict scanning of it. -/
theorem agreesWith_ofText (text : String) (significant : Bool) :
    AgreesWith (ofText text) (tokenize text significant true) := by
  have hfind : (scan text significant).find? (fun t => t.kind == .unknown) =
      ((scan text false).filter fun t => t.kind = .unknown).head? := by
    rw [List.head?_filter, find?_unknown_scan]
    rfl
  rw [tokenize_strict, hfind, ofText_eq]
  cases (scan text false).filter fun t => t.kind = .unknown with
  | nil => exact ⟨by simp, by simp⟩
  | cons t rest =>
    refine ⟨by simp, fun e he => ⟨ofUnknown t, rest.map ofUnknown, rfl, ?_⟩⟩
    obtain rfl := Except.error.inj he
    exact ⟨rfl, rfl⟩

end Diagnostic

/-- **Exact diagnostics.** If the workspace hands back the text of the latest event, there is one
publication after each event, for the document of the event and decided by its text alone. Its
diagnostics mark the flagged characters of the lines in their order and nothing else, and they agree
with strict scanning of the text. -/
theorem publications_exact {workspace : Workspace} (h : workspace.HandsBack)
    (events : List DocumentEvent) :
    List.Forall₂
      (fun e p => p.uri = e.uri ∧ p.diagnostics = Diagnostic.ofText e.text ∧
        Diagnostic.ExactFor (Text.linesOf e.text.toList) p.diagnostics ∧
        ∀ significant, Diagnostic.AgreesWith p.diagnostics (tokenize e.text significant true))
      events (publications workspace events) := by
  rw [h.publications_eq, List.forall₂_map_right_iff]
  apply List.forall₂_same.2
  intro e _
  exact ⟨rfl, rfl, ⟨Diagnostic.pairwise_ofText e.text, fun d => Diagnostic.mem_ofText_iff⟩,
    Diagnostic.agreesWith_ofText e.text⟩

/-- A workspace that keeps the text of the latest event about each document. -/
def latestText : Workspace := fun events uri =>
  ((events.reverse.find? fun e => e.uri == uri).map DocumentEvent.text).getD ""

/-- The latest text is that of the latest event. -/
theorem handsBack_latestText : latestText.HandsBack := by
  intro earlier e
  simp [latestText]

/-- A change of one of two documents is followed by exact remarks on its new text. -/
theorem publications_exact_latestText :
    latestText.HandsBack ∧
      ∃ p q r, publications latestText
          [.opened "a" "?", .opened "b" "?", .changed "a" "x _"] = [p, q, r] ∧
        r.uri = "a" ∧ Diagnostic.ExactFor [['x', ' ', '_']] r.diagnostics := by
  refine ⟨handsBack_latestText, ?_⟩
  have hexact := publications_exact handsBack_latestText
    [.opened "a" "?", .opened "b" "?", .changed "a" "x _"]
  generalize publications latestText _ = published at hexact ⊢
  cases hexact with
  | @cons _ p _ _ _ hothers =>
    cases hothers with
    | @cons _ q _ _ _ hlast =>
      cases hlast with
      | @cons _ r _ _ hr hnone =>
        cases hnone
        have hlines : Text.linesOf "x _".toList = [['x', ' ', '_']] := by decide
        exact ⟨p, q, r, rfl, hr.1, hlines ▸ hr.2.2.1⟩

end FrontEnd
