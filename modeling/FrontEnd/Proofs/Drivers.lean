import FrontEnd.Proofs.Reading

/-!
# Ways through a source

A source can be iterated to its end, collected with whitespace or without, and collected
strictly. All of them read the same tokens: to pass over whitespace is to leave it out
afterwards, and strict scanning stops at the first unknown token of what is collected otherwise.
-/

namespace FrontEnd

/-- The token is the first unknown one of the list. -/
def Token.IsFirstUnknown (t : Token) (tokens : List Token) : Prop :=
  ∃ before after, tokens = before ++ t :: after ∧ t.kind = .unknown ∧
    ∀ u ∈ before, u.kind ≠ .unknown

/-- The error that strict scanning reports for an unknown token. -/
def LexError.ofUnknown (source : String) (t : Token) : LexError :=
  ⟨unknownCharacter t.raw, t.span, source⟩

/-- The first unknown token is the one that a search finds. -/
theorem Token.isFirstUnknown_iff {t : Token} {tokens : List Token} :
    t.IsFirstUnknown tokens ↔ tokens.find? (fun u => u.kind == .unknown) = some t := by
  rw [List.find?_eq_some_iff_append]
  constructor
  · rintro ⟨before, after, rfl, hkind, hbefore⟩
    exact ⟨by simpa using hkind, before, after, rfl, fun u hu => by simpa using hbefore u hu⟩
  · rintro ⟨hkind, before, after, rfl, hbefore⟩
    exact ⟨before, after, rfl, by simpa using hkind, fun u hu => by simpa using hbefore u hu⟩

/-- What is scanned is what is read and not passed over, and then the end of the source. -/
theorem scan_of_readsAll {source : String} {tokens : List Token} {t : Scanner}
    (h : (Scanner.ofSource source).ReadsAll tokens t) (significant : Bool) :
    scan source significant = Scanner.kept significant tokens ++ [Token.atEnd t.location] := by
  have htokens := tokenize_of_readsAll h significant
  rw [tokenize_eq_ok_scan] at htokens
  exact Except.ok.inj htokens

/-- To pass over whitespace is to leave it out of all tokens. -/
theorem scan_true (source : String) :
    scan source true = (scan source false).filter fun t => t.kind ≠ .whitespace := by
  obtain ⟨tokens, t, h⟩ := (Scanner.ofSource source).exists_readsAll
  rw [scan_of_readsAll h, scan_of_readsAll h, List.filter_append]
  simp [Scanner.kept, Token.atEnd]

/-- Iterating to the end gives all tokens. -/
theorem drain_ofSource (source : String) :
    (Scanner.ofSource source).drain.1 = scan source false := by
  obtain ⟨tokens, t, h⟩ := (Scanner.ofSource source).exists_readsAll
  rw [h.drain_eq, scan_of_readsAll h, Scanner.kept_false]

/-- The first unknown token is the same with whitespace and without. -/
theorem find?_unknown_scan (source : String) (significant : Bool) :
    (scan source significant).find? (fun t => t.kind == .unknown) =
      (scan source false).find? (fun t => t.kind == .unknown) := by
  cases significant with
  | false => rfl
  | true =>
    rw [scan_true, List.find?_filter]
    congr 1
    funext t
    cases t.kind <;> rfl

/-- Strict scanning reports the first unknown token of what is scanned otherwise, or gives all of
that if no token is unknown. -/
theorem tokenize_strict (source : String) (significant : Bool) :
    tokenize source significant true =
      match (scan source significant).find? (fun t => t.kind == .unknown) with
      | some t => .error (.ofUnknown source t)
      | none => .ok (scan source significant) := by
  obtain ⟨tokens, t, h⟩ := (Scanner.ofSource source).exists_readsAll
  have hend : (Token.atEnd t.location).kind = .endOfInput := rfl
  have hfind : (scan source significant).find? (fun u => u.kind == .unknown) =
      tokens.find? (fun u => true && u.kind == .unknown) := by
    rw [find?_unknown_scan, scan_of_readsAll h, Scanner.kept_false, List.find?_append]
    simp [hend]
  rw [tokenize, h.collect_eq, hfind, scan_of_readsAll h]
  rfl

/-- Strict scanning fails with the error of the first unknown token and with no other. -/
theorem tokenize_strict_eq_error_iff {source : String} {significant : Bool} {e : LexError} :
    tokenize source significant true = .error e ↔
      ∃ t : Token, t.IsFirstUnknown (scan source significant) ∧ e = .ofUnknown source t := by
  rw [tokenize_strict]
  simp only [Token.isFirstUnknown_iff]
  cases (scan source significant).find? fun t => t.kind == .unknown with
  | none => simp
  | some t => simp [eq_comm]

/-- Strict scanning succeeds when no token is unknown, and changes nothing then. -/
theorem tokenize_strict_eq_ok_iff {source : String} {significant : Bool} {tokens : List Token} :
    tokenize source significant true = .ok tokens ↔
      tokens = scan source significant ∧ ∀ t ∈ scan source significant, t.kind ≠ .unknown := by
  rw [tokenize_strict]
  cases hfind : (scan source significant).find? fun t => t.kind == .unknown with
  | none =>
    have hall : ∀ t ∈ scan source significant, t.kind ≠ .unknown := by
      simpa using List.find?_eq_none.1 hfind
    exact ⟨fun h => ⟨(Except.ok.inj h).symm, hall⟩, fun h => by rw [h.1]⟩
  | some t =>
    have ht := List.find?_some hfind
    simp only [reduceCtorEq, false_iff, not_and, not_forall]
    exact fun _ => ⟨t, List.mem_of_find?_eq_some hfind, not_not.2 (by simpa using ht)⟩

/-- **All ways agree.** Collecting without whitespace gives all tokens but the whitespace, and
iterating gives all. For either choice strict scanning fails exactly when a token is unknown, and
then with the span and the characters of the first such token, the same for both choices;
otherwise it gives what scanning that is not strict gives. -/
theorem drivers_agree (source : String) :
    ∃ tokens, tokenize source false false = .ok tokens ∧
      tokenize source true false = .ok (tokens.filter fun t => t.kind ≠ .whitespace) ∧
      (Scanner.ofSource source).drain.1 = tokens ∧
      (∀ significant, tokenize source significant false = .ok (scan source significant)) ∧
      (∀ significant,
        ((∃ e, tokenize source significant true = .error e) ↔
          ∃ t ∈ scan source significant, t.kind = .unknown) ∧
        (∀ e, tokenize source significant true = .error e →
          ∃ t : Token, t.IsFirstUnknown (scan source significant) ∧ e.span = t.span ∧
            e.message = "unknown character " ++ Text.quoted t.raw ∧ e.source = source) ∧
        (∀ found, tokenize source significant true = .ok found →
          tokenize source significant false = .ok found)) ∧
      ∀ e, tokenize source true true = .error e ↔ tokenize source false true = .error e := by
  refine ⟨scan source false, tokenize_eq_ok_scan source false, ?_, drain_ofSource source,
    tokenize_eq_ok_scan source, fun significant => ⟨?_, ?_, ?_⟩, ?_⟩
  · rw [tokenize_eq_ok_scan, scan_true]
  · constructor
    · rintro ⟨e, he⟩
      obtain ⟨t, ⟨before, after, hscan, hkind, -⟩, -⟩ := tokenize_strict_eq_error_iff.1 he
      exact ⟨t, by simp [hscan], hkind⟩
    · rintro ⟨t, ht, hkind⟩
      cases hstrict : tokenize source significant true with
      | error e => exact ⟨e, rfl⟩
      | ok tokens => exact absurd hkind ((tokenize_strict_eq_ok_iff.1 hstrict).2 t ht)
  · intro e he
    obtain ⟨t, ht, rfl⟩ := tokenize_strict_eq_error_iff.1 he
    exact ⟨t, ht, rfl, rfl, rfl⟩
  · intro found hfound
    obtain ⟨rfl, -⟩ := tokenize_strict_eq_ok_iff.1 hfound
    exact tokenize_eq_ok_scan source significant
  · intro e
    simp only [tokenize_strict_eq_error_iff, Token.isFirstUnknown_iff,
      find?_unknown_scan source true]

end FrontEnd
