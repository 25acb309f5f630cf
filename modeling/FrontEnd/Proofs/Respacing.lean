import FrontEnd.Proofs.Locality
import FrontEnd.Proofs.PlainText

/-!
# Whitespace between tokens

Whitespace ends every token in front of it and begins none behind it, so a text cut at a
whitespace character has the significant tokens of its parts, but for their places. It does not
matter which whitespace it is: to replace a line end by another one, or to leave it out at the end
of the text, leaves the tokens as they are. So the tokens of a source can be written down again
with any whitespace between them.
-/

namespace FrontEnd

open Scanner (kept)

/-- All characters of the text are whitespace. -/
def AllBlank (text : String) : Prop := ∀ c ∈ text.toList, Unicode.isBlank c = true

instance (text : String) : Decidable (AllBlank text) :=
  List.decidableBAll _ text.toList

/-- A text that consists of the words in order, with some whitespace between neighbours. -/
inductive SetApart : List String → String → Prop
  /-- Without words there is nothing. -/
  | nil : SetApart [] ""
  /-- One word stands alone. -/
  | single (word : String) : SetApart [word] word
  /-- Between a word and the next one stands whitespace of any length but zero. -/
  | cons {word gap next text : String} {words : List String} : gap ≠ "" → AllBlank gap →
      SetApart (next :: words) text → SetApart (word :: next :: words) (word ++ gap ++ text)

/-- The significant tokens of a text, wherever it stands. -/
def significantContents (cs : List Char) : List Content :=
  (kept true (layOut .origin cs)).map Token.content

/-- The place of a text does not matter for its tokens but for their places. -/
theorem map_content_layOut (p q : Position) (cs : List Char) :
    (layOut p cs).map Token.content = (layOut q cs).map Token.content := by
  fun_induction layOut p cs generalizing q with
  | case1 p => rw [layOut_nil]
  | case2 p c cs ih =>
    rw [layOut_cons, List.map_cons, List.map_cons, ih]
    rfl

/-- Whether a token is kept is seen from what it consists of. -/
theorem map_content_kept (tokens : List Token) :
    (kept true tokens).map Token.content =
      (tokens.map Token.content).filter fun k => !decide (k.kind = .whitespace) := by
  rw [List.filter_map]
  rfl

/-- The place of a text does not matter for its significant tokens but for their places. -/
theorem map_content_kept_layOut (p : Position) (cs : List Char) :
    (kept true (layOut p cs)).map Token.content = significantContents cs := by
  rw [significantContents, map_content_kept, map_content_kept, map_content_layOut p .origin]

/-- A text without characters has no tokens. -/
@[simp] theorem significantContents_nil : significantContents [] = [] := by
  simp [significantContents, kept]

/-- Cut at a whitespace character, a text has the tokens of both parts. -/
theorem significantContents_append_blank (cs : List Char) {b : Char}
    (hb : Unicode.isBlank b = true) (rest : List Char) :
    significantContents (cs ++ b :: rest) =
      significantContents cs ++ significantContents rest := by
  rw [significantContents, kept_layOut_append_blank _ cs hb, List.map_append,
    map_content_kept_layOut, map_content_kept_layOut]

/-- A whitespace character in front of a text does not matter. -/
theorem significantContents_blank {b : Char} (hb : Unicode.isBlank b = true) (rest : List Char) :
    significantContents (b :: rest) = significantContents rest := by
  have happend := significantContents_append_blank [] hb rest
  rwa [List.nil_append, significantContents_nil, List.nil_append] at happend

/-- Whitespace in front of a text does not matter. -/
theorem significantContents_blanks {bs : List Char} (hbs : ∀ b ∈ bs, Unicode.isBlank b = true)
    (rest : List Char) : significantContents (bs ++ rest) = significantContents rest := by
  induction bs with
  | nil => rfl
  | cons b bs ih =>
    rw [List.forall_mem_cons] at hbs
    rw [List.cons_append, significantContents_blank hbs.1]
    exact ih hbs.2

/-- Cut at whitespace, a text has the tokens of both parts. -/
theorem significantContents_append_blanks (cs : List Char) {bs : List Char} (hne : bs ≠ [])
    (hbs : ∀ b ∈ bs, Unicode.isBlank b = true) (rest : List Char) :
    significantContents (cs ++ bs ++ rest) =
      significantContents cs ++ significantContents rest := by
  obtain ⟨b, bs, rfl⟩ := List.exists_cons_of_ne_nil hne
  rw [List.forall_mem_cons] at hbs
  rw [List.append_assoc, List.cons_append, significantContents_append_blank cs hbs.1,
    significantContents_blanks hbs.2]

/-- Whitespace behind a text does not matter. -/
theorem significantContents_append_trailing (cs : List Char) {bs : List Char}
    (hbs : ∀ b ∈ bs, Unicode.isBlank b = true) :
    significantContents (cs ++ bs) = significantContents cs := by
  by_cases hne : bs = []
  · rw [hne, List.append_nil]
  · have happend := significantContents_append_blanks cs hne hbs []
    rwa [significantContents_nil, List.append_nil, List.append_nil] at happend

/-- To replace line ends leaves the tokens as they are, whatever stands in front. -/
theorem significantContents_append_unifyLineEnds (before cs : List Char) :
    significantContents (before ++ Text.unifyLineEnds cs) = significantContents (before ++ cs) := by
  have hfeed : Unicode.isBlank '\n' = true := by decide
  have hreturn : Unicode.isBlank '\r' = true := by decide
  fun_induction Text.unifyLineEnds cs generalizing before with
  | case1 => rfl
  | case2 cs ih =>
    have ih := ih []
    rw [List.nil_append, List.nil_append] at ih
    rw [significantContents_append_blank before hfeed, ih,
      significantContents_append_blank before hreturn, significantContents_blank hfeed]
  | case3 cs _ ih =>
    have ih := ih []
    rw [List.nil_append, List.nil_append] at ih
    rw [significantContents_append_blank before hfeed, ih,
      significantContents_append_blank before hreturn]
  | case4 c cs _ _ ih =>
    -- the character goes to those in front
    have ih := ih (before ++ [c])
    rwa [List.append_assoc, List.append_assoc, List.singleton_append, List.singleton_append] at ih

/-- The text that is scanned for a source has the tokens of the source. -/
theorem significantContents_scannedText (source : String) :
    significantContents (scannedText source) = significantContents source.toList := by
  have hunified := significantContents_append_unifyLineEnds [] source.toList
  rw [List.nil_append, List.nil_append] at hunified
  rw [← hunified, scannedText, Text.linesOf]
  rcases Text.eq_joinLines_dropEmptyLast (Text.unifyLineEnds source.toList) with heq | heq
  · rw [← heq]
  · have hfeed : ∀ b ∈ ['\n'], Unicode.isBlank b = true :=
      List.forall_mem_singleton.2 (by decide)
    have htrailing := significantContents_append_trailing
      (Text.joinLines (Text.dropEmptyLast (Text.pieces '\n' (Text.unifyLineEnds source.toList))))
      hfeed
    rw [← heq] at htrailing
    exact htrailing.symm

/-- The significant tokens of a source are those of its characters. -/
theorem map_content_significantTokens (source : String) :
    (significantTokens source).map Token.content = significantContents source.toList := by
  rw [significantTokens_eq, map_content_kept_layOut, significantContents_scannedText]

/-- The characters of a significant token have that token and no other. -/
theorem significantContents_tokenAt {l : Lexeme} (h : l.WellFormed) (hkind : l.kind ≠ .whitespace)
    (p : Position) : significantContents l.chars = [(l.tokenAt p).content] := by
  obtain ⟨kind, chars⟩ := l
  obtain ⟨c, cs, rfl⟩ := List.exists_cons_of_ne_nil h.chars_ne_nil
  obtain ⟨rfl, hcs⟩ := Lexeme.wellFormed_iff.1 h
  have htake : cs.takeWhile (TokenKind.ofFirst c).continues = cs := List.takeWhile_eq_self_iff.2 hcs
  have hdrop : cs.dropWhile (TokenKind.ofFirst c).continues = [] :=
    List.dropWhile_eq_nil_iff.2 hcs
  rw [significantContents, layOut_cons, hdrop, layOut_nil, Lexeme.first, htake,
    kept_true_cons (show _ ≠ _ from hkind)]
  rfl

/-- The characters of a significant token of a source have that token and no other. -/
theorem significantContents_raw {source : String} {t : Token} (h : t ∈ significantTokens source) :
    significantContents t.raw.toList = [t.content] := by
  rw [significantTokens_eq] at h
  obtain ⟨hmem, hkept⟩ := List.mem_filter.1 h
  have hkind : t.kind ≠ .whitespace := by simpa using hkept
  obtain ⟨l, p, hl, rfl⟩ := exists_lexeme_of_mem_layOut hmem
  rw [Lexeme.raw_tokenAt, String.toList_ofList]
  exact significantContents_tokenAt hl hkind p

/-- Words of one token each, with whitespace between them, have those tokens. -/
theorem SetApart.significantContents_eq {tokens : List Token} {text : String}
    (h : SetApart (tokens.map Token.raw) text)
    (htokens : ∀ t ∈ tokens, significantContents t.raw.toList = [t.content]) :
    significantContents text.toList = tokens.map Token.content := by
  generalize hwords : tokens.map Token.raw = words at h
  induction h generalizing tokens with
  | nil =>
    obtain rfl := List.map_eq_nil_iff.1 hwords
    exact significantContents_nil
  | single word =>
    obtain ⟨t, rfl, rfl⟩ := List.map_eq_singleton_iff.1 hwords
    exact htokens t List.mem_cons_self
  | @cons word gap next text words hne hgap _ ih =>
    obtain ⟨t, others, rfl, rfl, hothers⟩ := List.map_eq_cons_iff.1 hwords
    rw [List.forall_mem_cons] at htokens
    have hchars : gap.toList ≠ [] := by simpa using hne
    rw [String.toList_append, String.toList_append,
      significantContents_append_blanks _ hchars hgap, htokens.1, ih htokens.2 hothers]
    rfl

/-- Without whitespace the tokens of a source are the significant ones and its end. -/
theorem scan_true_eq_significantTokens (source : String) :
    scan source true = significantTokens source ++ [Token.atEnd (endOf source)] := by
  rw [significantTokens_eq, scan_eq_layOut]

/-- The message of strict scanning is about the first significant token that is unknown. -/
theorem tokenize_strict_message_iff {source : String} {significant : Bool} {message : String} :
    (∃ e, tokenize source significant true = .error e ∧ e.message = message) ↔
      ((significantContents source.toList).find? fun k => k.kind == .unknown).map
        (fun k => unknownCharacter k.raw) = some message := by
  have hfind : ((scan source significant).find? fun t => t.kind == .unknown).map Token.content =
      (significantContents source.toList).find? fun k => k.kind == .unknown := by
    rw [find?_unknown_scan, ← find?_unknown_scan source true, scan_true_eq_significantTokens,
      List.find?_append, ← map_content_significantTokens, List.find?_map]
    simp [Token.atEnd, Token.content, Function.comp_def]
  rw [tokenize_strict, ← hfind]
  cases (scan source significant).find? fun t => t.kind == .unknown with
  | none => simp
  | some t => simp [LexError.ofUnknown, Token.content]

/-- **Whitespace is irrelevant to the other tokens.** The significant tokens of any source can be
written down again, with any whitespace between neighbours that is not empty and any whitespace at
the front and at the back. What is written has the same tokens, kind, text and characters, and
then its end. Strict scanning fails for it exactly if it fails for the source, and with the same
message. -/
theorem respacing_keeps_tokens {source front middle back : String} {tokens : List Token}
    {last : Token} (htokens : tokenize source true false = .ok (tokens ++ [last]))
    (hfront : AllBlank front) (hmiddle : SetApart (tokens.map Token.raw) middle)
    (hback : AllBlank back) :
    (∃ found stop, tokenize (front ++ middle ++ back) true false = .ok (found ++ [stop]) ∧
        found.map Token.content = tokens.map Token.content ∧ stop.kind = .endOfInput) ∧
      ∀ significant,
        ((∃ e, tokenize (front ++ middle ++ back) significant true = .error e) ↔
          ∃ e, tokenize source significant true = .error e) ∧
        ∀ e f, tokenize (front ++ middle ++ back) significant true = .error e →
          tokenize source significant true = .error f → e.message = f.message := by
  obtain ⟨rfl, -⟩ : significantTokens source = tokens ∧ Token.atEnd (endOf source) = last := by
    rw [tokenize_eq_ok_scan, scan_true_eq_significantTokens, Except.ok.injEq] at htokens
    simpa using List.append_inj' htokens rfl
  have hcontents : significantContents (front ++ middle ++ back).toList =
      (significantTokens source).map Token.content := by
    rw [String.toList_append, String.toList_append, significantContents_append_trailing _ hback,
      significantContents_blanks hfront,
      hmiddle.significantContents_eq fun t => significantContents_raw]
  have hsame := hcontents.trans (map_content_significantTokens source)
  have hmessage (significant : Bool) (message : String) :
      (∃ e, tokenize (front ++ middle ++ back) significant true = .error e ∧
          e.message = message) ↔
        ∃ e, tokenize source significant true = .error e ∧ e.message = message := by
    rw [tokenize_strict_message_iff, tokenize_strict_message_iff, hsame]
  refine ⟨⟨significantTokens (front ++ middle ++ back), .atEnd (endOf (front ++ middle ++ back)),
    ?_, ?_, rfl⟩, fun significant => ⟨⟨?_, ?_⟩, ?_⟩⟩
  · rw [tokenize_eq_ok_scan, scan_true_eq_significantTokens]
  · rw [map_content_significantTokens, hcontents]
  · rintro ⟨e, he⟩
    obtain ⟨f, hf, -⟩ := (hmessage significant e.message).1 ⟨e, he, rfl⟩
    exact ⟨f, hf⟩
  · rintro ⟨f, hf⟩
    obtain ⟨e, he, -⟩ := (hmessage significant f.message).2 ⟨f, hf, rfl⟩
    exact ⟨e, he⟩
  · intro e f he hf
    obtain ⟨g, hg, hsaid⟩ := (hmessage significant e.message).1 ⟨e, he, rfl⟩
    rw [hf, Except.error.injEq] at hg
    rw [hg, hsaid]

/-- A letter, a digit, a mark and an unknown character that touch each other are written down with
line ends of all spellings between them. -/
theorem respacing_keeps_tokens_lineEnds :
    tokenize "é(1?" true false =
        .ok [⟨.identifier, "é", "é", ⟨⟨1, 1⟩, ⟨1, 2⟩⟩⟩, ⟨.leftParen, "", "(", ⟨⟨1, 2⟩, ⟨1, 3⟩⟩⟩,
          ⟨.number, "1", "1", ⟨⟨1, 3⟩, ⟨1, 4⟩⟩⟩, ⟨.unknown, "", "?", ⟨⟨1, 4⟩, ⟨1, 5⟩⟩⟩,
          .atEnd ⟨1, 5⟩] ∧
      ∃ found stop,
        tokenize ("\r" ++ ("é" ++ "\r\n" ++ ("(" ++ "\t" ++ ("1" ++ "\n\r" ++ "?"))) ++ "\n")
            true false = .ok (found ++ [stop]) ∧
          found.map Token.content = [⟨.identifier, "é", "é"⟩, ⟨.leftParen, "", "("⟩,
            ⟨.number, "1", "1"⟩, ⟨.unknown, "", "?"⟩] ∧
          stop.kind = .endOfInput := by
  have htokens : tokenize "é(1?" true false =
      .ok ([⟨.identifier, "é", "é", ⟨⟨1, 1⟩, ⟨1, 2⟩⟩⟩, ⟨.leftParen, "", "(", ⟨⟨1, 2⟩, ⟨1, 3⟩⟩⟩,
        ⟨.number, "1", "1", ⟨⟨1, 3⟩, ⟨1, 4⟩⟩⟩, ⟨.unknown, "", "?", ⟨⟨1, 4⟩, ⟨1, 5⟩⟩⟩] ++
        [.atEnd ⟨1, 5⟩]) := by
    rw [tokenize_eq_ok_scan]
    decide +kernel
  have hmiddle : SetApart ["é", "(", "1", "?"]
      ("é" ++ "\r\n" ++ ("(" ++ "\t" ++ ("1" ++ "\n\r" ++ "?"))) :=
    .cons (by decide) (by decide) <| .cons (by decide) (by decide) <|
      .cons (by decide) (by decide) <| .single "?"
  exact ⟨htokens, (respacing_keeps_tokens htokens (by decide) hmiddle (by decide)).1⟩

end FrontEnd
