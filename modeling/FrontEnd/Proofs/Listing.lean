import FrontEnd.Proofs.Labels
import FrontEnd.Proofs.Layout
import FrontEnd.Proofs.LineEnds
import FrontEnd.Proofs.QuotedText

/-!
# Reading a listing back

A line of a listing has its columns between spaces: the place of a token, the name of its kind,
and for some kinds a text. The kind and the text tell the characters of the token, and the tokens
make up the scanned text, so the listing gives that text. No line of a listing holds a character
that ends a line in any convention.
-/

namespace FrontEnd

namespace Text

/-- The characters that end a line in one convention or another. -/
def lineBoundaries : List Char :=
  ['\n', '\x0b', '\x0c', '\r', '\x1c', '\x1d', '\x1e', '\u0085', '\u2028', '\u2029']

/-- A character that ends a line is not printable and no part of an identifier or a number. -/
theorem classes_of_mem_lineBoundaries {c : Char} (h : c ∈ lineBoundaries) :
    Unicode.isPrintable c = false ∧ continuesIdentifier c = false := by
  have hboundaries : lineBoundaries.all
      (fun b => !Unicode.isPrintable b && !continuesIdentifier b) = true := by decide +kernel
  simpa using List.all_eq_true.1 hboundaries c h

/-- The text up to the first space. -/
def untilSpace (cs : List Char) : List Char := cs.takeWhile (· ≠ ' ')

/-- The text behind the first space. -/
def afterSpace (cs : List Char) : List Char := (cs.dropWhile (· ≠ ' ')).drop 1

section Columns

variable {cs ds : List Char}

/-- Up to the first space stands the text before it. -/
theorem untilSpace_append (hcs : ' ' ∉ cs) (hds : ∀ d ∈ ds.head?, d = ' ') :
    untilSpace (cs ++ ds) = cs := by
  have hbefore : ∀ c ∈ cs, decide (c ≠ ' ') = true := fun c hc =>
    decide_eq_true fun heq => hcs (heq ▸ hc)
  rw [untilSpace, List.takeWhile_append_of_pos hbefore]
  cases ds with
  | nil => simp
  | cons d ds => simp [hds d rfl]

/-- Behind the first space stands the text after it. -/
theorem afterSpace_append (hcs : ' ' ∉ cs) (hds : ∀ d ∈ ds.head?, d = ' ') :
    afterSpace (cs ++ ds) = ds.drop 1 := by
  have hbefore : ∀ c ∈ cs, decide (c ≠ ' ') = true := fun c hc =>
    decide_eq_true fun heq => hcs (heq ▸ hc)
  rw [afterSpace, List.dropWhile_append_of_pos hbefore]
  cases ds with
  | nil => simp
  | cons d ds => simp [hds d rfl]

end Columns

end Text

open Text

/-! ## The columns of a line -/

/-- The name of the kind in a line of a listing. -/
def kindColumn (line : List Char) : List Char := untilSpace (afterSpace line)

/-- The text in a line of a listing, if there is any. -/
def textColumn (line : List Char) : List Char := afterSpace (afterSpace line)

/-- What the line for a token shows behind the name of the kind. -/
def Token.shown (t : Token) : List Char :=
  if t.text ≠ "" then ' ' :: t.text.toList
  else if t.kind = .unknown ∨ t.kind = .whitespace then ' ' :: quoteChars t.raw.toList
  else []

/-- The characters of the line for a token. -/
theorem Token.toList_listingLine (t : Token) :
    t.listingLine.toList =
      t.span.start.display.toList ++ ' ' :: (t.kind.name.toList ++ t.shown) := by
  simp only [listingLine, shown]
  split
  · simp
  split
  · simp [quoted]
  · simp

/-- A place is shown with digits, a colon and signs. -/
theorem Position.of_mem_display {p : Position} {c : Char} (h : c ∈ p.display.toList) :
    c = '-' ∨ c = ':' ∨ c.isDigit := by
  have hdisplay : p.display.toList = p.line.repr.toList ++ ':' :: p.column.repr.toList := by
    simp [display, toString]
  rw [hdisplay, List.mem_append, List.mem_cons] at h
  rcases h with hline | rfl | hcolumn
  · rcases sign_or_digit_of_mem_repr hline with hsign | hdigit
    · exact .inl hsign
    · exact .inr (.inr hdigit)
  · exact .inr (.inl rfl)
  · rcases sign_or_digit_of_mem_repr hcolumn with hsign | hdigit
    · exact .inl hsign
    · exact .inr (.inr hdigit)

/-- A place is shown without a space. -/
theorem Position.space_not_mem_display (p : Position) : ' ' ∉ p.display.toList := by
  intro h
  rcases of_mem_display h with hc | hc | hc <;> revert hc <;> decide

/-- The name of a kind has no space. -/
theorem TokenKind.space_not_mem_name (kind : TokenKind) : ' ' ∉ kind.name.toList := by
  cases kind <;> decide

/-- What is shown behind the name of the kind begins with a space. -/
theorem Token.head?_shown (t : Token) : ∀ c ∈ t.shown.head?, c = ' ' := by
  unfold shown
  split
  · simp
  split
  · simp
  · simp

/-- Behind the place stand the name of the kind and what is shown after it. -/
theorem Token.afterSpace_listingLine (t : Token) :
    afterSpace t.listingLine.toList = t.kind.name.toList ++ t.shown := by
  rw [toList_listingLine, afterSpace_append t.span.start.space_not_mem_display (by simp)]
  rfl

/-- The line for a token names its kind. -/
theorem Token.kindColumn_listingLine (t : Token) :
    kindColumn t.listingLine.toList = t.kind.name.toList := by
  rw [kindColumn, afterSpace_listingLine,
    untilSpace_append t.kind.space_not_mem_name t.head?_shown]

/-- The line for a token holds what is shown of it. -/
theorem Token.textColumn_listingLine (t : Token) :
    textColumn t.listingLine.toList = t.shown.drop 1 := by
  rw [textColumn, afterSpace_listingLine,
    afterSpace_append t.kind.space_not_mem_name t.head?_shown]

/-! ## The characters of a token -/

/-- The kind with a name. -/
def TokenKind.ofName? (name : List Char) : Option TokenKind :=
  all.find? fun kind => kind.name.toList == name

/-- A kind is found by its name. -/
theorem TokenKind.ofName?_name (kind : TokenKind) : ofName? kind.name.toList = some kind := by
  cases kind <;> decide

/-- The line for a token names whitespace exactly if the token is whitespace. -/
theorem Token.kindColumn_eq_whitespace_iff {t : Token} :
    kindColumn t.listingLine.toList = TokenKind.whitespace.name.toList ↔ t.kind = .whitespace := by
  rw [kindColumn_listingLine]
  refine ⟨fun h => ?_, fun h => by rw [h]⟩
  have hname := t.kind.ofName?_name
  rw [h, TokenKind.ofName?_name] at hname
  exact (Option.some.inj hname).symm

/-- The characters of a token of a kind whose line has the given text. -/
def TokenKind.charsOf (kind : TokenKind) (column : List Char) : List Char :=
  match kind with
  | identifier | number => column
  | unknown | whitespace => unquote column
  | _ => ((punctuation.find? fun mark => mark.2 == kind).map Prod.fst).toList

/-- The characters of the token that a line of a listing is for. -/
def charsOfLine (line : List Char) : List Char :=
  ((TokenKind.ofName? (kindColumn line)).map fun kind => kind.charsOf (textColumn line)).getD []

/-- The text that a listing is for. -/
def charsOfListing (text : String) : List Char := (linesOf text.toList).flatMap charsOfLine

/-- The line for a token gives the characters that its kind makes of what is shown. -/
theorem charsOfLine_listingLine (t : Token) :
    charsOfLine t.listingLine.toList = t.kind.charsOf (t.shown.drop 1) := by
  rw [charsOfLine, t.kindColumn_listingLine, t.textColumn_listingLine, TokenKind.ofName?_name]
  rfl

/-- The line for a lexeme gives its characters. -/
theorem charsOfLine_tokenAt {l : Lexeme} (h : l.WellFormed) (p : Position) :
    charsOfLine (l.tokenAt p).listingLine.toList = l.chars := by
  rw [charsOfLine_listingLine]
  cases h with
  | identifier _ _ =>
    simp [Lexeme.tokenAt, Token.ofChars, TokenKind.carriesText, Token.shown, TokenKind.charsOf]
  | number hne _ =>
    simp [Lexeme.tokenAt, Token.ofChars, TokenKind.carriesText, Token.shown, TokenKind.charsOf, hne]
  | whitespace _ _ =>
    simp [Lexeme.tokenAt, Token.ofChars, TokenKind.carriesText, Token.shown, TokenKind.charsOf,
      unquote_quoteChars]
  | @mark c kind hmem =>
    have hmarks : ∀ e ∈ TokenKind.punctuation, e.2.carriesText = false ∧ e.2 ≠ .unknown ∧
        e.2 ≠ .whitespace ∧ e.2.charsOf [] = [e.1] := by decide
    obtain ⟨htext, hunknown, hwhitespace, hchars⟩ := hmarks (c, kind) hmem
    simpa [Lexeme.tokenAt, Token.ofChars, htext, Token.shown, hunknown, hwhitespace] using hchars
  | unknown _ _ _ _ =>
    simp [Lexeme.tokenAt, Token.ofChars, TokenKind.carriesText, Token.shown, TokenKind.charsOf,
      unquote_quoteChars]

/-- The line for the end of a source gives no characters. -/
theorem charsOfLine_atEnd (p : Position) : charsOfLine (Token.atEnd p).listingLine.toList = [] := by
  rw [charsOfLine_listingLine]
  rfl

/-! ## Lines and their ends -/

/-- The line holds no character that ends a line in any convention. -/
def OnOneLine (line : List Char) : Prop := ∀ c ∈ line, c ∉ lineBoundaries

instance (line : List Char) : Decidable (OnOneLine line) := List.decidableBAll _ line

/-- Printable characters are on one line. -/
theorem onOneLine_of_isPrintable {cs : List Char} (h : ∀ c ∈ cs, Unicode.isPrintable c = true) :
    OnOneLine cs := by
  intro c hc hboundary
  simpa [h c hc] using (classes_of_mem_lineBoundaries hboundary).1

/-- Letters, digits and underscores are on one line. -/
theorem onOneLine_of_continuesIdentifier {cs : List Char}
    (h : ∀ c ∈ cs, continuesIdentifier c = true) : OnOneLine cs := by
  intro c hc hboundary
  simpa [h c hc] using (classes_of_mem_lineBoundaries hboundary).2

/-- A place is on one line. -/
theorem Position.onOneLine_display (p : Position) : OnOneLine p.display.toList := by
  apply onOneLine_of_isPrintable
  intro c hc
  have hascii : 0x20 ≤ c.toNat ∧ c.toNat ≤ 0x7E := by
    rcases of_mem_display hc with rfl | rfl | hdigit
    · decide
    · decide
    · obtain ⟨hlow, hhigh⟩ := Char.isDigit_iff_toNat.1 hdigit
      exact ⟨Nat.le_trans (by decide) hlow, Nat.le_trans hhigh (by decide)⟩
  exact isPrintable_of_ascii hascii.1 hascii.2

/-- The name of a kind is on one line. -/
theorem TokenKind.onOneLine_name (kind : TokenKind) : OnOneLine kind.name.toList := by
  cases kind <;> decide

/-- The line for a token is one line if what is shown behind the name of its kind is. -/
theorem Token.onOneLine_listingLine {t : Token} (h : OnOneLine t.shown) :
    OnOneLine t.listingLine.toList := by
  intro c hc
  rw [toList_listingLine, List.mem_append, List.mem_cons, List.mem_append] at hc
  rcases hc with hplace | rfl | hname | hshown
  · exact t.span.start.onOneLine_display c hplace
  · decide
  · exact t.kind.onOneLine_name c hname
  · exact h c hshown

/-- A space before a text leaves it on one line. -/
theorem OnOneLine.cons_space {cs : List Char} (h : OnOneLine cs) : OnOneLine (' ' :: cs) := by
  intro c hc
  rcases List.mem_cons.1 hc with rfl | hc
  · decide
  · exact h c hc

/-- What is shown of a token is on one line if its text is. -/
theorem Token.onOneLine_shown {t : Token} (h : OnOneLine t.text.toList) : OnOneLine t.shown := by
  unfold shown
  split
  · exact h.cons_space
  split
  · exact (onOneLine_of_isPrintable fun _ => isPrintable_of_mem_quoteChars).cons_space
  · decide

/-- A lexeme that carries a text is made of letters, digits and underscores. -/
theorem Lexeme.WellFormed.continuesIdentifier {l : Lexeme} (h : l.WellFormed)
    (htext : l.kind.carriesText = true) : ∀ c ∈ l.chars, continuesIdentifier c = true := by
  cases h with
  | identifier hd hds =>
    intro c hc
    rcases List.mem_cons.1 hc with rfl | hc
    · exact continuesIdentifier_iff.2 (.inl hd)
    · exact continuesIdentifier_iff.2 (hds c hc)
  | number _ hds => exact fun c hc => continuesIdentifier_iff.2 (.inr (.inl (hds c hc)))
  | whitespace _ _ => cases htext
  | mark hmem =>
    have hmarks : ∀ e ∈ TokenKind.punctuation, e.2.carriesText = false := by decide
    exact absurd htext (by simp [hmarks _ hmem])
  | unknown _ _ _ _ => cases htext

/-- The line for a lexeme is one line. -/
theorem onOneLine_tokenAt {l : Lexeme} (h : l.WellFormed) (p : Position) :
    OnOneLine (l.tokenAt p).listingLine.toList := by
  apply Token.onOneLine_listingLine
  apply Token.onOneLine_shown
  cases htext : l.kind.carriesText with
  | false =>
    have hempty : (l.tokenAt p).text = "" := by simp [Lexeme.tokenAt, Token.ofChars, htext]
    rw [hempty]
    decide
  | true =>
    have hchars : (l.tokenAt p).text.toList = l.chars := by
      simp [Lexeme.tokenAt, Token.ofChars, htext]
    rw [hchars]
    exact onOneLine_of_continuesIdentifier (h.continuesIdentifier htext)

/-- The line for the end of a source is one line. -/
theorem onOneLine_atEnd (p : Position) : OnOneLine (Token.atEnd p).listingLine.toList :=
  Token.onOneLine_listingLine (Token.onOneLine_shown (by simp [Token.atEnd, OnOneLine]))

/-! ## The listing of a source -/

/-- The lines for the tokens of a text give the text. -/
theorem charsOfLine_layOut (p : Position) (cs : List Char) :
    (layOut p cs).flatMap (fun t => charsOfLine t.listingLine.toList) = cs := by
  fun_induction layOut p cs with
  | case1 => rfl
  | case2 p c cs ih =>
    rw [List.flatMap_cons, charsOfLine_tokenAt (Lexeme.wellFormed_first c cs), ih,
      Lexeme.chars_first_append]

/-- Every token of a source has a line. -/
theorem onOneLine_of_mem_scan {source : String} {significant : Bool} {t : Token}
    (h : t ∈ scan source significant) : OnOneLine t.listingLine.toList := by
  rw [scan_eq_layOut, List.mem_append, List.mem_singleton] at h
  rcases h with hkept | rfl
  · obtain ⟨l, p, hl, rfl⟩ := exists_lexeme_of_mem_layOut (List.mem_filter.1 hkept).1
    exact onOneLine_tokenAt hl p
  · exact onOneLine_atEnd _

/-- A listing has one line for every token. -/
theorem linesOf_listing (source : String) (significant : Bool) :
    linesOf (listing (scan source significant)).toList =
      (scan source significant).map fun t => t.listingLine.toList := by
  have hlisting : (listing (scan source significant)).toList =
      ((scan source significant).map fun t => t.listingLine.toList).flatMap (· ++ ['\n']) := by
    simp [listing, String.toList_join, List.flatMap_map]
  rw [hlisting]
  apply linesOf_flatMap
  intro line hline
  obtain ⟨t, ht, rfl⟩ := List.mem_map.1 hline
  have hone := onOneLine_of_mem_scan ht
  exact ⟨fun hc => hone _ hc (by decide), fun hc => hone _ hc (by decide)⟩

/-- The full listing of a source gives the scanned text. -/
theorem charsOfListing_scan (source : String) :
    charsOfListing (listing (scan source false)) = scannedText source := by
  rw [charsOfListing, linesOf_listing, List.flatMap_map, scan_eq_layOut, Scanner.kept_false,
    List.flatMap_append, charsOfLine_layOut]
  simp [charsOfLine_atEnd]

/-- The scanned text decides the tokens. -/
theorem scan_eq_of_scannedText_eq {source other : String}
    (h : scannedText source = scannedText other) (significant : Bool) :
    scan source significant = scan other significant := by
  rw [scan_eq_layOut, scan_eq_layOut, endOf_eq_advance, endOf_eq_advance, h]

/-- A file that holds a text is listed, if nothing is refused. -/
theorem Command.scanFile_encode {fs : FileSystem} {o : Options} {source : String}
    (hread : fs.read o.input = .ok (Utf8.encode source)) (hstrict : o.strict = false) :
    (scanFile FileSystem.access o).run fs =
      (.ok (listing (scan source o.skipWhitespace)), fs) := by
  obtain ⟨outcome, hlisting, hreport⟩ := listingOfBytes_encode source o.skipWhitespace o.strict
  rw [scanFile_run hread, hlisting]
  rw [hstrict, tokenize_eq_ok_scan] at hreport
  cases outcome with
  | error e => cases hreport
  | ok text =>
    obtain rfl : text = listing (scan source o.skipWhitespace) := by
      simpa [Except.mapError, Except.map] using hreport
    rfl

/-- **Listings are faithful.** A file that holds a source is listed by its tokens, one line for
each, and no line holds a character that ends a line in any convention. The full listing gives
the scanned text, so two sources have the same one exactly if the same text is scanned for them.
The listing without whitespace is the full one without the lines that name that kind. -/
theorem listing_faithful (source : String) :
    (∀ (fs : FileSystem) (o : Command.Options), fs.read o.input = .ok (Utf8.encode source) →
        o.strict = false →
        (Command.scanFile FileSystem.access o).run fs =
          (.ok (listing (scan source o.skipWhitespace)), fs)) ∧
      charsOfListing (listing (scan source false)) = scannedText source ∧
      (∀ other, listing (scan source false) = listing (scan other false) ↔
        scannedText source = scannedText other) ∧
      (∀ significant,
        splitLines (listing (scan source significant)) =
            (scan source significant).map Token.listingLine ∧
          ∀ t ∈ scan source significant, OnOneLine t.listingLine.toList) ∧
      listing (scan source true) =
        String.join (((splitLines (listing (scan source false))).filter fun line =>
          kindColumn line.toList ≠ TokenKind.whitespace.name.toList).map (· ++ "\n")) := by
  have hlines (significant : Bool) : splitLines (listing (scan source significant)) =
      (scan source significant).map Token.listingLine := by
    rw [splitLines, linesOf_listing, List.map_map]
    simp
  refine ⟨fun fs o => Command.scanFile_encode, charsOfListing_scan source, fun other => ⟨?_, ?_⟩,
    fun significant => ⟨hlines significant, fun t => onOneLine_of_mem_scan⟩, ?_⟩
  · intro h
    rw [← charsOfListing_scan source, h, charsOfListing_scan other]
  · intro h
    rw [scan_eq_of_scannedText_eq h]
  · rw [hlines, scan_true, listing, List.filter_map, List.map_map]
    simp [Function.comp_def, Token.kindColumn_eq_whitespace_iff]

example : charsOfListing "1:1 IDENTIFIER a\n1:2 UNKNOWN '?'\n1:3 EOF\n" = ['a', '?'] := by cbv

end FrontEnd
