import FrontEnd.Command
import FrontEnd.Diagnostic
import FrontEnd.Proofs.Lines
import FrontEnd.Proofs.Reading
import FrontEnd.Proofs.Utf8

/-!
# Line ends

Sources that differ in their line ends only have the same tokens, errors, diagnostics and
listings. A scanner reads its lines and never its source, so two scanners that differ in the
source alone give the same tokens. An error shows one line of its source, which is the same in
both. A file is scanned with its line ends replaced, which is one more spelling of them.
-/

namespace FrontEnd

namespace Scanner

/-- The scanner with another source that has the same lines. -/
def withSource (s : Scanner) (source : String) : Scanner := { s with source := source }

/-- The place of the next character does not depend on the source. -/
@[simp] theorem location_withSource (s : Scanner) (source : String) :
    (s.withSource source).location = s.location := rfl

/-- Sources with the same lines make scanners that differ in the source alone. -/
theorem withSource_ofSource {source other : String}
    (h : Text.linesOf source.toList = Text.linesOf other.toList) :
    (ofSource source).withSource other = ofSource other := by
  simp [withSource, ofSource, h]

/-- A character is read whatever the source. -/
theorem pull_withSource (s : Scanner) (source : String) :
    (s.withSource source).pull = s.pull.map fun (c, t) => (c, t.withSource source) := by
  have hend : (s.withSource source).cursorAtEnd = s.cursorAtEnd := rfl
  have hget : (s.withSource source).currentLine[(s.withSource source).column]? =
      s.currentLine[s.column]? := rfl
  cases hslot : s.slot with
  | some held => simp [pull, withSource, hslot]
  | none =>
    simp only [pull, hslot, hend, hget, show (s.withSource source).slot = none from hslot]
    split
    · rfl
    · cases s.currentLine[s.column]? <;> rfl

/-- A run is read whatever the source. -/
theorem takeRun_withSource (p : Char → Bool) (s : Scanner) (source : String) :
    (s.withSource source).takeRun p =
      ((s.takeRun p).1, (s.takeRun p).2.withSource source) := by
  fun_induction takeRun p s with
  | case1 s h =>
    have hpull : (s.withSource source).pull = none := by rw [pull_withSource, h]; rfl
    rw [takeRun_of_pull_eq_none p hpull]
  | case2 s c t h hc run u hrun ih =>
    have hpull : (s.withSource source).pull = some (c, t.withSource source) := by
      rw [pull_withSource, h]; rfl
    rw [takeRun_of_pull_eq_some p hpull, if_pos hc, ih, hrun]
  | case3 s c t h hc =>
    have hpull : (s.withSource source).pull = some (c, t.withSource source) := by
      rw [pull_withSource, h]; rfl
    rw [takeRun_of_pull_eq_some p hpull, if_neg hc]
    rfl

/-- A token is read whatever the source. -/
theorem nextToken_withSource (s : Scanner) (source : String) :
    (s.withSource source).nextToken =
      (s.nextToken.1, s.nextToken.2.withSource source) := by
  cases hpull : s.pull with
  | none => simp [nextToken, pull_withSource, hpull]
  | some r =>
    obtain ⟨c, t⟩ := r
    simp only [nextToken, pull_withSource, hpull, Option.map_some, location_withSource]
    cases (TokenKind.ofFirst c).runClass? with
    | none => rfl
    | some p => simp [takeRun_withSource]

/-- The same tokens are read whatever the source. -/
theorem Reads.withSource {s t : Scanner} {tokens : List Token} (h : Reads s tokens t)
    (source : String) : Reads (s.withSource source) tokens (t.withSource source) := by
  induction h with
  | nil s => exact .nil _
  | @cons s t tokens _ ih =>
    have hnext := nextToken_withSource s source
    have hcons : Reads (s.withSource source) ((s.withSource source).nextToken.1 :: tokens)
        (t.withSource source) := .cons (by rw [hnext]; exact ih)
    rwa [hnext] at hcons

/-- The same tokens are left whatever the source. -/
theorem ReadsAll.withSource {s t : Scanner} {tokens : List Token} (h : ReadsAll s tokens t)
    (source : String) : ReadsAll (s.withSource source) tokens (t.withSource source) where
  reads := h.reads.withSource source
  hasMore := h.hasMore
  upcoming_eq := h.upcoming_eq

/-- Sources that differ in their line ends only are read as the same tokens up to the same place,
and either their lines are the same or there is nothing to read. -/
theorem exists_readsAll_of_sameButLineEnds {source other : String}
    (h : Text.SameButLineEnds source.toList other.toList) :
    ∃ tokens t u, (ofSource source).ReadsAll tokens t ∧ (ofSource other).ReadsAll tokens u ∧
      t.location = u.location ∧
      (Text.linesOf source.toList = Text.linesOf other.toList ∨ tokens = []) := by
  rcases h.linesOf_eq with hlines | ⟨hnone, hone⟩
  · obtain ⟨tokens, t, hall⟩ := (ofSource source).exists_readsAll
    refine ⟨tokens, t, t.withSource other, hall, ?_, rfl, .inl hlines⟩
    rw [← withSource_ofSource hlines]
    exact hall.withSource other
  · -- No line and one empty line have nothing to be read, and both end where they begin.
    have hsource : (ofSource source).upcoming = [] := by simp [hnone]
    have hother : (ofSource other).upcoming = [] := by simp [hone, Text.joinLines_cons]
    exact ⟨[], ofSource source, ofSource other, ⟨.nil _, by simp, hsource⟩,
      ⟨.nil _, by simp, hother⟩, rfl, .inr rfl⟩

/-- No token that is read holds a carriage return. -/
theorem ReadsAll.carriageReturn_not_mem {source : String} {t : Scanner} {tokens : List Token}
    (h : (ofSource source).ReadsAll tokens t) :
    ∀ token ∈ tokens ++ [Token.atEnd t.location], '\r' ∉ token.raw.toList := by
  intro token htoken hmem
  have htext := h.reads_atEnd.upcoming_eq
  rw [upcoming_ofSource, h.upcoming_eq, List.append_nil] at htext
  apply Text.carriageReturn_not_mem_joinLines source.toList
  rw [htext]
  exact List.mem_flatten.2 ⟨_, List.mem_map_of_mem htoken, hmem⟩

end Scanner

namespace LexError

/-- What an error tells: all of it but the spelling of its source. -/
structure Report where
  /-- What is wrong. -/
  message : String
  /-- Where it is. -/
  span : Span
  /-- The text that shows it, in a file of the given name. -/
  shown : String → String

/-- What is told by an error. -/
def report (e : LexError) : Report := ⟨e.message, e.span, e.render⟩

/-- An error tells the same in all sources with the same lines. -/
theorem report_eq {source other : String}
    (h : Text.linesOf source.toList = Text.linesOf other.toList) (message : String)
    (span : Span) : report ⟨message, span, source⟩ = report ⟨message, span, other⟩ := by
  have hline : sourceLine ⟨message, span, source⟩ = sourceLine ⟨message, span, other⟩ := by
    simp only [sourceLine, Text.splitLines, h]
  have hcount : caretCount ⟨message, span, source⟩ = caretCount ⟨message, span, other⟩ := by
    simp only [caretCount, hline]
  have hshown : render ⟨message, span, source⟩ = render ⟨message, span, other⟩ := by
    funext file
    simp only [render, lines, hline, hcount]
  rw [report, report, hshown]

end LexError

/-- Sources that differ in their line ends only have the same tokens, or errors that tell the
same. -/
theorem Text.SameButLineEnds.tokenize_eq {source other : String}
    (h : SameButLineEnds source.toList other.toList) (significant strict : Bool) :
    (tokenize source significant strict).mapError LexError.report =
      (tokenize other significant strict).mapError LexError.report := by
  obtain ⟨tokens, t, u, hsource, hother, hend, hlines⟩ :=
    Scanner.exists_readsAll_of_sameButLineEnds h
  rw [tokenize, tokenize, hsource.collect_eq, hother.collect_eq, hend]
  rcases hlines with hlines | rfl
  · cases tokens.find? fun token => strict && token.kind == .unknown with
    | none => rfl
    | some token => exact congrArg Except.error (LexError.report_eq hlines _ _)
  · rfl

/-- Documents that differ in their line ends only have the same diagnostics. -/
theorem Text.SameButLineEnds.ofText_eq {text other : String}
    (h : SameButLineEnds text.toList other.toList) :
    Diagnostic.ofText text = Diagnostic.ofText other := by
  obtain ⟨tokens, t, u, htext, hother, hend, -⟩ :=
    Scanner.exists_readsAll_of_sameButLineEnds h
  rw [Diagnostic.ofText, Diagnostic.ofText, htext.drain_eq, hother.drain_eq, hend]

namespace Command

/-- The source that a file holds differs from the text that was encoded in its line ends only. -/
theorem sameButLineEnds_sourceOfBytes (text : String) :
    ∃ source, sourceOfBytes (Text.Utf8.encode text) = .ok source ∧
      Text.SameButLineEnds source.toList text.toList := by
  refine ⟨String.ofList (Text.unifyLineEnds text.toList), ?_, .spelling ?_⟩
  · rw [sourceOfBytes, Text.Utf8.decode_encode]
    rfl
  · simp [Text.normalized_eq]

/-- The listing of a file is that of the text that was encoded in it, or tells the same error. -/
theorem listingOfBytes_encode (text : String) (skipWhitespace strict : Bool) :
    ∃ outcome : Except LexError String,
      listingOfBytes skipWhitespace strict (Text.Utf8.encode text) =
        outcome.mapError ScanFault.lexical ∧
      outcome.mapError LexError.report =
        ((tokenize text skipWhitespace strict).mapError LexError.report).map listing := by
  obtain ⟨source, hsource, hsame⟩ := sameButLineEnds_sourceOfBytes text
  refine ⟨(tokenize source skipWhitespace strict).map listing, ?_, ?_⟩
  · rw [listingOfBytes, hsource]
    dsimp only
    cases tokenize source skipWhitespace strict <;> rfl
  · rw [← hsame.tokenize_eq]
    cases tokenize source skipWhitespace strict <;> rfl

/-- A file that was read is listed, whatever gives access to it. -/
theorem scanFile_of_read {files : FileAccess (StateM FileSystem)} {fs : FileSystem} {o : Options}
    {bytes : List UInt8} (h : (files.read o.input).run fs = (.ok bytes, fs)) :
    (scanFile files o).run fs = (listingOfBytes o.skipWhitespace o.strict bytes, fs) := by
  rw [scanFile, StateT.run_bind, h]
  rfl

/-- A file that can be read is listed, and no file is changed. -/
theorem scanFile_run {fs : FileSystem} {o : Options} {bytes : List UInt8}
    (h : fs.read o.input = .ok bytes) :
    (scanFile FileSystem.access o).run fs =
      (listingOfBytes o.skipWhitespace o.strict bytes, fs) := by
  have hread : (FileSystem.access.read o.input).run fs = (.ok bytes, fs) := by
    rw [← h]
    rfl
  exact scanFile_of_read hread

end Command

/-- No token of a source holds a carriage return, and none that was read and passed over does. -/
theorem carriageReturn_not_mem_raw {text : String} {token : Token}
    (h : token ∈ (Scanner.ofSource text).drain.1 ∨
      ∃ significant strict tokens,
        tokenize text significant strict = .ok tokens ∧ token ∈ tokens) :
    '\r' ∉ token.raw.toList := by
  obtain ⟨read, t, hall⟩ := (Scanner.ofSource text).exists_readsAll
  apply hall.carriageReturn_not_mem
  rcases h with hdrained | ⟨significant, strict, tokens, hok, htoken⟩
  · rwa [hall.drain_eq] at hdrained
  · rw [tokenize, hall.collect_eq] at hok
    split at hok
    · cases hok
    · cases hok
      rcases List.mem_append.1 htoken with hkept | hlast
      · exact List.mem_append_left _ (List.mem_filter.1 hkept).1
      · exact List.mem_append_right _ hlast

/-- **Line ends.** Two sources that differ in their line ends only cannot be told apart. They have
the same tokens with the same spans, or errors that tell the same in a file of any name. Editors
get the same diagnostics for both. A file with either gives the listing of the tokens of both, or
again an error that tells the same. No token ever holds a carriage return. -/
theorem indistinguishable_of_sameButLineEnds {source other : String}
    (h : Text.SameButLineEnds source.toList other.toList) :
    (∀ significant strict,
        (tokenize source significant strict).mapError LexError.report =
          (tokenize other significant strict).mapError LexError.report) ∧
      (∀ workspace : Workspace, workspace.HandsBack → ∀ uri,
        publications workspace [.opened uri source] = publications workspace [.opened uri other] ∧
          publications workspace [.changed uri source] =
            publications workspace [.changed uri other]) ∧
      (∀ (fs : FileSystem) (o : Command.Options) (text : String),
        text = source ∨ text = other → fs.read o.input = .ok (Text.Utf8.encode text) →
        ∃ outcome : Except LexError String,
          (Command.scanFile FileSystem.access o).run fs =
              (outcome.mapError Command.ScanFault.lexical, fs) ∧
            outcome.mapError LexError.report =
              ((tokenize source o.skipWhitespace o.strict).mapError LexError.report).map listing ∧
            outcome.mapError LexError.report =
              ((tokenize other o.skipWhitespace o.strict).mapError LexError.report).map listing) ∧
      ∀ text token,
        (token ∈ (Scanner.ofSource text).drain.1 ∨
          ∃ significant strict tokens,
            tokenize text significant strict = .ok tokens ∧ token ∈ tokens) →
        '\r' ∉ token.raw.toList := by
  refine ⟨h.tokenize_eq, ?_, ?_, fun text token => carriageReturn_not_mem_raw⟩
  · intro workspace hworkspace uri
    simp only [hworkspace.publications_eq, List.map_cons, List.map_nil, DocumentEvent.uri,
      DocumentEvent.text, h.ofText_eq, and_self]
  · intro fs o text htext hread
    obtain ⟨outcome, hlisting, hreport⟩ :=
      Command.listingOfBytes_encode text o.skipWhitespace o.strict
    have hrun : (Command.scanFile FileSystem.access o).run fs =
        (outcome.mapError Command.ScanFault.lexical, fs) := by
      rw [← hlisting, Command.scanFile_run hread]
    refine ⟨outcome, hrun, ?_⟩
    rw [hreport, h.tokenize_eq]
    rcases htext with rfl | rfl
    · rw [h.tokenize_eq]
      exact ⟨rfl, rfl⟩
    · exact ⟨rfl, rfl⟩

/-- The carriage return before a pair is a line end of its own, and the one behind the last line
begins no other; a file can hold such a text. -/
theorem indistinguishable_carriageReturns :
    Text.SameButLineEnds "a\n\n?".toList "a\r\r\n?\r".toList ∧
      (tokenize "a\n\n?" true true).mapError LexError.report =
        (tokenize "a\r\r\n?\r" true true).mapError LexError.report ∧
      ∃ outcome : Except LexError String,
        (Command.scanFile FileSystem.access ⟨⟨"", ["a"]⟩, none, false, false⟩).run
            ⟨[(⟨.above 0, ["a"]⟩, .file [97, 13, 13, 10, 63, 13])]⟩ =
          (outcome.mapError Command.ScanFault.lexical,
            ⟨[(⟨.above 0, ["a"]⟩, .file [97, 13, 13, 10, 63, 13])]⟩) ∧
        outcome.mapError LexError.report =
          ((tokenize "a\n\n?" false false).mapError LexError.report).map listing := by
  have h : Text.SameButLineEnds "a\n\n?".toList "a\r\r\n?\r".toList :=
    .terminated (by decide) (by decide)
  obtain ⟨htokens, -, hfiles, -⟩ := indistinguishable_of_sameButLineEnds h
  obtain ⟨outcome, hrun, hreport, -⟩ := hfiles
    ⟨[(⟨.above 0, ["a"]⟩, .file [97, 13, 13, 10, 63, 13])]⟩ ⟨⟨"", ["a"]⟩, none, false, false⟩
    "a\r\r\n?\r" (.inr rfl) (by decide)
  exact ⟨h, htokens true true, outcome, hrun, hreport⟩

end FrontEnd
