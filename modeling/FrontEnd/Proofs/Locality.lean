import FrontEnd.Proofs.Layout

/-!
# Scanning line by line

The significant tokens of a source are those of its lines, each line taken for itself. A line
feed ends every token but whitespace, and whitespace that is cut in two or joined with more of it
is passed over in any case. So a change of one line leaves the tokens of all others as they are.
-/

namespace FrontEnd

open Scanner (kept)

/-- Only whitespace goes on with a whitespace character. -/
theorem TokenKind.continues_of_isBlank {kind : TokenKind} (h : kind ≠ .whitespace) {c : Char}
    (hc : Unicode.isBlank c = true) : kind.continues c = false := by
  have hdigit : isDigit c = false := by
    apply Bool.eq_false_iff.2
    intro hdigit
    simp [isBlank_of_isDigit hdigit] at hc
  have hidentifier : continuesIdentifier c = false := by
    have hscore : c ≠ '_' := by
      rintro rfl
      exact absurd hc (by decide)
    simp [continuesIdentifier, isLetter_of_isBlank hc, hdigit, hscore]
  cases kind <;> simp_all [continues, runClass?]

/-- Whitespace is left out of what is kept. -/
theorem kept_true_cons_whitespace {t : Token} (h : t.kind = .whitespace) (tokens : List Token) :
    kept true (t :: tokens) = kept true tokens := by
  simp [kept, h]

/-- Every other token is kept. -/
theorem kept_true_cons {t : Token} (h : t.kind ≠ .whitespace) (tokens : List Token) :
    kept true (t :: tokens) = t :: kept true tokens := by
  simp [kept, h]

/-- A whitespace character in front of a text moves its significant tokens and nothing else,
whether or not more whitespace follows. -/
theorem kept_layOut_blank (p : Position) {c : Char} (hc : Unicode.isBlank c = true)
    (cs : List Char) : kept true (layOut p (c :: cs)) = kept true (layOut (p.after c) cs) := by
  have hfirst {d : Char} (hd : Unicode.isBlank d = true) (q : Position) (ds : List Char) :
      kept true (layOut q (d :: ds)) =
        kept true (layOut (q.advance (d :: ds.takeWhile Unicode.isBlank))
          (ds.dropWhile Unicode.isBlank)) := by
    have hkind := TokenKind.ofFirst_of_isBlank hd
    have hcontinues : (TokenKind.ofFirst d).continues = Unicode.isBlank := by
      rw [hkind]
      rfl
    rw [layOut_cons, kept_true_cons_whitespace (show _ = _ from hkind), Lexeme.first, hcontinues]
  rw [hfirst hc]
  cases cs with
  | nil => simp
  | cons d ds =>
    cases hd : Unicode.isBlank d with
    | true => simp [hfirst hd, hd]
    | false => simp [hd]

/-- Whitespace in front of a text moves its significant tokens and nothing else. -/
theorem kept_layOut_blanks (p : Position) {bs : List Char}
    (h : ∀ b ∈ bs, Unicode.isBlank b = true) (cs : List Char) :
    kept true (layOut p (bs ++ cs)) = kept true (layOut (p.advance bs) cs) := by
  induction bs generalizing p with
  | nil => rfl
  | cons b bs ih =>
    rw [List.cons_append, kept_layOut_blank p (h b List.mem_cons_self), Position.advance_cons]
    exact ih (p.after b) fun d hd => h d (List.mem_cons_of_mem b hd)

/-- A run that does not go on with a character ends in front of it. -/
theorem takeWhile_dropWhile_append_cons {f : Char → Bool} {d : Char} (h : f d = false)
    (cs rest : List Char) :
    (cs ++ d :: rest).takeWhile f = cs.takeWhile f ∧
      (cs ++ d :: rest).dropWhile f = cs.dropWhile f ++ d :: rest := by
  induction cs with
  | nil => simp [h]
  | cons c cs ih => cases hc : f c <;> simp [hc, ih]

/-- The significant tokens of a text with a whitespace character are those in front of it and
those of the text behind it. -/
theorem kept_layOut_append_blank (p : Position) (cs : List Char) {b : Char}
    (hb : Unicode.isBlank b = true) (rest : List Char) :
    kept true (layOut p (cs ++ b :: rest)) =
      kept true (layOut p cs) ++ kept true (layOut ((p.advance cs).after b) rest) := by
  fun_induction layOut p cs with
  | case1 p =>
    rw [List.nil_append, kept_layOut_blank p hb]
    rfl
  | case2 p c cs ih =>
    have hchars := Lexeme.chars_first_append c cs
    have hadvance : p.advance (c :: cs) = (p.advance (Lexeme.first c cs).chars).advance
        (cs.dropWhile (TokenKind.ofFirst c).continues) := by
      rw [← hchars]
      exact List.foldl_append ..
    rw [← hadvance] at ih
    by_cases hkind : TokenKind.ofFirst c = .whitespace
    · -- the whitespace in front of the character may go on with it
      have hblanks : ∀ b ∈ (Lexeme.first c cs).chars, Unicode.isBlank b = true :=
        fun b hb => (Lexeme.wellFormed_first c cs).isBlank hkind hb
      rw [kept_true_cons_whitespace (show _ = _ from hkind), ← ih,
        ← kept_layOut_blanks p hblanks, ← List.append_assoc, hchars]
    · obtain ⟨htake, hrest⟩ :=
        takeWhile_dropWhile_append_cons (TokenKind.continues_of_isBlank hkind hb) cs rest
      have hfirst : Lexeme.first c (cs ++ b :: rest) = Lexeme.first c cs := by
        rw [Lexeme.first, htake, Lexeme.first]
      rw [List.cons_append, layOut_cons, hfirst, hrest,
        kept_true_cons (show _ ≠ _ from hkind), kept_true_cons (show _ ≠ _ from hkind), ih,
        List.cons_append]

/-- The significant tokens of a text with a line feed are those in front of it and those of the
text behind it, which begins on the next line. -/
theorem kept_layOut_append_lineFeed (p : Position) {cs : List Char} (h : '\n' ∉ cs)
    (rest : List Char) :
    kept true (layOut p (cs ++ '\n' :: rest)) =
      kept true (layOut p cs) ++ kept true (layOut ⟨p.line + 1, 1⟩ rest) := by
  have hafter : (p.advance cs).after '\n' = ⟨p.line + 1, 1⟩ := by
    rw [Position.after, if_pos rfl, Position.line_advance p h]
  rw [kept_layOut_append_blank p cs (by decide), hafter]

/-- The significant tokens of joined lines are those of the lines, each on its own line. -/
theorem kept_layOut_joinLines {lines : List (List Char)} (h : ∀ l ∈ lines, '\n' ∉ l) (n : Nat) :
    kept true (layOut ⟨n + 1, 1⟩ (Text.joinLines lines)) =
      (lines.zipIdx n).flatMap fun (l, k) => kept true (layOut ⟨k + 1, 1⟩ l) := by
  induction lines generalizing n with
  | nil => simp [kept]
  | cons l lines ih =>
    have hl : '\n' ∉ l := h l List.mem_cons_self
    have ih := ih (fun m hm => h m (List.mem_cons_of_mem l hm)) (n + 1)
    cases lines with
    | nil => simp [Text.joinLines_cons]
    | cons m ms =>
      have hjoin : Text.joinLines (l :: m :: ms) = l ++ '\n' :: Text.joinLines (m :: ms) := by
        simp [Text.joinLines_cons]
      rw [hjoin, kept_layOut_append_lineFeed _ hl, List.zipIdx_cons, List.flatMap_cons, ← ih]
      rfl

/-- The significant tokens of a source, without its end. -/
def significantTokens (source : String) : List Token := (scan source true).dropLast

/-- Without its end a source has the significant tokens of its scanned text. -/
theorem significantTokens_eq (source : String) :
    significantTokens source = kept true (layOut .origin (scannedText source)) := by
  rw [significantTokens, scan_eq_layOut, List.dropLast_concat]

/-- A line has the tokens of its characters. -/
theorem significantTokens_line {l : List Char} {source : String}
    (h : l ∈ Text.linesOf source.toList) (k : Nat) :
    (significantTokens (String.ofList l)).map (Token.down k) =
      kept true (layOut ⟨k + 1, 1⟩ l) := by
  have hscanned : scannedText (String.ofList l) = l := by
    rw [scannedText, String.toList_ofList, Text.linesOf_of_not_mem
      (Text.lineFeed_not_mem_of_mem_linesOf h) (Text.carriageReturn_not_mem_of_mem_linesOf h)]
    split <;> simp_all [Text.joinLines_cons]
  have hdown : (⟨(k : Int) + 1, 1⟩ : Position) = Position.origin.down k := by
    simp only [Position.origin, Position.down, Position.mk.injEq, and_true]
    omega
  rw [significantTokens_eq, hscanned, hdown, layOut_down, Scanner.kept_map_down]

/-- The significant tokens of a source are those of its lines, each on its own line. -/
theorem significantTokens_eq_flatMap (source : String) :
    significantTokens source =
      (Text.linesOf source.toList).zipIdx.flatMap fun (l, k) =>
        kept true (layOut ⟨k + 1, 1⟩ l) := by
  rw [significantTokens_eq, scannedText, ← kept_layOut_joinLines
    fun l hl => Text.lineFeed_not_mem_of_mem_linesOf hl]
  rfl

/-- The significant tokens of a source are those of its lines, moved down. -/
theorem significantTokens_eq_flatMap_down (source : String) :
    significantTokens source =
      (Text.splitLines source).zipIdx.flatMap fun (line, k) =>
        (significantTokens line).map (Token.down k) := by
  rw [significantTokens_eq_flatMap, Text.splitLines, List.zipIdx_map, List.flatMap_map]
  apply List.flatMap_congr
  rintro ⟨l, k⟩ hmem
  exact (significantTokens_line (List.fst_mem_of_mem_zipIdx hmem) k).symm

/-- All tokens of a text without line feeds start on the line where it begins. -/
theorem line_start_of_mem_layOut {p : Position} {cs : List Char} (h : '\n' ∉ cs) {t : Token}
    (ht : t ∈ layOut p cs) : t.span.start.line = p.line := by
  fun_induction layOut p cs with
  | case1 => cases ht
  | case2 p c cs ih =>
    rcases List.mem_cons.1 ht with rfl | ht
    · rfl
    · rw [← Lexeme.chars_first_append c cs, List.mem_append, not_or] at h
      rw [ih h.2 ht, Position.line_advance p h.1]

/-- The tokens that start on a line, lines being counted from zero. -/
def onLine (k : Nat) (tokens : List Token) : List Token :=
  tokens.filter fun t => t.span.start.line = k + 1

/-- The tokens on a line are looked for in each part of a list. -/
theorem onLine_append (k : Nat) (before after : List Token) :
    onLine k (before ++ after) = onLine k before ++ onLine k after := List.filter_append _ _

/-- Tokens that all start on one line are on that line and on no other. -/
theorem onLine_of_forall {j : Nat} {tokens : List Token}
    (h : ∀ t ∈ tokens, t.span.start.line = j + 1) (k : Nat) :
    onLine k tokens = if j = k then tokens else [] := by
  split
  · next hjk =>
    subst hjk
    exact List.filter_eq_self.2 fun t ht => by simpa using h t ht
  · next hjk =>
    apply List.filter_eq_nil_iff.2
    intro t ht
    have hline := h t ht
    simp only [decide_eq_true_eq]
    omega

/-- If the tokens of each line stand on it, those on a line are those of that line. -/
theorem onLine_flatMap_zipIdx {α : Type} {lines : List α} {f : α → Nat → List Token}
    (hf : ∀ l ∈ lines, ∀ k, ∀ t ∈ f l k, t.span.start.line = k + 1) (n k : Nat) :
    onLine (n + k) ((lines.zipIdx n).flatMap fun (l, j) => f l j) =
      lines[k]?.elim [] fun l => f l (n + k) := by
  induction lines generalizing n k with
  | nil => rfl
  | cons l lines ih =>
    have hrest := fun m hm => hf m (List.mem_cons_of_mem l hm)
    have hself := onLine_of_forall (hf l List.mem_cons_self n) (n + k)
    rw [List.zipIdx_cons, List.flatMap_cons, onLine_append, hself]
    cases k with
    | zero =>
      have hothers : onLine (n + 0) ((lines.zipIdx (n + 1)).flatMap fun (l, j) => f l j) = [] := by
        apply List.filter_eq_nil_iff.2
        intro t ht
        obtain ⟨⟨m, j⟩, hm, ht⟩ := List.mem_flatMap.1 ht
        obtain ⟨hj, -, heq⟩ := List.mem_zipIdx hm
        have hline := hrest m (heq ▸ List.getElem_mem _) j t ht
        simp only [decide_eq_true_eq]
        omega
      rw [hothers, List.append_nil, if_pos (show n = n + 0 from rfl)]
      rfl
    | succ k =>
      have hindex : n + (k + 1) = n + 1 + k := by omega
      rw [if_neg (by omega), List.nil_append, hindex]
      exact ih hrest (n + 1) k

/-- The significant tokens on a line are those of that line, moved down. -/
theorem onLine_significantTokens (source : String) (k : Nat) :
    onLine k (significantTokens source) =
      (Text.splitLines source)[k]?.elim [] fun line =>
        (significantTokens line).map (Token.down k) := by
  have hlines : ∀ line ∈ Text.splitLines source, ∀ k : Nat,
      ∀ t ∈ (significantTokens line).map (Token.down k), t.span.start.line = k + 1 := by
    intro line hline k t ht
    obtain ⟨l, hl, rfl⟩ := List.mem_map.1 hline
    rw [significantTokens_line hl] at ht
    exact line_start_of_mem_layOut (Text.lineFeed_not_mem_of_mem_linesOf hl)
      (List.mem_filter.1 ht).1
  have h := onLine_flatMap_zipIdx hlines 0 k
  rwa [Nat.zero_add, ← significantTokens_eq_flatMap_down] at h

/-- The end of a source is counted by its lines and the characters of the last one. -/
theorem endOf_eq (source : String) :
    endOf source = ⟨max 1 ((Text.splitLines source).length : Int),
      ((Text.splitLines source).getLast?.getD "").length + 1⟩ := by
  rw [endOf, Text.splitLines, List.length_map, List.getLast?_map]
  cases (Text.linesOf source.toList).getLast? with
  | none => rfl
  | some l => simp

/-- **Line by line.** The significant tokens of a source are those of its lines, each scanned as
a source of its own, in order and moved down to its line; the end of the source stands behind
the last character of the last line. So two sources with the same line in the same place have
the same significant tokens there, however their other lines differ. -/
theorem significantTokens_lineByLine (source : String) :
    tokenize source true false =
        .ok (significantTokens source ++
          [.atEnd ⟨max 1 ((Text.splitLines source).length : Int),
            ((Text.splitLines source).getLast?.getD "").length + 1⟩]) ∧
      significantTokens source =
        ((Text.splitLines source).zipIdx.flatMap fun (line, k) =>
          (significantTokens line).map (Token.down k)) ∧
      ∀ (other : String) (k : Nat),
        (Text.splitLines source)[k]? = (Text.splitLines other)[k]? →
          onLine k (significantTokens source) = onLine k (significantTokens other) := by
  refine ⟨?_, significantTokens_eq_flatMap_down source, ?_⟩
  · rw [tokenize_eq_ok_scan, significantTokens_eq, scan_eq_layOut, endOf_eq]
  · intro other k hline
    rw [onLine_significantTokens, onLine_significantTokens, hline]

end FrontEnd
