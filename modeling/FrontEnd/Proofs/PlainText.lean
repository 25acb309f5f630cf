import FrontEnd.Proofs.Operation
import FrontEnd.Proofs.Reading

/-!
# The plain text behind a scanner

What a scanner answers, apart from places, is what a plain list of characters answers: the text
still to be read, from whose front the longest lexeme is taken, and onto whose front a character
is put that is given back. Neither the slot nor the ends of lines can be told from the answers,
so two scanners with the same text before them answer alike however they came to it.
-/

namespace FrontEnd

/-- What a token is, apart from where it stands. -/
structure Content where
  /-- What the piece is. -/
  kind : TokenKind
  /-- The characters of an identifier or a number; empty for every other kind. -/
  text : String
  /-- Every character of the piece. -/
  raw : String
  deriving DecidableEq, Repr

/-- What the token is, apart from where it stands. -/
def Token.content (t : Token) : Content := ⟨t.kind, t.text, t.raw⟩

/-- The content of a token that is made of a lexeme. -/
def Lexeme.content (l : Lexeme) : Content :=
  let raw := String.ofList l.chars
  ⟨l.kind, if l.kind = .identifier ∨ l.kind = .number then raw else "", raw⟩

namespace PlainText

/-- The first content that a text gives, and the text after it. -/
inductive Gives : List Char → Content → List Char → Prop
  /-- Without characters the end of the source is given. -/
  | atEnd : Gives [] ⟨.endOfInput, "", ""⟩ []
  /-- The longest lexeme at the front is given, and its characters are taken away. -/
  | lexeme {text rest : List Char} {l : Lexeme} : MaximalMunch text l → text = l.chars ++ rest →
      Gives text l.content rest

/-- The contents that a text gives up to the first one that is wanted, and the text after it. -/
inductive GivesUntil (wanted : Content → Prop) : List Char → List Content → List Char → Prop
  /-- The first one is wanted. -/
  | stop {text rest : List Char} {content : Content} : Gives text content rest → wanted content →
      GivesUntil wanted text [content] rest
  /-- The first one is not wanted. -/
  | go {text middle rest : List Char} {content : Content} {contents : List Content} :
      Gives text content middle → ¬ wanted content → GivesUntil wanted middle contents rest →
      GivesUntil wanted text (content :: contents) rest

/-- What is answered, apart from places. -/
inductive Answer where
  /-- It is done. -/
  | done
  /-- It is refused. -/
  | refused
  /-- The content asked for. -/
  | content (content : Content)
  /-- The contents asked for. -/
  | contents (contents : List Content)

/-- A reply without the places in it. -/
def Answer.ofReply : Scanner.Reply → Answer
  | .done => .done
  | .refused _ => .refused
  | .token t => .content t.content
  | .tokens ts => .contents (ts.map Token.content)

/-- Whether the answer is a refusal. -/
def Answer.isRefusal : Answer → Bool
  | .refused => true
  | _ => false

open Scanner (Operation)

/-- What an operation answers and makes of the text still to be read. -/
inductive Step : List Char → Operation → Answer → List Char → Prop
  /-- The lines of the source are to be read, with a line feed between neighbours. -/
  | restart {text : List Char} {source : String} :
      Step text (.restart source) .done (scannedText source)
  /-- A character taken back comes before the others. -/
  | accepted {text : List Char} {given : String} {c : Char} : given.toList = [c] →
      Step text (.pushBack (.text given)) .done (c :: text)
  /-- A refusal changes nothing. -/
  | refused {text : List Char} {given : Datum} : Step text (.pushBack given) .refused text
  /-- The first content is given. -/
  | nextToken {text rest : List Char} {content : Content} : Gives text content rest →
      Step text .nextToken (.content content) rest
  /-- The first content that is not whitespace is given. -/
  | nextSignificant {text rest : List Char} {skipped : List Content} {content : Content} :
      GivesUntil (fun content => content.kind ≠ .whitespace) text (skipped ++ [content]) rest →
      Step text .nextSignificant (.content content) rest
  /-- All contents up to the end of the source are given. -/
  | drain {text rest : List Char} {contents : List Content} :
      GivesUntil (fun content => content.kind = .endOfInput) text contents rest →
      Step text .drain (.contents contents) rest

/-- What operations performed one after the other answer and make of the text. -/
inductive Run : List Char → List Operation → List Answer → List Char → Prop
  /-- Without operations the text stays as it is. -/
  | nil {text : List Char} : Run text [] [] text
  /-- The first operation is performed first. -/
  | cons {text middle rest : List Char} {op : Operation} {ops : List Operation} {answer : Answer}
      {answers : List Answer} : Step text op answer middle → Run middle ops answers rest →
      Run text (op :: ops) (answer :: answers) rest

/-- A text gives only one content first. -/
theorem Gives.deterministic {text rest others : List Char} {content other : Content}
    (h : Gives text content rest) (h' : Gives text other others) :
    content = other ∧ rest = others := by
  cases h with
  | atEnd =>
    generalize htext : ([] : List Char) = text at h'
    cases h' with
    | atEnd => exact ⟨rfl, rfl⟩
    | lexeme hmunch hsplit =>
      rw [← htext] at hsplit
      exact absurd (List.append_eq_nil_iff.1 hsplit.symm).1 hmunch.wellFormed.chars_ne_nil
  | lexeme hmunch hsplit =>
    cases h' with
    | atEnd => exact absurd (List.append_eq_nil_iff.1 hsplit.symm).1 hmunch.wellFormed.chars_ne_nil
    | lexeme hmunch' hsplit' =>
      obtain ⟨c, cs, rfl⟩ : ∃ c cs, text = c :: cs := by
        apply List.exists_cons_of_ne_nil
        rintro rfl
        exact hmunch.wellFormed.chars_ne_nil (List.append_eq_nil_iff.1 hsplit.symm).1
      obtain rfl := maximalMunch_iff.1 hmunch
      obtain rfl := maximalMunch_iff.1 hmunch'
      exact ⟨rfl, List.append_cancel_left (hsplit.symm.trans hsplit')⟩

/-- Up to the first content that is wanted a text gives only these. -/
theorem GivesUntil.deterministic {wanted : Content → Prop} {text rest others : List Char}
    {contents found : List Content} (h : GivesUntil wanted text contents rest)
    (h' : GivesUntil wanted text found others) : contents = found ∧ rest = others := by
  induction h generalizing found with
  | stop hgives hwanted =>
    cases h' with
    | stop hgives' _ =>
      obtain ⟨rfl, rfl⟩ := hgives.deterministic hgives'
      exact ⟨rfl, rfl⟩
    | go hgives' hnot _ =>
      obtain ⟨rfl, rfl⟩ := hgives.deterministic hgives'
      exact absurd hwanted hnot
  | go hgives hnot _ ih =>
    cases h' with
    | stop hgives' hwanted =>
      obtain ⟨rfl, rfl⟩ := hgives.deterministic hgives'
      exact absurd hwanted hnot
    | go hgives' _ hrest' =>
      obtain ⟨rfl, rfl⟩ := hgives.deterministic hgives'
      obtain ⟨rfl, rfl⟩ := ih hrest'
      exact ⟨rfl, rfl⟩

/-- The answer and the text after it are decided by the text, but for what is refused. -/
theorem Step.deterministic {text rest others : List Char} {op : Operation}
    {answer other : Answer} (h : Step text op answer rest) (h' : Step text op other others)
    (hrefusal : answer.isRefusal = other.isRefusal) : answer = other ∧ rest = others := by
  cases h with
  | restart =>
    cases h'
    exact ⟨rfl, rfl⟩
  | accepted hgiven =>
    cases h' with
    | accepted hgiven' =>
      obtain ⟨rfl, -⟩ := List.cons.inj (hgiven.symm.trans hgiven')
      exact ⟨rfl, rfl⟩
    | refused => cases hrefusal
  | refused =>
    cases h' with
    | accepted _ => cases hrefusal
    | refused => exact ⟨rfl, rfl⟩
  | nextToken hgives =>
    cases h' with
    | nextToken hgives' =>
      obtain ⟨rfl, rfl⟩ := hgives.deterministic hgives'
      exact ⟨rfl, rfl⟩
  | nextSignificant hgives =>
    cases h' with
    | nextSignificant hgives' =>
      obtain ⟨hcontents, rfl⟩ := hgives.deterministic hgives'
      obtain ⟨-, hlast⟩ := List.append_inj' hcontents rfl
      obtain rfl := List.singleton_inj.1 hlast
      exact ⟨rfl, rfl⟩
  | drain hgives =>
    cases h' with
    | drain hgives' =>
      obtain ⟨rfl, rfl⟩ := hgives.deterministic hgives'
      exact ⟨rfl, rfl⟩

/-- All answers and the text after them are decided by the text, but for what is refused. -/
theorem Run.deterministic {text rest others : List Char} {ops : List Operation}
    {answers found : List Answer} (h : Run text ops answers rest) (h' : Run text ops found others)
    (hrefusals : answers.map Answer.isRefusal = found.map Answer.isRefusal) :
    answers = found ∧ rest = others := by
  induction h generalizing found with
  | nil =>
    cases h'
    exact ⟨rfl, rfl⟩
  | cons hstep _ ih =>
    cases h' with
    | cons hstep' hrest' =>
      simp only [List.map_cons, List.cons.injEq] at hrefusals
      obtain ⟨rfl, rfl⟩ := hstep.deterministic hstep' hrefusals.1
      obtain ⟨rfl, rfl⟩ := ih hrest' hrefusals.2
      exact ⟨rfl, rfl⟩

end PlainText

namespace Scanner

open PlainText

/-- The next token is what the upcoming text gives. -/
theorem gives_nextToken (s : Scanner) :
    Gives s.upcoming s.nextToken.1.content s.nextToken.2.upcoming := by
  cases h : s.upcoming with
  | nil =>
    rw [nextToken_of_upcoming_nil h, h]
    exact .atEnd
  | cons c cs =>
    have hcontent : s.nextToken.1.content = (Lexeme.first c cs).content := by
      rw [(nextToken_of_upcoming_cons h).1]
      simp only [Token.content, Token.ofChars, Lexeme.content, TokenKind.carriesText_iff]
    rw [hcontent]
    refine .lexeme (maximalMunch_iff.2 rfl) ?_
    rw [(nextToken_of_upcoming_cons h).2]
    simp [Lexeme.first, List.takeWhile_append_dropWhile]

/-- The next significant token is the first one that the upcoming text gives beside whitespace. -/
theorem givesUntil_nextSignificant (s : Scanner) :
    ∃ skipped, GivesUntil (fun content => content.kind ≠ .whitespace) s.upcoming
      (skipped ++ [s.nextSignificant.1.content]) s.nextSignificant.2.upcoming := by
  fun_induction nextSignificant s with
  | case1 s hkind ih =>
    obtain ⟨skipped, hskipped⟩ := ih
    exact ⟨s.nextToken.1.content :: skipped, .go s.gives_nextToken (not_not.2 hkind) hskipped⟩
  | case2 s hkind => exact ⟨[], .stop s.gives_nextToken hkind⟩

/-- All that is left is what the upcoming text gives up to the end of the source. -/
theorem givesUntil_drain (s : Scanner) :
    GivesUntil (fun content => content.kind = .endOfInput) s.upcoming
      (s.drain.1.map Token.content) s.drain.2.upcoming := by
  fun_induction drain s with
  | case1 s hkind => exact .stop s.gives_nextToken hkind
  | case2 s hkind tokens t hdrain ih =>
    rw [hdrain] at ih
    exact .go s.gives_nextToken hkind ih

/-- Every operation on a scanner is one on the upcoming text. -/
theorem step_perform (s : Scanner) (op : Operation) :
    Step s.upcoming op (.ofReply (s.perform op).1) (s.perform op).2.upcoming := by
  cases op with
  | restart source =>
    have hupcoming : (ofSource source).upcoming = scannedText source := upcoming_ofSource source
    simp only [perform, hupcoming]
    exact .restart
  | pushBack given =>
    cases hpush : s.pushBack given with
    | error m =>
      simp only [perform, hpush]
      exact .refused
    | ok t =>
      simp only [perform, hpush]
      obtain ⟨text, c, rfl, hchars, hslot, rfl⟩ := pushBack_eq_ok_iff.1 hpush
      rw [upcoming_unread_of_slot hslot]
      exact .accepted hchars
  | nextToken => exact .nextToken s.gives_nextToken
  | nextSignificant =>
    obtain ⟨skipped, hskipped⟩ := s.givesUntil_nextSignificant
    exact .nextSignificant hskipped
  | drain => exact .drain s.givesUntil_drain

/-- Operations on a scanner are operations on the upcoming text. -/
theorem run_replies (s : Scanner) (ops : List Operation) :
    Run s.upcoming ops ((s.replies ops).map .ofReply) (s.after ops).upcoming := by
  induction ops generalizing s with
  | nil => exact .nil
  | cons op ops ih => exact .cons (s.step_perform op) (ih _)

end Scanner

open Scanner PlainText

/-- **A scanner is a plain text.** Whatever operations are performed on a scanner, there is one
text that is still to be read by the rules of plain texts, and the scanner is at its end exactly
when that text is empty. Two scanners with the same text still to be read answer all further
operations alike, as long as the same characters are taken back from both. -/
theorem operations_refine_plainText (source : String) (ops : List Operation) :
    ∃ rest,
      (∀ text, Run (scannedText source) ops
        (((ofSource source).replies ops).map Answer.ofReply) text ↔ text = rest) ∧
      (((ofSource source).after ops).isAtEnd = true ↔ rest = []) ∧
      ∀ source' ops', Run (scannedText source') ops'
          (((ofSource source').replies ops').map Answer.ofReply) rest →
        ∀ more,
          let answers := (((ofSource source).after ops).replies more).map Answer.ofReply
          let answers' := (((ofSource source').after ops').replies more).map Answer.ofReply
          answers.map Answer.isRefusal = answers'.map Answer.isRefusal → answers = answers' := by
  have hrun (source : String) (ops : List Operation) (text : List Char) :
      Run (scannedText source) ops (((ofSource source).replies ops).map Answer.ofReply) text ↔
        text = ((ofSource source).after ops).upcoming := by
    have hreplies := (ofSource source).run_replies ops
    rw [upcoming_ofSource] at hreplies
    constructor
    · intro h
      exact (h.deterministic hreplies rfl).2
    · rintro rfl
      exact hreplies
  refine ⟨((ofSource source).after ops).upcoming, hrun source ops, isAtEnd_iff, ?_⟩
  intro source' ops' hrest more answers answers' hrefusals
  rw [hrun] at hrest
  have hmore := ((ofSource source).after ops).run_replies more
  have hmore' := ((ofSource source').after ops').run_replies more
  rw [hrest] at hmore
  exact (hmore.deterministic hmore' hrefusals).1

end FrontEnd
