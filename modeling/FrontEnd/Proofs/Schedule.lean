import FrontEnd.Proofs.Drivers
import Mathlib.Data.List.Destutter

/-!
# Schedules of calls

A client that only reads may ask for the next token, for the next significant one and for all that
are left, in any order, and look at where the scanner stands in between. Every token that is
scanned for a call is returned or passed over, and in the order of the calls these tokens are the
tokens of the source from the first one on, with the end of the source again and again once it is
reached. So no significant token is lost or returned twice, whichever way it is asked for.
-/

namespace FrontEnd

/-- The tokens without the ends of the source that only repeat the one before. -/
def collapseEnds (tokens : List Token) : List Token :=
  tokens.destutter fun a b => ¬(a = b ∧ a.kind = .endOfInput)

/-- The tokens that are not whitespace. -/
def withoutWhitespace (tokens : List Token) : List Token :=
  tokens.filter fun t => t.kind ≠ .whitespace

/-- Tokens none of which is the end of the source stay as they are, and the end behind them
stands once. -/
theorem collapseEnds_append_replicate {tokens : List Token} {last : Token}
    (htokens : ∀ t ∈ tokens, t.kind ≠ .endOfInput) (hlast : last.kind = .endOfInput) (n : ℕ) :
    collapseEnds (tokens ++ List.replicate (n + 1) last) = tokens ++ [last] := by
  have hrepeat (n : ℕ) : (List.replicate n last).destutter'
      (fun a b => ¬(a = b ∧ a.kind = .endOfInput)) last = [last] := by
    induction n with
    | zero => rfl
    | succ n ih => rw [List.replicate_succ, List.destutter'_cons_neg _ (by simp [hlast]), ih]
  cases tokens with
  | nil => exact hrepeat n
  | cons first rest =>
    simp only [collapseEnds, List.cons_append, List.destutter_cons']
    induction rest generalizing first with
    | nil =>
      have hfirst := htokens first (by simp)
      rw [List.nil_append, List.replicate_succ, List.destutter'_cons_pos _ (by simp [hfirst]),
        hrepeat]
      rfl
    | cons second rest ih =>
      have hfirst := htokens first (by simp)
      rw [List.cons_append, List.destutter'_cons_pos _ (by simp [hfirst]),
        ih second fun t ht => htokens t (List.mem_cons_of_mem _ ht)]
      rfl

/-- Tokens none of which is the end of the source stay as they are. -/
theorem collapseEnds_of_hasMore {tokens : List Token}
    (htokens : ∀ t ∈ tokens, t.kind ≠ .endOfInput) : collapseEnds tokens = tokens := by
  apply List.destutter_of_isChain
  apply List.Pairwise.isChain
  exact List.pairwise_of_forall_mem_list fun a ha b _ h => htokens a ha h.2

namespace Scanner

/-- What a client that only reads asks of a scanner. -/
inductive Call where
  /-- The next token. -/
  | nextToken
  /-- The next token that is not whitespace. -/
  | nextSignificant
  /-- All tokens up to and with the end of the source. -/
  | drain
  /-- The place where the scanner stands. -/
  | location
  /-- Whether nothing is left to be read. -/
  | isAtEnd

/-- The tokens that a call returns and the scanner after it. To look returns no token and leaves
the scanner as it is. -/
def call (s : Scanner) : Call → List Token × Scanner
  | .nextToken => ([s.nextToken.1], s.nextToken.2)
  | .nextSignificant => ([s.nextSignificant.1], s.nextSignificant.2)
  | .drain => s.drain
  | .location | .isAtEnd => ([], s)

/-- The tokens that calls return, one call after the other. -/
def handedOut (s : Scanner) : List Call → List Token
  | [] => []
  | c :: cs => (s.call c).1 ++ (s.call c).2.handedOut cs

/-- Some call returns the end of the source. -/
def ReturnsEnd (s : Scanner) (calls : List Call) : Prop :=
  ∃ t ∈ s.handedOut calls, t.kind = .endOfInput

/-- A token that is scanned for a call. -/
inductive Visit where
  /-- It is returned. -/
  | returned (t : Token)
  /-- It is stepped over on the way to a significant token. -/
  | passedOver (t : Token)

namespace Visit

/-- The token that is scanned. -/
def token : Visit → Token
  | returned t | passedOver t => t

/-- The token, if it is returned. -/
def returned? : Visit → Option Token
  | returned t => some t
  | passedOver _ => none

end Visit

/-- The whitespace that is scanned before the next significant token. -/
def passedOver (s : Scanner) : List Token :=
  if s.nextToken.1.kind = .whitespace then s.nextToken.1 :: s.nextToken.2.passedOver else []
termination_by s.upcoming.length
decreasing_by exact upcoming_nextToken_lt (by simp [*])

/-- The tokens that are scanned for a call. -/
def visit (s : Scanner) : Call → List Visit
  | .nextToken => [.returned s.nextToken.1]
  | .nextSignificant => s.passedOver.map .passedOver ++ [.returned s.nextSignificant.1]
  | .drain => s.drain.1.map .returned
  | .location | .isAtEnd => []

/-- The tokens that are scanned for calls, one call after the other. -/
def visits (s : Scanner) : List Call → List Visit
  | [] => []
  | c :: cs => s.visit c ++ (s.call c).2.visits cs

/-- The scanner after calls. -/
def afterCalls (s : Scanner) : List Call → Scanner
  | [] => s
  | c :: cs => (s.call c).2.afterCalls cs

/-- Only whitespace is passed over. -/
theorem kind_of_mem_passedOver {s : Scanner} {t : Token} (h : t ∈ s.passedOver) :
    t.kind = .whitespace := by
  fun_induction passedOver s with
  | case1 s hkind ih =>
    rcases List.mem_cons.1 h with rfl | h
    · exact hkind
    · exact ih h
  | case2 s hkind => simp at h

/-- The next significant token is read behind what is passed over. -/
theorem reads_nextSignificant (s : Scanner) :
    Reads s (s.passedOver ++ [s.nextSignificant.1]) s.nextSignificant.2 := by
  fun_induction passedOver s with
  | case1 s hkind ih =>
    rw [nextSignificant, if_pos hkind]
    exact .cons ih
  | case2 s hkind =>
    rw [nextSignificant, if_neg hkind]
    exact .cons (.nil _)

/-- All tokens that are left are read one after the other. -/
theorem reads_drain (s : Scanner) : Reads s s.drain.1 s.drain.2 := by
  fun_induction drain s with
  | case1 s hkind => exact .cons (.nil _)
  | case2 s hkind tokens t hdrain ih =>
    rw [hdrain] at ih
    exact .cons ih

/-- What is scanned for a call is read one token after the other. -/
theorem reads_visit (s : Scanner) (c : Call) :
    Reads s ((s.visit c).map Visit.token) (s.call c).2 := by
  cases c with
  | nextToken => exact .cons (.nil _)
  | nextSignificant =>
    simpa [visit, Visit.token, Function.comp_def, call] using s.reads_nextSignificant
  | drain => simpa [visit, Visit.token, Function.comp_def, call] using s.reads_drain
  | location => exact .nil s
  | isAtEnd => exact .nil s

/-- What is scanned for calls is read one token after the other. -/
theorem reads_visits (s : Scanner) (calls : List Call) :
    Reads s ((s.visits calls).map Visit.token) (s.afterCalls calls) := by
  induction calls generalizing s with
  | nil => exact .nil s
  | cons c calls ih =>
    rw [visits, List.map_append]
    exact (s.reads_visit c).append (ih _)

/-- What a call returns is what is scanned for it and not passed over. -/
theorem filterMap_visit (s : Scanner) (c : Call) :
    (s.visit c).filterMap Visit.returned? = (s.call c).1 := by
  cases c <;> simp [visit, call, Visit.returned?, List.filterMap_map, Function.comp_def]

/-- What calls return is what is scanned for them and not passed over. -/
theorem filterMap_visits (s : Scanner) (calls : List Call) :
    (s.visits calls).filterMap Visit.returned? = s.handedOut calls := by
  induction calls generalizing s with
  | nil => rfl
  | cons c calls ih => rw [visits, List.filterMap_append, filterMap_visit, ih, handedOut]

/-- Only whitespace is passed over for calls. -/
theorem kind_of_passedOver_mem_visits {s : Scanner} {calls : List Call} {t : Token}
    (h : .passedOver t ∈ s.visits calls) : t.kind = .whitespace := by
  induction calls generalizing s with
  | nil => simp [visits] at h
  | cons c calls ih =>
    rw [visits, List.mem_append] at h
    rcases h with h | h
    · cases c with
      | nextSignificant => exact kind_of_mem_passedOver (by simpa [visit] using h)
      | _ => simp [visit] at h
    · exact ih h

/-- What is read from a scanner is a beginning of all that it has left, or all of that and the
end of the source once or more. -/
theorem ReadsAll.cases_of_reads {s t u : Scanner} {all tokens : List Token}
    (hall : ReadsAll s all u) (h : Reads s tokens t) :
    tokens <+: all ∨ ∃ n, tokens = all ++ List.replicate (n + 1) (Token.atEnd u.location) := by
  induction h generalizing all with
  | nil s => exact .inl List.nil_prefix
  | @cons s t tokens _ ih =>
    obtain ⟨hreads, hmore, hend⟩ := hall
    cases hreads with
    | nil =>
      rw [nextToken_of_upcoming_nil hend] at ih ⊢
      have hnone : ReadsAll u [] u := ⟨.nil u, by simp, hend⟩
      rcases ih hnone with hbegins | ⟨n, rfl⟩
      · exact .inr ⟨0, by simp [List.prefix_nil.1 hbegins]⟩
      · exact .inr ⟨n + 1, rfl⟩
    | @cons _ _ rest hrest =>
      have hrestAll : ReadsAll s.nextToken.2 rest u :=
        ⟨hrest, fun token htoken => hmore token (List.mem_cons_of_mem _ htoken), hend⟩
      rcases ih hrestAll with hbegins | ⟨n, rfl⟩
      · exact .inl ((List.prefix_cons_inj _).2 hbegins)
      · exact .inr ⟨n, rfl⟩

/-- What is scanned for calls is a beginning of all that the scanner has left, or all of that and
then the end of the source, which is returned once or more. -/
theorem ReadsAll.visits_cases {s u : Scanner} {all : List Token} (hall : ReadsAll s all u)
    (calls : List Call) :
    (s.visits calls).map Visit.token <+: all ∨ ∃ before n, before.map Visit.token = all ∧
      s.visits calls = before ++ List.replicate (n + 1) (.returned (Token.atEnd u.location)) := by
  rcases hall.cases_of_reads (s.reads_visits calls) with hbegins | ⟨n, heq⟩
  · exact .inl hbegins
  · obtain ⟨before, ends, hvisits, hbefore, hends⟩ := List.map_eq_append_iff.1 heq
    refine .inr ⟨before, n, hbefore, ?_⟩
    rw [hvisits, List.append_cancel_left_eq, List.eq_replicate_iff]
    obtain ⟨hlength, hmem⟩ := List.eq_replicate_iff.1 hends
    refine ⟨by simpa using hlength, fun v hv => ?_⟩
    have htoken := hmem v.token (List.mem_map_of_mem hv)
    cases v with
    | returned t => exact congrArg Visit.returned htoken
    | passedOver t =>
      -- the end of the source is not whitespace
      have hblank := kind_of_passedOver_mem_visits (hvisits ▸ List.mem_append_right _ hv)
      rw [show t = Token.atEnd u.location from htoken] at hblank
      cases hblank

/-- What is returned was scanned. -/
theorem mem_map_of_mem_filterMap {seen : List Visit} {t : Token}
    (h : t ∈ seen.filterMap Visit.returned?) : t ∈ seen.map Visit.token := by
  obtain ⟨v, hv, htoken⟩ := List.mem_filterMap.1 h
  cases v with
  | returned u =>
    obtain rfl : u = t := Option.some.inj htoken
    exact List.mem_map_of_mem (f := Visit.token) hv
  | passedOver u => cases htoken

/-- Of what is scanned, the significant tokens are returned if only whitespace is passed over. -/
theorem withoutWhitespace_filterMap {seen : List Visit}
    (h : ∀ t, .passedOver t ∈ seen → t.kind = .whitespace) :
    withoutWhitespace (seen.filterMap Visit.returned?) =
      withoutWhitespace (seen.map Visit.token) := by
  induction seen with
  | nil => rfl
  | cons v seen ih =>
    have ih := ih fun t ht => h t (List.mem_cons_of_mem _ ht)
    cases v with
    | returned t =>
      simp only [withoutWhitespace, List.filterMap_cons, Visit.returned?, List.map_cons,
        Visit.token, List.filter_cons] at ih ⊢
      rw [ih]
    | passedOver t =>
      have ht := h t List.mem_cons_self
      simp only [withoutWhitespace, List.filterMap_cons, Visit.returned?, List.map_cons,
        Visit.token, List.filter_cons, ht] at ih ⊢
      simpa using ih

/-- What is scanned for calls on a new scanner is a beginning of the tokens of the source, and
then the last of them again and again if that is the end of the source. What the calls return is
the beginning without what is passed over. If the end is returned, nothing is missing. -/
theorem exists_seen (source : String) (calls : List Call) :
    ∃ seen again, (ofSource source).visits calls = seen ++ again ∧
      seen.map Visit.token <+: scan source false ∧
      (∀ v ∈ again, v.token.kind = .endOfInput ∧ seen.getLast? = some v) ∧
      collapseEnds ((ofSource source).handedOut calls) = seen.filterMap Visit.returned? ∧
      ((ofSource source).ReturnsEnd calls → seen.map Visit.token = scan source false) := by
  obtain ⟨all, u, hall⟩ := (ofSource source).exists_readsAll
  have hscan : scan source false = all ++ [Token.atEnd u.location] := by
    rw [scan_of_readsAll hall, kept_false]
  rw [hscan, ReturnsEnd, ← filterMap_visits]
  rcases hall.visits_cases calls with hbegins | ⟨before, n, hbefore, hvisits⟩
  · have hmore : ∀ t ∈ ((ofSource source).visits calls).filterMap Visit.returned?,
        t.kind ≠ .endOfInput :=
      fun t ht => hall.hasMore t (hbegins.subset (mem_map_of_mem_filterMap ht))
    refine ⟨(ofSource source).visits calls, [], by simp, hbegins.trans (List.prefix_append _ _),
      by simp, collapseEnds_of_hasMore hmore, ?_⟩
    rintro ⟨t, ht, hkind⟩
    exact absurd hkind (hmore t ht)
  · have hmore : ∀ t ∈ before.filterMap Visit.returned?, t.kind ≠ .endOfInput :=
      fun t ht => hall.hasMore t (hbefore ▸ mem_map_of_mem_filterMap ht)
    have hends : (List.replicate (n + 1) (Visit.returned (Token.atEnd u.location))).filterMap
        Visit.returned? = List.replicate (n + 1) (Token.atEnd u.location) :=
      List.filterMap_replicate_of_some rfl
    refine ⟨before ++ [.returned (Token.atEnd u.location)],
      List.replicate n (.returned (Token.atEnd u.location)), ?_, ?_, ?_, ?_, ?_⟩
    · rw [hvisits, List.replicate_succ, List.append_assoc, List.singleton_append]
    · simp [hbefore, Visit.token]
    · intro v hv
      rw [List.eq_of_mem_replicate hv]
      exact ⟨rfl, by simp⟩
    · rw [hvisits, List.filterMap_append, hends, collapseEnds_append_replicate hmore rfl,
        List.filterMap_append]
      rfl
    · intro _
      simp [hbefore, Visit.token]

end Scanner

open Scanner

/-- **No significant token is lost or returned twice.** Whatever a client that only reads asks of
a new scanner, what is scanned for it is a beginning of the tokens of the source, and then the end
of the source again and again. The tokens that are returned, with repeated ends taken as one, are
that beginning without what is passed over on the way to significant tokens, which is whitespace.
So the significant ones are a beginning of what is scanned without whitespace, and all clients
that reach the end are returned the same. -/
theorem schedule_loses_nothing (source : String) (calls : List Call) :
    (∃ seen again, (ofSource source).visits calls = seen ++ again ∧
      seen.map Visit.token <+: scan source false ∧
      (∀ v ∈ again, v.token.kind = .endOfInput ∧ seen.getLast? = some v) ∧
      collapseEnds ((ofSource source).handedOut calls) = seen.filterMap Visit.returned? ∧
      ∀ t, .passedOver t ∈ seen → t.kind = .whitespace) ∧
      withoutWhitespace (collapseEnds ((ofSource source).handedOut calls)) <+:
        scan source true ∧
      ∀ others, (ofSource source).ReturnsEnd calls → (ofSource source).ReturnsEnd others →
        withoutWhitespace (collapseEnds ((ofSource source).handedOut calls)) =
          withoutWhitespace (collapseEnds ((ofSource source).handedOut others)) := by
  have hsignificant (calls : List Call) :
      withoutWhitespace (collapseEnds ((ofSource source).handedOut calls)) <+:
          scan source true ∧
        ((ofSource source).ReturnsEnd calls →
          withoutWhitespace (collapseEnds ((ofSource source).handedOut calls)) =
            scan source true) := by
    obtain ⟨seen, again, hvisits, hbegins, -, hcollapse, hall⟩ := exists_seen source calls
    have hpassed : ∀ t, .passedOver t ∈ seen → t.kind = .whitespace := fun t ht =>
      kind_of_passedOver_mem_visits (hvisits ▸ List.mem_append_left again ht)
    rw [hcollapse, withoutWhitespace_filterMap hpassed, scan_true]
    exact ⟨hbegins.filter _, fun hend => by rw [hall hend, withoutWhitespace]⟩
  refine ⟨?_, (hsignificant calls).1, fun others hend hother => ?_⟩
  · obtain ⟨seen, again, hvisits, hbegins, hagain, hcollapse, -⟩ := exists_seen source calls
    exact ⟨seen, again, hvisits, hbegins, hagain, hcollapse, fun t ht =>
      kind_of_passedOver_mem_visits (hvisits ▸ List.mem_append_left again ht)⟩
  · rw [(hsignificant calls).2 hend, (hsignificant others).2 hother]

end FrontEnd
