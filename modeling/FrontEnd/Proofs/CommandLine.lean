import FrontEnd.Command.Arguments
import Mathlib.Data.List.Basic

/-!
# Command lines

Options are spelled in several ways and stand in any order before and behind the input. A name is
told from all others by a beginning of it that no other spelling has, so each way of spelling is
classified as the option that it spells. The options then take effect one after the other, and of
those that set the same thing the last one counts.
-/

namespace FrontEnd.Command

/-- What is said on a command line in one or two words. -/
inductive Said where
  /-- The file to be scanned. -/
  | input (s : String)
  /-- The file to be written. -/
  | output (s : String)
  /-- The configuration file. -/
  | config (s : String)
  /-- Whether to leave whitespace out. -/
  | skipWhitespace (on : Bool)
  /-- Whether to refuse unknown characters. -/
  | strict (on : Bool)
  deriving DecidableEq

namespace Said

/-- The file to be scanned, if this is what is said. -/
def input? : Said → Option String
  | input s => some s
  | _ => none

/-- The file to be written, if this is what is said. -/
def output? : Said → Option String
  | output s => some s
  | _ => none

/-- The configuration file, if this is what is said. -/
def config? : Said → Option String
  | config s => some s
  | _ => none

/-- Whether to leave whitespace out, if this is what is said. -/
def skipWhitespace? : Said → Option Bool
  | skipWhitespace on => some on
  | _ => none

/-- Whether to refuse unknown characters, if this is what is said. -/
def strict? : Said → Option Bool
  | strict on => some on
  | _ => none

/-- The option that says it, and the value of the option if it takes one. -/
def option? : Said → Option (Switch × Option String)
  | input _ => none
  | output s => some (.output, some s)
  | config s => some (.config, some s)
  | skipWhitespace on => some (.skipWhitespace on, none)
  | strict on => some (.strict on, none)

end Said

/-- The last of what is said about one thing, if anything is. -/
def lastSaid {α : Type} (about : Said → Option α) (said : List Said) : Option α :=
  (said.filterMap about).getLast?

/-- The spelling of an option with two dashes. -/
def Switch.longName : Switch → String
  | help => "--help"
  | output => "--output"
  | config => "--config"
  | skipWhitespace true => "--skip-whitespace"
  | skipWhitespace false => "--no-skip-whitespace"
  | strict true => "--strict"
  | strict false => "--no-strict"

/-- The word is the long name of an option or a beginning of it, and of no other spelling. -/
def Abbreviates (w : String) (s : Switch) : Prop :=
  w.toList <+: s.longName.toList ∧ ∀ e ∈ spellings, w.toList <+: e.1.toList → e.1 = s.longName

instance (w : String) (s : Switch) : Decidable (Abbreviates w s) :=
  inferInstanceAs (Decidable (_ ∧ ∀ e ∈ spellings, _ → _))

/-- The text does not begin with a dash. -/
def NoDash (s : String) : Prop := s.toList.head? ≠ some '-'

instance (s : String) : Decidable (NoDash s) := inferInstanceAs (Decidable (_ ≠ _))

/-- The words that say something. -/
inductive Spells : Said → List String → Prop
  /-- The input stands alone. -/
  | operand {s : String} : NoDash s → Spells (.input s) [s]
  /-- The output has a short name. -/
  | short {s : String} : NoDash s → Spells (.output s) ["-o", s]
  /-- The value of an option is the next word. -/
  | separate {said : Said} {o : Switch} {s w : String} : said.option? = some (o, some s) →
      Abbreviates w o → NoDash s → Spells said [w, s]
  /-- The value of an option stands behind an equals sign. -/
  | attached {said : Said} {o : Switch} {s w : String} : said.option? = some (o, some s) →
      Abbreviates w o → NoDash s → Spells said [w ++ "=" ++ s]
  /-- An option that takes no value stands alone. -/
  | flag {said : Said} {o : Switch} {w : String} : said.option? = some (o, none) →
      Abbreviates w o → Spells said [w]

/-- The words of a command line that says things in order. -/
inductive Spelled : List Said → List String → Prop
  /-- Nothing is said without words. -/
  | nil : Spelled [] []
  /-- The words that say the first thing come first. -/
  | cons {one : Said} {words : List String} {said : List Said} {argv : List String} :
      Spells one words → Spelled said argv → Spelled (one :: said) (words ++ argv)

/-! ## Names -/

/-- All options. -/
def Switch.all : List Switch :=
  [.help, .output, .config, .skipWhitespace true, .skipWhitespace false, .strict true,
    .strict false]

/-- Every option is in the list of options. -/
theorem Switch.mem_all (s : Switch) : s ∈ all := by
  rcases s with _ | _ | _ | (_ | _) | (_ | _) <;> decide

/-- The long name of an option is one of its spellings. -/
theorem longName_mem (s : Switch) : (s.longName, s) ∈ spellings := by
  have hall : ∀ s ∈ Switch.all, (s.longName, s) ∈ spellings := by decide
  exact hall s s.mem_all

/-- No other spelling is the long name of an option. -/
theorem filter_longName (s : Switch) :
    spellings.filter (fun e => e.1 == s.longName) = [(s.longName, s)] := by
  have hall : ∀ s ∈ Switch.all,
      spellings.filter (fun e => e.1 == s.longName) = [(s.longName, s)] := by decide
  exact hall s s.mem_all

/-- The option with a long name is found by it. -/
theorem lookup_longName (s : Switch) : spellings.lookup s.longName = some s := by
  have hall : ∀ s ∈ Switch.all, spellings.lookup s.longName = some s := by decide
  exact hall s s.mem_all

/-- Long names begin with two dashes. -/
theorem take_longName (s : Switch) : s.longName.toList.take 2 = ['-', '-'] := by
  have hall : ∀ s ∈ Switch.all, s.longName.toList.take 2 = ['-', '-'] := by decide
  exact hall s s.mem_all

/-- No spelling of an option has an equals sign. -/
theorem equals_not_mem_spelling {e : String × Switch} (h : e ∈ spellings) :
    '=' ∉ e.1.toList := by
  have hall : ∀ e ∈ spellings, '=' ∉ e.1.toList := by decide
  exact hall e h

namespace Abbreviates

variable {w : String} {s : Switch}

/-- What tells a name from all others begins with two dashes. -/
theorem exists_dashes (h : Abbreviates w s) : ∃ cs, w.toList = '-' :: '-' :: cs := by
  obtain ⟨hbegins, hunique⟩ := h
  have hshort : ¬ w.toList <+: ['-'] := by
    intro hdash
    have hhelp := hunique ("-h", .help) (by decide) (hdash.trans (by decide))
    have htake := take_longName s
    rw [← hhelp] at htake
    exact absurd htake (by decide)
  obtain ⟨rest, hrest⟩ := hbegins
  have htake := take_longName s
  rw [← hrest] at htake
  cases hw : w.toList with
  | nil => simp [hw] at hshort
  | cons c cs =>
    rw [hw] at htake hshort
    cases cs with
    | nil =>
      obtain ⟨rfl, -⟩ : c = '-' ∧ rest.take 1 = ['-'] := by simpa using htake
      exact absurd (List.prefix_refl _) hshort
    | cons d ds =>
      obtain ⟨rfl, rfl⟩ : c = '-' ∧ d = '-' := by simpa using htake
      exact ⟨ds, rfl⟩

/-- What tells a name from all others is not the two dashes alone. -/
theorem ne_dashes (h : Abbreviates w s) : w ≠ "--" := by
  rintro rfl
  have hhelp := h.2 ("--help", .help) (by decide) (by decide)
  have houtput := h.2 ("--output", .output) (by decide) (by decide)
  exact absurd (hhelp.trans houtput.symm) (by decide)

/-- What tells a name from all others has no equals sign. -/
theorem equals_not_mem (h : Abbreviates w s) : '=' ∉ w.toList :=
  fun hmem => equals_not_mem_spelling (longName_mem s) (h.1.subset hmem)

/-- No other spelling begins with it. -/
theorem filter_eq (h : Abbreviates w s) :
    spellings.filter (fun e => w.toList.isPrefixOf e.1.toList) = [(s.longName, s)] := by
  rw [← filter_longName s]
  apply List.filter_congr
  intro e he
  rw [Bool.eq_iff_iff, List.isPrefixOf_iff_prefix, beq_iff_eq]
  constructor
  · exact h.2 e he
  · intro hname
    rw [hname]
    exact h.1

/-- If it is looked up as a spelling, it is found to be the option or nothing. -/
theorem lookup_cases (h : Abbreviates w s) :
    spellings.lookup w = some s ∨ spellings.lookup w = none := by
  cases hlookup : spellings.lookup w with
  | none => exact .inr rfl
  | some found =>
    obtain ⟨before, after, hsplit, -⟩ := List.lookup_eq_some_iff.1 hlookup
    have hname := h.2 (w, found) (by simp [hsplit]) (List.prefix_refl _)
    rw [show w = s.longName from hname, lookup_longName] at hlookup
    exact .inl hlookup.symm

end Abbreviates

/-! ## What words are -/

/-- A text is split at the first equals sign. -/
theorem splitAtEquals_append {name : List Char} (h : '=' ∉ name) (value : Option (List Char)) :
    splitAtEquals (name ++ value.elim [] ('=' :: ·)) = (name, value) := by
  have hall : ∀ c ∈ name, (c != '=') = true := by
    intro c hc
    rw [bne_iff_ne]
    rintro rfl
    exact h hc
  rw [splitAtEquals, List.takeWhile_append_of_pos hall, List.dropWhile_append_of_pos hall]
  cases value <;> simp

section Long

variable {x w : String} {s : Switch} {value : Option (List Char)}

/-- What is found for a name in full, or for one behind which an equals sign stands, is the
option. -/
theorem spelled?_cases (h : Abbreviates w s)
    (hx : x.toList = w.toList ++ value.elim [] ('=' :: ·)) :
    spelled? x = some (.option s false (value.map String.ofList)) ∨ spelled? x = none := by
  have hshort : isShort w.toList = false := by
    obtain ⟨cs, hcs⟩ := h.exists_dashes
    rw [hcs]
    rfl
  have hsplit := splitAtEquals_append h.equals_not_mem value
  rw [← hx] at hsplit
  cases value with
  | none =>
    obtain rfl : x = w := String.toList_injective (by simpa using hx)
    rcases h.lookup_cases with hlookup | hlookup
    · left
      simp only [spelled?, hlookup, hshort, Option.map_none]
    · right
      simp only [spelled?, hlookup, hsplit]
  | some text =>
    have hnone : spellings.lookup x = none := by
      apply List.lookup_eq_none_iff.2
      intro e he
      rw [bne_iff_ne]
      rintro rfl
      exact equals_not_mem_spelling he (by simp [hx])
    rcases h.lookup_cases with hlookup | hlookup
    · left
      simp only [spelled?, hnone, hsplit, String.ofList_toList, hlookup, hshort, Option.map_some]
    · right
      simp only [spelled?, hnone, hsplit, String.ofList_toList, hlookup]

/-- A long name that is cut short, and one behind which an equals sign stands with some text, is
classified as the option, the text being attached to it. -/
theorem classify_of_abbreviates (h : Abbreviates w s)
    (hx : x.toList = w.toList ++ value.elim [] ('=' :: ·)) :
    classify x = .ok (.option s false (value.map String.ofList)) := by
  obtain ⟨cs, hcs⟩ := h.exists_dashes
  have hsplit := splitAtEquals_append h.equals_not_mem value
  rw [← hx] at hsplit
  rw [hcs] at hx
  have hoperand : ¬ (x.toList.head? ≠ some '-' ∨ x = "-") := by
    rintro (hhead | rfl)
    · simp [hx] at hhead
    · simp at hx
  have hcandidates : candidates x.toList =
      [(s.longName, .option s false (value.map String.ofList))] := by
    have hshort : isShort x.toList = false := by
      rw [hx]
      rfl
    simp only [candidates, hshort, hsplit, h.filter_eq]
    rfl
  rw [classify, if_neg hoperand]
  -- a name in full is found as a spelling; one that is cut short is not, and has one candidate
  rcases spelled?_cases h (hcs ▸ hx) with hspelled | hspelled
  · rw [hspelled]
  · rw [hspelled, hcandidates]

/-- A long name that is cut short is the option. -/
theorem classify_name (h : Abbreviates w s) : classify w = .ok (.option s false none) := by
  have hx : w.toList = w.toList ++ (none : Option (List Char)).elim [] ('=' :: ·) := by simp
  exact classify_of_abbreviates h hx

/-- A long name with a text behind an equals sign is the option with the text attached. -/
theorem classify_attached (h : Abbreviates w s) (text : String) :
    classify (w ++ "=" ++ text) = .ok (.option s false (some text)) := by
  have hx : (w ++ "=" ++ text).toList = w.toList ++ (some text.toList).elim [] ('=' :: ·) := by
    simp
  rw [classify_of_abbreviates h hx, Option.map_some, String.ofList_toList]

end Long

/-- A text that does not begin with a dash is an operand. -/
theorem classify_of_noDash {s : String} (h : NoDash s) : classify s = .ok (.operand s) :=
  if_pos (.inl h)

/-- A text that does not begin with a dash is not two dashes. -/
theorem NoDash.ne_dashes {s : String} (h : NoDash s) : s ≠ "--" := by
  rintro rfl
  exact absurd rfl h

/-- The words behind one that is not the separator are classified for themselves. -/
theorem classifyAll_cons {w : String} {word : Word} {ws : List String} {words : List Word}
    (hw : w ≠ "--") (hword : classify w = .ok word) (hwords : classifyAll ws = .ok words) :
    classifyAll (w :: ws) = .ok (word :: words) := by
  rw [classifyAll, if_neg hw, hword, hwords]
  rfl

/-- The words, once they are classified, say these things in order. -/
inductive Utters : List Said → List Word → Prop
  /-- Nothing is said without words. -/
  | nil : Utters [] []
  /-- An operand is the input. -/
  | input {s : String} {said : List Said} {words : List Word} :
      Utters said words → Utters (.input s :: said) (.operand s :: words)
  /-- The value of an option is the next operand. -/
  | separate {one : Said} {o : Switch} {short : Bool} {s : String} {said : List Said}
      {words : List Word} : one.option? = some (o, some s) → Utters said words →
      Utters (one :: said) (.option o short none :: .operand s :: words)
  /-- The value of an option is attached to it. -/
  | attached {one : Said} {o : Switch} {short : Bool} {s : String} {said : List Said}
      {words : List Word} : one.option? = some (o, some s) → Utters said words →
      Utters (one :: said) (.option o short (some s) :: words)
  /-- An option takes no value. -/
  | flag {one : Said} {o : Switch} {short : Bool} {said : List Said} {words : List Word} :
      one.option? = some (o, none) → Utters said words →
      Utters (one :: said) (.option o short none :: words)

/-- The words of a command line are classified as what they say. -/
theorem Spelled.exists_utters {said : List Said} {argv : List String} (h : Spelled said argv) :
    ∃ words, classifyAll argv = .ok words ∧ Utters said words := by
  induction h with
  | nil => exact ⟨[], rfl, .nil⟩
  | @cons one ws said argv hone _ ih =>
    obtain ⟨words, hclassify, hutters⟩ := ih
    cases hone with
    | @operand s hs =>
      exact ⟨_, classifyAll_cons hs.ne_dashes (classify_of_noDash hs) hclassify, .input hutters⟩
    | @short s hs =>
      have hname : classify "-o" = .ok (.option .output true none) := by rfl
      have hrest := classifyAll_cons hs.ne_dashes (classify_of_noDash hs) hclassify
      exact ⟨_, classifyAll_cons (by decide) hname hrest, .separate rfl hutters⟩
    | @separate _ o s w hoption hw hs =>
      have hrest := classifyAll_cons hs.ne_dashes (classify_of_noDash hs) hclassify
      have hall := classifyAll_cons hw.ne_dashes (classify_name hw) hrest
      exact ⟨_, hall, .separate hoption hutters⟩
    | @attached _ o s w hoption hw hs =>
      have hne : w ++ "=" ++ s ≠ "--" := by
        intro heq
        have hmem : '=' ∈ (w ++ "=" ++ s).toList := by simp
        rw [heq] at hmem
        exact absurd hmem (by decide)
      exact ⟨_, classifyAll_cons hne (classify_attached hw s) hclassify, .attached hoption hutters⟩
    | @flag _ o w hoption hw =>
      exact ⟨_, classifyAll_cons hw.ne_dashes (classify_name hw) hclassify, .flag hoption hutters⟩

/-! ## What words do -/

/-- What is last said about a thing was said. -/
theorem exists_of_lastSaid {α : Type} {about : Said → Option α} {said : List Said} {a : α}
    (h : lastSaid about said = some a) : ∃ one ∈ said, about one = some a :=
  List.mem_filterMap.1 (List.mem_of_getLast? h)

/-- To change what is said changes what is last said. -/
theorem lastSaid_map {α β : Type} (about : Said → Option α) (f : α → β) (said : List Said) :
    lastSaid (fun one => (about one).map f) said = (lastSaid about said).map f := by
  rw [lastSaid, lastSaid, ← List.getLast?_map, List.map_filterMap]

namespace Progress

/-- Let what is said take effect. -/
def say (p : Progress) : Said → Progress
  | .input s => { p with input := some s }
  | .output s => p.set .output s
  | .config s => p.set .config s
  | .skipWhitespace on => { p with skipWhitespace := some on }
  | .strict on => { p with strict := some on }

/-- An option that says something is set, with the value it takes, and does not name the input. -/
theorem say_of_option? {one : Said} {o : Switch} {value : Option String}
    (h : one.option? = some (o, value)) (p : Progress) :
    p.say one = p.set o (value.getD "") ∧ (p.say one).input = p.input ∧ one.input? = none ∧
      o ≠ .help ∧ o.takesValue = value.isSome := by
  cases one with
  | input s => cases h
  | _ =>
    cases h
    exact ⟨rfl, rfl, rfl, by simp, rfl⟩

/-- Of all that is said about one thing the last counts. -/
theorem foldl_say {α : Type} (field : Progress → α) (about : Said → Option α)
    (h : ∀ p one, field (p.say one) = (about one).getD (field p)) (p : Progress)
    (said : List Said) : field (said.foldl say p) = (lastSaid about said).getD (field p) := by
  induction said generalizing p with
  | nil => rfl
  | cons one said ih =>
    rw [List.foldl_cons, ih, h, lastSaid, lastSaid]
    cases hone : about one with
    | none => simp [hone]
    | some a => simp [hone, List.getLast?_cons]

/-- Of all that is said about one thing the last counts, and without any nothing is set. -/
theorem foldl_say_option {α : Type} (field : Progress → Option α) (about : Said → Option α)
    (h : ∀ p one, field (p.say one) = (about one).or (field p)) (hstart : field start = none)
    (said : List Said) : field (said.foldl say start) = lastSaid about said := by
  have hset : ∀ p one, field (p.say one) = ((about one).map some).getD (field p) := by
    intro p one
    rw [h]
    cases about one <;> rfl
  rw [foldl_say field (fun one => (about one).map some) hset, lastSaid_map, hstart]
  cases lastSaid about said <;> rfl

/-- What is said from the start on, thing by thing. -/
theorem foldl_say_start (said : List Said) :
    said.foldl say start =
      ⟨lastSaid Said.input? said, ((lastSaid Said.output? said).map Choice.ofText).getD .absent,
        ((lastSaid Said.config? said).map Choice.ofText).getD .absent,
        lastSaid Said.skipWhitespace? said, lastSaid Said.strict? said, []⟩ := by
  have hinput := foldl_say_option input Said.input? (by rintro p (_ | _) <;> rfl) rfl said
  have hskip := foldl_say_option skipWhitespace Said.skipWhitespace?
    (by rintro p (_ | _) <;> rfl) rfl said
  have hstrict := foldl_say_option strict Said.strict? (by rintro p (_ | _) <;> rfl) rfl said
  have houtput := foldl_say output (fun one => one.output?.map Choice.ofText)
    (by rintro p (_ | _) <;> rfl) start said
  have hconfig := foldl_say config (fun one => one.config?.map Choice.ofText)
    (by rintro p (_ | _) <;> rfl) start said
  have hextras := foldl_say extras (fun _ => none) (by rintro p (_ | _) <;> rfl) start said
  rw [lastSaid_map] at houtput hconfig
  rw [lastSaid, List.filterMap_none] at hextras
  calc said.foldl say start
    _ = ⟨(said.foldl say start).input, (said.foldl say start).output,
          (said.foldl say start).config, (said.foldl say start).skipWhitespace,
          (said.foldl say start).strict, (said.foldl say start).extras⟩ := rfl
    _ = _ := by
      rw [hinput, houtput, hconfig, hskip, hstrict, hextras]
      rfl

end Progress

/-- Words that say things do not begin with the separator. -/
theorem Utters.head?_ne_separator {said : List Said} {words : List Word} (h : Utters said words) :
    words.head? ≠ some .separator := by
  cases h <;> simp

/-- What words say takes effect in order, if the input is named once at most. -/
theorem Utters.consume_eq {said : List Said} {words : List Word} (h : Utters said words)
    {p : Progress} (hinput : (p.input.toList ++ said.filterMap Said.input?).length ≤ 1) :
    consume p words = .ok (said.foldl Progress.say p) := by
  induction h generalizing p with
  | nil => rfl
  | @input s said words hrest ih =>
    have hnone : p.input = none := by
      cases hp : p.input with
      | none => rfl
      | some t => simp [hp, Said.input?] at hinput
    have hsaid : (p.say (.input s)).input = some s := rfl
    have hrestInput : said.filterMap Said.input? = [] := by
      simpa [hnone, Said.input?] using hinput
    have ih := ih (p := p.say (.input s)) (by simp [hsaid, hrestInput])
    -- behind the separator no word would be an option any more
    have hhead := hrest.head?_ne_separator
    rw [List.foldl_cons, ← ih, consume.eq_def]
    cases words with
    | nil => simp [hnone, Progress.say]
    | cons word words =>
      cases word with
      | separator => simp at hhead
      | _ => simp [hnone, Progress.say]
  | @separate one o short s said words hoption _ ih =>
    obtain ⟨hsay, hkept, hother, hhelp, htakes⟩ := p.say_of_option? hoption
    rw [List.filterMap_cons_none hother, ← hkept] at hinput
    have hvalue : o.takesValue = true := htakes
    rw [List.foldl_cons, ← ih hinput, consume, if_neg hhelp, if_pos hvalue, hsay]
    rfl
  | @attached one o short s said words hoption _ ih =>
    obtain ⟨hsay, hkept, hother, hhelp, htakes⟩ := p.say_of_option? hoption
    rw [List.filterMap_cons_none hother, ← hkept] at hinput
    have hvalue : o.takesValue = true := htakes
    rw [List.foldl_cons, ← ih hinput, consume, if_pos hvalue, hsay]
    rfl
  | @flag one o short said words hoption _ ih =>
    obtain ⟨hsay, hkept, hother, hhelp, htakes⟩ := p.say_of_option? hoption
    rw [List.filterMap_cons_none hother, ← hkept] at hinput
    have hnone : ¬ o.takesValue = true := by simp [htakes]
    rw [List.foldl_cons, ← ih hinput, consume.eq_def]
    simp only [if_neg hhelp, if_neg hnone, hsay, Option.getD_none]

/-- What a command line that is not refused chooses for an option with a value. -/
def Choice.ofValue? : Option String → Choice
  | none => .absent
  | some s => .value s

/-- The values of options do not begin with a dash. -/
theorem Spelled.noDash {said : List Said} {argv : List String} (h : Spelled said argv) :
    ∀ one ∈ said, ∀ o s, one.option? = some (o, some s) → NoDash s := by
  induction h with
  | nil => simp
  | @cons one ws said argv hone _ ih =>
    rw [List.forall_mem_cons]
    refine ⟨?_, ih⟩
    intro o s hoption
    cases hone with
    | operand hs => cases hoption
    | short hs =>
      cases hoption
      exact hs
    | separate hsame _ hs =>
      cases hsame.symm.trans hoption
      exact hs
    | attached hsame _ hs =>
      cases hsame.symm.trans hoption
      exact hs
    | flag hsame _ => cases hsame.symm.trans hoption

/-- A value that does not begin with a dash is the one that is chosen. -/
theorem Choice.getD_map_ofText {value : Option String} (h : ∀ s, value = some s → NoDash s) :
    (value.map ofText).getD .absent = ofValue? value := by
  cases value with
  | none => rfl
  | some s => exact if_neg (h s rfl).ne_dashes

/-- What is asked for by naming an input and by the last of what is said about each other
thing. -/
def Arguments.ofSaid (input : String) (said : List Said) : Arguments where
  input := input
  output := .ofValue? (lastSaid Said.output? said)
  config := .ofValue? (lastSaid Said.config? said)
  skipWhitespace := lastSaid Said.skipWhitespace? said
  strict := lastSaid Said.strict? said

/-- **Order and spelling do not matter.** A command line that names one input, before, behind or
between options, is never refused. It asks for the input and for the last of what it says about
each thing, whatever the spellings. -/
theorem parse_of_spelled {said : List Said} {argv : List String} {input : String}
    (h : Spelled said argv) (hinput : said.filterMap Said.input? = [input]) :
    parse argv = .ok (.ofSaid input said) := by
  obtain ⟨words, hclassify, hutters⟩ := h.exists_utters
  have hconsume := hutters.consume_eq (p := .start) (by simp [hinput, Progress.start])
  have hlast : lastSaid Said.input? said = some input := by
    rw [lastSaid, hinput]
    rfl
  have houtput : ∀ s, lastSaid Said.output? said = some s → NoDash s := by
    intro s hs
    obtain ⟨one, hmem, hone⟩ := exists_of_lastSaid hs
    exact h.noDash one hmem .output s (by cases one <;> simp_all [Said.output?, Said.option?])
  have hconfig : ∀ s, lastSaid Said.config? said = some s → NoDash s := by
    intro s hs
    obtain ⟨one, hmem, hone⟩ := exists_of_lastSaid hs
    exact h.noDash one hmem .config s (by cases one <;> simp_all [Said.config?, Said.option?])
  rw [Progress.foldl_say_start, hlast, Choice.getD_map_ofText houtput,
    Choice.getD_map_ofText hconfig] at hconsume
  simp only [parse, hclassify, hconsume, Except.mapError, bind, Except.bind, if_true]
  rfl

end FrontEnd.Command
