import FrontEnd.Proofs.NormalForm
import FrontEnd.Proofs.OutlineText
import FrontEnd.Unicode.DecimalDigit
import FrontEnd.Unicode.Letter

/-!
# What labels tell

Where names are words and no two of a list are equal, a label tells what it stands for: which
number, which of the names or which index beyond them, and the name, the parameters and the tags
of a function. All labels are legible.
-/

namespace FrontEnd

/-- Whether a character is a letter or a digit of any script, or an underscore. -/
def isWordCharacter (c : Char) : Bool :=
  Unicode.isLetter c || Unicode.isDecimalDigit c || c == '_'

/-- A word is a non-empty text of letters, digits and underscores. -/
structure IsWord (w : String) : Prop where
  /-- It has a character. -/
  nonempty : w ≠ ""
  /-- All its characters are letters, digits and underscores. -/
  characters : ∀ c ∈ w.toList, isWordCharacter c

/-- Names that can be told from each other and from what stands around them. -/
structure Distinctive (names : List String) : Prop where
  /-- They are words. -/
  words : ∀ w ∈ names, IsWord w
  /-- No two of them are equal. -/
  distinct : names.Nodup

instance (w : String) : Decidable (IsWord w) :=
  decidable_of_iff (w ≠ "" ∧ w.toList.all isWordCharacter)
    ⟨fun h => ⟨h.1, List.all_eq_true.mp h.2⟩, fun h => ⟨h.1, List.all_eq_true.mpr h.2⟩⟩

instance (names : List String) : Decidable (Distinctive names) :=
  decidable_of_iff ((∀ w ∈ names, IsWord w) ∧ names.Nodup)
    ⟨fun h => ⟨h.1, h.2⟩, fun h => ⟨h.1, h.2⟩⟩

/-! ## Words -/

/-- A word begins with one of its characters. -/
theorem IsWord.exists_eq_cons {w : String} (h : IsWord w) :
    ∃ c cs, w.toList = c :: cs ∧ isWordCharacter c := by
  cases hchars : w.toList with
  | nil => exact absurd (String.toList_eq_nil_iff.mp hchars) h.nonempty
  | cons c cs => exact ⟨c, cs, rfl, h.characters c (by simp [hchars])⟩

/-- Only letters, digits and underscores occur in a word. -/
theorem IsWord.not_mem {w : String} (h : IsWord w) {c : Char} (hc : isWordCharacter c = false) :
    c ∉ w.toList := by
  intro hmem
  simp [h.characters c hmem] at hc

/-- A word and what follows it are given by their text, if what follows does not begin like a
word. -/
theorem IsWord.append_inj {v w : String} (hv : IsWord v) (hw : IsWord w) {rest rest' : List Char}
    (hrest : ∀ c ∈ rest.head?, ¬isWordCharacter c) (hrest' : ∀ c ∈ rest'.head?, ¬isWordCharacter c)
    (h : v.toList ++ rest = w.toList ++ rest') : v = w ∧ rest = rest' := by
  obtain ⟨hchars, hrests⟩ := run_append_inj (p := (isWordCharacter · = true))
    hv.characters hw.characters hrest hrest' h
  exact ⟨String.toList_inj.mp hchars, hrests⟩

/-! ## Lists of words -/

/-- The characters of names that follow another one in a list. -/
def listedAfter (names : List String) : List Char :=
  names.flatMap fun name => ',' :: ' ' :: name.toList

/-- The characters of a list that is not empty. -/
theorem toList_intercalate_cons (name : String) (names : List String) :
    (", ".intercalate (name :: names)).toList = name.toList ++ listedAfter names := by
  induction names generalizing name with
  | nil => simp [listedAfter]
  | cons next names ih =>
    rw [String.intercalate_cons_cons]
    simp [ih, listedAfter]

/-- The text ends a list: it neither goes on with it nor with its last word. -/
def EndsList (rest : List Char) : Prop :=
  ∀ c ∈ rest.head?, c ≠ ',' ∧ ¬isWordCharacter c

/-- A character that is neither a comma nor one of a word ends a list. -/
theorem endsList_cons {c : Char} (hcomma : c ≠ ',') (hc : isWordCharacter c = false)
    (cs : List Char) : EndsList (c :: cs) := by
  simp [EndsList, hcomma, hc]

/-- A further name does not end a list. -/
theorem not_endsList_listedAfter (name : String) (names : List String) (rest : List Char) :
    ¬EndsList (listedAfter (name :: names) ++ rest) :=
  fun h => (h ',' rfl).1 rfl

/-- A word does not end a list. -/
theorem IsWord.not_endsList {w : String} (h : IsWord w) (rest : List Char) :
    ¬EndsList (w.toList ++ rest) := by
  obtain ⟨c, cs, hchars, hc⟩ := h.exists_eq_cons
  intro hends
  exact (hends c (by simp [hchars])).2 hc

/-- What follows a name in a list does not begin like a word, nor does what ends the list. -/
theorem EndsList.not_word_head? {rest : List Char} (h : EndsList rest) (names : List String) :
    ∀ c ∈ (listedAfter names ++ rest).head?, ¬isWordCharacter c := by
  cases names with
  | nil => exact fun c hc => (h c hc).2
  | cons name names =>
    intro c hc
    obtain rfl : ',' = c := by simpa [listedAfter] using hc
    decide

/-- Words that follow another one in a list are given by the text, up to what ends the list. -/
theorem listedAfter_append_inj {vs ws : List String} (hvs : ∀ v ∈ vs, IsWord v)
    (hws : ∀ w ∈ ws, IsWord w) {rest rest' : List Char} (hrest : EndsList rest)
    (hrest' : EndsList rest') (h : listedAfter vs ++ rest = listedAfter ws ++ rest') :
    vs = ws ∧ rest = rest' := by
  induction vs generalizing ws with
  | nil =>
    cases ws with
    | nil => exact ⟨rfl, h⟩
    | cons w ws =>
      rw [show rest = listedAfter (w :: ws) ++ rest' from h] at hrest
      exact absurd hrest (not_endsList_listedAfter w ws rest')
  | cons v vs ih =>
    cases ws with
    | nil =>
      rw [show rest' = listedAfter (v :: vs) ++ rest from h.symm] at hrest'
      exact absurd hrest' (not_endsList_listedAfter v vs rest)
    | cons w ws =>
      rw [List.forall_mem_cons] at hvs hws
      have htails : v.toList ++ (listedAfter vs ++ rest) =
          w.toList ++ (listedAfter ws ++ rest') := by simpa [listedAfter] using h
      obtain ⟨rfl, hafter⟩ := hvs.1.append_inj hws.1 (hrest.not_word_head? vs)
        (hrest'.not_word_head? ws) htails
      obtain ⟨rfl, rfl⟩ := ih hvs.2 hws.2 hafter
      exact ⟨rfl, rfl⟩

/-- Words in a list are given by the text, up to what ends the list. -/
theorem intercalate_append_inj {vs ws : List String} (hvs : ∀ v ∈ vs, IsWord v)
    (hws : ∀ w ∈ ws, IsWord w) {rest rest' : List Char} (hrest : EndsList rest)
    (hrest' : EndsList rest')
    (h : (", ".intercalate vs).toList ++ rest = (", ".intercalate ws).toList ++ rest') :
    vs = ws ∧ rest = rest' := by
  cases vs with
  | nil =>
    cases ws with
    | nil => exact ⟨rfl, by simpa using h⟩
    | cons w ws =>
      rw [toList_intercalate_cons, List.append_assoc] at h
      rw [show rest = _ from h] at hrest
      exact absurd hrest ((hws w (by simp)).not_endsList _)
  | cons v vs =>
    cases ws with
    | nil =>
      rw [toList_intercalate_cons, List.append_assoc] at h
      rw [show rest' = _ from h.symm] at hrest'
      exact absurd hrest' ((hvs v (by simp)).not_endsList _)
    | cons w ws =>
      rw [List.forall_mem_cons] at hvs hws
      rw [toList_intercalate_cons, toList_intercalate_cons, List.append_assoc,
        List.append_assoc] at h
      obtain ⟨rfl, hafter⟩ := hvs.1.append_inj hws.1 (hrest.not_word_head? vs)
        (hrest'.not_word_head? ws) h
      obtain ⟨rfl, rfl⟩ := listedAfter_append_inj hvs.2 hws.2 hrest hrest' hafter
      exact ⟨rfl, rfl⟩

/-! ## Numbers -/

/-- A number without a sign is made of digits. -/
theorem isDigit_of_mem_repr {n : Nat} {c : Char} (h : c ∈ n.repr.toList) : c.isDigit := by
  rw [Nat.repr_eq_ofList_toDigits, String.toList_ofList] at h
  exact Nat.isDigit_of_mem_toDigits (by decide) (by decide) h

/-- A number is made of digits, after a sign if it has one. -/
theorem sign_or_digit_of_mem_repr {value : Int} {c : Char} (h : c ∈ value.repr.toList) :
    c = '-' ∨ c.isDigit := by
  rw [Int.repr_eq_if] at h
  split at h
  · exact .inr (isDigit_of_mem_repr h)
  · rw [String.toList_append, List.mem_append] at h
    rcases h with hsign | hafter
    · exact .inl (by simpa using hsign)
    · exact .inr (isDigit_of_mem_repr hafter)

/-- A number is told by its digits and its sign. -/
theorem eq_of_repr_eq {m n : Int} (h : m.repr = n.repr) : m = n := by
  have hdigits {a b : Nat} (hab : a.repr = b.repr) : a = b := by
    rw [Nat.repr_eq_ofList_toDigits, Nat.repr_eq_ofList_toDigits, String.ofList_inj] at hab
    rw [← Nat.ofDigitChars_ten_toDigits (n := a), hab, Nat.ofDigitChars_ten_toDigits]
  have hsign (a b : Nat) : a.repr ≠ "-" ++ b.repr := by
    intro hab
    have hminus : '-' ∈ a.repr.toList := by simp [hab]
    exact absurd (isDigit_of_mem_repr hminus) (by decide)
  rw [Int.repr_eq_if, Int.repr_eq_if] at h
  split at h <;> split at h
  · have := hdigits h
    omega
  · exact absurd h (hsign _ _)
  · exact absurd h.symm (hsign _ _)
  · have := hdigits ((String.append_right_inj _).mp h)
    omega

/-! ## References -/

/-- A reference is shown by the name at its index, or by the index itself. -/
theorem nameAt_cases (names : List String) (index : Int) :
    (∃ k : Nat, index = k ∧ names[k]? = some (nameAt names index).text) ∨
      (nameAt names index).text = "#" ++ index.repr := by
  by_cases hneg : index < 0
  · exact .inr (by simp [nameAt, hneg, Label.text])
  · cases hname : names[index.toNat]? with
    | none => exact .inr (by simp [nameAt, hneg, hname, Label.text])
    | some name => exact .inl ⟨index.toNat, by omega, by simp [nameAt, hneg, hname]⟩

/-- No word is the number of an index. -/
theorem IsWord.ne_number {w : String} (h : IsWord w) (index : Int) : w ≠ "#" ++ index.repr := by
  rintro rfl
  exact h.not_mem (show isWordCharacter '#' = false by decide) (by simp)

/-- Among distinctive names, what is shown for a reference tells its index. -/
theorem Distinctive.nameAt_inj {names : List String} (h : Distinctive names) {i j : Int}
    (heq : (nameAt names i).text = (nameAt names j).text) : i = j := by
  rcases nameAt_cases names i with ⟨k, rfl, hk⟩ | hi <;>
    rcases nameAt_cases names j with ⟨m, rfl, hm⟩ | hj
  · have hlt : k < names.length := (List.getElem?_eq_some_iff.mp hk).1
    rw [heq, ← hm] at hk
    exact congrArg _ ((List.getElem?_inj hlt h.distinct).mp hk)
  · exact absurd (heq.trans hj) ((h.words _ (List.mem_of_getElem? hk)).ne_number j)
  · exact absurd (heq.symm.trans hi) ((h.words _ (List.mem_of_getElem? hm)).ne_number i)
  · rw [hi, hj, String.append_right_inj] at heq
    exact eq_of_repr_eq heq

/-! ## Legible labels -/

/-- A number has no line feed. -/
theorem lineFeed_not_mem_repr (value : Int) : '\n' ∉ value.repr.toList := by
  intro h
  rcases sign_or_digit_of_mem_repr h with hc | hc <;> revert hc <;> decide

/-- A word has no line feed. -/
theorem IsWord.lineFeed_not_mem {w : String} (h : IsWord w) : '\n' ∉ w.toList :=
  h.not_mem (by decide)

/-- What is shown for a reference has no line feed. -/
theorem Distinctive.lineFeed_not_mem_nameAt {names : List String} (h : Distinctive names)
    (index : Int) : '\n' ∉ (nameAt names index).text.toList := by
  rcases nameAt_cases names index with ⟨k, rfl, hk⟩ | hnumber
  · exact (h.words _ (List.mem_of_getElem? hk)).lineFeed_not_mem
  · simpa [hnumber] using lineFeed_not_mem_repr index

/-- A list of words has no line feed. -/
theorem lineFeed_not_mem_intercalate {names : List String} (h : ∀ w ∈ names, IsWord w) :
    '\n' ∉ (", ".intercalate names).toList := by
  cases names with
  | nil => simp
  | cons name names =>
    rw [toList_intercalate_cons]
    intro hmem
    rcases List.mem_append.mp hmem with hname | hafter
    · exact (h name (by simp)).lineFeed_not_mem hname
    · obtain ⟨w, hw, hc⟩ := List.mem_flatMap.mp hafter
      exact (h w (by simp [hw])).lineFeed_not_mem (by simpa using hc)

/-- What follows a legible beginning need only be free of line feeds. -/
theorem Legible.append {start rest : String} (h : Legible start) (hne : start ≠ "")
    (hrest : '\n' ∉ rest.toList) : Legible (start ++ rest) where
  not_space := by
    cases hchars : start.toList with
    | nil => exact absurd (String.toList_eq_nil_iff.mp hchars) hne
    | cons b bs => simpa [hchars] using h.not_space
  not_lineFeed := by simpa using ⟨h.not_lineFeed, hrest⟩

/-- A label without a number is legible if its text is. -/
theorem Label.legible_plain {text : String} (h : Legible text) : Legible (plain text).text := by
  rwa [text_plain]

/-! ## Terms -/

/-- The names that a scope gives tell what they name. -/
structure Scope.Distinctive (scope : Scope) : Prop where
  /-- So do those of the parameters. -/
  parameters : FrontEnd.Distinctive scope.parameters
  /-- So do those of the functions. -/
  functions : FrontEnd.Distinctive scope.functions

/-- How the line of a term begins. -/
def TermKind.opening : TermKind → String
  | constant => "Constant("
  | parameter => "Variable("
  | call => "Call("

/-- What the line of a term says about it. -/
def Term.content (scope : Scope) : Term → String
  | .constant value => value.repr
  | .parameter index => (nameAt scope.parameters index).text
  | .call target _ => (nameAt scope.functions target).text

/-- The line of a term is what it says between brackets. -/
theorem Term.text_label (scope : Scope) (t : Term) :
    (t.label scope).text = t.kind.opening ++ t.content scope ++ ")" := by
  cases t with
  | constant value => rfl
  | parameter index => exact Label.text_within _ _ _
  | call target arguments => exact Label.text_within _ _ _

/-- The line of a term says nothing about its arguments. -/
@[simp] theorem Term.label_normal (scope : Scope) (t : Term) :
    t.normal.label scope = t.label scope := by
  cases t <;> rfl

/-- How the line of a term begins tells its kind. -/
theorem TermKind.opening_append_inj {k k' : TermKind} {rest rest' : String}
    (h : k.opening ++ rest = k'.opening ++ rest') : k = k' ∧ rest = rest' := by
  have hchars := congrArg String.toList h
  cases k <;> cases k' <;> simp [opening] at hchars <;>
    exact ⟨rfl, String.toList_inj.mp hchars⟩

/-- What the line of a term says has no line feed. -/
theorem Term.lineFeed_not_mem_content {scope : Scope} (h : scope.Distinctive) (t : Term) :
    '\n' ∉ (t.content scope).toList := by
  cases t with
  | constant value => exact lineFeed_not_mem_repr value
  | parameter index => exact h.parameters.lineFeed_not_mem_nameAt index
  | call target arguments => exact h.functions.lineFeed_not_mem_nameAt target

/-- The line of a term is legible. -/
theorem Term.legible_label {scope : Scope} (h : scope.Distinctive) (t : Term) :
    Legible (t.label scope).text := by
  have hopening : Legible t.kind.opening ∧ t.kind.opening ≠ "" := by
    cases t.kind <;> decide
  rw [text_label, String.append_assoc]
  exact hopening.1.append hopening.2 (by simpa using t.lineFeed_not_mem_content h)

/-- The normal form of a term is given by its line and its arguments. -/
theorem Term.normal_eq {scope : Scope} (h : scope.Distinctive) {t u : Term}
    (hlabel : (t.label scope).text = (u.label scope).text)
    (harguments : t.arguments.map Expression.normal = u.arguments.map Expression.normal) :
    t.normal = u.normal := by
  rw [text_label, text_label, String.append_assoc, String.append_assoc] at hlabel
  obtain ⟨hkind, hafter⟩ := TermKind.opening_append_inj hlabel
  have hcontent : t.content scope = u.content scope := (String.append_left_inj _).mp hafter
  cases t with
  | constant value =>
    cases u with
    | constant value' => rw [eq_of_repr_eq hcontent]
    | parameter => cases hkind
    | call => cases hkind
  | parameter index =>
    cases u with
    | constant => cases hkind
    | parameter index' => rw [h.parameters.nameAt_inj hcontent]
    | call => cases hkind
  | call target arguments =>
    cases u with
    | constant => cases hkind
    | parameter => cases hkind
    | call target' arguments' =>
      rw [normal, normal, h.functions.nameAt_inj hcontent, Expression.normalAll_eq_map,
        Expression.normalAll_eq_map]
      exact congrArg _ harguments

/-! ## Operators and functions -/

/-- The line that opens an expression is legible. -/
theorem BinaryOp.legible_heading (op : BinaryOp) : Legible op.heading := by
  cases op <;> decide

/-- The line that opens an expression tells its operator. -/
theorem BinaryOp.heading_inj {p q : BinaryOp} (h : p.heading = q.heading) : p = q := by
  cases p <;> cases q <;> first | rfl | exact absurd h (by decide)

/-- The names of a function, its parameters and its tags are words, and no two parameters have
the same name. -/
structure FunctionDefinition.WellNamed (f : FunctionDefinition) : Prop where
  /-- Its own name is a word. -/
  name : IsWord f.name
  /-- The names of its parameters tell them apart. -/
  parameters : Distinctive f.parameters
  /-- Its tags are words. -/
  attributes : ∀ a ∈ f.attributes, IsWord a

/-- What the line that opens a function says about its tags. -/
def tagList (attributes : List String) : String :=
  if attributes.isEmpty then "" else " [" ++ ", ".intercalate attributes ++ "]"

/-- The line that opens a function, in characters. -/
theorem FunctionDefinition.toList_heading (f : FunctionDefinition) :
    f.heading.toList = "Function ".toList ++ (f.name.toList ++
      '(' :: ((", ".intercalate f.parameters).toList ++
        ')' :: (tagList f.attributes).toList)) := by
  simp [heading, tagList, List.append_assoc]

/-- Tags are given by what is said about them. -/
theorem tagList_inj {vs ws : List String} (hvs : ∀ v ∈ vs, IsWord v) (hws : ∀ w ∈ ws, IsWord w)
    (h : tagList vs = tagList ws) : vs = ws := by
  have hchars := congrArg String.toList h
  cases vs with
  | nil =>
    cases ws with
    | nil => rfl
    | cons w ws => simp [tagList] at hchars
  | cons v vs =>
    cases ws with
    | nil => simp [tagList] at hchars
    | cons w ws =>
      have hlists : (", ".intercalate (v :: vs)).toList ++ [']'] =
          (", ".intercalate (w :: ws)).toList ++ [']'] := by simpa [tagList] using hchars
      have hend : EndsList [']'] := endsList_cons (by decide) (by decide) []
      exact (intercalate_append_inj hvs hws hend hend hlists).1

/-- The line that opens a function tells its name, its parameters and its tags. -/
theorem FunctionDefinition.heading_inj {f g : FunctionDefinition} (hf : f.WellNamed)
    (hg : g.WellNamed) (h : f.heading = g.heading) :
    f.name = g.name ∧ f.parameters = g.parameters ∧ f.attributes = g.attributes := by
  have hchars := congrArg String.toList h
  rw [toList_heading, toList_heading] at hchars
  obtain ⟨hname, hparameters⟩ := hf.name.append_inj hg.name (by simp; decide) (by simp; decide)
    (List.append_cancel_left hchars)
  obtain ⟨hparameters, htags⟩ := intercalate_append_inj hf.parameters.words hg.parameters.words
    (endsList_cons (by decide) (by decide) _) (endsList_cons (by decide) (by decide) _)
    (List.cons.inj hparameters).2
  exact ⟨hname, hparameters, tagList_inj hf.attributes hg.attributes
    (String.toList_inj.mp (List.cons.inj htags).2)⟩

/-- What is said about tags has no line feed. -/
theorem lineFeed_not_mem_tagList {attributes : List String} (h : ∀ a ∈ attributes, IsWord a) :
    '\n' ∉ (tagList attributes).toList := by
  rw [tagList]
  split
  · decide
  · simpa only [String.toList_append, List.mem_append, not_or] using
      ⟨⟨by decide, lineFeed_not_mem_intercalate h⟩, by decide⟩

/-- The line that opens a function is legible. -/
theorem FunctionDefinition.legible_heading {f : FunctionDefinition} (h : f.WellNamed) :
    Legible f.heading where
  not_space := by simp [toList_heading]
  not_lineFeed := by
    rw [toList_heading]
    simp only [List.mem_append, List.mem_cons, not_or]
    exact ⟨by decide, h.name.lineFeed_not_mem, by decide,
      lineFeed_not_mem_intercalate h.parameters.words, by decide,
      lineFeed_not_mem_tagList h.attributes⟩

end FrontEnd
