import FrontEnd.Command.Options
import FrontEnd.Proofs.CommandLine
import FrontEnd.Proofs.FileSystem
import FrontEnd.Proofs.Lines

/-!
# Precedence of options

What the command line says comes before what the configuration says, and that before the defaults.
The configuration is that of one file: the one that is named last, or else the one beside the
input; a file that is not there configures nothing, and no other one is looked for. To look for a
file fails if its path is too long, and then there are no options.
-/

namespace FrontEnd

/-- The path and every name in it are short enough to be looked up. -/
def Path.Fits (p : Path) : Prop :=
  p.display.utf8ByteSize ≤ FileSystem.maxPathBytes ∧
    ∀ part ∈ p.parts, part.utf8ByteSize ≤ FileSystem.maxNameBytes

/-- A text without slashes that is not empty and not a dot is the name of a file. -/
theorem Path.ofString_of_name {s : String} (hslash : '/' ∉ s.toList) (hempty : s ≠ "")
    (hdot : s ≠ ".") : Path.ofString s = ⟨"", [s]⟩ := by
  have hroot : rootOf s.toList = "" := by
    unfold rootOf
    split
    all_goals simp_all
  have hname : (s.toList != [] && s.toList != ['.']) = true := by
    rw [Bool.and_eq_true, bne_iff_ne, bne_iff_ne]
    constructor
    · simpa using hempty
    · intro heq
      exact hdot (String.toList_injective (heq.trans (by decide)))
  have hparts : partsOf s.toList = [s] := by
    rw [partsOf, Text.pieces_of_not_mem hslash]
    simp only [List.filter_cons, hname]
    simp
  rw [ofString, hroot, hparts]

namespace FileSystem

variable {fs : FileSystem} {p : Path}

/-- A file cannot be looked for in the working directory by a name that is too long. -/
theorem isFile_of_long_name {s : String} (hslash : '/' ∉ s.toList) (hnull : '\x00' ∉ s.toList)
    (hlong : maxNameBytes < s.utf8ByteSize) :
    fs.isFile (.ofString s) = .error ⟨.nameTooLong, .ofString s⟩ := by
  have hname : Path.ofString s = ⟨"", [s]⟩ := by
    apply Path.ofString_of_name hslash
    · rintro rfl
      exact absurd hlong (by decide)
    · rintro rfl
      exact absurd hlong (by decide)
  have hdisplay : Path.display ⟨"", [s]⟩ = s := by simp [Path.display]
  have hnoNull : ¬ Path.hasNull ⟨"", [s]⟩ = true := by simpa [Path.hasNull, hdisplay] using hnull
  have hresolve : fs.resolve ⟨"", [s]⟩ = .error ⟨.nameTooLong, ⟨"", [s]⟩⟩ := by
    rw [resolve, if_neg hnoNull]
    split
    · rfl
    · have hhere : fs.find? (Place.start ⟨"", [s]⟩) = some .directory := rfl
      simp only [resolveFrom, hhere, if_pos hlong]
      rfl
  rw [hname, isFile, hresolve]
  rfl

/-- A way of short names does not end at a name that is too long. -/
theorem resolveFrom_ne_nameTooLong {here : Place} {parts : List String}
    (h : ∀ part ∈ parts, part.utf8ByteSize ≤ maxNameBytes) :
    fs.resolveFrom here parts ≠ .error .nameTooLong := by
  induction parts generalizing here with
  | nil => simp [resolveFrom]
  | cons part parts ih =>
    rw [List.forall_mem_cons] at h
    rw [resolveFrom]
    split
    · rw [if_neg (Nat.not_lt.2 h.1)]
      exact ih h.2
    · simp
    · simp

/-- Whether a file stands at a path that is short enough can always be told. -/
theorem isFile_ne_error (h : p.Fits) (f : FileFault) : fs.isFile p ≠ .error f := by
  have hresolve : ∀ q, fs.resolve p ≠ .error ⟨.nameTooLong, q⟩ := by
    intro q
    rw [resolve]
    split
    · simp
    · rw [if_neg (Nat.not_lt.2 h.1)]
      have hnames : fs.resolveFrom (Place.start p) p.parts ≠ .error .nameTooLong :=
        resolveFrom_ne_nameTooLong h.2
      cases hfrom : fs.resolveFrom (Place.start p) p.parts with
      | ok place => simp [Except.mapError]
      | error c =>
        intro heq
        simp only [Except.mapError, Except.error.injEq, FileFault.mk.injEq] at heq
        exact hnames (by rw [hfrom, heq.1])
  rw [isFile]
  split
  · simp
  · next q hq =>
    cases hresult : fs.resolve p with
    | ok place => simp [hresult, Except.map] at hq
    | error g =>
      rw [hresult] at hq
      cases hq
      exact absurd hresult (hresolve q)
  · simp

/-- There is a file at a path that can be read. -/
theorem isFile_of_read {bytes : List UInt8} (h : fs.read p = .ok bytes) :
    fs.isFile p = .ok true := by
  cases hresolve : fs.resolve p with
  | error f => simp [read, hresolve, bind, Except.bind] at h
  | ok place =>
    simp only [read, hresolve, bind, Except.bind] at h
    rw [isFile, hresolve]
    cases hfind : fs.find? place with
    | none => simp [hfind] at h
    | some e =>
      cases e with
      | file old => simp [Except.map, hfind]
      | directory => simp [hfind] at h

/-- A file that is there can be read. -/
theorem exists_read_of_isFile (h : fs.isFile p = .ok true) : ∃ bytes, fs.read p = .ok bytes := by
  cases hresolve : fs.resolve p with
  | error f =>
    obtain ⟨cause, q⟩ := f
    rw [isFile, hresolve] at h
    cases cause <;> cases h
  | ok place =>
    rw [isFile, hresolve] at h
    simp only [read, hresolve, bind, Except.bind]
    cases hfind : fs.find? place with
    | none => simp [Except.map, hfind] at h
    | some e =>
      cases e with
      | file bytes => exact ⟨bytes, rfl⟩
      | directory => simp [Except.map, hfind] at h

/-- A path that is short enough and at which no file can be read has no file. -/
theorem isFile_of_not_read (h : p.Fits) (hread : ∀ bytes, fs.read p ≠ .ok bytes) :
    fs.isFile p = .ok false := by
  cases hfile : fs.isFile p with
  | error f => exact absurd hfile (isFile_ne_error h f)
  | ok found =>
    cases found with
    | false => rfl
    | true =>
      obtain ⟨bytes, hbytes⟩ := exists_read_of_isFile hfile
      exact absurd hbytes (hread bytes)

end FileSystem

namespace Command

/-- The configuration in the file at a path. -/
inductive Configuration (reader : Toml.Reader) (fs : FileSystem) (p : Path) : Toml.Table → Prop
  /-- The file holds the table. -/
  | file {bytes : List UInt8} {table : Toml.Table} : fs.read p = .ok bytes →
      configOfBytes reader bytes = .ok table → Configuration reader fs p table
  /-- Without a file nothing is configured. -/
  | missing : fs.isFile p = .ok false → Configuration reader fs p []

/-- The table of the scanner, if it is a table, holds this truth value by the name. -/
def Configures (table : Toml.Table) (name : String) (b : Bool) : Prop :=
  ∃ scanner, table.get? "scanner" = some (.table scanner) ∧
    Toml.Table.get? scanner name = some (.bool b)

/-- The file of the configuration: the one that is named, unless the name is empty, or else the one
beside the input. -/
def configPath (named : Option String) (input : String) : Path :=
  match named with
  | none | some "" => (Path.ofString input).parent.child "simpledsl.toml"
  | some name => .ofString name

/-- A name that is not empty is that of the configuration. -/
theorem configPath_of_ne_empty {name : String} (h : name ≠ "") (input : String) :
    configPath (some name) input = .ofString name := by
  unfold configPath
  split
  · next heq => cases heq
  · next heq => exact absurd (Option.some.inj heq) h
  · next heq => rw [Option.some.inj heq]

/-- The options are those of the input, of what is last said, and of the configuration. -/
structure Resolved (said : List Said) (input : String) (table : Toml.Table) (o : Options) :
    Prop where
  /-- The file to be scanned is the input. -/
  input : o.input = .ofString input
  /-- The file to be written is the one that is last named, unless that name is empty. -/
  output : o.output =
    match lastSaid Said.output? said with
    | none | some "" => none
    | some name => some (.ofString name)
  /-- Whitespace is left out if that is last said, or if nothing is said and it is configured. -/
  skipWhitespace : o.skipWhitespace = true ↔
    lastSaid Said.skipWhitespace? said = some true ∨
      lastSaid Said.skipWhitespace? said = none ∧ Configures table "skip_whitespace" true
  /-- Unknown characters are refused if that is last said, or if nothing is said and it is
  configured. -/
  strict : o.strict = true ↔
    lastSaid Said.strict? said = some true ∨
      lastSaid Said.strict? said = none ∧ Configures table "strict" true

/-- A setting is the truth value that is configured. -/
theorem setting?_eq_some_iff {table : Toml.Table} {name : String} {b : Bool} :
    setting? table name = some b ↔ Configures table name b := by
  unfold setting? Configures
  cases table.get? "scanner" with
  | none => simp
  | some v =>
    cases v with
    | table scanner =>
      cases hvalue : Toml.Table.get? scanner name with
      | none => simp [hvalue]
      | some w => cases w <;> simp [hvalue]
    | _ => simp

/-- What is said comes first, then what is configured, and then no. -/
theorem getD_or_setting?_iff {said : Option Bool} {table : Toml.Table} {name : String} :
    (said <|> setting? table name).getD false = true ↔
      said = some true ∨ said = none ∧ Configures table name true := by
  rw [← setting?_eq_some_iff]
  cases said with
  | none =>
    cases setting? table name with
    | none => simp
    | some b => simp
  | some b => simp

/-- The path of a value that is chosen, unless the value is empty. -/
theorem namedPath_ofValue? (value : Option String) :
    namedPath (.ofValue? value) =
      match value with
      | none | some "" => none
      | some name => some (.ofString name) := by
  cases value with
  | none => rfl
  | some s =>
    by_cases hs : s = ""
    · subst hs
      rfl
    · simp [namedPath, Choice.ofValue?, Choice.value?, Option.filter, hs]

/-- The configuration is looked for in the file that is named last, or beside the input. -/
theorem getD_namedPath (named : Option String) (input : String) :
    (namedPath (.ofValue? named)).getD ((Path.ofString input).parent.child configName) =
      configPath named input := by
  rw [namedPath_ofValue?]
  unfold configPath
  split <;> rfl

/-- The options for what is said under a configuration. -/
theorem resolved_ofArguments (said : List Said) (input : String) (table : Toml.Table) :
    Resolved said input table (Options.ofArguments (.ofSaid input said) table) where
  input := rfl
  output := namedPath_ofValue? _
  skipWhitespace := getD_or_setting?_iff
  strict := getD_or_setting?_iff

/-- There are no other options for what is said under a configuration. -/
theorem Resolved.unique {said : List Said} {input : String} {table : Toml.Table} {o o' : Options}
    (h : Resolved said input table o) (h' : Resolved said input table o') : o = o' := by
  have hskip : o.skipWhitespace = o'.skipWhitespace := by
    rw [Bool.eq_iff_iff, h.skipWhitespace, h'.skipWhitespace]
  have hstrict : o.strict = o'.strict := by
    rw [Bool.eq_iff_iff, h.strict, h'.strict]
  have hinput := h.input.trans h'.input.symm
  have houtput := h.output.trans h'.output.symm
  cases o
  cases o'
  simp only at hinput houtput hskip hstrict
  rw [hinput, houtput, hskip, hstrict]

section Files

variable {reader : Toml.Reader} {fs : FileSystem} {p : Path}

/-- The configuration that is read, case by case. -/
theorem readConfig_run (reader : Toml.Reader) (fs : FileSystem) (p : Path) :
    (readConfig reader FileSystem.access p).run fs =
      (match fs.isFile p with
        | .error f => .error (.unreadable f)
        | .ok false => .ok []
        | .ok true =>
          match fs.read p with
          | .ok bytes => configOfBytes reader bytes
          | .error f => .error (.unreadable f), fs) := by
  have hisFile : (FileSystem.access.isFile p).run fs = (fs.isFile p, fs) := rfl
  have hread : (FileSystem.access.read p).run fs = (fs.read p, fs) := rfl
  rw [readConfig, run_bind_of_run hisFile]
  cases fs.isFile p with
  | error f => rfl
  | ok found =>
    cases found with
    | false => rfl
    | true =>
      simp only
      rw [run_bind_of_run hread]
      cases fs.read p <;> rfl

/-- The configuration that is read is that of the file. -/
theorem readConfig_eq_ok_iff {table : Toml.Table} :
    (readConfig reader FileSystem.access p).run fs = (.ok table, fs) ↔
      Configuration reader fs p table := by
  rw [readConfig_run, Prod.mk.injEq, and_iff_left rfl]
  constructor
  · intro h
    cases hfile : fs.isFile p with
    | error f => simp [hfile] at h
    | ok found =>
      cases found with
      | false =>
        simp only [hfile, Except.ok.injEq] at h
        exact h ▸ .missing hfile
      | true =>
        cases hread : fs.read p with
        | error f => simp [hfile, hread] at h
        | ok bytes =>
          simp only [hfile, hread] at h
          exact .file hread h
  · intro h
    cases h with
    | file hread htable => simp only [FileSystem.isFile_of_read hread, hread, htable]
    | missing hfile => simp only [hfile]

/-- There are options if there is a configuration, and they are those under it. -/
theorem resolve_eq_ok_iff {a : Arguments} {o : Options} :
    (resolve reader FileSystem.access a).run fs = (.ok o, fs) ↔
      ∃ table, Configuration reader fs
          ((namedPath a.config).getD ((Path.ofString a.input).parent.child configName)) table ∧
        o = Options.ofArguments a table := by
  obtain ⟨r, hr⟩ : ∃ r, (loadConfig reader FileSystem.access (namedPath a.config)
      (Path.ofString a.input).parent).run fs = (r, fs) := ⟨_, readConfig_run reader fs _⟩
  have hresolve : (resolve reader FileSystem.access a).run fs =
      (r.map (Options.ofArguments a), fs) := by
    rw [resolve, run_bind_of_run hr]
    rfl
  rw [loadConfig] at hr
  simp only [← readConfig_eq_ok_iff, hr, hresolve]
  constructor
  · intro heq
    cases r with
    | error f => cases heq
    | ok table =>
      cases heq
      exact ⟨table, rfl, rfl⟩
  · rintro ⟨table, heq, rfl⟩
    cases heq
    rfl

end Files

/-- **Precedence.** A command line that names one input, with options in any order, number and
spelling, is never refused. There are options if there is a configuration, in the file that is
last named unless that name is empty and else in the one beside the input; then each is the last
of what is said about it, or else what is configured, or else the default. A file that is not
there configures nothing, if its path is short enough to be looked up. -/
theorem options_by_precedence {said : List Said} {argv : List String} {input : String}
    (h : Spelled said argv) (hinput : said.filterMap Said.input? = [input]) :
    parse argv = .ok (.ofSaid input said) ∧
      ∀ (reader : Toml.Reader) (fs : FileSystem),
        (∀ o, (resolve reader FileSystem.access (.ofSaid input said)).run fs = (.ok o, fs) ↔
          ∃ table, Configuration reader fs (configPath (lastSaid Said.config? said) input) table ∧
            Resolved said input table o) ∧
        (∀ table, Configuration reader fs (configPath (lastSaid Said.config? said) input) table →
          ∃ o, (resolve reader FileSystem.access (.ofSaid input said)).run fs = (.ok o, fs)) ∧
        ((configPath (lastSaid Said.config? said) input).Fits →
          (∀ bytes, fs.read (configPath (lastSaid Said.config? said) input) ≠ .ok bytes) →
            Configuration reader fs (configPath (lastSaid Said.config? said) input) []) := by
  refine ⟨parse_of_spelled h hinput, fun reader fs => ?_⟩
  have hoptions : ∀ o,
      (resolve reader FileSystem.access (.ofSaid input said)).run fs = (.ok o, fs) ↔
        ∃ table, Configuration reader fs (configPath (lastSaid Said.config? said) input) table ∧
          o = Options.ofArguments (.ofSaid input said) table := by
    intro o
    rw [resolve_eq_ok_iff, ← getD_namedPath]
    rfl
  refine ⟨fun o => ?_, fun table htable => ?_, fun hfits hmissing => ?_⟩
  · rw [hoptions]
    constructor
    · rintro ⟨table, htable, rfl⟩
      exact ⟨table, htable, resolved_ofArguments said input table⟩
    · rintro ⟨table, htable, hresolved⟩
      exact ⟨table, htable, hresolved.unique (resolved_ofArguments said input table)⟩
  · exact ⟨_, (hoptions _).2 ⟨table, htable, rfl⟩⟩
  · exact .missing (FileSystem.isFile_of_not_read hfits hmissing)

/-- The file that is named last has an empty name, so the one beside the input configures strict
scanning; whitespace is decided by the command line, and nothing is written for an empty name. -/
theorem options_by_precedence_besideInput :
    parse ["-o", "x", "--skip-w", "p/q", "--config", "c", "--conf=", "--out=", "--no-sk"] =
        .ok ⟨"p/q", .value "", .value "", some false, none⟩ ∧
      ∃ fs : FileSystem,
        fs.read (.ofString "p/simpledsl.toml") = .ok "scanner.strict=true".toUTF8.toList ∧
        (resolve ⟨fun _ => 0, fun _ => ""⟩ FileSystem.access
          ⟨"p/q", .value "", .value "", some false, none⟩).run fs =
            (.ok ⟨.ofString "p/q", none, false, true⟩, fs) := by
  have hspelled : Spelled
      [.output "x", .skipWhitespace true, .input "p/q", .config "c", .config "", .output "",
        .skipWhitespace false]
      (["-o", "x"] ++ (["--skip-w"] ++ (["p/q"] ++ (["--config", "c"] ++
        (["--conf" ++ "=" ++ ""] ++ (["--out" ++ "=" ++ ""] ++ (["--no-sk"] ++ []))))))) :=
    .cons (.short (by decide)) <| .cons (.flag rfl (by decide)) <|
      .cons (.operand (by decide)) <| .cons (.separate rfl (by decide) (by decide)) <|
      .cons (.attached rfl (by decide) (by decide)) <|
      .cons (.attached rfl (by decide) (by decide)) <| .cons (.flag rfl (by decide)) .nil
  have hread : FileSystem.read
      ⟨[(⟨.above 0, ["p"]⟩, .directory),
        (⟨.above 0, ["p", "simpledsl.toml"]⟩, .file "scanner.strict=true".toUTF8.toList)]⟩
      (.ofString "p/simpledsl.toml") = .ok "scanner.strict=true".toUTF8.toList := by
    decide +kernel
  have hsetting : (configOfBytes ⟨fun _ => 0, fun _ => ""⟩
      "scanner.strict=true".toUTF8.toList).toOption.bind (setting? · "strict") = some true := by
    decide +kernel
  obtain ⟨hparse, hresolve⟩ := options_by_precedence hspelled rfl
  refine ⟨hparse, _, hread, ((hresolve _ _).1 _).2 ?_⟩
  cases hconfig : configOfBytes ⟨fun _ => 0, fun _ => ""⟩ "scanner.strict=true".toUTF8.toList with
  | error f =>
    rw [hconfig] at hsetting
    cases hsetting
  | ok table =>
    rw [hconfig] at hsetting
    have hstrict := setting?_eq_some_iff.1 hsetting
    refine ⟨table, .file hread hconfig, rfl, rfl, iff_of_false (by decide) ?_,
      iff_of_true rfl (.inr ⟨rfl, hstrict⟩)⟩
    rintro (hlast | ⟨hlast, -⟩)
    all_goals cases hlast

/-- A file is named that is not there, and there are no options, because its name is too long to be
looked up. -/
theorem no_options_of_nameTooLong :
    Spelled [.input "p", .config (String.ofList (List.replicate 256 'c'))]
        ["p", "--config", String.ofList (List.replicate 256 'c')] ∧
      FileSystem.empty.find? ⟨.above 0, [String.ofList (List.replicate 256 'c')]⟩ = none ∧
      parse ["p", "--config", String.ofList (List.replicate 256 'c')] =
        .ok ⟨"p", .absent, .value (String.ofList (List.replicate 256 'c')), none, none⟩ ∧
      ∀ reader o, (resolve reader FileSystem.access
          ⟨"p", .absent, .value (String.ofList (List.replicate 256 'c')), none, none⟩).run
            FileSystem.empty ≠ (.ok o, FileSystem.empty) := by
  have hnot : ∀ c, c ≠ 'c' → c ∉ (String.ofList (List.replicate 256 'c')).toList := by
    intro c hc hmem
    rw [String.toList_ofList] at hmem
    exact hc (List.eq_of_mem_replicate hmem)
  have hlong : FileSystem.maxNameBytes < (String.ofList (List.replicate 256 'c')).utf8ByteSize := by
    decide +kernel
  -- what follows needs no more of the name than this, and must not compute with it
  generalize String.ofList (List.replicate 256 'c') = name at *
  have hdash : NoDash name := fun hhead => hnot '-' (by decide) (List.mem_of_head? hhead)
  have hspelled : Spelled [.input "p", .config name] (["p"] ++ (["--config", name] ++ [])) :=
    .cons (.operand (by decide)) <| .cons (.separate rfl (by decide) hdash) .nil
  have hfile := FileSystem.empty.isFile_of_long_name (hnot '/' (by decide))
    (hnot '\x00' (by decide)) hlong
  have hne : name ≠ "" := by
    rintro rfl
    exact absurd hlong (by decide)
  have hpath := (getD_namedPath (some name) "p").trans (configPath_of_ne_empty hne "p")
  refine ⟨hspelled, rfl, parse_of_spelled hspelled rfl, fun reader o ho => ?_⟩
  obtain ⟨table, hconfiguration, -⟩ := resolve_eq_ok_iff.1 ho
  replace hconfiguration : Configuration reader FileSystem.empty (.ofString name) table :=
    hpath ▸ hconfiguration
  cases hconfiguration with
  | file hread _ => cases hfile.symm.trans (FileSystem.isFile_of_read hread)
  | missing hmissing => cases hfile.symm.trans hmissing

end Command

end FrontEnd
