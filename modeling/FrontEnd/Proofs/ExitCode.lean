import FrontEnd.Proofs.Outcome
import FrontEnd.Proofs.Precedence

/-!
# Exit codes

A run has an exit code, unless it meets one of the faults that the command does not foresee. These
are bytes that are not text, in the configuration or in the input, an integer in the configuration
that is too long, values in it that are nested too deep, and paths that cannot be looked up at all.
How much nesting is too deep, and the reason that is given for refusing a configuration, are the
reader's. A fault that it foresees is met with a message and the exit code 2. The first
fault counts, in the order in which the configuration is read, the input is read, and the output is
written.
-/

namespace FrontEnd.Command

/-- The file of the configuration for arguments. -/
def Arguments.configFile (a : Arguments) : Path :=
  (namedPath a.config).getD ((Path.ofString a.input).parent.child configName)

/-- The options for arguments are found: there is a configuration, and they are those under it. -/
def Finds (reader : Toml.Reader) (fs : FileSystem) (a : Arguments) (o : Options) : Prop :=
  ∃ table, Configuration reader fs a.configFile table ∧ o = Options.ofArguments a table

/-- A fault that the command does not foresee ends its run. -/
inductive BreaksOff (reader : Toml.Reader) (fs : FileSystem) (a : Arguments) : Ending → Prop
  /-- The configuration cannot be looked for. -/
  | configPath {f : FileFault} : fs.isFile a.configFile = .error f →
      BreaksOff reader fs a (.unreadable f)
  /-- The configuration is not text. -/
  | configBytes {bytes : List UInt8} {f : Text.Utf8.Fault} : fs.read a.configFile = .ok bytes →
      Text.Utf8.decode bytes = .error f → BreaksOff reader fs a (.undecodable f)
  /-- An integer in the configuration is too long. -/
  | configInteger {bytes : List UInt8} {text : String} {digits : Nat} :
      fs.read a.configFile = .ok bytes → Text.Utf8.decode bytes = .ok text →
      Toml.parse (reader.room text) text = .error (.longInteger digits) →
      BreaksOff reader fs a (.longInteger digits)
  /-- Values in the configuration are nested too deep. -/
  | configDepth {bytes : List UInt8} {text : String} : fs.read a.configFile = .ok bytes →
      Text.Utf8.decode bytes = .ok text → Toml.parse (reader.room text) text = .error .tooDeep →
      BreaksOff reader fs a .tooDeep
  /-- The path of the input holds the null character. -/
  | inputPath {o : Options} {f : FileFault} : Finds reader fs a o → fs.read o.input = .error f →
      f.cause = .nullCharacter → BreaksOff reader fs a (.unreadable f)
  /-- The input is not text. -/
  | inputBytes {o : Options} {bytes : List UInt8} {f : Text.Utf8.Fault} : Finds reader fs a o →
      fs.read o.input = .ok bytes → Text.Utf8.decode bytes = .error f →
      BreaksOff reader fs a (.undecodable f)
  /-- There is a listing, and the path of the output holds the null character. -/
  | outputPath {o : Options} {bytes : List UInt8} {text : String} {path : Path} {f : FileFault} :
      Finds reader fs a o → fs.read o.input = .ok bytes →
      listingOfBytes o.skipWhitespace o.strict bytes = .ok text → o.output = some path →
      fs.write path (Text.Utf8.encode text) = .error f → f.cause = .nullCharacter →
      BreaksOff reader fs a (.unreadable f)

/-- A fault that the command foresees ends its run with this message. -/
inductive Complains (reader : Toml.Reader) (fs : FileSystem) (a : Arguments) : String → Prop
  /-- The configuration is not formed as a document. -/
  | config {bytes : List UInt8} {text : String} : fs.read a.configFile = .ok bytes →
      Text.Utf8.decode bytes = .ok text → Toml.parse (reader.room text) text = .error .malformed →
      Complains reader fs a ("invalid config: " ++ reader.wording text)
  /-- The input is missing, a directory, or otherwise not to be read. -/
  | input {o : Options} {f : FileFault} : Finds reader fs a o → fs.read o.input = .error f →
      f.cause ≠ .nullCharacter → Complains reader fs a f.message
  /-- There is a listing, and the output cannot be written. -/
  | output {o : Options} {bytes : List UInt8} {text : String} {path : Path} {f : FileFault} :
      Finds reader fs a o → fs.read o.input = .ok bytes →
      listingOfBytes o.skipWhitespace o.strict bytes = .ok text → o.output = some path →
      fs.write path (Text.Utf8.encode text) = .error f → f.cause ≠ .nullCharacter →
      Complains reader fs a f.message

/-! ## Stages -/

/-- The configuration in the bytes of a file is not text exactly if the bytes are not. -/
theorem configOfBytes_of_decode_error {reader : Toml.Reader} {bytes : List UInt8}
    {f : Text.Utf8.Fault} (h : Text.Utf8.decode bytes = .error f) :
    configOfBytes reader bytes = .error (.undecodable f) := by
  rw [configOfBytes, h]

/-- The configuration in the bytes of a file is what their text describes. -/
theorem configOfBytes_of_decode {reader : Toml.Reader} {bytes : List UInt8} {text : String}
    (h : Text.Utf8.decode bytes = .ok text) :
    configOfBytes reader bytes =
      (Toml.parse (reader.room text) text).mapError (.ofToml reader text) := by
  rw [configOfBytes, h]

/-- The listing of bytes that are not text fails so. -/
theorem listingOfBytes_of_decode_error {bytes : List UInt8} {f : Text.Utf8.Fault}
    (h : Text.Utf8.decode bytes = .error f) (skipWhitespace strict : Bool) :
    listingOfBytes skipWhitespace strict bytes = .error (.undecodable f) := by
  rw [listingOfBytes, sourceOfBytes, h]
  rfl

/-- The listing of bytes fails if they are not text, or at a lexical error. -/
theorem of_listingOfBytes_error {skipWhitespace strict : Bool} {bytes : List UInt8}
    {f : ScanFault} (h : listingOfBytes skipWhitespace strict bytes = .error f) :
    (∃ g, f = .undecodable g ∧ Text.Utf8.decode bytes = .error g) ∨ ∃ e, f = .lexical e := by
  cases hdecode : Text.Utf8.decode bytes with
  | error g =>
    rw [listingOfBytes_of_decode_error hdecode] at h
    exact .inl ⟨g, (Except.error.inj h).symm, rfl⟩
  | ok text =>
    rw [listingOfBytes, sourceOfBytes, hdecode] at h
    simp only [Except.map] at h
    split at h
    · exact .inr ⟨_, (Except.error.inj h).symm⟩
    · cases h

section Run

variable {reader : Toml.Reader} {fs : FileSystem} {argv : List String} {a : Arguments} {o : Options}

/-- The options are found if the configuration is read. -/
theorem Finds.resolve_run (h : Finds reader fs a o) :
    (resolve reader FileSystem.access a).run fs = (.ok o, fs) :=
  resolve_eq_ok_iff.2 h

/-- A run ends at its configuration if that fails. -/
theorem run_of_readConfig_error (h : parse argv = .ok a) {f : ConfigFault}
    (hconfig : (readConfig reader FileSystem.access a.configFile).run fs = (.error f, fs)) :
    runIn reader fs argv = (.ofConfigFault f, fs) := by
  refine run_of_configFault h ?_
  rw [resolve, loadConfig]
  exact run_bind_of_run hconfig

/-- A run ends at its configuration if the file is there and its bytes do not configure. -/
theorem run_of_configOfBytes_error (h : parse argv = .ok a) {bytes : List UInt8} {f : ConfigFault}
    (hread : fs.read a.configFile = .ok bytes) (hbytes : configOfBytes reader bytes = .error f) :
    runIn reader fs argv = (.ofConfigFault f, fs) := by
  refine run_of_readConfig_error h ?_
  simp only [readConfig_run, FileSystem.isFile_of_read hread, hread, hbytes]

/-- A run ends at its configuration if the file is there and its text is no document. -/
theorem run_of_parse_error (h : parse argv = .ok a) {bytes : List UInt8} {text : String}
    {f : Toml.Fault} (hread : fs.read a.configFile = .ok bytes)
    (hdecode : Text.Utf8.decode bytes = .ok text)
    (hparse : Toml.parse (reader.room text) text = .error f) :
    runIn reader fs argv = (.ofConfigFault (.ofToml reader text f), fs) := by
  refine run_of_configOfBytes_error h hread ?_
  rw [configOfBytes_of_decode hdecode, hparse]
  rfl

/-- A run ends at an input that cannot be read. -/
theorem run_of_read_error (h : parse argv = .ok a) (hfinds : Finds reader fs a o) {f : FileFault}
    (hread : fs.read o.input = .error f) : runIn reader fs argv = (.ofFileFault f, fs) := by
  have hinput : (FileSystem.access.read o.input).run fs = (.error f, fs) := by
    rw [← hread]
    rfl
  exact run_of_scanFault h hfinds.resolve_run (scanFile_of_unreadable hinput)

/-- A run ends at an input that cannot be listed. -/
theorem run_of_listingOfBytes_error (h : parse argv = .ok a) (hfinds : Finds reader fs a o)
    {bytes : List UInt8} {f : ScanFault} (hread : fs.read o.input = .ok bytes)
    (hlisting : listingOfBytes o.skipWhitespace o.strict bytes = .error f) :
    runIn reader fs argv = (.ofScanFault o f, fs) := by
  have hscan := scanFile_run hread
  rw [hlisting] at hscan
  exact run_of_scanFault h hfinds.resolve_run hscan

/-- A run delivers the listing of its input. -/
theorem run_of_listingOfBytes (h : parse argv = .ok a) (hfinds : Finds reader fs a o)
    {bytes : List UInt8} {text : String} (hread : fs.read o.input = .ok bytes)
    (hlisting : listingOfBytes o.skipWhitespace o.strict bytes = .ok text) :
    runIn reader fs argv = (deliver FileSystem.access o text).run fs := by
  have hscan := scanFile_run hread
  rw [hlisting] at hscan
  exact run_of_listing h hfinds.resolve_run hscan

/-- A listing cannot be delivered to an output that cannot be written. -/
theorem deliver_of_write_error {text : String} {path : Path} {f : FileFault}
    (houtput : o.output = some path)
    (hwrite : fs.write path (Text.Utf8.encode text) = .error f) :
    (deliver FileSystem.access o text).run fs = (.ofFileFault f, fs) := by
  have hrun := FileSystem.run_access_write fs path (Text.Utf8.encode text)
  rw [hwrite] at hrun
  simp only [deliver, houtput]
  exact run_bind_of_run hrun

/-- A listing that can be delivered ends the run with success. -/
theorem deliver_of_write_ok {text : String}
    (h : ∀ path, o.output = some path → ∃ after,
      fs.write path (Text.Utf8.encode text) = .ok after) :
    ((deliver FileSystem.access o text).run fs).1.ending = .exit 0 := by
  cases houtput : o.output with
  | none =>
    simp only [deliver, houtput]
    rfl
  | some path =>
    obtain ⟨after, hwrite⟩ := h path houtput
    have hrun := FileSystem.run_access_write fs path (Text.Utf8.encode text)
    rw [hwrite] at hrun
    simp only [deliver, houtput, run_bind_of_run hrun]
    rfl

/-- The null character in a path is not foreseen. -/
theorem Report.ofFileFault_of_null {f : FileFault} (h : f.cause = .nullCharacter) :
    ofFileFault f = ⟨.unreadable f, "", ""⟩ := by
  simp [ofFileFault, h, FileFault.Cause.number?]

/-- Any other fault of a file that is opened is foreseen. -/
theorem Report.ofFileFault_of_ne_null {f : FileFault} (h : f.cause ≠ .nullCharacter) :
    ofFileFault f = failed 2 ("error: " ++ f.message ++ "\n") := by
  have hnumber : f.cause.number?.isSome = true := by
    cases hcause : f.cause with
    | nullCharacter => exact absurd hcause h
    | _ => rfl
  rw [ofFileFault, if_pos hnumber]

/-- A fault that is not foreseen ends the run without a word. -/
theorem BreaksOff.run_eq (h : parse argv = .ok a) {ending : Ending}
    (hends : BreaksOff reader fs a ending) : runIn reader fs argv = (⟨ending, "", ""⟩, fs) := by
  cases hends with
  | configPath hfile =>
    refine run_of_readConfig_error h (f := .unreadable _) ?_
    simp only [readConfig_run, hfile]
  | configBytes hread hdecode =>
    exact run_of_configOfBytes_error h hread (configOfBytes_of_decode_error hdecode)
  | configInteger hread hdecode hparse => exact run_of_parse_error h hread hdecode hparse
  | configDepth hread hdecode hparse => exact run_of_parse_error h hread hdecode hparse
  | inputPath hfinds hread hnull =>
    rw [run_of_read_error h hfinds hread, Report.ofFileFault_of_null hnull]
  | inputBytes hfinds hread hdecode =>
    exact run_of_listingOfBytes_error h hfinds hread (listingOfBytes_of_decode_error hdecode _ _)
  | outputPath hfinds hread hlisting houtput hwrite hnull =>
    rw [run_of_listingOfBytes h hfinds hread hlisting, deliver_of_write_error houtput hwrite,
      Report.ofFileFault_of_null hnull]

/-- A run that meets a fault that is not foreseen has no exit code. -/
theorem BreaksOff.ne_exit {ending : Ending} (h : BreaksOff reader fs a ending) (code : Nat) :
    ending ≠ .exit code := by
  cases h <;> simp

/-- A fault that is foreseen ends the run with a message. -/
theorem Complains.run_eq (h : parse argv = .ok a) {message : String}
    (hends : Complains reader fs a message) :
    runIn reader fs argv = (.failed 2 ("error: " ++ message ++ "\n"), fs) := by
  cases hends with
  | config hread hdecode hparse =>
    have hword : "error: " ++ "invalid config: " = "error: invalid config: " := by decide
    rw [run_of_parse_error h hread hdecode hparse, ConfigFault.ofToml, Report.ofConfigFault,
      ← String.append_assoc, hword]
  | input hfinds hread hcause =>
    rw [run_of_read_error h hfinds hread, Report.ofFileFault_of_ne_null hcause]
  | output hfinds hread hlisting houtput hwrite hcause =>
    rw [run_of_listingOfBytes h hfinds hread hlisting, deliver_of_write_error houtput hwrite,
      Report.ofFileFault_of_ne_null hcause]

/-- The options are found, or the configuration is at fault. -/
theorem finds_or_fails (reader : Toml.Reader) (fs : FileSystem) (a : Arguments) :
    (∃ o, Finds reader fs a o) ∨ (∃ ending, BreaksOff reader fs a ending) ∨
      ∃ message, Complains reader fs a message := by
  cases hfile : fs.isFile a.configFile with
  | error f => exact .inr (.inl ⟨_, .configPath hfile⟩)
  | ok found =>
    cases found with
    | false => exact .inl ⟨_, _, .missing hfile, rfl⟩
    | true =>
      obtain ⟨bytes, hread⟩ := FileSystem.exists_read_of_isFile hfile
      cases hdecode : Text.Utf8.decode bytes with
      | error f => exact .inr (.inl ⟨_, .configBytes hread hdecode⟩)
      | ok text =>
        cases hparse : Toml.parse (reader.room text) text with
        | error f =>
          cases f with
          | malformed => exact .inr (.inr ⟨_, .config hread hdecode hparse⟩)
          | longInteger digits => exact .inr (.inl ⟨_, .configInteger hread hdecode hparse⟩)
          | tooDeep => exact .inr (.inl ⟨_, .configDepth hread hdecode hparse⟩)
        | ok table =>
          have hconfig : configOfBytes reader bytes = .ok table := by
            rw [configOfBytes_of_decode hdecode, hparse]
            rfl
          exact .inl ⟨_, _, .file hread hconfig, rfl⟩

/-- A run meets a fault, or it ends with success or at a lexical error. -/
theorem run_ends (reader : Toml.Reader) (h : parse argv = .ok a) (fs : FileSystem) :
    (∃ ending, BreaksOff reader fs a ending) ∨ (∃ message, Complains reader fs a message) ∨
      (runIn reader fs argv).1.ending = .exit 0 ∨ (runIn reader fs argv).1.ending = .exit 1 := by
  obtain ⟨o, hfinds⟩ | hbreaks | hcomplains := finds_or_fails reader fs a
  · cases hread : fs.read o.input with
    | error f =>
      by_cases hnull : f.cause = .nullCharacter
      · exact .inl ⟨_, .inputPath hfinds hread hnull⟩
      · exact .inr (.inl ⟨_, .input hfinds hread hnull⟩)
    | ok bytes =>
      cases hlisting : listingOfBytes o.skipWhitespace o.strict bytes with
      | error f =>
        obtain ⟨g, rfl, hdecode⟩ | ⟨e, rfl⟩ := of_listingOfBytes_error hlisting
        · exact .inl ⟨_, .inputBytes hfinds hread hdecode⟩
        · rw [run_of_listingOfBytes_error h hfinds hread hlisting]
          exact .inr (.inr (.inr rfl))
      | ok text =>
        by_cases hwrite : ∀ path, o.output = some path → ∃ after,
            fs.write path (Text.Utf8.encode text) = .ok after
        · rw [run_of_listingOfBytes h hfinds hread hlisting]
          exact .inr (.inr (.inl (deliver_of_write_ok hwrite)))
        · simp only [not_forall, not_exists] at hwrite
          obtain ⟨path, houtput, hnot⟩ := hwrite
          cases hresult : fs.write path (Text.Utf8.encode text) with
          | ok after => exact absurd hresult (hnot after)
          | error f =>
            by_cases hnull : f.cause = .nullCharacter
            · exact .inl ⟨_, .outputPath hfinds hread hlisting houtput hresult hnull⟩
            · exact .inr (.inl ⟨_, .output hfinds hread hlisting houtput hresult hnull⟩)
  · exact .inl hbreaks
  · exact .inr (.inl hcomplains)

/-- A run that meets no fault that is not foreseen has an exit code. -/
theorem exists_exit_code (h : parse argv = .ok a)
    (hnone : ∀ ending, ¬ BreaksOff reader fs a ending) :
    ∃ code, (runIn reader fs argv).1.ending = .exit code := by
  obtain ⟨ending, hbroken⟩ | ⟨message, hsaid⟩ | hzero | hone := run_ends reader h fs
  · exact absurd hbroken (hnone ending)
  · exact ⟨2, by rw [hsaid.run_eq h]; rfl⟩
  · exact ⟨0, hzero⟩
  · exact ⟨1, hone⟩

/-- A run has one of three exit codes, and the last one if it meets a fault that is foreseen. -/
theorem exit_code_cases (h : parse argv = .ok a) {code : Nat}
    (hcode : (runIn reader fs argv).1.ending = .exit code) :
    code = 0 ∨ code = 1 ∨ code = 2 ∧ ∃ message, Complains reader fs a message := by
  obtain ⟨ending, hbroken⟩ | ⟨message, hsaid⟩ | hzero | hone := run_ends reader h fs
  · rw [hbroken.run_eq h] at hcode
    exact absurd hcode (hbroken.ne_exit code)
  · rw [hsaid.run_eq h] at hcode
    exact .inr (.inr ⟨(Ending.exit.inj hcode).symm, message, hsaid⟩)
  · exact .inl (Ending.exit.inj (hcode.symm.trans hzero))
  · exact .inr (.inl (Ending.exit.inj (hcode.symm.trans hone)))

/-- A run ends at a lexical error exactly if it fails strictly. -/
theorem exit_one_iff (h : parse argv = .ok a) :
    (runIn reader fs argv).1.ending = .exit 1 ↔
      ∃ o source t, FailsStrictly reader FileSystem.access fs a o source t := by
  constructor
  · intro hone
    obtain ⟨report, after, hrun, hcases⟩ := run_cases reader FileSystem.refusesAtMost_access h fs
    obtain rfl : (runIn reader fs argv).1 = report := congrArg Prod.fst hrun
    obtain ⟨hzero, -⟩ | ⟨-, -, hlexical⟩ := hcases
    · exact absurd (hzero.symm.trans hone) (by simp)
    · exact hlexical hone
  · rintro ⟨o, source, t, hfails⟩
    rw [runIn, run_of_failsStrictly FileSystem.refusesAtMost_access h hfails]

end Run

/-- **Exit codes.** A run for a command line that is accepted has an exit code exactly if it meets
no fault that is not foreseen; such a fault ends it at once, with nothing written anywhere. An exit
code is that of success, of a lexical error, or of a fault that is foreseen: a lexical error is
the one of strict scanning, and for a fault the standard error has one message that begins with
"error:". -/
theorem exit_codes_exact (reader : Toml.Reader) {argv : List String} {a : Arguments}
    (h : parse argv = .ok a) (fs : FileSystem) :
    ∃ report after, runIn reader fs argv = (report, after) ∧
      ((∃ code, report.ending = .exit code) ↔ ∀ ending, ¬ BreaksOff reader fs a ending) ∧
      (∀ ending, BreaksOff reader fs a ending → report = ⟨ending, "", ""⟩ ∧ after = fs) ∧
      (∀ code, report.ending = .exit code → code = 0 ∨ code = 1 ∨ code = 2) ∧
      (report.ending = .exit 1 ↔
        ∃ o source t, FailsStrictly reader FileSystem.access fs a o source t) ∧
      (report.ending = .exit 2 ↔ ∃ message, Complains reader fs a message) ∧
      ∀ message, Complains reader fs a message →
        report = .failed 2 ("error: " ++ message ++ "\n") ∧ after = fs := by
  refine ⟨(runIn reader fs argv).1, (runIn reader fs argv).2, rfl, ⟨?_, exists_exit_code h⟩,
    fun ending hbroken => ?_, fun code hcode => ?_, exit_one_iff h, ⟨fun htwo => ?_, ?_⟩,
    fun message hsaid => ?_⟩
  · rintro ⟨code, hcode⟩ ending hbroken
    rw [hbroken.run_eq h] at hcode
    exact hbroken.ne_exit code hcode
  · exact Prod.ext_iff.1 (hbroken.run_eq h)
  · exact (exit_code_cases h hcode).imp_right (.imp_right And.left)
  · obtain hzero | hone | ⟨-, hmessage⟩ := exit_code_cases h htwo
    · exact absurd hzero (by decide)
    · exact absurd hone (by decide)
    · exact hmessage
  · rintro ⟨message, hsaid⟩
    rw [hsaid.run_eq h]
    rfl
  · exact Prod.ext_iff.1 (hsaid.run_eq h)

/-- A directory cannot be scanned, and without a configuration that is all there is to say. -/
theorem exit_codes_exact_directory :
    parse ["d"] = .ok ⟨"d", .absent, .absent, none, none⟩ ∧
      runIn ⟨fun _ => 0, fun _ => ""⟩ ⟨[(⟨.above 0, ["d"]⟩, .directory)]⟩ ["d"] =
        (⟨.exit 2, "", "error: [Errno 21] Is a directory: 'd'\n"⟩,
          ⟨[(⟨.above 0, ["d"]⟩, .directory)]⟩) := by
  have hparse : parse ["d"] = .ok ⟨"d", .absent, .absent, none, none⟩ := by decide
  have hcomplains : Complains ⟨fun _ => 0, fun _ => ""⟩ ⟨[(⟨.above 0, ["d"]⟩, .directory)]⟩
      ⟨"d", .absent, .absent, none, none⟩ (FileFault.message ⟨.isADirectory, ⟨"", ["d"]⟩⟩) :=
    .input ⟨[], .missing (by decide), rfl⟩ (by decide) (by decide)
  obtain ⟨report, after, hrun, -, -, -, -, -, hmessage⟩ :=
    exit_codes_exact ⟨fun _ => 0, fun _ => ""⟩ hparse ⟨[(⟨.above 0, ["d"]⟩, .directory)]⟩
  obtain ⟨rfl, rfl⟩ := hmessage _ hcomplains
  refine ⟨hparse, hrun.trans ?_⟩
  decide +kernel

/-- An input or a configuration with a byte that begins no character ends the run without an exit
code and without a message. -/
theorem no_exit_code_of_undecodable :
    parse ["p"] = .ok ⟨"p", .absent, .absent, none, none⟩ ∧
      (∀ reader, runIn reader ⟨[(⟨.above 0, ["p"]⟩, .file [97, 255])]⟩ ["p"] =
        (⟨.undecodable ⟨.invalidStart, 1, [255]⟩, "", ""⟩,
          ⟨[(⟨.above 0, ["p"]⟩, .file [97, 255])]⟩)) ∧
      (∀ reader, (runIn reader ⟨[(⟨.above 0, ["p"]⟩, .file [97]),
          (⟨.above 0, ["simpledsl.toml"]⟩, .file [255])]⟩ ["p"]).1 =
        ⟨.undecodable ⟨.invalidStart, 0, [255]⟩, "", ""⟩) ∧
      ∀ f code, Ending.undecodable f ≠ .exit code := by
  have hparse : parse ["p"] = .ok ⟨"p", .absent, .absent, none, none⟩ := by decide
  have hinput (reader : Toml.Reader) : BreaksOff reader ⟨[(⟨.above 0, ["p"]⟩, .file [97, 255])]⟩
      ⟨"p", .absent, .absent, none, none⟩ (.undecodable ⟨.invalidStart, 1, [255]⟩) :=
    .inputBytes ⟨[], .missing (by decide), rfl⟩ (show _ = Except.ok [97, 255] by decide) (by decide)
  have hconfig (reader : Toml.Reader) : BreaksOff reader ⟨[(⟨.above 0, ["p"]⟩, .file [97]),
      (⟨.above 0, ["simpledsl.toml"]⟩, .file [255])]⟩ ⟨"p", .absent, .absent, none, none⟩
      (.undecodable ⟨.invalidStart, 0, [255]⟩) :=
    .configBytes (show _ = Except.ok [255] by decide) (by decide)
  exact ⟨hparse, fun reader => (hinput reader).run_eq hparse,
    fun reader => congrArg Prod.fst ((hconfig reader).run_eq hparse), by simp⟩

end FrontEnd.Command
