import FrontEnd.Proofs.Drivers
import FrontEnd.Proofs.FileSystem
import FrontEnd.Proofs.LineEnds

/-!
# How the command ends

Everything is read before anything is written, and a file is written as the last thing or not at
all. So the command either fails and leaves no trace but its message, or it hands over the whole
listing of what the input was before. Files may be refused, for whatever reason, when they are
looked for or opened.
-/

namespace FrontEnd.Command

variable {reader : Toml.Reader} {files : FileAccess (StateM FileSystem)} {fs : FileSystem}

/-- To look for the configuration leaves the files as they are. -/
theorem readOnly_readConfig (h : files.RefusesAtMost) (path : Path) :
    ReadOnly (readConfig reader files path) := by
  refine .bind (h.readOnly_isFile path) fun found => ?_
  match found with
  | .error f => exact .pure _
  | .ok false => exact .pure _
  | .ok true =>
    refine .bind (h.readOnly_read path) fun content => ?_
    cases content with
    | ok bytes => exact .pure _
    | error f => exact .pure _

/-- To find out what is to be done leaves the files as they are. -/
theorem readOnly_resolve (reader : Toml.Reader) (h : files.RefusesAtMost) (a : Arguments) :
    ReadOnly (resolve reader files a) :=
  .bind (readOnly_readConfig h _) fun _ => .pure _

/-- To scan a file leaves the files as they are. -/
theorem readOnly_scanFile (h : files.RefusesAtMost) (o : Options) :
    ReadOnly (scanFile files o) := by
  refine .bind (h.readOnly_read o.input) fun content => ?_
  cases content with
  | ok bytes => exact .pure _
  | error f => exact .pure _

/-- Without an output file the listing is on the standard output and nothing was changed. With one
the listing is its content, what stands at every other place is what stood there before, and
nothing is on the standard output. -/
def HandedOver (o : Options) (text : String) (before : FileSystem) (report : Report)
    (after : FileSystem) : Prop :=
  match o.output with
  | none => report.stdout = text ∧ after = before
  | some path =>
    report.stdout = "" ∧ after.read path = .ok (Text.Utf8.encode text) ∧
      ∃ place, before.resolve path = .ok place ∧
        ∀ other, other ≠ place → after.find? other = before.find? other

/-- The options are found and ask for strict scanning, the input is read and is text, and in that
text a token is the first unknown one. -/
structure FailsStrictly (reader : Toml.Reader) (files : FileAccess (StateM FileSystem))
    (fs : FileSystem) (a : Arguments) (o : Options) (source : String) (t : Token) : Prop where
  /-- The configuration loads. -/
  resolved : (resolve reader files a).run fs = (.ok o, fs)
  /-- The input is read and decoded. -/
  decoded : ∃ bytes, (files.read o.input).run fs = (.ok bytes, fs) ∧
    sourceOfBytes bytes = .ok source
  /-- Unknown characters are refused. -/
  strict : o.strict = true
  /-- The token is the first unknown one. -/
  unknown : t.IsFirstUnknown (scan source false)

/-- The first unknown token is the same with and without whitespace. -/
theorem isFirstUnknown_scan {source : String} {significant : Bool} {t : Token} :
    t.IsFirstUnknown (scan source significant) ↔ t.IsFirstUnknown (scan source false) := by
  rw [Token.isFirstUnknown_iff, Token.isFirstUnknown_iff, find?_unknown_scan]

/-- A listing fails for a lexical error if strict scanning of the text meets an unknown token. -/
theorem listingOfBytes_eq_lexical_iff {skipWhitespace strict : Bool} {bytes : List UInt8}
    {e : LexError} :
    listingOfBytes skipWhitespace strict bytes = .error (.lexical e) ↔
      ∃ source t, sourceOfBytes bytes = .ok source ∧ strict = true ∧
        t.IsFirstUnknown (scan source false) ∧ e = .ofUnknown source t := by
  cases hsource : sourceOfBytes bytes with
  | error f => simp [listingOfBytes, hsource]
  | ok source =>
    have hlisting : listingOfBytes skipWhitespace strict bytes = .error (.lexical e) ↔
        tokenize source skipWhitespace strict = .error e := by
      simp only [listingOfBytes, hsource]
      cases tokenize source skipWhitespace strict with
      | error e => simp
      | ok tokens => simp
    rw [hlisting]
    cases strict with
    | false => simp [tokenize_eq_ok_scan]
    | true => simp [tokenize_strict_eq_error_iff, isFirstUnknown_scan]

/-- A file that cannot be read is not scanned. -/
theorem scanFile_of_unreadable {o : Options} {f : FileFault}
    (hread : (files.read o.input).run fs = (.error f, fs)) :
    (scanFile files o).run fs = (.error (.unreadable f), fs) := by
  exact run_bind_of_run hread

/-- Unless scanning a file ends at a file that cannot be read, the file was read and the result is
that of its bytes. -/
theorem read_of_scanFile (h : files.RefusesAtMost) {o : Options}
    {r : Except ScanFault String} (hscan : (scanFile files o).run fs = (r, fs))
    (hr : ∀ f, r ≠ .error (.unreadable f)) :
    ∃ bytes, (files.read o.input).run fs = (.ok bytes, fs) ∧
      listingOfBytes o.skipWhitespace o.strict bytes = r := by
  have hread := (h.readOnly_read o.input).run_eq fs
  cases hresult : ((files.read o.input).run fs).1 with
  | error f =>
    rw [hresult] at hread
    have hfault := (scanFile_of_unreadable hread).symm.trans hscan
    exact absurd (Prod.ext_iff.1 hfault).1.symm (hr f)
  | ok bytes =>
    rw [hresult] at hread
    have hlisting := (scanFile_of_read hread).symm.trans hscan
    exact ⟨bytes, hread, (Prod.ext_iff.1 hlisting).1⟩

/-- Scanning a file fails for a lexical error if it fails strictly. -/
theorem scanFile_eq_lexical_iff (h : files.RefusesAtMost) {a : Arguments} {o : Options}
    (hresolve : (resolve reader files a).run fs = (.ok o, fs)) {e : LexError} :
    (scanFile files o).run fs = (.error (.lexical e), fs) ↔
      ∃ source t, FailsStrictly reader files fs a o source t ∧ e = .ofUnknown source t := by
  constructor
  · intro hscan
    obtain ⟨bytes, hread, hlisting⟩ := read_of_scanFile h hscan (by simp)
    obtain ⟨source, t, hsource, hstrict, ht, he⟩ := listingOfBytes_eq_lexical_iff.1 hlisting
    exact ⟨source, t, ⟨hresolve, ⟨bytes, hread, hsource⟩, hstrict, ht⟩, he⟩
  · rintro ⟨source, t, ⟨-, ⟨bytes, hread, hsource⟩, hstrict, ht⟩, he⟩
    rw [scanFile_of_read hread,
      listingOfBytes_eq_lexical_iff.2 ⟨source, t, hsource, hstrict, ht, he⟩]

/-- A listing that is delivered is handed over, or the file is not opened. -/
theorem deliver_cases (h : files.RefusesAtMost) (o : Options) (text : String) (fs : FileSystem) :
    (∃ report after, (deliver files o text).run fs = (report, after) ∧
        report.ending = .exit 0 ∧ report.stderr = "" ∧ HandedOver o text fs report after) ∨
      ∃ f, (deliver files o text).run fs = (.ofFileFault f, fs) := by
  cases houtput : o.output with
  | none =>
    refine .inl ⟨⟨.exit 0, text, ""⟩, fs, ?_, rfl, rfl, ?_⟩
    · simp only [deliver, houtput]
      rfl
    · simp [HandedOver, houtput]
  | some path =>
    simp only [deliver, houtput, StateT.run_bind]
    obtain ⟨after, hwrite, hrun⟩ | ⟨f, hrun⟩ := h.write path (Text.Utf8.encode text) fs
    · refine .inl ⟨⟨.exit 0, "", ""⟩, after, by rw [hrun]; rfl, rfl, rfl, ?_⟩
      obtain ⟨place, hplace, hdirectory, hafter⟩ := FileSystem.write_eq_ok_iff.1 hwrite
      simp only [HandedOver, houtput, true_and]
      refine ⟨FileSystem.read_of_write hwrite, place, hplace, fun other hother => ?_⟩
      rw [hafter, FileSystem.find?_put (FileSystem.names_ne_nil hdirectory), if_neg hother]
    · exact .inr ⟨f, by rw [hrun]; rfl⟩

namespace Report

/-- A report of a failure: nothing is on the standard output. -/
structure IsFailure (r : Report) : Prop where
  /-- The exit code is not that of success. -/
  ending : r.ending ≠ .exit 0
  /-- Nothing was written to the standard output. -/
  stdout : r.stdout = ""

/-- A file that is not opened makes a failure, which is not a lexical one. -/
theorem isFailure_ofFileFault (f : FileFault) :
    (ofFileFault f).IsFailure ∧ (ofFileFault f).ending ≠ .exit 1 := by
  unfold ofFileFault
  split
  · exact ⟨⟨by simp [failed], rfl⟩, by simp [failed]⟩
  · exact ⟨⟨by simp, rfl⟩, by simp⟩

/-- A configuration that does not load makes a failure, which is not a lexical one. -/
theorem isFailure_ofConfigFault (f : ConfigFault) :
    (ofConfigFault f).IsFailure ∧ (ofConfigFault f).ending ≠ .exit 1 := by
  unfold ofConfigFault
  split
  all_goals exact ⟨⟨by simp [failed], rfl⟩, by simp [failed]⟩

/-- An input that cannot be scanned makes a failure, with its own exit code if it is lexical. -/
theorem isFailure_ofScanFault (o : Options) (f : ScanFault) :
    (ofScanFault o f).IsFailure ∧ ((ofScanFault o f).ending = .exit 1 → ∃ e, f = .lexical e) := by
  cases f with
  | unreadable f =>
    obtain ⟨hfailure, hending⟩ := isFailure_ofFileFault f
    exact ⟨hfailure, fun h => absurd h hending⟩
  | undecodable f => exact ⟨⟨by simp [ofScanFault], rfl⟩, by simp [ofScanFault]⟩
  | lexical e => exact ⟨⟨by simp [ofScanFault, failed], rfl⟩, fun _ => ⟨e, rfl⟩⟩

end Report

section Run

variable {argv : List String} {a : Arguments} {o : Options}

/-- A run ends where its configuration does not load. -/
theorem run_of_configFault (h : parse argv = .ok a) {f : ConfigFault}
    (hresolve : (resolve reader files a).run fs = (.error f, fs)) :
    (run reader files argv).run fs = (.ofConfigFault f, fs) := by
  simp only [run, h]
  exact run_bind_of_run hresolve

/-- With its options found a run scans its input. -/
theorem run_of_options (h : parse argv = .ok a)
    (hresolve : (resolve reader files a).run fs = (.ok o, fs)) :
    (run reader files argv).run fs = (do
      match ← scanFile files o with
      | .error f => return .ofScanFault o f
      | .ok text => deliver files o text : StateM FileSystem Report).run fs := by
  simp only [run, h]
  exact run_bind_of_run hresolve

/-- A run ends where its input cannot be scanned. -/
theorem run_of_scanFault (h : parse argv = .ok a)
    (hresolve : (resolve reader files a).run fs = (.ok o, fs)) {f : ScanFault}
    (hscan : (scanFile files o).run fs = (.error f, fs)) :
    (run reader files argv).run fs = (.ofScanFault o f, fs) := by
  rw [run_of_options h hresolve]
  exact run_bind_of_run hscan

/-- A run delivers the listing of its input. -/
theorem run_of_listing (h : parse argv = .ok a)
    (hresolve : (resolve reader files a).run fs = (.ok o, fs)) {text : String}
    (hscan : (scanFile files o).run fs = (.ok text, fs)) :
    (run reader files argv).run fs = (deliver files o text).run fs := by
  rw [run_of_options h hresolve]
  exact run_bind_of_run hscan

/-- A run that fails strictly ends with the error of the first unknown token. -/
theorem run_of_failsStrictly (hfiles : files.RefusesAtMost) (h : parse argv = .ok a)
    {source : String} {t : Token} (hfails : FailsStrictly reader files fs a o source t) :
    (run reader files argv).run fs =
      (⟨.exit 1, "", (LexError.ofUnknown source t).render o.input.display ++ "\n"⟩, fs) := by
  have hscan := (scanFile_eq_lexical_iff hfiles hfails.resolved).2 ⟨source, t, hfails, rfl⟩
  exact run_of_scanFault h hfails.resolved hscan

/-- A run either succeeds and hands over the listing, or it fails and changes nothing. -/
theorem run_cases (reader : Toml.Reader) (hfiles : files.RefusesAtMost) (h : parse argv = .ok a)
    (fs : FileSystem) :
    ∃ report after, (run reader files argv).run fs = (report, after) ∧
      ((report.ending = .exit 0 ∧ report.stderr = "" ∧
          ∃ o bytes text, (resolve reader files a).run fs = (.ok o, fs) ∧
            fs.read o.input = .ok bytes ∧
            listingOfBytes o.skipWhitespace o.strict bytes = .ok text ∧
            HandedOver o text fs report after) ∨
        report.IsFailure ∧ after = fs ∧
          (report.ending = .exit 1 →
            ∃ o source t, FailsStrictly reader files fs a o source t)) := by
  have hresolve := (readOnly_resolve reader hfiles a).run_eq fs
  cases hoptions : ((resolve reader files a).run fs).1 with
  | error f =>
    rw [hoptions] at hresolve
    obtain ⟨hfailure, hending⟩ := Report.isFailure_ofConfigFault f
    exact ⟨_, _, run_of_configFault h hresolve,
      .inr ⟨hfailure, rfl, fun hone => absurd hone hending⟩⟩
  | ok o =>
    rw [hoptions] at hresolve
    have hscan := (readOnly_scanFile hfiles o).run_eq fs
    cases hlisting : ((scanFile files o).run fs).1 with
    | error f =>
      rw [hlisting] at hscan
      obtain ⟨hfailure, hending⟩ := Report.isFailure_ofScanFault o f
      refine ⟨_, _, run_of_scanFault h hresolve hscan, .inr ⟨hfailure, rfl, fun hone => ?_⟩⟩
      obtain ⟨e, rfl⟩ := hending hone
      obtain ⟨source, t, hfails, -⟩ := (scanFile_eq_lexical_iff hfiles hresolve).1 hscan
      exact ⟨o, source, t, hfails⟩
    | ok text =>
      rw [hlisting] at hscan
      rw [run_of_listing h hresolve hscan]
      obtain ⟨report, after, hrun, hending, hstderr, hhanded⟩ | ⟨f, hrun⟩ :=
        deliver_cases hfiles o text fs
      · obtain ⟨bytes, hread, hbytes⟩ := read_of_scanFile hfiles hscan (by simp)
        exact ⟨report, after, hrun, .inl ⟨hending, hstderr, o, bytes, text, hresolve,
          hfiles.read_eq_ok hread, hbytes, hhanded⟩⟩
      · obtain ⟨hfailure, hending⟩ := Report.isFailure_ofFileFault f
        exact ⟨_, _, hrun, .inr ⟨hfailure, rfl, fun hone => absurd hone hending⟩⟩

end Run

/-- **All or nothing.** Whatever the files are, and whichever of them cannot be opened, a run for
a command line that is accepted either succeeds or leaves every file as it was and the standard
output empty. If it succeeds, the standard error is empty, and the listing of what the input was
before the run is the content of the output file, with no other file changed and nothing on the
standard output, or without an output file it is what is on the standard output, with no file
changed. The exit code is that of a lexical error exactly if the options are found, the input is
read and decoded, and strict scanning meets an unknown token; the standard error then shows the
first one. -/
theorem all_or_nothing (reader : Toml.Reader) {files : FileAccess (StateM FileSystem)}
    (hfiles : files.RefusesAtMost) {argv : List String} {a : Arguments} (h : parse argv = .ok a)
    (fs : FileSystem) :
    ∃ report after, (run reader files argv).run fs = (report, after) ∧
      (report.ending ≠ .exit 0 → after = fs ∧ report.stdout = "") ∧
      (report.ending = .exit 0 → report.stderr = "" ∧
        ∃ o bytes text, (resolve reader files a).run fs = (.ok o, fs) ∧
          fs.read o.input = .ok bytes ∧
          listingOfBytes o.skipWhitespace o.strict bytes = .ok text ∧
          HandedOver o text fs report after) ∧
      (report.ending = .exit 1 ↔ ∃ o source t, FailsStrictly reader files fs a o source t) ∧
      ∀ o source t, FailsStrictly reader files fs a o source t →
        report.stderr = (LexError.ofUnknown source t).render o.input.display ++ "\n" := by
  obtain ⟨report, after, hrun, hcases⟩ := run_cases reader hfiles h fs
  have hstrict : ∀ o source t, FailsStrictly reader files fs a o source t →
      report = ⟨.exit 1, "", (LexError.ofUnknown source t).render o.input.display ++ "\n"⟩ := by
    intro o source t hfails
    exact (Prod.ext_iff.1 (hrun.symm.trans (run_of_failsStrictly hfiles h hfails))).1
  have hone : (∃ o source t, FailsStrictly reader files fs a o source t) →
      report.ending = .exit 1 := by
    rintro ⟨o, source, t, hfails⟩
    rw [hstrict o source t hfails]
  refine ⟨report, after, hrun, ?_, ?_, ⟨?_, hone⟩, fun o source t hfails => by
    rw [hstrict o source t hfails]⟩
  · intro hending
    obtain ⟨hzero, -⟩ | ⟨hfailure, hafter, -⟩ := hcases
    · exact absurd hzero hending
    · exact ⟨hafter, hfailure.stdout⟩
  · intro hending
    obtain ⟨-, hstderr, hlisting⟩ | ⟨hfailure, -⟩ := hcases
    · exact ⟨hstderr, hlisting⟩
    · exact absurd hending hfailure.ending
  · intro hending
    obtain ⟨hzero, -⟩ | ⟨-, -, hlexical⟩ := hcases
    · exact absurd (hzero.symm.trans hending) (by simp)
    · exact hlexical hending

/-- A strict failure leaves the input as it was when the listing was to be written over it. -/
theorem all_or_nothing_overwriting :
    FileSystem.access.RefusesAtMost ∧
      parse ["a", "-o", "a", "--strict"] = .ok ⟨"a", .value "a", .absent, none, some true⟩ ∧
      ∃ report, (run ⟨fun _ => 0, fun _ => ""⟩ FileSystem.access ["a", "-o", "a", "--strict"]).run
          ⟨[(⟨.above 0, ["a"]⟩, .file [63])]⟩ = (report, ⟨[(⟨.above 0, ["a"]⟩, .file [63])]⟩) ∧
        report.ending = .exit 1 ∧ report.stdout = "" ∧
        report.stderr =
          "error: unknown character '?'\n  --> a:1:1\n  |\n1 | ?\n  | ^\n" := by
  have hparse : parse ["a", "-o", "a", "--strict"] =
      .ok ⟨"a", .value "a", .absent, none, some true⟩ := by decide
  have hfails : FailsStrictly ⟨fun _ => 0, fun _ => ""⟩ FileSystem.access
      ⟨[(⟨.above 0, ["a"]⟩, .file [63])]⟩
      ⟨"a", .value "a", .absent, none, some true⟩ ⟨⟨"", ["a"]⟩, some ⟨"", ["a"]⟩, false, true⟩
      "?" ⟨.unknown, "", "?", ⟨⟨1, 1⟩, ⟨1, 2⟩⟩⟩ := by
    refine ⟨Prod.ext (by decide) rfl, ⟨[63], by rfl, by decide⟩, rfl, ?_⟩
    rw [Token.isFirstUnknown_iff]
    decide +kernel
  obtain ⟨report, after, hrun, hfailed, -, hone, hstderr⟩ :=
    all_or_nothing ⟨fun _ => 0, fun _ => ""⟩ FileSystem.refusesAtMost_access hparse
      ⟨[(⟨.above 0, ["a"]⟩, .file [63])]⟩
  have hending : report.ending = .exit 1 := hone.2 ⟨_, _, _, hfails⟩
  obtain ⟨rfl, hstdout⟩ := hfailed (by simp [hending])
  refine ⟨FileSystem.refusesAtMost_access, hparse, report, hrun, hending, hstdout, ?_⟩
  rw [hstderr _ _ _ hfails]
  decide +kernel

end FrontEnd.Command
