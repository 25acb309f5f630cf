import FrontEnd.Command.Help
import FrontEnd.Command.Options
import FrontEnd.Listing

/-!
# The command

The command scans one file and lists its tokens on the standard output or in a file. The listing
is complete before anything is written. The exit code is 0 for success, 1 for an unknown
character in strict mode, and 2 for a command line, a configuration or a file that cannot be
used. Bytes that are not text end the command without an exit code, and so do the faults that
it does not foresee: a path that cannot even be looked up, and a configuration with an integer that
is too long or values that are nested too deep.
-/

namespace FrontEnd.Command

/-- The ways in which scanning a file fails. -/
inductive ScanFault where
  /-- The file cannot be read. -/
  | unreadable (f : FileFault)
  /-- The file is not encoded as text. -/
  | undecodable (f : Text.Utf8.Fault)
  /-- The text holds an unknown character. -/
  | lexical (e : LexError)
  deriving DecidableEq, Repr

/-- The source that the bytes of a file hold, with every line end written as a line feed. -/
def sourceOfBytes (bytes : List UInt8) : Except Text.Utf8.Fault String :=
  (Text.Utf8.decode bytes).map fun s => String.ofList (Text.unifyLineEnds s.toList)

/-- The listing of the source that the bytes of a file hold. -/
def listingOfBytes (skipWhitespace strict : Bool) (bytes : List UInt8) :
    Except ScanFault String :=
  match sourceOfBytes bytes with
  | .error f => .error (.undecodable f)
  | .ok source =>
    match tokenize source skipWhitespace strict with
    | .error e => .error (.lexical e)
    | .ok tokens => .ok (listing tokens)

/-- The listing of a file. -/
def scanFile [Monad m] (files : FileAccess m) (o : Options) : m (Except ScanFault String) := do
  match ← files.read o.input with
  | .error f => return .error (.unreadable f)
  | .ok bytes => return listingOfBytes o.skipWhitespace o.strict bytes

/-- How the command ends. -/
inductive Ending where
  /-- With an exit code. -/
  | exit (code : Nat)
  /-- At bytes that are not text. -/
  | undecodable (f : Text.Utf8.Fault)
  /-- At a path that cannot be looked up, or at a configuration file that cannot be read. -/
  | unreadable (f : FileFault)
  /-- At an integer in base ten that has too many digits. -/
  | longInteger (digits : Nat)
  /-- At values that are nested deeper than the stack allows. -/
  | tooDeep
  deriving DecidableEq, Repr

/-- What can be seen of a run of the command, apart from the files. -/
structure Report where
  /-- How it ended. -/
  ending : Ending
  /-- What it wrote to the standard output. -/
  stdout : String
  /-- What it wrote to the standard error. -/
  stderr : String
  deriving DecidableEq, Repr

namespace Report

/-- A run that ends with a message on the standard error. -/
def failed (code : Nat) (stderr : String) : Report := ⟨.exit code, "", stderr⟩

/-- A run that ends at a file that cannot be read or written. -/
def ofFileFault (f : FileFault) : Report :=
  if f.cause.number?.isSome then failed 2 ("error: " ++ f.message ++ "\n")
  else ⟨.unreadable f, "", ""⟩

/-- A run that ends at its command line. -/
def ofStop : Stop → Report
  | .help => ⟨.exit 0, helpText, ""⟩
  | .refused f => failed 2 (refusal f)

/-- A run that ends at its configuration. -/
def ofConfigFault : ConfigFault → Report
  | .unreadable f => ⟨.unreadable f, "", ""⟩
  | .undecodable f => ⟨.undecodable f, "", ""⟩
  | .malformed reason => failed 2 ("error: invalid config: " ++ reason ++ "\n")
  | .longInteger digits => ⟨.longInteger digits, "", ""⟩
  | .tooDeep => ⟨.tooDeep, "", ""⟩

/-- A run that ends at its input. -/
def ofScanFault (o : Options) : ScanFault → Report
  | .unreadable f => ofFileFault f
  | .undecodable f => ⟨.undecodable f, "", ""⟩
  | .lexical e => failed 1 (e.render o.input.display ++ "\n")

end Report

/-- Hand over a listing, to the file that was asked for or to the standard output. -/
def deliver [Monad m] (files : FileAccess m) (o : Options) (listing : String) : m Report := do
  match o.output with
  | none => return ⟨.exit 0, listing, ""⟩
  | some path =>
    match ← files.write path (Text.Utf8.encode listing) with
    | .ok () => return ⟨.exit 0, "", ""⟩
    | .error f => return .ofFileFault f

/-- Run the command for a command line. -/
def run [Monad m] (reader : Toml.Reader) (files : FileAccess m) (argv : List String) :
    m Report := do
  match parse argv with
  | .error stop => return .ofStop stop
  | .ok arguments =>
    match ← resolve reader files arguments with
    | .error f => return .ofConfigFault f
    | .ok options =>
      match ← scanFile files options with
      | .error f => return .ofScanFault options f
      | .ok text => deliver files options text

/-- Run the command on files held in memory. -/
def runIn (reader : Toml.Reader) (fs : FileSystem) (argv : List String) : Report × FileSystem :=
  (run reader FileSystem.access argv).run fs

end FrontEnd.Command
