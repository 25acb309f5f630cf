import FrontEnd.Command.Arguments
import FrontEnd.FileSystem
import FrontEnd.Text.Utf8
import FrontEnd.Toml.Document

/-!
# Options and configuration

What is to be done is said by the command line first, by a configuration file next, and by
defaults last. Without a configuration file on the command line, one is looked for beside the
input; a file that is not there configures nothing. Of a configuration only two truth values in
one table count, and a value of another type counts as absent.
-/

namespace FrontEnd.Command

/-- What is to be done. -/
structure Options where
  /-- The file to be scanned. -/
  input : Path
  /-- The file to be written, if not the standard output. -/
  output : Option Path
  /-- Whether to leave whitespace out. -/
  skipWhitespace : Bool
  /-- Whether to refuse unknown characters. -/
  strict : Bool
  deriving DecidableEq, Repr

/-- The ways in which a configuration file fails. -/
inductive ConfigFault where
  /-- The file cannot be looked for, or cannot be read although it is there. -/
  | unreadable (f : FileFault)
  /-- The file is not encoded as text. -/
  | undecodable (f : Text.Utf8.Fault)
  /-- The text is not formed as a document, for this reason. -/
  | malformed (reason : String)
  /-- An integer in base ten has too many digits. -/
  | longInteger (digits : Nat)
  /-- Values are nested deeper than the stack allows. -/
  | tooDeep
  deriving DecidableEq, Repr

/-- The name of the configuration file that is looked for. -/
def configName : String := "simpledsl.toml"

/-- How a configuration fails whose text is no document. -/
def ConfigFault.ofToml (reader : Toml.Reader) (text : String) : Toml.Fault → ConfigFault
  | .malformed => .malformed (reader.wording text)
  | .longInteger digits => .longInteger digits
  | .tooDeep => .tooDeep

/-- The configuration that the bytes of a file hold. -/
def configOfBytes (reader : Toml.Reader) (bytes : List UInt8) : Except ConfigFault Toml.Table :=
  match Text.Utf8.decode bytes with
  | .error f => .error (.undecodable f)
  | .ok text => (Toml.parse (reader.room text) text).mapError (.ofToml reader text)

/-- The configuration in the file at a path; none if there is no such file. -/
def readConfig [Monad m] (reader : Toml.Reader) (files : FileAccess m) (path : Path) :
    m (Except ConfigFault Toml.Table) := do
  match ← files.isFile path with
  | .error f => return .error (.unreadable f)
  | .ok false => return .ok []
  | .ok true =>
    match ← files.read path with
    | .ok bytes => return configOfBytes reader bytes
    | .error f => return .error (.unreadable f)

/-- The configuration in the file that is named, or else in that of the input's directory. -/
def loadConfig [Monad m] (reader : Toml.Reader) (files : FileAccess m) (config : Option Path)
    (inputDirectory : Path) : m (Except ConfigFault Toml.Table) :=
  readConfig reader files (config.getD (inputDirectory.child configName))

/-- A truth value in the table of the scanner. -/
def setting? (config : Toml.Table) (name : String) : Option Bool :=
  match config.get? "scanner" with
  | some (.table scanner) =>
    match Toml.Table.get? scanner name with
    | some (.bool b) => some b
    | _ => none
  | _ => none

/-- The path that is chosen; an empty value chooses none. -/
def namedPath (c : Choice) : Option Path := (c.value?.filter (· != "")).map Path.ofString

/-- The options for arguments under a configuration. -/
def Options.ofArguments (a : Arguments) (config : Toml.Table) : Options where
  input := Path.ofString a.input
  output := namedPath a.output
  skipWhitespace := (a.skipWhitespace <|> setting? config "skip_whitespace").getD false
  strict := (a.strict <|> setting? config "strict").getD false

/-- The options for arguments, with the configuration that they lead to. -/
def resolve [Monad m] (reader : Toml.Reader) (files : FileAccess m) (a : Arguments) :
    m (Except ConfigFault Options) := do
  let config ← loadConfig reader files (namedPath a.config) (Path.ofString a.input).parent
  return config.map (Options.ofArguments a)

end FrontEnd.Command
