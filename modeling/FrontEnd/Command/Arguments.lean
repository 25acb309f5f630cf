import FrontEnd.Text.Quoted
import FrontEnd.Unicode.DecimalDigit

/-!
# Arguments of the command

The words of a command line are classified one by one, before any of them takes effect: a word
is an option, an operand, or the separator after which all words are operands. A long option may
be cut short as long as only one begins that way, and a value may be attached to its option. The
words then take effect from left to right: the first operand is the input, a later option
overrides an earlier one, and words of no use are reported at the end.
-/

namespace FrontEnd.Command

/-- What an option asks for. -/
inductive Switch where
  /-- Show the help. -/
  | help
  /-- Write to the file that is named next. -/
  | output
  /-- Use the configuration file that is named next. -/
  | config
  /-- Leave whitespace out, or keep it in. -/
  | skipWhitespace (on : Bool)
  /-- Refuse unknown characters, or list them. -/
  | strict (on : Bool)
  deriving DecidableEq, Repr

/-- The spellings of the options, in the order in which they are proposed. -/
def spellings : List (String × Switch) :=
  [("-h", .help), ("--help", .help), ("-o", .output), ("--output", .output),
    ("--config", .config), ("--skip-whitespace", .skipWhitespace true),
    ("--no-skip-whitespace", .skipWhitespace false), ("--strict", .strict true),
    ("--no-strict", .strict false)]

namespace Switch

/-- Whether an option needs a value. -/
def takesValue : Switch → Bool
  | output | config => true
  | _ => false

/-- The spellings of an option and its opposite, as messages show them. -/
def display : Switch → String
  | help => "-h/--help"
  | output => "-o/--output"
  | config => "--config"
  | skipWhitespace _ => "--skip-whitespace/--no-skip-whitespace"
  | strict _ => "--strict/--no-strict"

end Switch

/-- A word of the command line. -/
inductive Word where
  /-- A word that names something. -/
  | operand (s : String)
  /-- An option, whether it is spelled with one dash, and the text attached to it. -/
  | option (s : Switch) (short : Bool) (attached : Option String)
  /-- A word that looks like an option and is none. -/
  | unknown (s : String)
  /-- Two dashes, after which all words are operands. -/
  | separator
  deriving DecidableEq, Repr

/-- The ways in which a command line is refused. -/
inductive UsageFault where
  /-- The word is the beginning of several options. -/
  | ambiguous (word : String) (candidates : List String)
  /-- The option takes no value. -/
  | ignoredValue (s : Switch) (value : String)
  /-- The option needs a value. -/
  | missingValue (s : Switch)
  /-- No input is named. -/
  | missingInput
  /-- These words are of no use. -/
  | unrecognized (words : List String)
  deriving DecidableEq, Repr

/-- The wording of a refusal. -/
def UsageFault.message : UsageFault → String
  | ambiguous word candidates =>
    "ambiguous option: " ++ word ++ " could match " ++ ", ".intercalate candidates
  | ignoredValue s value =>
    "argument " ++ s.display ++ ": ignored explicit argument " ++ Text.quoted value
  | missingValue s => "argument " ++ s.display ++ ": expected one argument"
  | missingInput => "the following arguments are required: input"
  | unrecognized words => "unrecognized arguments: " ++ " ".intercalate words

/-! ## Classifying words -/

/-- What stands before the first equals sign of a word, and what stands after it if there is
one. -/
def splitAtEquals (w : List Char) : List Char × Option (List Char) :=
  (w.takeWhile (· != '='), (w.dropWhile (· != '=')).tail?)

/-- Whether a spelling has one dash. -/
def isShort : List Char → Bool
  | '-' :: '-' :: _ => false
  | _ => true

/-- The options that a word may mean that is not spelled like one: with two dashes those it is
the beginning of, with one dash that of its first letter. -/
def candidates (w : List Char) : List (String × Word) :=
  if isShort w then
    (spellings.filter fun e => e.1.toList == w.take 2).map fun e =>
      (e.1, .option e.2 true (some (String.ofList (w.drop 2))))
  else
    let (name, value) := splitAtEquals w
    (spellings.filter fun e => name.isPrefixOf e.1.toList).map fun e =>
      (e.1, .option e.2 false (value.map String.ofList))

/-- Whether characters are decimal digits, of which there is at least one. -/
def isDigits (cs : List Char) : Bool := !cs.isEmpty && cs.all Unicode.isDecimalDigit

/-- Whether a word is a negative number, after which one line feed may stand. -/
def isNegativeNumber : List Char → Bool
  | '-' :: cs =>
    let cs := if cs.getLast? = some '\n' then cs.dropLast else cs
    isDigits cs ||
      match cs.dropWhile Unicode.isDecimalDigit with
      | '.' :: places => isDigits places
      | _ => false
  | _ => false

/-- The option that a word or the part before its equals sign spells in full. -/
def spelled? (w : String) : Option Word :=
  match spellings.lookup w with
  | some s => some (.option s (isShort w.toList) none)
  | none =>
    let (name, value) := splitAtEquals w.toList
    match value, spellings.lookup (String.ofList name) with
    | some v, some s => some (.option s (isShort name) (some (String.ofList v)))
    | _, _ => none

/-- What a word is that is not the separator. -/
def classify (w : String) : Except UsageFault Word :=
  if w.toList.head? ≠ some '-' ∨ w = "-" then .ok (.operand w)
  else match spelled? w with
    | some word => .ok word
    | none =>
      match candidates w.toList with
      | [(_, word)] => .ok word
      | [] =>
        if isNegativeNumber w.toList || w.toList.contains ' ' then .ok (.operand w)
        else .ok (.unknown w)
      | several => .error (.ambiguous w (several.map Prod.fst))

/-- What the words of a command line are. -/
def classifyAll : List String → Except UsageFault (List Word)
  | [] => .ok []
  | w :: ws =>
    if w = "--" then .ok (.separator :: ws.map .operand)
    else do
      let word ← classify w
      return word :: (← classifyAll ws)

/-! ## Letting words take effect -/

/-- What a command line says about an option that takes a value. -/
inductive Choice where
  /-- Nothing. -/
  | absent
  /-- The option with two dashes for a value, which are dropped: it overrides and sets nothing. -/
  | dropped
  /-- The option with a value. -/
  | value (s : String)
  deriving DecidableEq, Repr

namespace Choice

/-- The choice that a text makes. Two dashes are dropped as argument parsers of release 3.11 do
before 3.11.10, which keeps them as a value. -/
def ofText (s : String) : Choice := if s = "--" then dropped else value s

/-- The value that is chosen. -/
def value? : Choice → Option String
  | value s => some s
  | _ => none

end Choice

/-- What a command line asks for. -/
structure Arguments where
  /-- The file to be scanned. -/
  input : String
  /-- The file to be written. -/
  output : Choice
  /-- The configuration file. -/
  config : Choice
  /-- Whether to leave whitespace out, if that is said. -/
  skipWhitespace : Option Bool
  /-- Whether to refuse unknown characters, if that is said. -/
  strict : Option Bool
  deriving DecidableEq, Repr

/-- The reasons why nothing is to be scanned. -/
inductive Stop where
  /-- The help is asked for. -/
  | help
  /-- The command line is refused. -/
  | refused (f : UsageFault)
  deriving DecidableEq, Repr

/-- What the words so far ask for. -/
structure Progress where
  /-- The first operand. -/
  input : Option String
  /-- The file to be written. -/
  output : Choice
  /-- The configuration file. -/
  config : Choice
  /-- Whether to leave whitespace out. -/
  skipWhitespace : Option Bool
  /-- Whether to refuse unknown characters. -/
  strict : Option Bool
  /-- The words of no use. -/
  extras : List String

namespace Progress

/-- Nothing asked for yet. -/
def start : Progress := ⟨none, .absent, .absent, none, none, []⟩

/-- Let an option take effect, with the text of its value if it takes one. -/
def set (p : Progress) (s : Switch) (text : String) : Progress :=
  match s with
  | .help => p
  | .output => { p with output := .ofText text }
  | .config => { p with config := .ofText text }
  | .skipWhitespace on => { p with skipWhitespace := some on }
  | .strict on => { p with strict := some on }

/-- Note words of no use. -/
def reject (p : Progress) (words : List String) : Progress :=
  { p with extras := p.extras ++ words }

end Progress

/-- The text of an operand. -/
def Word.operand? : Word → Option String
  | operand s => some s
  | _ => none

/-- What the characters mean that are attached to the letter of the help: each is the letter of
an option of its own, up to the one that takes the characters after it for its value. The help
is shown unless one of them is refused. -/
def stopAtCluster (next : List Word) : List Char → Stop
  | [] => .help
  | 'h' :: cs => stopAtCluster next cs
  | ['o'] =>
    match next with
    | .operand _ :: _ => .help
    | _ => .refused (.missingValue .output)
  | 'o' :: _ => .help
  | cs => .refused (.ignoredValue .help (String.ofList cs))

/-- Let words take effect from left to right. The separator is dropped if it stands directly
before or after the operand that becomes the input. -/
def consume (p : Progress) : List Word → Except Stop Progress
  | [] => .ok p
  | .separator :: ws =>
    match p.input, ws.filterMap Word.operand? with
    | none, s :: rest => .ok ({ p with input := some s }.reject rest)
    | _, rest => .ok (p.reject ("--" :: rest))
  | .unknown s :: ws => consume (p.reject [s]) ws
  | .operand s :: ws =>
    if p.input.isSome then consume (p.reject [s]) ws
    else match ws with
      | .separator :: rest =>
        .ok ({ p with input := some s }.reject (rest.filterMap Word.operand?))
      | ws => consume { p with input := some s } ws
  | .option s _ none :: ws =>
    if s = .help then .error .help
    else if s.takesValue then
      match ws with
      | .operand value :: ws => consume (p.set s value) ws
      | _ => .error (.refused (.missingValue s))
    else consume (p.set s "") ws
  | .option s short (some text) :: ws =>
    if s.takesValue then consume (p.set s text) ws
    else if short && text != "" then .error (stopAtCluster ws text.toList)
    else .error (.refused (.ignoredValue s text))

/-- What a command line asks for, or why nothing is to be scanned. -/
def parse (argv : List String) : Except Stop Arguments := do
  let words ← (classifyAll argv).mapError .refused
  let p ← consume .start words
  match p.input with
  | none => .error (.refused .missingInput)
  | some input =>
    if p.extras = [] then
      return ⟨input, p.output, p.config, p.skipWhitespace, p.strict⟩
    else .error (.refused (.unrecognized p.extras))

end FrontEnd.Command
