import FrontEnd.Tokenize

/-!
# Diagnostics for editors

Every character that begins no token is reported as a warning, in the order of the text. Lines
and columns are counted from zero, columns in characters. An editor sends the whole text of a
document whenever it is opened or changed, and gets its diagnostics each time. The documents are
kept by a workspace, which is asked for the text by name.
-/

namespace FrontEnd

/-- A place in a document, counted from zero. -/
structure DocumentPosition where
  /-- The line. -/
  line : Int
  /-- The number of characters before it on its line. -/
  character : Int
  deriving DecidableEq, Repr

/-- A remark about a stretch of a document. -/
structure Diagnostic where
  /-- Where the stretch starts. -/
  start : DocumentPosition
  /-- Where the stretch ends. -/
  stop : DocumentPosition
  /-- What is remarked. -/
  message : String
  /-- How grave it is, by number. -/
  severity : Nat
  /-- Who remarks it. -/
  source : String
  deriving DecidableEq, Repr

namespace Diagnostic

/-- The name under which remarks are made. -/
def sourceName : String := "simpledsl"

/-- The number of a warning. -/
def warning : Nat := 2

/-- The remark about a token that could not be classified; one character is marked. -/
def ofUnknown (t : Token) : Diagnostic :=
  let line := t.span.start.line - 1
  let character := t.span.start.column - 1
  ⟨⟨line, character⟩, ⟨line, character + 1⟩, unknownCharacter t.raw, warning, sourceName⟩

/-- The remarks about a text. -/
def ofText (text : String) : List Diagnostic :=
  ((Scanner.ofSource text).drain.1.filter fun t => t.kind = .unknown).map ofUnknown

end Diagnostic

/-- What an editor tells about a document. -/
inductive DocumentEvent where
  /-- The document was opened with this text. -/
  | opened (uri text : String)
  /-- The whole text of the document was replaced. -/
  | changed (uri text : String)
  deriving DecidableEq, Repr

namespace DocumentEvent

/-- The document that an event is about. -/
def uri : DocumentEvent → String
  | opened u _ => u
  | changed u _ => u

/-- The text of the document after the event. -/
def text : DocumentEvent → String
  | opened _ t => t
  | changed _ t => t

end DocumentEvent

/-- The diagnostics published for a document. -/
structure Publication where
  /-- The document. -/
  uri : String
  /-- The remarks about its text. -/
  diagnostics : List Diagnostic
  deriving DecidableEq, Repr

/-- What the server's workspace says, after some events, that the text of each document is. -/
abbrev Workspace := List DocumentEvent → String → String

/-- The workspace hands back the text of the latest event for the document of that event. -/
def Workspace.HandsBack (workspace : Workspace) : Prop :=
  ∀ (earlier : List DocumentEvent) (e : DocumentEvent), workspace (earlier ++ [e]) e.uri = e.text

/-- Scan a document, whose text is looked up by its name, and publish its diagnostics. -/
def validate (textOf : String → String) (uri : String) : Publication :=
  ⟨uri, Diagnostic.ofText (textOf uri)⟩

/-- What is published for an event: a document is validated when it is opened and when it is
changed. -/
def DocumentEvent.publication (textOf : String → String) : DocumentEvent → Publication
  | opened uri _ => validate textOf uri
  | changed uri _ => validate textOf uri

/-- What is published for each of some events, by what the workspace says after it. -/
def publications (workspace : Workspace) (events : List DocumentEvent) : List Publication :=
  events.mapIdx fun i e => e.publication (workspace (events.take (i + 1)))

/-- What is published for an event is made of its own document and text. -/
theorem Workspace.HandsBack.publications_eq {workspace : Workspace} (h : workspace.HandsBack)
    (events : List DocumentEvent) :
    publications workspace events = events.map fun e => ⟨e.uri, Diagnostic.ofText e.text⟩ := by
  refine List.ext_getElem (by simp [publications]) fun i hi _ => ?_
  have hlt : i < events.length := by simpa [publications] using hi
  have htext : workspace (events.take (i + 1)) events[i].uri = events[i].text := by
    rw [← List.take_append_getElem hlt]
    exact h _ _
  have hpublication (textOf : String → String) (e : DocumentEvent) :
      e.publication textOf = ⟨e.uri, Diagnostic.ofText (textOf e.uri)⟩ := by cases e <;> rfl
  simp only [publications, List.getElem_mapIdx, List.getElem_map, hpublication, htext]

end FrontEnd
