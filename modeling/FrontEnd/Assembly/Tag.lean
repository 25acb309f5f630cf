import FrontEnd.Datum
import FrontEnd.Token.Kind
import FrontEnd.Tree

/-!
# Tags

Terms and statements are created by a tag that names their kind. A caller may offer a tag of
another enumeration, or something that is no tag at all; the refusal shows what was offered,
unless showing it fails.
-/

namespace FrontEnd

/-- What a caller offers as the kind of a new node. -/
inductive Tag where
  /-- A kind of token. -/
  | token (k : TokenKind)
  /-- A kind of term. -/
  | term (k : TermKind)
  /-- A kind of statement. -/
  | statement (k : StatementKind)
  /-- An operator. -/
  | operator (op : BinaryOp)
  /-- Something that is no tag. -/
  | datum (d : Datum)

namespace Tag

/-- A member of an enumeration as messages show it, with its number counted from one. -/
def displayMember (enumeration name : String) (index : Nat) : String :=
  s!"<{enumeration}.{name}: {index + 1}>"

/-- A tag as messages show it. -/
def display : Tag → Except DisplayFault String
  | token k => .ok (displayMember "TokenKind" k.name (TokenKind.all.idxOf k))
  | term k => .ok (displayMember "TermKind" k.name (TermKind.all.idxOf k))
  | statement k => .ok (displayMember "StatementKind" k.name (StatementKind.all.idxOf k))
  | operator op => .ok (displayMember "BinaryOp" op.name (BinaryOp.all.idxOf op))
  | datum d => d.display

end Tag

/-- The ways in which the creation of a node is refused. -/
inductive CreationFault where
  /-- The tag, which is shown like this, is no kind of statement. -/
  | unexpectedStatementKind (shown : String)
  /-- The tag, which is shown like this, is no kind of term. -/
  | unexpectedTermKind (shown : String)
  /-- The tag is no kind of what was asked for, and cannot be shown. -/
  | unshown (f : DisplayFault)
  deriving DecidableEq, Repr

namespace CreationFault

/-- The wording of a refusal. -/
def message : CreationFault → String
  | unexpectedStatementKind shown => "unexpected statement kind: " ++ shown
  | unexpectedTermKind shown => "unexpected term kind: " ++ shown
  | unshown f => f.message

/-- Refuse a tag with a complaint that shows it. -/
def ofTag (complaint : String → CreationFault) (tag : Tag) : CreationFault :=
  match tag.display with
  | .ok shown => complaint shown
  | .error f => unshown f

end CreationFault

end FrontEnd
