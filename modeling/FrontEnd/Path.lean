import FrontEnd.Text.Pieces

/-!
# Paths

A path is read once into its parts: empty parts and single dots say nothing and are dropped, and
double dots stay, because what they lead to is decided by the directories they pass through.
-/

namespace FrontEnd

/-- The path of a file or a directory. -/
structure Path where
  /-- The slashes of an absolute path; empty if the path is relative. -/
  root : String
  /-- The names that lead there. -/
  parts : List String
  deriving DecidableEq, Repr

namespace Path

/-- The slashes that make a path absolute: exactly two are kept, any other number counts as one. -/
def rootOf : List Char → String
  | '/' :: '/' :: '/' :: _ => "/"
  | '/' :: '/' :: _ => "//"
  | '/' :: _ => "/"
  | _ => ""

/-- The parts of a path that say something. -/
def partsOf (cs : List Char) : List String :=
  ((Text.pieces '/' cs).filter fun p => p != [] && p != ['.']).map String.ofList

/-- The path that a text spells. -/
def ofString (s : String) : Path := ⟨rootOf s.toList, partsOf s.toList⟩

/-- The text of a path; a path without parts is a single dot, or its root. -/
def display (p : Path) : String :=
  if p.root = "" ∧ p.parts = [] then "." else p.root ++ "/".intercalate p.parts

/-- Whether a path holds the null character, which no name of a file holds. -/
def hasNull (p : Path) : Bool := p.display.toList.contains '\x00'

/-- The path without its last part. -/
def parent (p : Path) : Path := { p with parts := p.parts.dropLast }

/-- The path of a name in the directory that a path leads to. -/
def child (p : Path) (name : String) : Path := { p with parts := p.parts ++ [name] }

end Path

end FrontEnd
