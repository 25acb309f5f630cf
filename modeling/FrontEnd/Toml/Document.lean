import FrontEnd.Toml.Scalar

/-!
# TOML documents

A document is a list of statements: headers that open a table or add one to an array of tables,
and pairs of a key and a value that fill the table opened last. What was written out once may
not be written again: a table has one header, the tables that a dotted key passes through have
none, and a value is closed when it ends. These rules are kept as marks on keys.
-/

namespace FrontEnd.Toml

/-- What a mark forbids. -/
inductive Mark where
  /-- The key and all below it belong to a value that is closed. -/
  | closed
  /-- The key has been opened and gets no header any more. -/
  | opened
  deriving DecidableEq, Repr

/-- The marks set so far, each on a key. -/
abbrev Marks := List (List String × Mark)

/-- Whether a key lies in a closed value. -/
def Marks.isClosed (marks : Marks) (key : List String) : Bool :=
  marks.any fun m => m.2 == .closed && m.1.isPrefixOf key

/-- Whether a key has been opened. -/
def Marks.isOpened (marks : Marks) (key : List String) : Bool :=
  marks.any fun m => m.2 == .opened && m.1 == key

/-- The marks without those on a key and below it. -/
def Marks.clear (marks : Marks) (key : List String) : Marks :=
  marks.filter fun m => !key.isPrefixOf m.1

/-- Change the table that a key leads to; tables on the way are created, and with `intoArrays` an
array of tables leads to its last table. -/
def updateAt? (intoArrays : Bool) (change : Table → Option Table) :
    List String → Table → Option Table
  | [], t => change t
  | name :: names, t =>
    match t.get? name with
    | none => (updateAt? intoArrays change names []).map fun u => t.set name (.table u)
    | some (.table u) => (updateAt? intoArrays change names u).map fun u => t.set name (.table u)
    | some (.array items) =>
      match intoArrays, items.getLast? with
      | true, some (.table u) =>
        (updateAt? intoArrays change names u).map fun u =>
          t.set name (.array (items.dropLast ++ [.table u]))
      | _, _ => none
    | some _ => none

/-- Add a pair to a table, if the name is new. -/
def addPair? (name : String) (v : Value) (t : Table) : Option Table :=
  if (t.get? name).isSome then none else some (t.set name v)

/-- Add an empty table to the array of that name, which is created if need be. -/
def addToArray? (name : String) (t : Table) : Option Table :=
  match t.get? name with
  | none => some (t.set name (.array [.table []]))
  | some (.array items) => some (t.set name (.array (items ++ [.table []])))
  | some _ => none

/-! ## Values -/

mutual

/-- A value, with room for so many nested calls: an array takes two for its items, and an inline
table three. The bound on the number of steps is never reached if it is more than twice the length
of the text. -/
def valueWithin : Nat → Nat → List Char → Except Fault (Value × List Char)
  | 0, _, _ => .error .malformed
  | steps + 1, room, cs =>
    match cs with
    | '"' :: _ => (require (string? cs)).map fun (s, rest) => (.text (String.ofList s), rest)
    | '\'' :: _ => (require (string? cs)).map fun (s, rest) => (.text (String.ofList s), rest)
    | 't' :: 'r' :: 'u' :: 'e' :: rest => .ok (.bool true, rest)
    | 'f' :: 'a' :: 'l' :: 's' :: 'e' :: rest => .ok (.bool false, rest)
    | '[' :: rest =>
      match dropFiller? false rest with
      | none => .error .malformed
      | some (']' :: rest) => .ok (.array [], rest)
      | some rest =>
        if room < 2 then .error .tooDeep
        else (itemsWithin steps (room - 2) rest).map fun (items, rest) => (.array items, rest)
    | '{' :: rest =>
      match dropBlanks rest with
      | '}' :: rest => .ok (.table [], rest)
      | rest =>
        if room < 3 then .error .tooDeep
        else (pairsWithin steps (room - 3) [] [] rest).map fun (t, rest) => (.table t, rest)
    | _ => scalar cs

/-- The items of an array and its end; a comma may stand before the end. -/
def itemsWithin : Nat → Nat → List Char → Except Fault (List Value × List Char)
  | 0, _, _ => .error .malformed
  | steps + 1, room, cs => do
    let (v, rest) ← valueWithin steps room cs
    match ← require (dropFiller? false rest) with
    | ']' :: rest => return ([v], rest)
    | ',' :: rest =>
      match ← require (dropFiller? false rest) with
      | ']' :: rest => return ([v], rest)
      | rest =>
        let (vs, rest) ← itemsWithin steps room rest
        return (v :: vs, rest)
    | _ => .error .malformed

/-- The pairs of an inline table and its end, on one line; no comma may stand before the end. -/
def pairsWithin : Nat → Nat → Marks → Table → List Char → Except Fault (Table × List Char)
  | 0, _, _, _, _ => .error .malformed
  | steps + 1, room, marks, t, cs => do
    let (key, rest) ← require (key? cs)
    let (v, rest) ← valueWithin steps room (dropBlanks (← require (expect? '=' rest)))
    if marks.isClosed key then .error .malformed
    else
      let t ← require (updateAt? false (addPair? (key.getLast?.getD "") v) key.dropLast t)
      match dropBlanks rest with
      | '}' :: rest => return (t, rest)
      | ',' :: rest =>
        let marks := if v.isContainer then (key, Mark.closed) :: marks else marks
        pairsWithin steps room marks t (dropBlanks rest)
      | _ => .error .malformed

end

/-- A value, with room for so many nested calls. -/
def value (room : Nat) (cs : List Char) : Except Fault (Value × List Char) :=
  valueWithin (2 * cs.length + 1) room cs

/-! ## Statements -/

/-- A document that has been read in part. -/
structure Document where
  /-- What has been written. -/
  root : Table
  /-- The key of the table opened last. -/
  header : List String
  /-- The marks on keys. -/
  marks : Marks
  /-- The keys to be marked as opened when the next header comes. -/
  pending : List (List String)

namespace Document

/-- The document before its first statement. -/
def empty : Document := ⟨[], [], [], []⟩

/-- Mark the keys that wait for the next header. -/
def settle (d : Document) : Document :=
  { d with marks := d.pending.map (·, .opened) ++ d.marks, pending := [] }

/-- Open a table. -/
def openTable? (d : Document) (key : List String) : Option Document := do
  if d.marks.isOpened key || d.marks.isClosed key then none
  else
    let root ← updateAt? true some key d.root
    return { d with root := root, header := key, marks := (key, .opened) :: d.marks }

/-- Add a table to an array of tables and open it. -/
def openItem? (d : Document) (key : List String) : Option Document := do
  if d.marks.isClosed key then none
  else
    let root ← updateAt? true (addToArray? (key.getLast?.getD "")) key.dropLast d.root
    return { d with root := root, header := key, marks := (key, .opened) :: d.marks.clear key }

/-- The keys of the tables that a dotted key passes through, below the table that is open. -/
def passedKeys (d : Document) (key : List String) : List (List String) :=
  (List.range (key.length - 1)).map fun i => d.header ++ key.take (i + 1)

/-- Add a pair to the table that is open. -/
def addPair? (d : Document) (key : List String) (v : Value) : Option Document := do
  let passed := d.passedKeys key
  let parent := d.header ++ key.dropLast
  if passed.any d.marks.isOpened || d.marks.isClosed parent then none
  else
    let root ← updateAt? true (Toml.addPair? (key.getLast?.getD "") v) parent d.root
    let marks := if v.isContainer then (d.header ++ key, Mark.closed) :: d.marks else d.marks
    return { d with root := root, marks := marks, pending := passed ++ d.pending }

/-- Read one statement; a comment is no statement and is left to be dropped. -/
def statement (room : Nat) (d : Document) : List Char → Except Fault (Document × List Char)
  | '#' :: cs => .ok (d, '#' :: cs)
  | '[' :: '[' :: cs => require do
    let (key, rest) ← key? (dropBlanks cs)
    let d ← d.settle.openItem? key
    return (d, ← expect? ']' (← expect? ']' rest))
  | '[' :: cs => require do
    let (key, rest) ← key? (dropBlanks cs)
    let d ← d.settle.openTable? key
    return (d, ← expect? ']' rest)
  | cs => do
    let (key, rest) ← require (key? cs)
    let (v, rest) ← value room (dropBlanks (← require (expect? '=' rest)))
    return (← require (d.addPair? key v), rest)

/-- Read the statements that are left, one on a line. -/
def statements (room : Nat) : Nat → Document → List Char → Except Fault Document
  | 0, d, _ => .ok d
  | lines + 1, d, cs =>
    match dropBlanks cs with
    | [] => .ok d
    | '\n' :: rest => statements room lines d rest
    | cs => do
      let (d, rest) ← d.statement room cs
      match ← require (dropComment? (dropBlanks rest)) with
      | [] => return d
      | '\n' :: rest => statements room lines d rest
      | _ => .error .malformed

end Document

/-- The text with every carriage return left out that a line feed follows. -/
def joinLineEnds : List Char → List Char
  | [] => []
  | '\r' :: '\n' :: cs => '\n' :: joinLineEnds cs
  | c :: cs => c :: joinLineEnds cs

/-- The table that a document describes, or the first fault in it, with room for so many nested
calls. -/
def parse (room : Nat) (source : String) : Except Fault Table :=
  let cs := joinLineEnds source.toList
  (Document.statements room (cs.length + 1) .empty cs).map Document.root

/-- What a reader of documents adds of its own: how much nesting it stands, and its wording. -/
structure Reader where
  /-- The number of nested calls that the stack has room for while a value of the text is read. It
  may differ from text to text, as the innermost value takes room as well. -/
  room : String → Nat
  /-- How it is worded that a text is not formed as a document. -/
  wording : String → String

end FrontEnd.Toml
