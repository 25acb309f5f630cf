import FrontEnd.Path
import FrontEnd.Text.Quoted

/-!
# Files

The few operations on files that a program needs, and files held in memory. A path is followed
part by part: a part can only be looked up in a directory, and double dots lead to the directory
above, whichever way the present one was reached. Names and paths are bounded in length, and a
path with the null character is refused before anything is looked up.
-/

namespace FrontEnd

/-- The ways in which an operation on a file fails. -/
inductive FileFault.Cause where
  /-- Nothing stands at the path, or on the way to it. -/
  | notFound
  /-- Something on the way to the path is not a directory. -/
  | notADirectory
  /-- A directory stands at the path. -/
  | isADirectory
  /-- The path is too long, or a name in it that would have to be looked up. -/
  | nameTooLong
  /-- The path holds the null character. -/
  | nullCharacter
  deriving DecidableEq, Repr

/-- A failure of an operation on a file. -/
structure FileFault where
  /-- What is wrong. -/
  cause : FileFault.Cause
  /-- The path that was asked for. -/
  path : Path
  deriving DecidableEq, Repr

namespace FileFault

/-- The number of a cause, if files have to be looked at to find it. -/
def Cause.number? : Cause → Option Nat
  | notFound => some 2
  | notADirectory => some 20
  | isADirectory => some 21
  | nameTooLong => some 36
  | nullCharacter => none

/-- The wording of a cause. -/
def Cause.reason : Cause → String
  | notFound => "No such file or directory"
  | notADirectory => "Not a directory"
  | isADirectory => "Is a directory"
  | nameTooLong => "File name too long"
  | nullCharacter => "embedded null byte"

/-- The message about a failure. -/
def message (f : FileFault) : String :=
  match f.cause.number? with
  | some n => s!"[Errno {n}] " ++ f.cause.reason ++ ": " ++ Text.quoted f.path.display
  | none => f.cause.reason

end FileFault

/-- The operations on files that a program needs. -/
structure FileAccess (m : Type → Type) where
  /-- Whether a file, and not a directory, stands at a path. -/
  isFile : Path → m (Except FileFault Bool)
  /-- The bytes of the file at a path. -/
  read : Path → m (Except FileFault (List UInt8))
  /-- Make these bytes the whole content of the file at a path, new or not. -/
  write : Path → List UInt8 → m (Except FileFault Unit)

/-- Where a place is counted from. -/
inductive Base where
  /-- A number of directories above the working directory. -/
  | above (levels : Nat)
  /-- The root of all directories. -/
  | root
  deriving DecidableEq, Repr

/-- A place where a file or a directory may stand. -/
structure Place where
  /-- Where the place is counted from. -/
  base : Base
  /-- The names that lead down to it. -/
  names : List String
  deriving DecidableEq, Repr

namespace Place

/-- The place where a path starts. -/
def start (p : Path) : Place :=
  if p.root = "" then ⟨.above 0, []⟩ else ⟨.root, []⟩

/-- The directory above. -/
def up : Place → Place
  | ⟨.above levels, []⟩ => ⟨.above (levels + 1), []⟩
  | ⟨.root, []⟩ => ⟨.root, []⟩
  | ⟨base, names⟩ => ⟨base, names.dropLast⟩

/-- The place that a part of a path leads to. -/
def follow (p : Place) (part : String) : Place :=
  if part = ".." then p.up else { p with names := p.names ++ [part] }

end Place

/-- What stands at a place. -/
inductive Entry where
  /-- A file with its bytes. -/
  | file (bytes : List UInt8)
  /-- A directory. -/
  | directory
  deriving DecidableEq, Repr

/-- Files and directories held in memory, the latest first. -/
structure FileSystem where
  /-- What stands where; of two entries for one place the first counts. -/
  entries : List (Place × Entry)
  deriving DecidableEq, Repr

namespace FileSystem

/-- The file system of an empty working directory. -/
def empty : FileSystem := ⟨[]⟩

/-- What stands at a place. The working directory and those above it are always there. -/
def find? (fs : FileSystem) (p : Place) : Option Entry :=
  if p.names = [] then some .directory else fs.entries.lookup p

/-- Let an entry stand at a place. -/
def put (fs : FileSystem) (p : Place) (e : Entry) : FileSystem := ⟨(p, e) :: fs.entries⟩

/-- The greatest number of bytes of a name. -/
def maxNameBytes : Nat := 255

/-- The greatest number of bytes of a path. -/
def maxPathBytes : Nat := 4095

/-- The place that the parts of a path lead to, if all but the last of them are directories. -/
def resolveFrom (fs : FileSystem) (here : Place) : List String → Except FileFault.Cause Place
  | [] => .ok here
  | part :: parts =>
    match fs.find? here with
    | some .directory =>
      if maxNameBytes < part.utf8ByteSize then .error .nameTooLong
      else fs.resolveFrom (here.follow part) parts
    | some (.file _) => .error .notADirectory
    | none => .error .notFound

/-- The place that a path leads to. -/
def resolve (fs : FileSystem) (p : Path) : Except FileFault Place :=
  if p.hasNull then .error ⟨.nullCharacter, p⟩
  else if maxPathBytes < p.display.utf8ByteSize then .error ⟨.nameTooLong, p⟩
  else (fs.resolveFrom (Place.start p) p.parts).mapError (⟨·, p⟩)

/-- Whether a file stands at a path. Where nothing can be found there is no file, but a path that
is too long is refused. -/
def isFile (fs : FileSystem) (p : Path) : Except FileFault Bool :=
  match (fs.resolve p).map fs.find? with
  | .ok (some (.file _)) => .ok true
  | .error ⟨.nameTooLong, p⟩ => .error ⟨.nameTooLong, p⟩
  | _ => .ok false

/-- The bytes of the file at a path. -/
def read (fs : FileSystem) (p : Path) : Except FileFault (List UInt8) := do
  let place ← fs.resolve p
  match fs.find? place with
  | some (.file bytes) => .ok bytes
  | some .directory => .error ⟨.isADirectory, p⟩
  | none => .error ⟨.notFound, p⟩

/-- The files after a file was written, new or not. -/
def write (fs : FileSystem) (p : Path) (bytes : List UInt8) : Except FileFault FileSystem := do
  let place ← fs.resolve p
  match fs.find? place with
  | some .directory => .error ⟨.isADirectory, p⟩
  | _ => .ok (fs.put place (.file bytes))

/-- The files with a directory at a path, and the directories on the way to it. -/
def makeDirectories (fs : FileSystem) (p : Path) : FileSystem :=
  (p.parts.foldl (fun (fs, here) part =>
    let next := Place.follow here part
    (if (fs.find? next).isSome then fs else fs.put next .directory, next))
    (fs, Place.start p)).1

/-- The files with another one at a path, and the directories on the way to it. -/
def makeFile (fs : FileSystem) (p : Path) (bytes : List UInt8) : FileSystem :=
  let fs := fs.makeDirectories p.parent
  match fs.write p bytes with
  | .ok after => after
  | .error _ => fs

/-- Access to files held in memory. -/
def access : FileAccess (StateM FileSystem) where
  isFile p := return (← get).isFile p
  read p := return (← get).read p
  write p bytes := do
    match (← get).write p bytes with
    | .ok after => set after; return .ok ()
    | .error e => return .error e

/-- The places that hold another file after than before, with its bytes. -/
def changes (before after : FileSystem) : List (Place × List UInt8) :=
  (after.entries.map Prod.fst).eraseDups.filterMap fun p =>
    match after.find? p with
    | some (.file bytes) => if before.find? p = some (.file bytes) then none else some (p, bytes)
    | _ => none

end FileSystem

end FrontEnd
