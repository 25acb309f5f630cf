import FrontEnd.Command

/-!
# Running the command

The command on the files of the machine. Failures it has no wording for are shown as they come.
-/

namespace FrontEnd.Command

/-- The outcome of an action on a file, with the failures the command knows as values. -/
def attempt {α : Type} (p : Path) (action : IO α) : IO (Except FileFault α) := do
  if p.hasNull then return .error ⟨.nullCharacter, p⟩
  try
    return .ok (← action)
  catch
    | .invalidArgument file code reason =>
      if code = 36 ∨ code = -36 then return .error ⟨.nameTooLong, p⟩
      else throw (.invalidArgument file code reason)
    | .noFileOrDirectory _ _ _ => return .error ⟨.notFound, p⟩
    | .inappropriateType file code reason =>
      if code = 20 ∨ code = -20 then return .error ⟨.notADirectory, p⟩
      else if code = 21 ∨ code = -21 then return .error ⟨.isADirectory, p⟩
      else throw (.inappropriateType file code reason)
    | e => throw e

/-- Access to the files of the machine. -/
def disk : FileAccess IO where
  isFile p := do
    match ← attempt p (IO.FS.readBinFile p.display) with
    | .ok _ => return .ok true
    | .error ⟨.nameTooLong, p⟩ => return .error ⟨.nameTooLong, p⟩
    | .error _ => return .ok false
  read p := attempt p do return (← IO.FS.readBinFile p.display).toList
  write p bytes := attempt p (IO.FS.writeBinFile p.display ⟨bytes.toArray⟩)

/-- A reader of configurations that says no more than that a text is none. -/
def ownReader : Toml.Reader := ⟨fun _ => 900, fun _ => "not a document"⟩

end FrontEnd.Command

/-- Run the command, and report what it leaves to say. -/
def main (argv : List String) : IO UInt32 := do
  try
    let report ← FrontEnd.Command.run FrontEnd.Command.ownReader FrontEnd.Command.disk argv
    IO.print report.stdout
    IO.eprint report.stderr
    match report.ending with
    | .exit code => return code.toUInt32
    | .undecodable f =>
      IO.eprintln f.message
      return 1
    | .unreadable f =>
      IO.eprintln f.message
      return 1
    | .longInteger digits =>
      IO.eprintln (FrontEnd.Text.LongNumeral.read digits).message
      return 1
    | .tooDeep =>
      IO.eprintln "maximum recursion depth exceeded"
      return 1
  catch e =>
    IO.eprintln s!"error: {e}"
    return 2
