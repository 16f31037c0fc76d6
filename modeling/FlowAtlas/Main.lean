import Std.Time.DateTime.Timestamp
import FlowAtlas.Command.Run
import FlowAtlas.Moment
import FlowAtlas.Text.Lossy

/-!
# The program

Files on the disk, the clock of the machine, and `main`. What the program does is decided in
`runTool`; here its questions are answered and its output is printed.
-/

set_option autoImplicit false

namespace FlowAtlas

/-- A failure of an operation on the disk. -/
def FileError.ofSystem : IO.Error → FileError
  | .noFileOrDirectory .. => .notFound
  | .alreadyExists .. => .alreadyExists
  | .inappropriateType _ code words
  | .interrupted _ code words
  | .invalidArgument _ code words
  | .noSuchThing _ code words
  | .permissionDenied _ code words
  | .resourceExhausted _ code words
  | .hardwareFault code words
  | .illegalOperation code words
  | .otherError code words
  | .protocolError code words
  | .resourceBusy code words
  | .resourceVanished code words
  | .timeExpired code words
  | .unsatisfiedConstraints code words
  | .unsupportedOperation code words => .ofCode code.toNat words
  | .unexpectedEof => .other "unexpected end of file"
  | .userError words => .other words

/-- Try an operation on the disk. -/
def onDisk {α : Type} (operation : IO α) : IO (Except FileError α) := do
  match ← operation.toBaseIO with
  | .ok a => return .ok a
  | .error e => return .error (.ofSystem e)

instance : FileSystem IO where
  kind? path := do
    let place := (← IO.currentDir) / path
    if ← place.isDir then return some .directory
    else if ← place.pathExists then return some .file
    else return none
  read path := onDisk do
    return (← IO.FS.readBinFile ((← IO.currentDir) / path)).toList
  write path bs := onDisk do
    IO.FS.writeBinFile ((← IO.currentDir) / path) ⟨bs.toArray⟩
  remove path := onDisk do
    IO.FS.removeFile ((← IO.currentDir) / path)
  makeDirs path := onDisk do
    IO.FS.createDirAll ((← IO.currentDir) / path)
  entries path := onDisk do
    return (← ((← IO.currentDir) / path).readDir).toList.map fun e => Bytes.ofText e.fileName
  readEntry path name := onDisk do
    return (← IO.FS.readBinFile ((← IO.currentDir) / path / Text.lossy name)).toList
  canonical path := onDisk do
    return (← IO.FS.realPath ((← IO.currentDir) / path)).toString
  currentDir := return (← IO.currentDir).toString

instance : Clock IO where
  now := do
    let sinceStart := (← Std.Time.Timestamp.now).val
    return Moment.text ⟨sinceStart.second.val.toNat, sinceStart.nano.val.toNat⟩

end FlowAtlas

/-- Run the tool on the arguments of the program. -/
def main (arguments : List String) : IO UInt32 := do
  let outcome ← FlowAtlas.runTool (m := IO) arguments
  IO.print outcome.standardOutput
  IO.eprint outcome.standardError
  return UInt32.ofNat outcome.exitCode
