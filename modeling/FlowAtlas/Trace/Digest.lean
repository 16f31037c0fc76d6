import FlowAtlas.Files.System
import FlowAtlas.Sha256
import FlowAtlas.Trace.Layout

/-!
# Digests of traces

The digest of several files is that of their contents one behind another. A trace has a digest when
all its files can be read.
-/

set_option autoImplicit false

namespace FlowAtlas

/-- Why files have no digest. -/
inductive DigestError
  | unopened (path : String) (cause : FileError)
  /-- The file can be opened and not read. -/
  | unread (path : String) (cause : FileError)
  deriving DecidableEq, Repr

namespace DigestError

/-- The wording of the failure, without what lies behind it. -/
def message : DigestError → String
  | unopened path _ => "Failed to open trace file for hashing: " ++ path
  | unread path _ => "Failed to read trace file for hashing: " ++ path

/-- The failure to read a file. A directory can be opened. -/
def ofFileError (path : String) (cause : FileError) : DigestError :=
  if cause = .isADirectory then unread path cause else unopened path cause

end DigestError

variable {m : Type → Type} [Monad m] [FileSystem m]

/-- The contents of files one behind another. The first that cannot be read is the answer. -/
def readAll : List String → m (Except DigestError Bytes)
  | [] => return .ok []
  | path :: rest => do
    match ← FileSystem.read path with
    | .error e => return .error (.ofFileError path e)
    | .ok bs => return (← readAll rest).map (bs ++ ·)

/-- The digest of files. -/
def digestFiles (paths : List String) : m (Except DigestError String) :=
  return (← readAll paths).map Sha256.hexDigest

/-- The digest of a trace, if it has one. -/
def TraceLayout.digest? (t : TraceLayout) : m (Option String) :=
  return (← digestFiles t.files).toOption

end FlowAtlas
