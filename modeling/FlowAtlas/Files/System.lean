import FlowAtlas.Bytes
import FlowAtlas.Files.Error

/-!
# Access to files

What the rest of the library asks of a file system and a clock. `FileTree` answers from a value in
memory; a program answers from the disk.
-/

set_option autoImplicit false

namespace FlowAtlas

/-- What stands at a path. -/
inductive FileKind
  | file
  | directory
  deriving DecidableEq, Repr

/-- Operations on files. Relative paths start at the current directory. -/
class FileSystem (m : Type → Type) where
  /-- What stands at a path, if anything does. -/
  kind? : String → m (Option FileKind)
  /-- The contents of a file. -/
  read : String → m (Except FileError Bytes)
  /-- Give a file new contents, and make it if need be. -/
  write : String → Bytes → m (Except FileError Unit)
  /-- Take a file away. -/
  remove : String → m (Except FileError Unit)
  /-- Make a directory and every missing one above it. -/
  makeDirs : String → m (Except FileError Unit)
  /-- The names in a directory, in no particular order. A name need not be a text. -/
  entries : String → m (Except FileError (List Bytes))
  /-- The contents of the file of a name in a directory. -/
  readEntry : String → Bytes → m (Except FileError Bytes)
  /-- The absolute path without detours of what stands at a path. -/
  canonical : String → m (Except FileError String)
  /-- The absolute path of the current directory. -/
  currentDir : m String

/-- The time of day. -/
class Clock (m : Type → Type) where
  /-- The present moment, as records write it. -/
  now : m String

namespace FileSystem

variable {m : Type → Type} [Monad m] [FileSystem m]

/-- Whether a directory stands at a path. -/
def isDir (path : String) : m Bool := return (← kind? path) == some .directory

/-- Whether a file stands at a path. -/
def isFile (path : String) : m Bool := return (← kind? path) == some .file

/-- The contents of a file of text. -/
def readText (path : String) : m (Except FileError String) := do
  match ← read path with
  | .error e => return .error e
  | .ok bs =>
    match bs.text? with
    | some text => return .ok text
    | none => return .error .notText

end FileSystem
end FlowAtlas
