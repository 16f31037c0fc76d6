import FlowAtlas.Files.Error
import FlowAtlas.Files.Path

/-!
# The files of a trace

A trace is four files in one directory, which share the name of the process and differ in what
follows it. `TraceLayout.ofEntries` finds the one process that has a module log among the names in a
directory.
-/

set_option autoImplicit false

namespace FlowAtlas

/-- Why a directory holds no single trace. -/
inductive TraceLayoutError
  | missingDir (path : String)
  | io (path : String) (cause : FileError)
  | noModuleLog (path : String)
  | ambiguousModuleLog (dir : String) (candidates : List String)
  deriving DecidableEq, Repr

/-- The wording of the fault. -/
def TraceLayoutError.message : TraceLayoutError → String
  | missingDir path => "trace directory not found: " ++ path
  | io path cause => "failed to list trace directory " ++ path ++ ": " ++ cause.message
  | noModuleLog path => "no *.module.log file in " ++ path
  | ambiguousModuleLog dir candidates =>
    "several module logs in " ++ dir ++ ": " ++ ", ".intercalate candidates

/-- The files of one trace. -/
structure TraceLayout where
  process : String
  dir : String
  moduleLog : String
  blockStream : String
  edgeStream : String
  crossModuleStream : String
  deriving DecidableEq, Repr, Inhabited

namespace TraceLayout

/-- What follows the process name in the name of a module log. -/
def logEnding : String := ".module.log"

/-- The files of a process in a directory, whether they exist or not. -/
def new (dir process : String) : TraceLayout where
  process := process
  dir := dir
  moduleLog := Path.join dir (process ++ logEnding)
  blockStream := Path.join dir (process ++ ".block.dat")
  edgeStream := Path.join dir (process ++ ".edge.dat")
  crossModuleStream := Path.join dir (process ++ ".cross-module.dat")

/-- The four files, the module log first. -/
def files (t : TraceLayout) : List String :=
  [t.moduleLog, t.blockStream, t.edgeStream, t.crossModuleStream]

/-- The process whose module log has this name. -/
def processOf? (name : String) : Option String :=
  let ending := logEnding.toList
  if ending.isSuffixOf name.toList && ending.length < name.toList.length then
    some (String.ofList (name.toList.take (name.toList.length - ending.length)))
  else none

/-- The one trace among the names in a directory. -/
def ofEntries (dir : String) (entries : List String) : Except TraceLayoutError TraceLayout :=
  match (entries.filterMap processOf?).mergeSort fun a b => decide (a ≤ b) with
  | [] => .error (.noModuleLog dir)
  | [process] => .ok (.new dir process)
  | candidates => .error (.ambiguousModuleLog dir candidates)

end TraceLayout
end FlowAtlas
