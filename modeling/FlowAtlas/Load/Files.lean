import FlowAtlas.Cluster.Export
import FlowAtlas.Files.System
import FlowAtlas.Load.Basic
import FlowAtlas.Text.Lossy

/-!
# Traces, cluster files and exports on disk

What leads from files to the values that the rest of the library works on, and back: finding and
reading a trace, reading a directory of cluster files, and writing exported clusters.
-/

set_option autoImplicit false

namespace FlowAtlas

variable {m : Type → Type} [Monad m] [FileSystem m]

/-! ## Traces -/

/-- Find the one trace in a directory. -/
def TraceLayout.discover (dir : String) : m (Except TraceLayoutError TraceLayout) := do
  unless ← FileSystem.isDir dir do return .error (.missingDir dir)
  match ← FileSystem.entries dir with
  | .error e => return .error (.io dir e)
  | .ok names => return ofEntries dir (names.filterMap Bytes.text?)

/-- The files of a trace that are missing. -/
def TraceLayout.missingFiles (t : TraceLayout) : m (List String) := do
  let present ← t.files.mapM fun path => FileSystem.isFile path
  return ((t.files.zip present).filter (!·.2)).map (·.1)

/-- Read a file of a trace. -/
def TraceFile.ofPath (path : String) : m TraceFile := return ⟨path, ← FileSystem.read path⟩

/-- Read the files of a trace. -/
def TraceFiles.ofLayout (t : TraceLayout) : m TraceFiles :=
  return {
    process := t.process
    moduleLog := ← TraceFile.ofPath t.moduleLog
    blockStream := ← TraceFile.ofPath t.blockStream
    edgeStream := ← TraceFile.ofPath t.edgeStream
    crossModuleStream := ← TraceFile.ofPath t.crossModuleStream }

/-- Load the trace at a layout. -/
def TraceLayout.load (config : ClusterConfig) (t : TraceLayout) : m LoadOutcome :=
  return (← TraceFiles.ofLayout t).load config

/-- Load the one trace in a directory. -/
def TraceLayout.loadDir (config : ClusterConfig) (dir : String) : m LoadOutcome := do
  match ← discover dir with
  | .error e => return ⟨.error (.layout e), []⟩
  | .ok t => t.load config

/-! ## Cluster files -/

namespace ClusterConfig

/-- The extension of cluster files. -/
def fileExtension : Bytes := Bytes.ofText "asd"

/-- Read the spec in the file of a name, which is the name of the cluster but for the extension. -/
def readSpec (dir : String) (name : Bytes) : m (Except ConfigError ClusterSpec) := do
  let path := Path.join dir (Text.lossy name)
  match ← FileSystem.readEntry dir name with
  | .error e => return .error (.io path e)
  | .ok bs =>
    match bs.text? with
    | none => return .error (.io path .notText)
    | some text =>
      return ClusterSpec.ofText ((Bytes.text? (Path.splitExtension 0x2e name).1).getD "") text

/-- Read the specs in files one after another. -/
def readSpecs (dir : String) : List Bytes → m (Except ConfigError (List ClusterSpec))
  | [] => return .ok []
  | name :: rest => do
    match ← readSpec dir name with
    | .error e => return .error e
    | .ok spec => return (← readSpecs dir rest).map (spec :: ·)

/-- Read the configuration in a directory: every cluster file counts, other files do not. -/
def ofDir (dir default : String) : m (Except ConfigError ClusterConfig) := do
  unless ← FileSystem.isDir dir do return .error (.missingDir dir)
  match ← FileSystem.entries dir with
  | .error e => return .error (.io dir e)
  | .ok names =>
    let names := names.filter fun name => (Path.splitExtension 0x2e name).2 == some fileExtension
    return (← readSpecs dir names) >>= (ofSpecs · default)

end ClusterConfig

/-! ## Exports -/

/-- An export that was written, and where. -/
structure ExportedCluster where
  cluster : String
  nodes : Nat
  edges : Nat
  modules : List String
  truncatedTags : Nat
  paths : ExportPaths
  deriving DecidableEq, Repr, Inhabited

/-- Write files one after another. The first that fails is the answer. -/
def writeFiles : List (String × Bytes) → m (Except ExportError Unit)
  | [] => return .ok ()
  | (path, bs) :: rest => do
    match ← FileSystem.write path bs with
    | .error e => return .error (.io path e)
    | .ok () => writeFiles rest

/-- Write the three files of a cluster into a directory. -/
def Cluster.export (units : UnitTable) (dir : String) (c : Cluster) :
    m (Except ExportError ExportedCluster) := do
  match ClusterExport.ofCluster units c with
  | .error e => return .error e
  | .ok x =>
    let paths := ExportPaths.new dir c.name
    let written ← writeFiles
      [(paths.nodes, x.nodeBytes), (paths.edges, x.edgeBytes),
        (paths.modules, Bytes.ofText x.moduleText)]
    return written.map fun () =>
      ⟨c.name, x.nodes.length, x.edges.length, x.modules, x.truncatedTags, paths⟩

/-- Write clusters one after another. The first that fails is the answer. -/
def exportAll (units : UnitTable) (dir : String) :
    List Cluster → m (Except ExportError (List ExportedCluster))
  | [] => return .ok []
  | c :: rest => do
    match ← c.export units dir with
    | .error e => return .error e
    | .ok x => return (← exportAll units dir rest).map (x :: ·)

/-- Write every cluster that holds nodes into a directory, which is made if need be. -/
def ProcessGraph.export (g : ProcessGraph) (dir : String) :
    m (Except ExportError (List ExportedCluster)) := do
  match ← FileSystem.makeDirs dir with
  | .error e => return .error (.io dir e)
  | .ok () => exportAll g.units dir g.populated

end FlowAtlas
