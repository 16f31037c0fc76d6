import FlowAtlas.Command.Line
import FlowAtlas.Ledger.File
import FlowAtlas.Ledger.Recording
import FlowAtlas.Report.Project
import FlowAtlas.Trace.Digest

/-!
# Carrying out commands

`Command.run` does what a command asks for, on any file system and clock, and tells what to print.
A command that gives up tells what it could not do and what lies behind that.
-/

set_option autoImplicit false

namespace FlowAtlas

/-! ## Outcomes -/

/-- What a command could not do, and what lies behind that, the outermost first. -/
structure Failure where
  what : String
  causes : List String := []
  deriving DecidableEq, Repr, Inhabited

namespace Failure

/-- A text behind a mark, with blanks in front of every further line. -/
def indented (mark : String) (blanks : Nat) (text : String) : String :=
  mark ++ String.ofList (text.toList.flatMap fun c =>
    if c = '\n' then '\n' :: List.replicate blanks ' ' else [c])

/-- One of several causes behind its number. -/
def numbered (i : Nat) (cause : String) : String :=
  let number := Nat.toDigits 10 i
  indented ("\n" ++ String.ofList (List.replicate (5 - number.length) ' ' ++ number) ++ ": ") 7 cause

/-- The message on a failure. -/
def report (f : Failure) : String :=
  let causes :=
    match f.causes with
    | [] => ""
    | [cause] => "\n\nCaused by:\n" ++ indented "    " 4 cause
    | causes => "\n\nCaused by:" ++ String.join (causes.mapIdx numbered)
  "Error: " ++ f.what ++ causes ++ "\n"

end Failure

/-- What a command prints, and why it gave up, if it did. -/
structure CommandOutcome where
  printed : String
  failure : Option Failure := none
  deriving DecidableEq, Repr, Inhabited

/-- A step of a command that may make it give up. -/
abbrev Attempt (m : Type → Type) := ExceptT Failure m

variable {m : Type → Type} [Monad m]

/-- Take a step. If it fails, say what could not be done. -/
def attempt {ε α : Type} (what : String) (causes : ε → List String) (step : m (Except ε α)) :
    Attempt m α :=
  ExceptT.mk do
    match ← step with
    | .ok a => return .ok a
    | .error e => return .error ⟨what, causes e⟩

variable [FileSystem m]

/-! ## Projects -/

/-- The failure to read a configuration of clusters. -/
def ConfigError.chain (e : ConfigError) : List String :=
  match e with
  | .io _ cause => [e.message, cause.message]
  | _ => [e.message]

/-- The failure to find a trace. -/
def TraceLayoutError.chain (e : TraceLayoutError) : List String :=
  match e with
  | .io _ cause => [e.message, cause.message]
  | _ => [e.message]

/-- The absolute form of a path, whether anything stands there or not. -/
def absolutePath (path : String) : m String := do
  if Path.names path = ["."] ∧ Path.isAbsolute path = false then FileSystem.currentDir
  else
    match ← FileSystem.canonical path with
    | .ok found => return found
    | .error _ => return Path.join (← FileSystem.currentDir) path

/-- The settings of a project, and its ledger. -/
structure OpenProject where
  layout : ProjectLayout
  config : ProjectConfig
  ledger : LedgerFile
  deriving DecidableEq, Repr

namespace OpenProject

/-- The directory of cluster files. -/
def clustersDir (p : OpenProject) : String := p.layout.resolve p.config.clustersDir

/-- Open the project at a root. -/
def ofRoot (root : String) : Attempt m OpenProject := do
  let layout : ProjectLayout := ⟨← (absolutePath root : m String)⟩
  let config ← ExceptT.mk do
    match ← ProjectConfig.ofLayout layout with
    | .ok c => return .ok c
    | .error e => return .error (⟨e.message, e.chain.tail⟩ : Failure)
  let file := layout.resolve config.ledger.path
  let ledger ← attempt ("Failed to open project database at " ++ file) LedgerError.chain
    (LedgerFile.openAt file)
  return ⟨layout, config, ledger⟩

/-- Read the clusters of a project. -/
def clusters (p : OpenProject) : Attempt m ClusterConfig :=
  attempt ("Failed to load cluster config from " ++ p.clustersDir) ConfigError.chain
    (ClusterConfig.ofDir p.clustersDir p.config.defaultCluster)

/-- The loads in the ledger, of one process or of all. -/
def runs (p : OpenProject) (process : Option String) : Attempt m (List StoredRun) :=
  attempt "Failed to list load runs" LedgerError.chain ((LedgerFile.list process).run.run' p.ledger)

end OpenProject

/-! ## Commands on projects -/

namespace Command

/-- Set up a project. -/
def runInitProject (root : String) (name : Option String) : Attempt m String := do
  let root ← (absolutePath root : m String)
  let layout : ProjectLayout := ⟨root⟩
  let name := name.getD (ProjectLayout.defaultName root)
  for (label, dir) in [("meta dir", layout.metaDir), ("clusters dir", layout.clustersDir),
      ("exports dir", layout.exportsDir)] do
    attempt ("Failed to create " ++ label ++ ": " ++ dir) (fun e : FileError => [e.message])
      (FileSystem.makeDirs dir)
  let config := ProjectConfig.new name layout.relativeLedgerFile
  attempt ("Failed to write project config: " ++ layout.configFile)
    (fun e : FileError => [e.message])
    (FileSystem.write layout.configFile (Bytes.ofText config.toJson.pretty))
  let _ ← attempt ("Failed to initialize project database at " ++ layout.ledgerFile)
    LedgerError.chain (LedgerFile.openAt layout.ledgerFile)
  return unlines ["Initialized graph-stitch project:", s!"  Name: {name}", s!"  Root: {root}",
    s!"  Config: {layout.configFile}", s!"  DB path (relative): {config.ledger.path}",
    s!"  Clusters dir: {layout.clustersDir}", s!"  Exports dir: {layout.exportsDir}"]

/-- The names of the clusters of a project. One whose clusters cannot be read has none. -/
def clusterNames (p : OpenProject) : m (List String) := do
  match ← p.clusters.run with
  | .ok c => return c.clusters.map (·.name)
  | .error _ => return []

/-- Tell of a project. -/
def runProjectInfo (root : String) (json : Bool) : Attempt m String := do
  let p ← OpenProject.ofRoot root
  let runs ← p.runs none
  let clusters ← (clusterNames p : m (List String))
  let isPresent := fun dir => (FileSystem.isDir dir : m Bool)
  let report : ProjectReport :=
    { layout := p.layout, config := p.config, clusters, loadRuns := runs.length
      present := (← isPresent p.layout.metaDir, ← isPresent p.clustersDir,
        ← isPresent p.layout.exportsDir) }
  return if json then report.toJson.pretty ++ "\n" else unlines report.lines

/-- Tell of the clusters of a project. -/
def runListClusters (root : String) (json : Bool) : Attempt m String := do
  let p ← OpenProject.ofRoot root
  return ClusterReport.render json (ClusterReport.ofConfig (← p.clusters))

/-- Tell of the loads in the ledger. -/
def runListRuns (root : String) (process : Option String) (json : Bool) : Attempt m String := do
  let p ← OpenProject.ofRoot root
  let _ ← p.clusters
  let reports ← (← p.runs process).mapM fun stored => do
    let totals ← attempt
      ("Failed to list cluster summaries for run #" ++ String.ofList (Token.integerText stored.id))
      LedgerError.chain ((LedgerFile.totalsOf stored.id).run.run' p.ledger)
    return (⟨stored, totals⟩ : RunReport)
  return RunReport.render json reports

/-! ## Loading -/

/-- Find the trace in a directory. -/
def findTrace (dir : String) : Attempt m TraceLayout := do
  let dir ← (absolutePath dir : m String)
  attempt ("Failed to find a trace in " ++ dir) TraceLayoutError.chain (TraceLayout.discover dir)

/-- Export the graph of a process into its directory. A failure is told in words. -/
def exportProcess (layout : ProjectLayout) (g : ProcessGraph) :
    m (Except String (List ExportedCluster)) := do
  let dir := layout.processExportDir g.process
  match ← g.export dir with
  | .ok exported => return .ok exported
  | .error e => return .error s!"Failed to export {g.process} to {dir}: {e.message}"

/-- The report on a load, after its graph is exported if that is asked for. -/
def reportLoad (p : OpenProject) (isExporting : Bool) (runId : Option Int) (t : TraceLayout) :
    Except LoadError ProcessGraph → m LoadReport
  | .error e => return ⟨t.dir, none, some e.message, runId, []⟩
  | .ok g => do
    let exported ← if isExporting then exportProcess p.layout g else pure (.ok [])
    match exported with
    | .ok xs => return ⟨t.dir, some g.summary, none, runId, xs⟩
    | .error e => return ⟨t.dir, some g.summary, some e, runId, []⟩

variable [Clock m]

/-- Put a load on record. -/
def recordLoad (startedAt : String) (t : TraceLayout) (result : Except LoadError ProcessGraph) :
    StateT LedgerFile m (Option Int) := do
  let traceHash ← (t.digest? : m (Option String))
  LedgerFile.record t traceHash startedAt (← (Clock.now : m String)) result

/-- Put a load on record and export its graph, if that is asked for. -/
def settleLoad (p : OpenProject) (isExporting isRecording : Bool) (startedAt : String)
    (t : TraceLayout) (result : Except LoadError ProcessGraph) :
    StateT LedgerFile m LoadReport := do
  let runId ← if isRecording then recordLoad startedAt t result else pure none
  (reportLoad p isExporting runId t result : m LoadReport)

/-- Load traces and tell of each. All are loaded before the first is put on record. -/
def loadAll (p : OpenProject) (config : ClusterConfig) (ts : List TraceLayout)
    (isExporting isRecording : Bool) : m (List LoadReport) := do
  let startedAt ← Clock.now
  let results ← ts.mapM fun t => return (t, (← t.load config).result)
  (results.mapM fun (t, result) =>
    settleLoad p isExporting isRecording startedAt t result).run' p.ledger

/-- Load traces. -/
def runLoad (root : String) (traces : List String) (format : ReportFormat)
    (isExporting isRecording : Bool) : Attempt m CommandOutcome := do
  let p ← OpenProject.ofRoot root
  let config ← p.clusters
  let layouts ← traces.mapM findTrace
  let reports ← (loadAll p config layouts isExporting isRecording : m (List LoadReport))
  let failed := (reports.filter (·.isFailed)).length
  let printed := LoadReport.render format reports
  if failed = 0 then return { printed }
  else return ⟨printed, some ⟨s!"{failed} of {reports.length} trace load(s) failed", []⟩⟩

/-! ## All commands -/

/-- Carry out a command. -/
def run (c : Command) : m CommandOutcome := do
  let plain := fun (x : Attempt m String) => (CommandOutcome.mk · none) <$> x
  let outcome ← match c with
    | .initProject root name => (plain (runInitProject root name)).run
    | .projectInfo root json => (plain (runProjectInfo root json)).run
    | .listClusters root json => (plain (runListClusters root json)).run
    | .listRuns root process json => (plain (runListRuns root process json)).run
    | .load root traces format isExporting isRecording =>
      (runLoad root traces format isExporting isRecording).run
  match outcome with
  | .ok o => return o
  | .error f => return ⟨"", some f⟩

end Command

/-! ## Command lines -/

/-- What a run of the tool leaves behind. -/
structure ToolOutcome where
  exitCode : Nat
  standardOutput : String := ""
  standardError : String := ""
  deriving DecidableEq, Repr, Inhabited

/-- The name and version of the tool. -/
def versionLine : String := "graph-stitch 0.1.0\n"

/-- How to use the tool. -/
def usageText : String := unlines
  ["Rebuild per-cluster control-flow graphs from execution traces", "",
    "Usage: graph-stitch [OPTIONS] <COMMAND>", "", "Commands:",
    "  init-project   Initialize a new project at the given root",
    "  project-info   Show configuration and directory status of an existing project",
    "  list-clusters  List configured monitoring clusters and their units",
    "  load           Load one or more process traces and summarize their cluster graphs",
    "  list-runs      List recorded trace loads",
    "  help           Print this message"]

/-- Run the tool on a command line. -/
def runTool [Clock m] (arguments : List String) : m ToolOutcome := do
  match Command.ofArguments arguments with
  | .error .version => return { exitCode := 0, standardOutput := versionLine }
  | .error .help => return { exitCode := 0, standardOutput := usageText }
  | .error .misuse => return { exitCode := 2, standardError := usageText }
  | .ok c =>
    let o ← c.run
    match o.failure with
    | none => return { exitCode := 0, standardOutput := o.printed }
    | some f => return ⟨1, o.printed, f.report⟩

end FlowAtlas
