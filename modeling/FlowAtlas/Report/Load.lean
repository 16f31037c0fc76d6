import FlowAtlas.Json.Text
import FlowAtlas.Load.Files
import FlowAtlas.Process.Stored
import FlowAtlas.Yaml

/-!
# Reports on loads

What is told of each load of a batch, as text for readers, as JSON or as YAML.
-/

set_option autoImplicit false

namespace FlowAtlas

/-- The ways to write a report. -/
inductive ReportFormat
  | text
  | json
  | yaml
  deriving DecidableEq, Repr, Inhabited

/-- What is told of one load. -/
structure LoadReport where
  traceDir : String
  /-- The numbers of the process, if the trace was loaded. -/
  summary : Option ProcessSummary
  /-- Why the trace was not loaded or not exported. -/
  error : Option String
  /-- The number of the load in the ledger. -/
  runId : Option Int
  exported : List ExportedCluster
  deriving DecidableEq, Repr, Inhabited

/-- Write what was exported of a cluster. -/
def ExportedCluster.toJson (x : ExportedCluster) : Json :=
  .record [("cluster", .ofString x.cluster), ("nodes", .ofNat x.nodes), ("edges", .ofNat x.edges),
    ("modules", .array (x.modules.map .ofString)), ("truncated_tags", .ofNat x.truncatedTags),
    ("nodes_path", .ofString x.paths.nodes), ("edges_path", .ofString x.paths.edges),
    ("modules_path", .ofString x.paths.modules)]

namespace LoadReport

/-- Whether the load or the export failed. -/
def isFailed (r : LoadReport) : Bool := r.error.isSome

/-- Write a report. Members without a value are left out. -/
def toJson (r : LoadReport) : Json :=
  .record ([("trace_dir", .ofString r.traceDir),
      ("status", .ofString (if r.isFailed then "failed" else "succeeded"))] ++
    Json.optional "summary" ProcessSummary.toJson r.summary ++
    Json.optional "error" .ofString r.error ++
    Json.optional "run_id" .integer r.runId ++
    (if r.exported.isEmpty then []
      else [("exported", .array (r.exported.map ExportedCluster.toJson))]))

/-- The line on a cluster, and those on its units. -/
def clusterLines (c : ClusterSummary) : List String :=
  (s!"  Cluster {c.name}: {c.nodes} nodes, {c.edges} edges, {c.entryPoints} entries, " ++
    s!"{c.exitPoints} exits, {c.unreachable} unreachable ({c.missedEntries} missed entries)") ::
    c.modules.map fun u => s!"    {u.unit}: {u.executableBlocks} executable blocks"

/-- The line on the records of a trace. -/
def recordsLine (s : LoadStats) : String :=
  s!"  Records: {s.nodeRecords} nodes, {s.edgeRecords} edges, " ++
    s!"{s.crossModuleRecords} cross-module; {s.skippedSentinels} skipped, " ++
    s!"{s.unresolvedEndpoints} unresolved, {s.clusterCrossings} crossings"

/-- The lines of a report for readers. -/
def lines (r : LoadReport) : List String :=
  match r.summary with
  | none => [r.traceDir ++ ": FAILED: " ++ r.error.getD "unknown error"]
  | some s =>
    [s!"Process {s.process} ({r.traceDir})", s!"  Module instances: {s.moduleInstances}"] ++
      s.clusters.flatMap clusterLines ++ [recordsLine s.stats] ++
      r.exported.map (fun x => s!"  Exported {x.cluster} -> {x.paths.nodes}") ++
      r.error.toList.map (fun e => s!"  FAILED: {e}") ++
      r.runId.toList.map (fun id => s!"  Recorded run #{id}")

end LoadReport

/-- Each line with its end. -/
def unlines (lines : List String) : String := String.join (lines.map (· ++ "\n"))

/-- Write the reports on a batch. -/
def LoadReport.render (format : ReportFormat) (reports : List LoadReport) : String :=
  let document := Json.array (reports.map toJson)
  match format with
  | .text => unlines (reports.flatMap lines)
  | .json => document.pretty ++ "\n"
  | .yaml => document.yaml

end FlowAtlas
