import FlowAtlas.Ledger.Basic
import FlowAtlas.Project.Config
import FlowAtlas.Report.Load

/-!
# Reports on projects

What is told of a project: its settings and directories, its clusters, and the loads in its ledger,
each as text for readers or as JSON.
-/

set_option autoImplicit false

namespace FlowAtlas

/-! ## Settings and directories -/

/-- What is told of a project. -/
structure ProjectReport where
  layout : ProjectLayout
  config : ProjectConfig
  /-- The names of the clusters. -/
  clusters : List String
  /-- How many loads the ledger holds. -/
  loadRuns : Nat
  /-- Whether each directory is there: that of the tool, of cluster files, and of exports. -/
  present : Bool × Bool × Bool

namespace ProjectReport

/-- The directory of cluster files. -/
def clustersDir (p : ProjectReport) : String := p.layout.resolve p.config.clustersDir

/-- Write what is told. -/
def toJson (p : ProjectReport) : Json :=
  .record [("name", .ofString p.config.name),
    ("description", .ofOption .ofString p.config.description),
    ("root", .ofString p.layout.root), ("config_file", .ofString p.layout.configFile),
    ("config_version", .ofString p.config.configVersion),
    ("db_path", .ofString p.config.ledger.path), ("clusters_dir", .ofString p.config.clustersDir),
    ("default_cluster", .ofString p.config.defaultCluster),
    ("layout", .record [("meta_dir", .ofString p.layout.metaDir),
      ("clusters_dir", .ofString p.clustersDir), ("exports_dir", .ofString p.layout.exportsDir)]),
    ("clusters", .array (p.clusters.map .ofString)), ("load_runs", .ofNat p.loadRuns)]

/-- The line on a directory. -/
def directoryLine (label : String) (isPresent : Bool) (path : String) : String :=
  "- " ++ label ++ ": " ++ (if isPresent then "OK" else "MISSING") ++ " (" ++ path ++ ")"

/-- The lines for readers. -/
def lines (p : ProjectReport) : List String :=
  ["graph-stitch Project Info", "=========================", s!"Name: {p.config.name}"] ++
    p.config.description.toList.map (fun d => s!"Description: {d}") ++
    [s!"Root: {p.layout.root}", s!"Config file: {p.layout.configFile}",
      s!"Config version: {p.config.configVersion}", s!"DB path (config): {p.config.ledger.path}",
      s!"Default cluster: {p.config.defaultCluster}", "", "Directories:",
      directoryLine "Meta dir (.stitch)" p.present.1 p.layout.metaDir,
      directoryLine "Clusters dir" p.present.2.1 p.clustersDir,
      directoryLine "Exports dir" p.present.2.2 p.layout.exportsDir, "",
      "Clusters: " ++ (if p.clusters.isEmpty then "(none)" else ", ".intercalate p.clusters),
      s!"Load runs: {p.loadRuns}"]

end ProjectReport

/-! ## Clusters -/

/-- What is told of a cluster. -/
structure ClusterReport where
  name : String
  isDynamic : Bool
  isDefault : Bool
  units : List String
  deriving DecidableEq, Repr, Inhabited

namespace ClusterReport

/-- What is told of the clusters of a configuration. -/
def ofConfig (c : ClusterConfig) : List ClusterReport :=
  c.clusters.mapIdx fun i s => ⟨s.name, s.isDynamic, i == c.default.index, s.units.map (·.name)⟩

/-- Write what is told. -/
def toJson (c : ClusterReport) : Json :=
  .record [("name", .ofString c.name), ("dynamic", .bool c.isDynamic),
    ("is_default", .bool c.isDefault), ("units", .array (c.units.map .ofString))]

/-- The lines for readers. -/
def lines (c : ClusterReport) : List String :=
  let tags := (if c.isDynamic then ["dynamic"] else []) ++ (if c.isDefault then ["default"] else [])
  let tags := if tags.isEmpty then "" else " [" ++ ", ".intercalate tags ++ "]"
  ("- " ++ c.name ++ tags) :: c.units.map ("    " ++ ·)

/-- Write what is told of several clusters. -/
def render (json : Bool) (cs : List ClusterReport) : String :=
  if json then (Json.array (cs.map toJson)).pretty ++ "\n"
  else unlines (s!"Clusters ({cs.length}):" :: cs.flatMap lines)

end ClusterReport

/-! ## Loads -/

/-- What is told of a load in the ledger. -/
structure RunReport where
  stored : StoredRun
  totals : List ClusterTotals
  deriving DecidableEq, Repr, Inhabited

namespace RunReport

/-- Write what is told. -/
def toJson (r : RunReport) : Json :=
  .record (("id", .integer r.stored.id) :: r.stored.run.members ++
    [("clusters", .array (r.totals.map ClusterTotals.toJson))])

/-- The lines for readers. -/
def lines (r : RunReport) : List String :=
  let run := r.stored.run
  s!"#{r.stored.id} {run.process} [{run.status.text}] {run.traceDir} ({run.finishedAt})" ::
    run.error.toList.map (fun e => s!"    error: {e}") ++
    r.totals.map fun t =>
      s!"    {t.cluster}: {t.nodes} nodes, {t.edges} edges, {t.unreachable} unreachable"

/-- Write what is told of several loads. -/
def render (json : Bool) (rs : List RunReport) : String :=
  if json then (Json.array (rs.map toJson)).pretty ++ "\n"
  else if rs.isEmpty then "No load runs recorded.\n"
  else unlines (rs.flatMap lines)

end RunReport
end FlowAtlas
