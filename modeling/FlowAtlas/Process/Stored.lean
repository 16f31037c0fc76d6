import FlowAtlas.Json.Stored
import FlowAtlas.Process

/-!
# Stored forms of summaries

How the summary of a process is written as a JSON value and read back.
-/

set_option autoImplicit false

namespace FlowAtlas

namespace LoadStats

/-- Write counts of records. -/
def toJson (s : LoadStats) : Json :=
  .record [("node_records", .ofNat s.nodeRecords), ("edge_records", .ofNat s.edgeRecords),
    ("cross_module_records", .ofNat s.crossModuleRecords),
    ("skipped_sentinels", .ofNat s.skippedSentinels),
    ("discarded_continuations", .ofNat s.discardedContinuations),
    ("unresolved_endpoints", .ofNat s.unresolvedEndpoints),
    ("alternate_version_hits", .ofNat s.alternateVersionHits),
    ("cluster_crossings", .ofNat s.clusterCrossings), ("misrouted_edges", .ofNat s.misroutedEdges)]

/-- Read counts of records. -/
def ofJson? (j : Json) : Option LoadStats := do
  let r ← JsonRecord.ofJson? ["node_records", "edge_records", "cross_module_records",
    "skipped_sentinels", "discarded_continuations", "unresolved_endpoints",
    "alternate_version_hits", "cluster_crossings", "misrouted_edges"] j
  let nodeRecords ← (r.get "node_records").required (Json.nat? 64)
  let edgeRecords ← (r.get "edge_records").required (Json.nat? 64)
  let crossModuleRecords ← (r.get "cross_module_records").required (Json.nat? 64)
  let skippedSentinels ← (r.get "skipped_sentinels").required (Json.nat? 64)
  let discardedContinuations ← (r.get "discarded_continuations").required (Json.nat? 64)
  let unresolvedEndpoints ← (r.get "unresolved_endpoints").required (Json.nat? 64)
  let alternateVersionHits ← (r.get "alternate_version_hits").required (Json.nat? 64)
  let clusterCrossings ← (r.get "cluster_crossings").required (Json.nat? 64)
  let misroutedEdges ← (r.get "misrouted_edges").required (Json.nat? 64)
  return ⟨nodeRecords, edgeRecords, crossModuleRecords, skippedSentinels, discardedContinuations,
    unresolvedEndpoints, alternateVersionHits, clusterCrossings, misroutedEdges⟩

instance : Stored LoadStats := ⟨toJson, ofJson?⟩

end LoadStats

namespace UnitSummary

/-- Write the numbers of a unit. -/
def toJson (u : UnitSummary) : Json :=
  .record [("unit", .ofString u.unit), ("executable_blocks", .ofNat u.executableBlocks)]

/-- Read the numbers of a unit. -/
def ofJson? (j : Json) : Option UnitSummary := do
  let r ← JsonRecord.ofJson? ["unit", "executable_blocks"] j
  let unit ← (r.get "unit").required Json.string?
  let executableBlocks ← (r.get "executable_blocks").required (Json.nat? 64)
  return ⟨unit, executableBlocks⟩

instance : Stored UnitSummary := ⟨toJson, ofJson?⟩

end UnitSummary

namespace ClusterSummary

/-- Write the numbers of a cluster. -/
def toJson (c : ClusterSummary) : Json :=
  .record [("name", .ofString c.name), ("nodes", .ofNat c.nodes), ("edges", .ofNat c.edges),
    ("executable_blocks", .ofNat c.executableBlocks), ("entry_points", .ofNat c.entryPoints),
    ("exit_points", .ofNat c.exitPoints), ("unreachable", .ofNat c.unreachable),
    ("missed_entries", .ofNat c.missedEntries),
    ("modules", .array (c.modules.map UnitSummary.toJson))]

/-- Read the numbers of a cluster. Its units may be left out. -/
def ofJson? (j : Json) : Option ClusterSummary := do
  let r ← JsonRecord.ofJson? ["name", "nodes", "edges", "executable_blocks", "entry_points",
    "exit_points", "unreachable", "missed_entries", "modules"] j
  let name ← (r.get "name").required Json.string?
  let nodes ← (r.get "nodes").required (Json.nat? 64)
  let edges ← (r.get "edges").required (Json.nat? 64)
  let executableBlocks ← (r.get "executable_blocks").required (Json.nat? 64)
  let entryPoints ← (r.get "entry_points").required (Json.nat? 64)
  let exitPoints ← (r.get "exit_points").required (Json.nat? 64)
  let unreachable ← (r.get "unreachable").required (Json.nat? 64)
  let missedEntries ← (r.get "missed_entries").required (Json.nat? 64)
  let modules ← (r.get "modules").orElse [] (Json.list? UnitSummary.ofJson?)
  return ⟨name, nodes, edges, executableBlocks, entryPoints, exitPoints, unreachable,
    missedEntries, modules⟩

instance : Stored ClusterSummary := ⟨toJson, ofJson?⟩

end ClusterSummary

namespace ProcessSummary

/-- Write the numbers of a process. -/
def toJson (p : ProcessSummary) : Json :=
  .record [("process", .ofString p.process), ("module_instances", .ofNat p.moduleInstances),
    ("clusters", .array (p.clusters.map ClusterSummary.toJson)), ("stats", p.stats.toJson)]

/-- Read the numbers of a process. -/
def ofJson? (j : Json) : Option ProcessSummary := do
  let r ← JsonRecord.ofJson? ["process", "module_instances", "clusters", "stats"] j
  let process ← (r.get "process").required Json.string?
  let moduleInstances ← (r.get "module_instances").required (Json.nat? 64)
  let clusters ← (r.get "clusters").required (Json.list? ClusterSummary.ofJson?)
  let stats ← (r.get "stats").required LoadStats.ofJson?
  return ⟨process, moduleInstances, clusters, stats⟩

instance : Stored ProcessSummary := ⟨toJson, ofJson?⟩

end ProcessSummary
end FlowAtlas
