import FlowAtlas.Cluster.Crossing
import FlowAtlas.Module.Instance

/-!
# The graph of a process

What a loaded trace amounts to: one graph for each cluster, with the units and module instances
behind them, the process root, and counts of what became of the records. `ProcessGraph.summary`
reduces it to the numbers that reports and the ledger keep.
-/

set_option autoImplicit false

namespace FlowAtlas

/-- How many records were read, and what became of those that made no plain edge. -/
structure LoadStats where
  nodeRecords : Nat := 0
  edgeRecords : Nat := 0
  crossModuleRecords : Nat := 0
  /-- Edges to be passed over. -/
  skippedSentinels : Nat := 0
  /-- Call continuations to code that never ran. -/
  discardedContinuations : Nat := 0
  /-- Edges of which an end is missing. -/
  unresolvedEndpoints : Nat := 0
  /-- Ends that were found at a neighbouring version only. -/
  alternateVersionHits : Nat := 0
  /-- Edges between clusters. -/
  clusterCrossings : Nat := 0
  /-- Edges within modules whose ends lie in different clusters. -/
  misroutedEdges : Nat := 0
  deriving DecidableEq, Repr, Inhabited

/-- The loaded trace of one process. -/
structure ProcessGraph where
  process : String
  units : UnitTable
  modules : AddressMap
  clusters : Clusters
  root : Option ClusterNode
  stats : LoadStats

/-! ## Summaries -/

/-- The number of blocks of a unit. -/
structure UnitSummary where
  unit : String
  executableBlocks : Nat
  deriving DecidableEq, Repr, Inhabited

/-- The numbers of a cluster. -/
structure ClusterSummary where
  name : String
  /-- Ordinary nodes, without the boundary nodes. -/
  nodes : Nat
  edges : Nat
  executableBlocks : Nat
  entryPoints : Nat
  exitPoints : Nat
  unreachable : Nat
  missedEntries : Nat
  modules : List UnitSummary
  deriving DecidableEq, Repr, Inhabited

/-- The numbers of a process. -/
structure ProcessSummary where
  process : String
  moduleInstances : Nat
  clusters : List ClusterSummary
  stats : LoadStats
  deriving DecidableEq, Repr, Inhabited

namespace ProcessGraph

/-- The clusters that hold nodes. -/
def populated (g : ProcessGraph) : List Cluster :=
  g.clusters.toList.filter fun c => c.graph.nodeCount > 0

/-- The numbers of one cluster. -/
def summarize (units : UnitTable) (c : Cluster) : ClusterSummary where
  name := c.name
  nodes := c.blockCount
  edges := c.graph.edgeCount
  executableBlocks := c.executableBlockCount
  entryPoints := c.entryPoints.length
  exitPoints := c.exitPoints.length
  unreachable := (c.reachability.map (·.unreachable.length)).getD 0
  missedEntries := (c.reachability.map (·.missedEntries.length)).getD 0
  modules := c.shares.map fun s => ⟨units.name s.unit, s.executableBlocks⟩

/-- The numbers of the process, with its clusters that hold nodes. -/
def summary (g : ProcessGraph) : ProcessSummary where
  process := g.process
  moduleInstances := g.modules.instances.length
  clusters := g.populated.map (summarize g.units)
  stats := g.stats

end ProcessGraph
end FlowAtlas
