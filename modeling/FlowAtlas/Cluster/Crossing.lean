import FlowAtlas.Cluster.Basic

/-!
# Calls between clusters

A transfer from a node of one cluster to a node of another is kept as two edges: from its source to
the exit of its signature in the source's cluster, and from the entry of the signature in the
target's cluster to its target. `Crossing.split` makes both. The first edge has the kind and ordinal
of the transfer, the second is always a cross-module edge of ordinal zero.
-/

set_option autoImplicit false

namespace FlowAtlas

/-- A node of one of several clusters. -/
structure ClusterNode where
  cluster : ClusterId
  node : NodeId
  deriving DecidableEq, Repr, Inhabited

/-- What is known of a transfer between clusters, its ends apart. -/
structure Transfer where
  kind : EdgeKind
  ordinal : UInt8
  signature : UInt64
  isCallback : Bool
  deriving DecidableEq, Repr, Inhabited

/-- The two edges that stand for a transfer between clusters. -/
structure Crossing where
  exit : ClusterNode
  entry : ClusterNode
  exitEdge : EdgeOutcome
  entryEdge : EdgeOutcome
  /-- Whether the exit is new. -/
  exitCreated : Bool
  /-- Whether the entry is new. -/
  entryCreated : Bool
  deriving DecidableEq, Repr

/-- Why a transfer is not split. -/
inductive CrossingError
  /-- Both ends lie in one cluster. -/
  | sameCluster (cluster : ClusterId) (source target : NodeId)
  /-- One of the two edges contradicts its graph. -/
  | graph (cause : GraphError)
  deriving DecidableEq, Repr

/-- The wording of the refusal. -/
def CrossingError.message : CrossingError → String
  | sameCluster cluster source target =>
    "edge " ++ source.text ++ " -> " ++ target.text ++ " stays inside cluster " ++ cluster.text
  | graph cause => cause.message

/-- The clusters of a process, each at the place of its number. -/
abbrev Clusters := Array Cluster

namespace Clusters

/-- The cluster of a number. A number that is not in use stands for a cluster without nodes. -/
def get (cs : Clusters) (id : ClusterId) : Cluster := cs.getD id.index default

/-- Change one of the clusters. -/
def on {ε α : Type} (id : ClusterId) (step : EStateM ε Cluster α) : EStateM ε Clusters α :=
  fun cs =>
    let c := cs.get id
    let cs := cs.setIfInBounds id.index default
    match step c with
    | .ok a c => .ok a (cs.setIfInBounds id.index c)
    | .error cause c => .error cause (cs.setIfInBounds id.index c)

/-- Change one of the clusters by a step that cannot fail. -/
def onNode {ε : Type} (id : ClusterId) (step : Cluster → (NodeId × Bool) × Cluster) :
    EStateM ε Clusters (NodeId × Bool) :=
  on id fun c => let (placed, c) := step c; .ok placed c

end Clusters

namespace Crossing

/-- Put the edge from the source to the exit of the signature, which the source's unit owns when it
is new. -/
def splitExit (source : ClusterNode) (t : Transfer) :
    EStateM GraphError Clusters ((NodeId × Bool) × EdgeOutcome) := do
  let owner := (((← get).get source.cluster).graph.node source.node).unit
  let placed ← Clusters.onNode source.cluster (·.addExitFor t.signature owner t.isCallback)
  let edge ← Clusters.on source.cluster (Cluster.addEdge source.node placed.1 t.kind t.ordinal)
  return (placed, edge)

/-- Put the edge from the entry of the signature to the target, whose unit owns the entry when it is
new. -/
def splitEntry (target : ClusterNode) (t : Transfer) :
    EStateM GraphError Clusters ((NodeId × Bool) × EdgeOutcome) := do
  let owner := (((← get).get target.cluster).graph.node target.node).unit
  let placed ← Clusters.onNode target.cluster (·.addEntryFor t.signature owner t.isCallback)
  let edge ← Clusters.on target.cluster
    (Cluster.addEdge placed.1 target.node .crossCustomModule 0)
  return (placed, edge)

/-- Put the two edges of a transfer between different clusters. When the first edge is refused, the
exit that was made for it stays. -/
def split (source target : ClusterNode) (t : Transfer) :
    EStateM CrossingError Clusters Crossing := do
  if source.cluster = target.cluster then
    throw (.sameCluster source.cluster source.node target.node)
  let (exit, exitEdge) ← (splitExit source t).adaptExcept .graph
  let (entry, entryEdge) ← (splitEntry target t).adaptExcept .graph
  return {
    exit := ⟨source.cluster, exit.1⟩
    entry := ⟨target.cluster, entry.1⟩
    exitEdge, entryEdge
    exitCreated := exit.2
    entryCreated := entry.2 }

end Crossing
end FlowAtlas
