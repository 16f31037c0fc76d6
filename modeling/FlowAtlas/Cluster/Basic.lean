import FlowAtlas.Graph.Reachability

/-!
# Clusters

A cluster is a set of software units whose code shares one graph. Besides the graph it keeps

* the entries and exits for calls from and to other clusters, one for each signature: whichever node
  comes first for a signature is the one that is used;
* the process root, if the process begins here;
* how many ordinary blocks there are, in all and for each unit;
* what `Cluster.findUnreachable` found last.
-/

set_option autoImplicit false

namespace FlowAtlas

/-- The number of a cluster in its configuration. -/
structure ClusterId where
  index : Nat
  deriving DecidableEq, Hashable, Repr, Inhabited

/-- `c` and the number. -/
def ClusterId.text (c : ClusterId) : String := "c" ++ Numeral.decimal c.index

/-- The share of one unit in a cluster. -/
structure UnitShare where
  unit : UnitId
  /-- How many executable nodes the unit owns. -/
  executableBlocks : Nat
  deriving DecidableEq, Repr, Inhabited

/-- The graph of one cluster and what is known of it. -/
structure Cluster where
  id : ClusterId
  name : String
  graph : Graph := {}
  /-- The entry of each signature. -/
  entries : Std.HashMap UInt64 NodeId := ∅
  /-- The exit of each signature. -/
  exits : Std.HashMap UInt64 NodeId := ∅
  root : Option NodeId := none
  /-- How many executable blocks there are of each unit that owns a block. -/
  blocks : Std.HashMap UnitId Nat := ∅
  blockCount : Nat := 0
  reachability : Option Reachability := none
  deriving Inhabited

namespace Cluster

/-- A cluster without nodes. -/
def empty (id : ClusterId) (name : String) : Cluster := { id, name }

/-! ## Adding nodes -/

/-- Find or make the entry of a signature, which is the node's content hash. -/
def addEntry (c : Cluster) (node : Node) : (NodeId × Bool) × Cluster :=
  match c.entries[node.hash]? with
  | some id => ((id, false), c)
  | none =>
    let (placed, graph) := c.graph.addNode node
    (placed, { c with graph, entries := c.entries.insert node.hash placed.1 })

/-- Find or make the exit of a signature, which is the node's content hash. -/
def addExit (c : Cluster) (node : Node) : (NodeId × Bool) × Cluster :=
  match c.exits[node.hash]? with
  | some id => ((id, false), c)
  | none =>
    let (placed, graph) := c.graph.addNode node
    (placed, { c with graph, exits := c.exits.insert node.hash placed.1 })

/-- Find or make the process root. -/
def addRoot (c : Cluster) (owner : UnitId) : (NodeId × Bool) × Cluster :=
  match c.root with
  | some id => ((id, false), c)
  | none =>
    let (placed, graph) := c.graph.addNode (.processRoot owner)
    (placed, { c with graph, root := some placed.1 })

/-- Find or make a node that is no entry or exit for other clusters. A new one counts as a block, its
unit has a share from then on, and the share grows if the kind of the node is executable. -/
def addBlock (c : Cluster) (node : Node) : (NodeId × Bool) × Cluster :=
  let (placed, graph) := c.graph.addNode node
  if placed.2 then
    (placed,
      { c with
        graph
        blocks := c.blocks.alter node.unit fun n =>
          some (if node.kind.isExecutable then n.getD 0 + 1 else n.getD 0)
        blockCount := c.blockCount + 1 })
  else (placed, { c with graph })

/-- Add a node to the place that its key and kind call for. The flag tells whether it is new. -/
def addNode (c : Cluster) (node : Node) : (NodeId × Bool) × Cluster :=
  if node.key = .processRoot then c.addRoot node.unit
  else match node.kind with
    | .clusterEntry => c.addEntry node
    | .clusterExit => c.addExit node
    | _ => c.addBlock node

/-- Find or make the entry for calls of a signature. -/
def addEntryFor (c : Cluster) (signature : UInt64) (owner : UnitId) (isCallback : Bool) :
    (NodeId × Bool) × Cluster :=
  c.addEntry (.boundary signature .clusterEntry isCallback owner)

/-- Find or make the exit for calls of a signature. -/
def addExitFor (c : Cluster) (signature : UInt64) (owner : UnitId) (isCallback : Bool) :
    (NodeId × Bool) × Cluster :=
  c.addExit (.boundary signature .clusterExit isCallback owner)

/-! ## Adding edges -/

/-- Change the graph of a cluster. -/
def onGraph {α : Type} (step : Graph.Update α) : EStateM GraphError Cluster α := fun c =>
  let graph := c.graph
  let c := { c with graph := {} }
  match step graph with
  | .ok a graph => .ok a { c with graph }
  | .error cause graph => .error cause { c with graph }

/-- Ask for an edge between two nodes of the cluster. -/
def addEdge (source target : NodeId) (kind : EdgeKind) (ordinal : UInt8) :
    EStateM GraphError Cluster EdgeOutcome :=
  onGraph (Graph.addEdge source target kind ordinal)

/-! ## What a cluster holds -/

/-- The entry for calls of a signature. -/
def entryPoint? (c : Cluster) (signature : UInt64) : Option NodeId := c.entries[signature]?

/-- The exit for calls of a signature. -/
def exitPoint? (c : Cluster) (signature : UInt64) : Option NodeId := c.exits[signature]?

/-- Nodes by ascending place. -/
def ascending (nodes : List NodeId) : List NodeId :=
  nodes.mergeSort fun a b => a.index ≤ b.index

/-- The entries of all signatures and the process root, in ascending order. -/
def entryPoints (c : Cluster) : List NodeId :=
  ascending (c.entries.toList.map (·.2) ++ c.root.toList)

/-- The exits of all signatures, in ascending order. -/
def exitPoints (c : Cluster) : List NodeId :=
  ascending (c.exits.toList.map (·.2))

/-- The share of a unit, if it owns a block. -/
def share? (c : Cluster) (unit : UnitId) : Option UnitShare :=
  c.blocks[unit]?.map fun n => ⟨unit, n⟩

/-- The shares of all units that own a block, by ascending number. -/
def shares (c : Cluster) : List UnitShare :=
  (c.blocks.toList.map fun (u, n) => (⟨u, n⟩ : UnitShare)).mergeSort
    fun a b => a.unit.index ≤ b.unit.index

/-- How many blocks the units own together. -/
def executableBlockCount (c : Cluster) : Nat :=
  c.shares.foldl (fun n s => n + s.executableBlocks) 0

/-- Whether the rule on entries and exits holds. -/
def validate (c : Cluster) : Except GraphError Unit := c.graph.validate

/-! ## What a trace never reached -/

/-- Where execution may enter: the entries, the root, and every other node of an entry kind. -/
def roots (c : Cluster) : List NodeId :=
  c.entryPoints ++ c.graph.nodeIds.filter fun n => (c.graph.node n).kind.isEntry

/-- Find what no entry leads to, and keep the finding. -/
def findUnreachable (c : Cluster) : Reachability × Cluster :=
  let found := Reachability.analyze c.graph c.roots
  (found, { c with reachability := some found })

/-- Whether the last search found that no entry leads to a node. -/
def isUnreachable (c : Cluster) (n : NodeId) : Bool :=
  match c.reachability with
  | some r => n ∈ r.unreachable
  | none => false

end Cluster
end FlowAtlas
