import FlowAtlas.Graph.HashIndex
import FlowAtlas.Graph.Node

/-!
# Control-flow graphs

A `Graph` is an arena: nodes and edges are appended, never removed, and known by their places.

* `Graph.addNode` gives equal keys one node. The first node of a key stays.
* `Graph.addEdge` keeps at most one edge between two nodes in one direction. Asking for the same
  edge again changes nothing; a direct edge absorbs a call continuation between the same nodes,
  whichever of the two came first; every other disagreement is an error.
* `Graph.validate` finds the first node that breaks the rule on entries and exits.

Steps that may fail are `Graph.Update`s, so that what a failed step leaves behind is part of what it
means.
-/

set_option autoImplicit false

namespace FlowAtlas

/-- Why a graph is inconsistent. -/
inductive GraphError
  /-- Two nodes are joined by an edge that the new one contradicts. -/
  | multipleEdge (source target : NodeKey) (existing : EdgeKind) (existingOrdinal : UInt8)
      (requested : EdgeKind) (requestedOrdinal : UInt8)
  /-- The source does not take the edge. -/
  | illegalEdgeState (node : NodeKey) (cause : AdjacencyError)
  /-- Edges arrive at an entry. -/
  | entryHasIncoming (node : NodeKey) (kind : NodeKind) (count : Nat)
  /-- Edges leave an exit. -/
  | exitHasOutgoing (node : NodeKey) (kind : NodeKind) (count : Nat)
  deriving DecidableEq, Repr

/-- The wording of the inconsistency. -/
def GraphError.message : GraphError → String
  | multipleEdge source target existing existingOrdinal requested requestedOrdinal =>
    "multiple edges " ++ source.text ++ " -> " ++ target.text ++ ": existing " ++ existing.text ++
      "#" ++ Numeral.decimal existingOrdinal.toNat ++ ", new " ++ requested.text ++ "#" ++
      Numeral.decimal requestedOrdinal.toNat
  | illegalEdgeState node cause => "illegal edge state on " ++ node.text ++ ": " ++ cause.message
  | entryHasIncoming node kind count =>
    "entry node " ++ node.text ++ " (" ++ kind.text ++ ") has " ++ Numeral.decimal count ++
      " incoming edge(s)"
  | exitHasOutgoing node kind count =>
    "exit node " ++ node.text ++ " (" ++ kind.text ++ ") has " ++ Numeral.decimal count ++
      " outgoing edge(s)"

/-- What became of a requested edge. -/
inductive EdgeOutcome
  /-- It is new. -/
  | added (edge : EdgeId)
  /-- It was there already. -/
  | duplicate (edge : EdgeId)
  /-- A call continuation, and a direct edge stands in for it. -/
  | mergedIntoDirect (edge : EdgeId)
  /-- A call continuation became the requested direct edge. -/
  | upgraded (edge : EdgeId)
  deriving DecidableEq, Repr

namespace EdgeOutcome

/-- The edge that stands for the request. -/
def edge : EdgeOutcome → EdgeId
  | added e | duplicate e | mergedIntoDirect e | upgraded e => e

/-- Whether the request made a new edge. -/
def isNew : EdgeOutcome → Bool
  | added _ => true
  | _ => false

end EdgeOutcome

/-- Nodes and edges by place, with the nodes also by key and by content hash. -/
structure Graph where
  nodes : Array Node := #[]
  edges : Array Edge := #[]
  ids : Std.HashMap NodeKey NodeId := ∅
  byHash : HashIndex := {}
  deriving Inhabited

namespace Graph

/-- A step that changes a graph, or fails and leaves the graph as it then is. -/
abbrev Update := EStateM GraphError Graph

/-- The graph without nodes. -/
def empty : Graph := {}

/-! ## Looking things up -/

/-- How many nodes there are. -/
def nodeCount (g : Graph) : Nat := g.nodes.size

/-- How many edges there are. -/
def edgeCount (g : Graph) : Nat := g.edges.size

/-- Whether the graph has a node at this place. -/
def hasNode (g : Graph) (n : NodeId) : Bool := n.index < g.nodes.size

/-- The node at a place. A place that holds none stands for a node without edges. -/
def node (g : Graph) (n : NodeId) : Node := g.nodes.getD n.index default

/-- The edge at a place. -/
def edge (g : Graph) (e : EdgeId) : Edge := g.edges.getD e.index default

/-- The places of all nodes, in ascending order. -/
def nodeIds (g : Graph) : List NodeId := (List.range g.nodes.size).map NodeId.mk

/-- The place of the node with this key. -/
def find? (g : Graph) (key : NodeKey) : Option NodeId := g.ids[key]?

/-- The nodes that carry a content hash. -/
def nodesByHash (g : Graph) (hash : UInt64) : Array NodeId := g.byHash.get hash

/-- The edges that leave a node, the call continuation last. -/
def outgoing (g : Graph) (n : NodeId) : List EdgeId := (g.node n).edges.outgoing

/-- The edge from one node to another. -/
def findEdge? (g : Graph) (source target : NodeId) : Option EdgeId :=
  (g.outgoing source).find? fun e => (g.edge e).target = target

/-! ## Growing the graph -/

/-- Add a node, or find the node that has its key already. The flag tells whether it is new. -/
def addNode (g : Graph) (node : Node) : (NodeId × Bool) × Graph :=
  match g.find? node.key with
  | some id => ((id, false), g)
  | none =>
    let id : NodeId := ⟨g.nodes.size⟩
    ((id, true),
      { g with
        nodes := g.nodes.push node
        ids := g.ids.insert node.key id
        byHash := g.byHash.add node.hash id })

/-- The same graph with other edges at one node. -/
def setAdjacency (g : Graph) (n : NodeId) (edges : Adjacency) : Graph :=
  { g with nodes := g.nodes.modify n.index fun node => { node with edges } }

/-- Ask whether a new edge may leave a node. -/
def checkOutgoing (source : NodeId) (kind : EdgeKind) (ordinal : UInt8) : Update Unit := fun g =>
  match (g.node source).edges.checkOutgoing kind ordinal with
  | .ok () => .ok () g
  | .error cause => .error (.illegalEdgeState (g.node source).key cause) g

/-- Record an edge at its source. -/
def attachOutgoing (source : NodeId) (id : EdgeId) (kind : EdgeKind) (ordinal : UInt8) :
    Update Unit := fun g =>
  match (g.node source).edges.addOutgoing id kind ordinal with
  | .ok edges => .ok () (g.setAdjacency source edges)
  | .error cause => .error (.illegalEdgeState (g.node source).key cause) g

/-- Record an edge at its target. -/
def attachIncoming (g : Graph) (target : NodeId) (id : EdgeId) : Graph :=
  { g with nodes := g.nodes.modify target.index fun node =>
      { node with edges := node.edges.addIncoming id } }

/-- Append an edge that joins no pair of nodes yet. -/
def appendEdge (e : Edge) : Update EdgeOutcome := do
  checkOutgoing e.source e.kind e.ordinal
  let id : EdgeId := ⟨(← get).edges.size⟩
  modify fun g => { g with edges := g.edges.push e }
  attachOutgoing e.source id e.kind e.ordinal
  modify fun g => g.attachIncoming e.target id
  return .added id

/-- Turn a call continuation into a direct edge of the given ordinal. -/
def upgrade (id : EdgeId) (ordinal : UInt8) : Update EdgeOutcome := do
  let source := ((← get).edge id).source
  checkOutgoing source .direct ordinal
  modify fun g => g.setAdjacency source { (g.node source).edges with continuation := none }
  attachOutgoing source id .direct ordinal
  modify fun g =>
    { g with edges := g.edges.modify id.index fun e => { e with kind := .direct, ordinal } }
  return .upgraded id

/-- Settle a request between two nodes that an edge joins already. -/
def reconcile (id : EdgeId) (kind : EdgeKind) (ordinal : UInt8) : Update EdgeOutcome := do
  let g ← get
  let e := g.edge id
  if e.kind = kind ∧ (kind = .callContinuation ∨ e.ordinal = ordinal) then
    return .duplicate id
  match e.kind, kind with
  | .direct, .callContinuation => return .mergedIntoDirect id
  | .callContinuation, .direct => upgrade id ordinal
  | _, _ =>
    throw (.multipleEdge (g.node e.source).key (g.node e.target).key e.kind e.ordinal kind ordinal)

/-- Ask for an edge from one node to another. -/
def addEdge (source target : NodeId) (kind : EdgeKind) (ordinal : UInt8) : Update EdgeOutcome := do
  match (← get).findEdge? source target with
  | some id => reconcile id kind ordinal
  | none => appendEdge ⟨source, target, kind, ordinal⟩

/-! ## The rule on entries and exits -/

/-- How a node breaks the rule that no edge arrives at an entry and none leaves an exit. -/
def violation? (node : Node) : Option GraphError :=
  if node.kind.isEntry && node.edges.incoming.size > 0 then
    some (.entryHasIncoming node.key node.kind node.edges.incoming.size)
  else if node.kind.isExit && node.edges.outgoingSize > 0 then
    some (.exitHasOutgoing node.key node.kind node.edges.outgoingSize)
  else none

/-- The first node that breaks the rule on entries and exits is an error. -/
def validate (g : Graph) : Except GraphError Unit :=
  match g.nodes.toList.findSome? violation? with
  | some cause => .error cause
  | none => .ok ()

end Graph
end FlowAtlas
