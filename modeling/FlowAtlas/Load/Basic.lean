import FlowAtlas.Load.Error
import FlowAtlas.Load.Routing
import FlowAtlas.Process

/-!
# Loading a trace

`TraceFiles.load` makes the graph of a process from the four files of its trace. It goes through the
stages in order:

* the module log tells which unit occupied which addresses when;
* each block record becomes a node of its unit's cluster, and the first one also brings the process
  root, which leads to it;
* each edge record joins two nodes of one cluster;
* each cross-module record joins two nodes of one cluster or is split between two clusters;
* the rule on entries and exits is checked, and what no entry leads to is searched for.

Every block is in place before the first edge is read. The first error ends the load. What was
announced until then is kept: a `LoadEvent` for each new node and edge, for each finished cluster,
and for the finished graph.
-/

set_option autoImplicit false

namespace FlowAtlas

/-- What happens in a load. -/
inductive LoadEvent
  | nodeAdded (cluster : ClusterId) (node : NodeId) (key : NodeKey)
  /-- A new edge, as it was when it was added. -/
  | edgeAdded (cluster : ClusterId) (id : EdgeId) (edge : Edge)
  /-- A cluster that holds nodes is finished. -/
  | clusterLoaded (cluster : ClusterId)
  | graphLoaded
  deriving DecidableEq, Repr

/-- What a load has made so far. -/
structure LoadState where
  clusters : Clusters
  root : Option ClusterNode := none
  stats : LoadStats := {}
  events : Array LoadEvent := #[]

/-- A step of a load. -/
abbrev Loading := EStateM LoadError LoadState

namespace Loading

/-! ## Single steps -/

/-- Count something. -/
def count (f : LoadStats → LoadStats) : Loading Unit :=
  modify fun s => { s with stats := f s.stats }

/-- Announce something. -/
def announce (e : LoadEvent) : Loading Unit :=
  modify fun s => { s with events := s.events.push e }

/-- Change the clusters. A refusal is told as an error of the load. -/
def onClusters {ε α : Type} (asError : Clusters → ε → LoadError) (step : EStateM ε Clusters α) :
    Loading α := fun s =>
  let clusters := s.clusters
  let s := { s with clusters := #[] }
  match step clusters with
  | .ok a clusters => .ok a { s with clusters }
  | .error cause clusters => .error (asError clusters cause) { s with clusters }

/-- The name of a cluster. -/
def nameOf (cs : Clusters) (c : ClusterId) : String := (cs.get c).name

/-- Announce a node if it is new. -/
def announceNode (c : ClusterId) (placed : NodeId × Bool) : Loading Unit := do
  if placed.2 then
    let key := (((← get).clusters.get c).graph.node placed.1).key
    announce (.nodeAdded c placed.1 key)

/-- Announce an edge if it is new. -/
def announceEdge (c : ClusterId) (outcome : EdgeOutcome) : Loading Unit := do
  if outcome.isNew then
    let edge := ((← get).clusters.get c).graph.edge outcome.edge
    announce (.edgeAdded c outcome.edge edge)

/-- Find or make a node, and announce a new one. -/
def place (c : ClusterId) (step : Cluster → (NodeId × Bool) × Cluster) : Loading NodeId := do
  let placed ← onClusters (fun _ (e : LoadError) => e) (Clusters.onNode c step)
  announceNode c placed
  return placed.1

/-- Ask for an edge within a cluster, and announce a new one. One that is known to be new is
announced whatever the outcome says. -/
def join (stage : LoadStage) (c : ClusterId) (source target : NodeId) (kind : EdgeKind)
    (ordinal : UInt8) (isKnownNew : Bool) : Loading Unit := do
  let outcome ← onClusters (fun cs cause => .graph stage (nameOf cs c) (.graph cause))
    (Clusters.on c (Cluster.addEdge source target kind ordinal))
  announceEdge c (if isKnownNew then .added outcome.edge else outcome)

/-- Split an edge between two clusters, and announce what is new on either side. -/
def cross (source target : ClusterNode) (t : Transfer) : Loading Unit := do
  let crossing ← onClusters
    (fun cs cause => .graph .crossModuleEdges
      (nameOf cs source.cluster ++ " -> " ++ nameOf cs target.cluster) cause)
    (Crossing.split source target t)
  count fun n => { n with clusterCrossings := n.clusterCrossings + 1 }
  announceNode source.cluster (crossing.exit.node, crossing.exitCreated)
  announceEdge source.cluster crossing.exitEdge
  announceNode target.cluster (crossing.entry.node, crossing.entryCreated)
  announceEdge target.cluster crossing.entryEdge

/-! ## Records -/

/-- Make the process root in the cluster of the first block. It leads to that block unless the block
is an entry itself. -/
def addRoot (first : ClusterNode) (kind : NodeKind) : Loading Unit := do
  let owner := (((← get).clusters.get first.cluster).graph.node first.node).unit
  let root ← place first.cluster (·.addRoot owner)
  unless kind.isEntry do
    join .nodes first.cluster root first.node .moduleEntry 0 true
  modify fun s => { s with root := some ⟨first.cluster, root⟩ }

/-- Take in a block record. -/
def loadNode (r : Routing) (position : Nat) (record : NodeRecord) : Loading Unit := do
  count fun n => { n with nodeRecords := n.nodeRecords + 1 }
  let (unit, tag) := r.modules.locate record.tag .block position
  let cluster := r.cluster unit
  let key := NodeKey.block unit tag record.version
  let node ← place cluster (·.addNode { key, hash := record.hash, kind := record.kind, unit })
  if (← get).root.isNone then addRoot ⟨cluster, node⟩ record.kind

/-- Judge an edge record, count what makes no edge, and go on with the ends of one that does. -/
def resolve (r : Routing) (e : EdgeRecord) (stream : StreamKind) (position : Nat)
    (found : ClusterNode → ClusterNode → Loading Unit) : Loading Unit := do
  let (fate, alternates) := r.fate (← get).clusters e stream position
  count fun n => { n with alternateVersionHits := n.alternateVersionHits + alternates }
  match fate with
  | .skipped => count fun n => { n with skippedSentinels := n.skippedSentinels + 1 }
  | .discarded => count fun n => { n with discardedContinuations := n.discardedContinuations + 1 }
  | .unresolved => count fun n => { n with unresolvedEndpoints := n.unresolvedEndpoints + 1 }
  | .resolved source target => found source target

/-- Take in an edge record. -/
def loadEdge (r : Routing) (position : Nat) (e : EdgeRecord) : Loading Unit := do
  count fun n => { n with edgeRecords := n.edgeRecords + 1 }
  resolve r e .edge position fun source target =>
    if source.cluster = target.cluster then
      join .edges source.cluster source.node target.node e.kind e.ordinal false
    else count fun n => { n with misroutedEdges := n.misroutedEdges + 1 }

/-- Take in a cross-module record. -/
def loadCross (r : Routing) (position : Nat) (x : CrossRecord) : Loading Unit := do
  count fun n => { n with crossModuleRecords := n.crossModuleRecords + 1 }
  resolve r x.edge .crossModuleEdge position fun source target =>
    if source.cluster = target.cluster then
      join .crossModuleEdges source.cluster source.node target.node x.edge.kind x.edge.ordinal
        false
    else
      cross source target ⟨x.edge.kind, x.edge.ordinal, x.signatureHash, x.isCallback⟩

/-! ## The end of a load -/

/-- Check the rule on entries and exits, cluster by cluster. -/
def validate : Loading Unit := do
  (← get).clusters.toList.forM fun c =>
    match c.validate with
    | .ok () => pure ()
    | .error cause => throw (.graph .validate c.name (.graph cause))

/-- Search each cluster that holds nodes for what no entry leads to. -/
def search : Loading Unit :=
  modify fun s =>
    let populated := s.clusters.filter fun c => c.graph.nodeCount > 0
    { s with
      clusters := s.clusters.map fun c =>
        if c.graph.nodeCount > 0 then c.findUnreachable.2 else c
      events := s.events ++ populated.map fun c => .clusterLoaded c.id }

end Loading

/-! ## The files of a trace -/

/-- A file of a trace: its contents, or why they cannot be had. -/
structure TraceFile where
  path : String
  contents : Except FileError Bytes

namespace TraceFile

/-- Whether a failure shows only when an opened file is read. -/
def failsLate (e : FileError) : Bool := e = .isADirectory

/-- Open the file. What it holds may still be a failure. -/
def «open» (f : TraceFile) (stage : LoadStage) : Except LoadError (Except FileError Bytes) :=
  match f.contents with
  | .ok bs => .ok (.ok bs)
  | .error e => if failsLate e then .ok (.error e) else .error (.io stage f.path e)

/-- Read the file as a module log. -/
def readLog (f : TraceFile) (units : UnitTable) : Except LoadError (AddressMap × UnitTable) := do
  match ← f.open .moduleLog with
  | .error e => throw (.moduleLog (.io e.message))
  | .ok bs =>
    match ModuleLog.read units bs with
    | (.ok modules, units) => return (modules, units)
    | (.error cause, _) => throw (.moduleLog cause)

/-- Read the file as a stream of records, and take in each of them. -/
def forEach {α : Type} [Record α] (f : TraceFile) (stage : LoadStage)
    (step : Nat → α → Loading Unit) : Loading Unit := do
  match f.open stage with
  | .error e => throw e
  | .ok contents =>
    let source :=
      match contents with
      | .ok bs => Delivery.bytes bs
      | .error e => .failed e.message
    (RecordReader.readAll (⟨[source], 0, false⟩ : RecordReader α)).1.forM fun
      | .ok (position, record) => step position record
      | .error cause => throw (.trace cause)

end TraceFile

/-- The four files of a trace. -/
structure TraceFiles where
  process : String
  moduleLog : TraceFile
  blockStream : TraceFile
  edgeStream : TraceFile
  crossModuleStream : TraceFile

/-- How a load ends, and what was announced on the way. -/
structure LoadOutcome where
  result : Except LoadError ProcessGraph
  events : List LoadEvent

namespace TraceFiles

/-- The stages after the module log. -/
def stages (t : TraceFiles) (r : Routing) : Loading Unit := do
  t.blockStream.forEach .nodes (Loading.loadNode r)
  t.edgeStream.forEach .edges (Loading.loadEdge r)
  t.crossModuleStream.forEach .crossModuleEdges (Loading.loadCross r)
  Loading.validate
  Loading.search
  Loading.announce .graphLoaded

/-- Make the graph of a process from its trace. -/
def load (config : ClusterConfig) (t : TraceFiles) : LoadOutcome :=
  match t.moduleLog.readLog .initial with
  | .error e => ⟨.error e, []⟩
  | .ok (modules, units) =>
    match t.stages (.ofConfig config units modules) { clusters := config.emptyClusters } with
    | .ok () s => ⟨.ok ⟨t.process, units, modules, s.clusters, s.root, s.stats⟩, s.events.toList⟩
    | .error e s => ⟨.error e, s.events.toList⟩

end TraceFiles
end FlowAtlas
