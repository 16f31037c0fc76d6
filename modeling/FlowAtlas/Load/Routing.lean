import FlowAtlas.Cluster.Config
import FlowAtlas.Module.Instance
import FlowAtlas.Trace.Record

/-!
# Where a recorded address belongs

A record names code by an address and a version. The module instances tell the unit and the address
within it, and the configuration tells the unit's cluster. `Routing.find?` looks for the node there,
at the recorded version first and then at the versions beside it. `Routing.fate` judges a whole edge
record by what is found for its two ends.
-/

set_option autoImplicit false

namespace FlowAtlas

/-- What it takes to find the cluster of an address. -/
structure Routing where
  modules : AddressMap
  /-- The cluster of each unit, by the unit's number. -/
  clusterOf : Array ClusterId
  /-- The cluster of units without a number. -/
  fallback : ClusterId

namespace Routing

/-- Route the given units as the configuration says. -/
def ofConfig (config : ClusterConfig) (units : UnitTable) (modules : AddressMap) : Routing :=
  ⟨modules, units.units.map config.clusterOf, config.default⟩

/-- The cluster of a unit. -/
def cluster (r : Routing) (unit : UnitId) : ClusterId := r.clusterOf.getD unit.index r.fallback

/-- The versions beside a version. -/
def neighbours (version : UInt8) : List UInt8 :=
  (if version = 255 then [] else [version + 1]) ++ (if version = 0 then [] else [version - 1])

/-- The node of an endpoint. The flag tells that only a neighbouring version has one. -/
def find? (r : Routing) (cs : Clusters) (e : Endpoint) (stream : StreamKind) (position : Nat) :
    Option (ClusterNode × Bool) :=
  let (unit, tag) := r.modules.locate e.tag stream position
  let cluster := r.cluster unit
  let atVersion := fun version => (cs.get cluster).graph.find? (.block unit tag version)
  match atVersion e.version with
  | some node => some (⟨cluster, node⟩, false)
  | none => ((neighbours e.version).findSome? atVersion).map fun node => (⟨cluster, node⟩, true)

/-- What becomes of an edge record. -/
inductive Fate
  /-- It is to be passed over. -/
  | skipped
  /-- A call continuation to code that never ran. -/
  | discarded
  /-- An end is missing. -/
  | unresolved
  /-- Both ends are found. -/
  | resolved (source target : ClusterNode)
  deriving DecidableEq, Repr

/-- Judge an edge record. The number tells how many ends were found at a neighbouring version. -/
def fate (r : Routing) (cs : Clusters) (e : EdgeRecord) (stream : StreamKind) (position : Nat) :
    Fate × Nat :=
  if e.isSkipped then (.skipped, 0)
  else
    let source := r.find? cs e.source stream position
    let target := r.find? cs e.target stream position
    let alternates := [source, target].countP fun found => (found.map (·.2)).getD false
    match source, target with
    | some (s, _), some (t, _) => (.resolved s t, alternates)
    | some _, none =>
      if e.kind = .callContinuation then (.discarded, alternates) else (.unresolved, alternates)
    | none, _ => (.unresolved, alternates)

end Routing
end FlowAtlas
