import FlowAtlas.Cluster.Crossing
import FlowAtlas.Files.Error
import FlowAtlas.Text.Character

/-!
# Which unit belongs to which cluster

A `ClusterSpec` lists the units of one cluster; `ClusterSpec.ofText` reads it from the text of a
cluster file, where each line names a unit and may mark it as dynamic. A `ClusterConfig` puts specs
together: `ClusterConfig.ofSpecs` orders them by name, adds the default cluster and the cluster of
dynamic code where they are missing, and refuses a unit that is listed twice.
`ClusterConfig.clusterOf` then routes a unit.
-/

set_option autoImplicit false

namespace FlowAtlas

/-- What is wrong with a configuration. -/
inductive ConfigError
  /-- The directory of cluster files is missing. -/
  | missingDir (path : String)
  /-- A cluster file or the directory cannot be read. -/
  | io (path : String) (cause : FileError)
  /-- A cluster without units. -/
  | emptyCluster (name : String)
  /-- Dynamic and static units in one cluster. -/
  | mixedDynamic (name : String)
  /-- A unit in two places. -/
  | duplicateUnit (unit first second : String)
  /-- Static units in the cluster of dynamic code. -/
  | staticDynamicCluster (name : String)
  deriving DecidableEq, Repr

/-- The wording of the fault. -/
def ConfigError.message : ConfigError → String
  | missingDir path => "cluster config directory not found: " ++ path
  | io path cause => "failed to read cluster config " ++ path ++ ": " ++ cause.message
  | emptyCluster name => "cluster '" ++ name ++ "' lists no units"
  | mixedDynamic name => "cluster '" ++ name ++ "' mixes dynamic and static units"
  | duplicateUnit unit first second =>
    "unit '" ++ unit ++ "' is listed in both '" ++ first ++ "' and '" ++ second ++ "'"
  | staticDynamicCluster name =>
    "cluster '" ++ name ++ "' is reserved for dynamic code and cannot list static units"

/-! ## One cluster -/

/-- The units of one cluster. -/
structure ClusterSpec where
  name : String
  units : List SoftwareUnit
  isDynamic : Bool
  deriving DecidableEq, Repr, Inhabited

namespace ClusterSpec

/-- A cluster of some units, which must be all dynamic or all static. -/
def ofUnits (name : String) : List SoftwareUnit → Except ConfigError ClusterSpec
  | [] => .error (.emptyCluster name)
  | u :: us =>
    if us.any (·.isDynamic != u.isDynamic) then .error (.mixedDynamic name)
    else .ok ⟨name, u :: us, u.isDynamic⟩

/-- Whether two texts are the same up to the case of ASCII letters. -/
def sameWord (a b : List Char) : Bool := a.map Char.toLower == b.map Char.toLower

/-- The unit that a line of a cluster file lists. The first word is its name, and any later word
`dynamic` marks it. A line that is blank or starts with a number sign lists none. -/
def unitOfLine? (line : List Char) : Option SoftwareUnit :=
  match Text.words line with
  | [] => none
  | name :: marks =>
    if name.head? = some '#' then none
    else some { SoftwareUnit.parse (String.ofList name) with
      isDynamic := marks.any (sameWord · "dynamic".toList) }

/-- Read the text of a cluster file. -/
def ofText (name : String) (text : String) : Except ConfigError ClusterSpec :=
  ofUnits name ((text.toList.splitOn '\n').filterMap unitOfLine?)

/-- A cluster that no file describes. -/
def implicit (name : String) (isDynamic : Bool) : ClusterSpec := ⟨name, [], isDynamic⟩

end ClusterSpec

/-! ## All clusters -/

/-- The clusters by number, with the cluster of each listed unit. -/
structure ClusterConfig where
  clusters : List ClusterSpec
  clusterOfName : Std.HashMap String ClusterId
  /-- Where units go that no cluster lists. -/
  default : ClusterId
  /-- Where code outside every known unit goes. -/
  dynamic : ClusterId

namespace ClusterConfig

/-- The name of the default cluster unless another is chosen. -/
def defaultName : String := "main"

/-- The name of the cluster of dynamic code. -/
def dynamicName : String := "dynamic"

/-- The specs, followed by a cluster of the given name when they have none. -/
def withCluster (name : String) (specs : List ClusterSpec) : List ClusterSpec :=
  if specs.any (·.name == name) then specs
  else specs ++ [.implicit name (name == dynamicName)]

/-- The specs by name, followed by the clusters that every configuration has. -/
def arrange (specs : List ClusterSpec) (default : String) : List ClusterSpec :=
  withCluster dynamicName
    (withCluster default (specs.mergeSort fun a b => decide (a.name ≤ b.name)))

/-- The first cluster of a name, or the first of all. -/
def position (specs : List ClusterSpec) (name : String) : ClusterId :=
  ⟨(specs.findIdx? (·.name == name)).getD 0⟩

/-- Route the units of one cluster, which no other cluster may list. -/
def claimUnits (specs : List ClusterSpec) (id : ClusterId) (owner : String) :
    Std.HashMap String ClusterId → List SoftwareUnit →
      Except ConfigError (Std.HashMap String ClusterId)
  | claimed, [] => .ok claimed
  | claimed, u :: us =>
    match claimed[u.name]? with
    | some first =>
      .error (.duplicateUnit u.name ((specs[first.index]?.map (·.name)).getD "") owner)
    | none => claimUnits specs id owner (claimed.insert u.name id) us

/-- Route the units of clusters that stand from the given number on. -/
def claimAll (specs : List ClusterSpec) :
    Nat → Std.HashMap String ClusterId → List ClusterSpec →
      Except ConfigError (Std.HashMap String ClusterId)
  | _, claimed, [] => .ok claimed
  | i, claimed, s :: rest =>
    if s.name = dynamicName ∧ s.isDynamic = false then .error (.staticDynamicCluster s.name)
    else do
      let claimed ← claimUnits specs ⟨i⟩ s.name claimed s.units
      claimAll specs (i + 1) claimed rest

/-- Put specs together, with a default cluster of the given name. -/
def ofSpecs (specs : List ClusterSpec) (default : String) : Except ConfigError ClusterConfig := do
  let clusters := arrange specs default
  let clusterOfName ← claimAll clusters 0 ∅ clusters
  return ⟨clusters, clusterOfName, position clusters default, position clusters dynamicName⟩

/-- The configuration that lists no unit. Its default cluster comes first. -/
def empty (default : String) : ClusterConfig :=
  let clusters := withCluster dynamicName (withCluster default [])
  ⟨clusters, ∅, ⟨0⟩, position clusters dynamicName⟩

/-- The cluster of a unit. -/
def clusterOf (c : ClusterConfig) (u : SoftwareUnit) : ClusterId :=
  if u.isUnknown then c.dynamic else c.clusterOfName[u.name]?.getD c.default

/-- The cluster of a number. -/
def get? (c : ClusterConfig) (id : ClusterId) : Option ClusterSpec := c.clusters[id.index]?

/-- The number of the first cluster of a name. -/
def find? (c : ClusterConfig) (name : String) : Option ClusterId :=
  (c.clusters.findIdx? (·.name == name)).map ClusterId.mk

/-- How many clusters there are. -/
def size (c : ClusterConfig) : Nat := c.clusters.length

/-- Every listed unit, by cluster. -/
def listedUnits (c : ClusterConfig) : List SoftwareUnit := c.clusters.flatMap (·.units)

/-- The clusters, still without nodes. -/
def emptyClusters (c : ClusterConfig) : Clusters :=
  (c.clusters.mapIdx fun i s => Cluster.empty ⟨i⟩ s.name).toArray

end ClusterConfig
end FlowAtlas
