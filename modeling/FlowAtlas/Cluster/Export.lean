import FlowAtlas.Files.Error
import FlowAtlas.Files.Path
import FlowAtlas.Process
import FlowAtlas.Trace.Stream

/-!
# Exported clusters

A finished cluster is exported as three files: its nodes and its edges as records of fixed size, and
the list of its modules, which the nodes refer to by place. Boundary nodes belong to a module of
their own, the first of the list.

A node record has room for 32 bits of the address within a unit; how many addresses lost bits is
counted. An edge record has room for 26 bits of either node's place.
-/

set_option autoImplicit false

namespace FlowAtlas

/-! ## Records -/

/-- A node in an exported file. -/
structure ExportedNode where
  /-- The place of the unit in the list of modules. -/
  module : UInt16
  tag : UInt32
  /-- The version of a block, or whether a boundary node is for callbacks. -/
  version : UInt8
  kind : NodeKind
  hash : UInt64
  deriving DecidableEq, Repr, Inhabited

namespace ExportedNode

/-- Read a node: module, address, version and kind fill the first word from its low end. -/
def decode (bs : Bytes) : Except UnknownKind ExportedNode :=
  let w := (bs.word 0).toNat
  let code := UInt8.ofNat (w / Nat.pow 2 56)
  match NodeKind.ofCode? code with
  | some kind =>
    .ok ⟨UInt16.ofNat w, UInt32.ofNat (w / Nat.pow 2 16), UInt8.ofNat (w / Nat.pow 2 48), kind,
      bs.word 1⟩
  | none => .error (.node code)

/-- Write a node. -/
def encode (n : ExportedNode) : Bytes :=
  Bytes.ofNat 2 n.module.toNat ++ Bytes.ofNat 4 n.tag.toNat ++ [n.version, n.kind.code] ++
    Bytes.ofWord n.hash

instance : Record ExportedNode where
  size := 2 * 8
  size_pos := Nat.succ_pos _
  stream := "cluster-nodes"
  decode := decode
  encode := encode

end ExportedNode

/-- An edge in an exported file. -/
structure ExportedEdge where
  source : UInt32
  target : UInt32
  kind : EdgeKind
  ordinal : UInt8
  deriving DecidableEq, Repr, Inhabited

namespace ExportedEdge

/-- Places of nodes stay below this. -/
def nodeLimit : Nat := Nat.pow 2 26

/-- Read an edge: the two places of 26 bits, the kind of four and the ordinal of eight fill a word
from its low end. -/
def decode (bs : Bytes) : Except UnknownKind ExportedEdge :=
  let w := (bs.word 0).toNat
  let code := UInt8.ofNat (w / Nat.pow 2 52 % 16)
  match EdgeKind.ofCode? code with
  | some kind =>
    .ok ⟨UInt32.ofNat (w % nodeLimit), UInt32.ofNat (w / nodeLimit % nodeLimit), kind,
      UInt8.ofNat (w / Nat.pow 2 56)⟩
  | none => .error (.edge code)

/-- Write an edge. Of the places only the low 26 bits are kept. -/
def encode (e : ExportedEdge) : Bytes :=
  Bytes.ofNat 8 (e.source.toNat % nodeLimit + nodeLimit * (e.target.toNat % nodeLimit) +
    Nat.pow 2 52 * e.kind.code.toNat + Nat.pow 2 56 * e.ordinal.toNat)

instance : Record ExportedEdge where
  size := 8
  size_pos := Nat.succ_pos _
  stream := "cluster-edges"
  decode := decode
  encode := encode

end ExportedEdge

/-! ## Modules -/

/-- Why a cluster is not exported. -/
inductive ExportError
  /-- A file cannot be written. -/
  | io (path : String) (cause : FileError)
  /-- There are more nodes than an edge record can tell apart. -/
  | tooManyNodes (cluster : String) (count : Nat)
  /-- There are more modules than a node record can tell apart. -/
  | tooManyModules (cluster : String) (count : Nat)
  deriving DecidableEq, Repr

/-- The wording of the failure. -/
def ExportError.message : ExportError → String
  | io path cause => "failed to write " ++ path ++ ": " ++ cause.message
  | tooManyNodes cluster count =>
    "cluster '" ++ cluster ++ "' has " ++ Numeral.decimal count ++
      " nodes; edge records index at most 2^26"
  | tooManyModules cluster count =>
    "cluster '" ++ cluster ++ "' spans " ++ Numeral.decimal count ++
      " modules; node records index at most 65536"

/-- The modules of a cluster by place, with the place of each unit. -/
structure ModuleList where
  names : Array String
  places : Std.HashMap UnitId Nat := ∅

namespace ModuleList

/-- The module of all boundary nodes. -/
def boundaryName : String := "__cluster_boundary"

/-- Places of modules stay below this. -/
def limit : Nat := Nat.pow 2 16

/-- The module of the boundary nodes only. -/
def initial : ModuleList := ⟨#[boundaryName], ∅⟩

/-- Add the unit of a node, unless it is there or the node is a boundary node. When there is no room
for it, the number of modules there would be is the answer. -/
def add (units : UnitTable) (l : ModuleList) (node : Node) : Except Nat ModuleList :=
  if node.kind.isBoundary || l.places.contains node.unit then .ok l
  else if limit ≤ l.names.size then .error (l.names.size + 1)
  else .ok ⟨l.names.push (units.name node.unit), l.places.insert node.unit l.names.size⟩

/-- The modules of nodes, in the order of their first nodes. -/
def ofNodes (units : UnitTable) (nodes : List Node) : Except Nat ModuleList :=
  nodes.foldlM (add units) initial

end ModuleList

/-! ## Clusters -/

/-- What an exported cluster's files hold. -/
structure ClusterExport where
  cluster : String
  nodes : List ExportedNode
  edges : List ExportedEdge
  modules : List String
  /-- How many blocks have an address of more than 32 bits. -/
  truncatedTags : Nat
  deriving DecidableEq, Repr, Inhabited

namespace ClusterExport

/-- The exported form of a node. -/
def ofNode (l : ModuleList) (node : Node) : ExportedNode :=
  match node.key with
  | .block unit tag version =>
    ⟨UInt16.ofNat ((l.places[unit]?).getD 0), tag.toUInt32, version, node.kind, node.hash⟩
  | .boundary _ _ isCallback => ⟨0, 0, isCallback.toUInt8, node.kind, node.hash⟩
  | .processRoot => ⟨0, 0, 0, node.kind, node.hash⟩

/-- Whether the address of a block needs more than 32 bits. -/
def isTruncated (node : Node) : Bool :=
  match node.key with
  | .block _ tag _ => decide (Nat.pow 2 32 ≤ tag.toNat)
  | _ => false

/-- The exported form of an edge. -/
def ofEdge (e : Edge) : ExportedEdge :=
  ⟨UInt32.ofNat e.source.index, UInt32.ofNat e.target.index, e.kind, e.ordinal⟩

/-- Export a cluster. -/
def ofCluster (units : UnitTable) (c : Cluster) : Except ExportError ClusterExport :=
  let nodes := c.graph.nodes.toList
  if ExportedEdge.nodeLimit < nodes.length then .error (.tooManyNodes c.name nodes.length)
  else
    match ModuleList.ofNodes units nodes with
    | .error count => .error (.tooManyModules c.name count)
    | .ok l => .ok {
        cluster := c.name
        nodes := nodes.map (ofNode l)
        edges := c.graph.edges.toList.map ofEdge
        modules := l.names.toList
        truncatedTags := nodes.countP isTruncated }

/-- The contents of the file of nodes. -/
def nodeBytes (x : ClusterExport) : Bytes := Record.toBytes x.nodes

/-- The contents of the file of edges. -/
def edgeBytes (x : ClusterExport) : Bytes := Record.toBytes x.edges

/-- The contents of the file of modules: a line for each. -/
def moduleText (x : ClusterExport) : String := String.join (x.modules.map (· ++ "\n"))

end ClusterExport

/-- Where the files of an exported cluster are. -/
structure ExportPaths where
  nodes : String
  edges : String
  modules : String
  deriving DecidableEq, Repr, Inhabited

/-- The files of a cluster in a directory. -/
def ExportPaths.new (dir cluster : String) : ExportPaths :=
  ⟨Path.join dir (cluster ++ ".nodes.dat"), Path.join dir (cluster ++ ".edges.dat"),
    Path.join dir (cluster ++ ".modules.txt")⟩

end FlowAtlas
