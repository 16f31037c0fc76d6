import FlowAtlas.Graph.Adjacency
import FlowAtlas.SoftwareUnit

/-!
# Nodes of a control-flow graph

A node is known by its `NodeKey`: a basic block by its unit, its place in the unit and its version;
a cluster's entry or exit by the signature that passes through it; and the root of the process by
nothing else. `NodeKey.text` is how messages name a node.
-/

set_option autoImplicit false

namespace FlowAtlas

/-! ## Kinds -/

/-- The role of a node. -/
inductive NodeKind
  | normal
  | processEntry
  | processExit
  | trampoline
  | return
  | signalHandler
  | sigreturn
  | clusterEntry
  | clusterExit
  deriving DecidableEq, Hashable, Repr, Inhabited

namespace NodeKind

/-- Every kind, in the order of its number in files. -/
def all : List NodeKind :=
  [normal, processEntry, processExit, trampoline, .return, signalHandler, sigreturn,
    clusterEntry, clusterExit]

/-- The number that stands for the kind in files. -/
def code : NodeKind → UInt8
  | normal => 0
  | processEntry => 1
  | processExit => 2
  | trampoline => 3
  | .return => 4
  | signalHandler => 5
  | sigreturn => 6
  | clusterEntry => 7
  | clusterExit => 8

/-- The kind that a number stands for. -/
def ofCode? (code : UInt8) : Option NodeKind := all[code.toNat]?

/-- The kind's name in messages and reports. -/
def text : NodeKind → String
  | normal => "normal"
  | processEntry => "process_entry"
  | processExit => "process_exit"
  | trampoline => "trampoline"
  | .return => "return"
  | signalHandler => "signal_handler"
  | sigreturn => "sigreturn"
  | clusterEntry => "cluster_entry"
  | clusterExit => "cluster_exit"

/-- No edge may arrive at a node of this kind. -/
def isEntry (k : NodeKind) : Bool := k = processEntry || k = clusterEntry

/-- No edge may leave a node of this kind. -/
def isExit (k : NodeKind) : Bool := k = processExit || k = clusterExit

/-- Nodes of this kind stand at the border of a cluster. -/
def isBoundary (k : NodeKind) : Bool := k = clusterEntry || k = clusterExit

/-- Nodes of this kind are code of their unit. -/
def isExecutable (k : NodeKind) : Bool := !k.isBoundary

end NodeKind

/-! ## Keys -/

/-- What makes a node the node it is. -/
inductive NodeKey
  /-- A basic block: its unit, its address within the unit, and its version there. -/
  | block (unit : UnitId) (tag : UInt64) (version : UInt8)
  /-- An entry or exit of a cluster for the calls of one signature. -/
  | boundary (signature : UInt64) (kind : NodeKind) (isCallback : Bool)
  /-- Where the process begins. -/
  | processRoot
  deriving DecidableEq, Hashable, Repr, Inhabited

namespace NodeKey

/-- How messages name a node. -/
def text : NodeKey → String
  | block unit tag version =>
    unit.text ++ "+" ++ Numeral.hex tag.toNat ++ ".v" ++ Numeral.decimal version.toNat
  | boundary signature kind isCallback =>
    kind.text ++ "(" ++ Numeral.hex signature.toNat ++ ")" ++
      (if isCallback then " (callback)" else "")
  | processRoot => "process_root"

/-- The numbers by which keys are ordered, the most significant first: blocks before boundary nodes
before the root, then field by field. -/
def rank : NodeKey → List Nat
  | block unit tag version => [0, unit.index, tag.toNat, version.toNat]
  | boundary signature kind isCallback =>
    [1, signature.toNat, kind.code.toNat, isCallback.toNat]
  | processRoot => [2]

instance : Ord NodeKey := ⟨fun a b => compare a.rank b.rank⟩

/-- Whether the key belongs to a boundary node for callbacks. -/
def isCallback : NodeKey → Bool
  | boundary _ _ callback => callback
  | _ => false

end NodeKey

/-! ## Nodes -/

/-- A node with its content hash, its role, the unit that owns it, and the edges at it. -/
structure Node where
  key : NodeKey
  hash : UInt64
  kind : NodeKind
  unit : UnitId
  edges : Adjacency := {}
  deriving DecidableEq, Repr, Inhabited

namespace Node

/-- A boundary node. Its content hash is the signature that passes through it. -/
def boundary (signature : UInt64) (kind : NodeKind) (isCallback : Bool) (owner : UnitId) : Node :=
  { key := .boundary signature kind isCallback, hash := signature, kind, unit := owner }

/-- The content hash of the process root. -/
def processRootHash : UInt64 := 1

/-- The process root: an entry that belongs to no signature. -/
def processRoot (owner : UnitId) : Node :=
  { key := .processRoot, hash := processRootHash, kind := .clusterEntry, unit := owner }

end Node
end FlowAtlas
