import Std.Data.HashMap
import FlowAtlas.Graph.Edge

/-!
# Nodes by content hash

Equal code may stand at several places, so that one content hash leads to several nodes.
`HashIndex.get` lists the nodes of a hash in the order in which they were first added under it.

Most hashes have one node. So a bucket begins as that node alone, and becomes a list when a second
node arrives.
-/

set_option autoImplicit false

namespace FlowAtlas

/-- The nodes of one hash. -/
inductive HashIndex.Bucket
  | single (node : NodeId)
  | many (nodes : Array NodeId)
  deriving DecidableEq, Repr, Inhabited

/-- Which nodes carry which content hash. -/
structure HashIndex where
  buckets : Std.HashMap UInt64 HashIndex.Bucket := ∅
  /-- How many pairs of a hash and a node were added. -/
  size : Nat := 0
  deriving Inhabited

namespace HashIndex

/-- No node. -/
def empty : HashIndex := {}

/-- The nodes of a hash, in the order of their first addition. -/
def get (x : HashIndex) (hash : UInt64) : Array NodeId :=
  match x.buckets[hash]? with
  | none => #[]
  | some (.single node) => #[node]
  | some (.many nodes) => nodes

/-- The index with one more node, which the new bucket of the hash holds. -/
def grow (x : HashIndex) (hash : UInt64) (bucket : Bucket) : HashIndex :=
  ⟨x.buckets.insert hash bucket, x.size + 1⟩

/-- Add a node under a hash. A node that stands there already is not repeated. -/
def add (x : HashIndex) (hash : UInt64) (node : NodeId) : HashIndex :=
  match x.buckets[hash]? with
  | none => x.grow hash (.single node)
  | some (.single first) => if first = node then x else x.grow hash (.many #[first, node])
  | some (.many nodes) => if node ∈ nodes then x else x.grow hash (.many (nodes.push node))

/-- Whether the node was added under the hash. -/
def contains (x : HashIndex) (hash : UInt64) (node : NodeId) : Bool := node ∈ x.get hash

/-- How many different hashes were added. -/
def hashCount (x : HashIndex) : Nat := x.buckets.size

/-- Whether nothing was added. -/
def isEmpty (x : HashIndex) : Bool := x.size == 0

end HashIndex
end FlowAtlas
