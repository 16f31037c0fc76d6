import FlowAtlas.Graph.Edge

/-!
# The edges at one node

The edges that leave a node are grouped by ordinal, one *bucket* for each ordinal in use, and all
edges of a bucket have one kind. A call continuation stands apart: a node has at most one, and it
belongs to no bucket. The edges that arrive at a node are a plain list.

* `OrdinalBuckets` keeps all buckets in one array, in ascending order of their ordinals, and beside
  it where each of them starts and how long it is (`Partition`). An ordinal is found by halves.
  `OrdinalBuckets.insert` is the one update: an edge comes into the array at the end of its bucket,
  and every later bucket starts one further.
* `Adjacency` is all three parts together. `Adjacency.checkOutgoing` foretells whether
  `Adjacency.addOutgoing` would take an edge.
-/

set_option autoImplicit false

namespace FlowAtlas

/-- Why a node does not take an edge. -/
inductive AdjacencyError
  /-- The node has a call continuation already. -/
  | callContinuationTaken (existing : EdgeId)
  /-- The bucket of the ordinal holds edges of another kind. -/
  | mixedOrdinal (ordinal : UInt8) (existing requested : EdgeKind)
  deriving DecidableEq, Repr

/-- The wording of the refusal. -/
def AdjacencyError.message : AdjacencyError → String
  | callContinuationTaken existing =>
    "node already holds call-continuation edge EdgeId(" ++ Numeral.decimal existing.index ++ ")"
  | mixedOrdinal ordinal existing requested =>
    "ordinal " ++ Numeral.decimal ordinal.toNat ++ " holds " ++ existing.text ++
      " edges; cannot add a " ++ requested.text ++ " edge"

/-! ## Edges by ordinal -/

/-- Where the edges of one ordinal stand among all edges, and the kind that they share. -/
structure Partition where
  ordinal : UInt8
  kind : EdgeKind
  start : Nat
  size : Nat
  deriving DecidableEq, Repr, Inhabited

/-- The place behind the last edge of the partition. -/
def Partition.stop (p : Partition) : Nat := p.start + p.size

/-- Outgoing edges in one array, partition after partition. -/
structure OrdinalBuckets where
  edges : Array EdgeId := #[]
  /-- One for each ordinal in use, in ascending order. -/
  parts : Array Partition := #[]
  deriving DecidableEq, Repr, Inhabited

namespace OrdinalBuckets

/-- No edge. -/
def empty : OrdinalBuckets := {}

/-- The partition at a place. A place that holds none stands for a partition without edges. -/
def part (l : OrdinalBuckets) (place : Nat) : Partition := l.parts.getD place default

/-- The edges of a partition. -/
def slice (l : OrdinalBuckets) (part : Partition) : Array EdgeId :=
  l.edges.extract part.start part.stop

/-! ### Finding a partition -/

/-- Search the places from `lo` up to `hi` for an ordinal by halves: `.ok` is its place, and `.error`
the place where it is missing. -/
def searchFrom (l : OrdinalBuckets) (ordinal : UInt8) (lo hi : Nat) : Except Nat Nat :=
  if lo < hi then
    let middle := lo + (hi - lo) / 2
    let found := (l.part middle).ordinal
    if found = ordinal then .ok middle
    else if found < ordinal then searchFrom l ordinal (middle + 1) hi
    else searchFrom l ordinal lo middle
  else .error lo
termination_by hi - lo

/-- Search all places for an ordinal. -/
def search (l : OrdinalBuckets) (ordinal : UInt8) : Except Nat Nat :=
  l.searchFrom ordinal 0 l.parts.size

/-- The edges of one ordinal, none when it is not in use. -/
def edgesAt (l : OrdinalBuckets) (ordinal : UInt8) : Array EdgeId :=
  match l.search ordinal with
  | .ok place => l.slice (l.part place)
  | .error _ => #[]

/-- The kind that the edges of an ordinal share. -/
def kindAt? (l : OrdinalBuckets) (ordinal : UInt8) : Option EdgeKind :=
  match l.search ordinal with
  | .ok place => some (l.part place).kind
  | .error _ => none

/-- Whether an edge of this kind may join those of the ordinal. -/
def check (l : OrdinalBuckets) (ordinal : UInt8) (kind : EdgeKind) : Except AdjacencyError Unit :=
  match l.search ordinal with
  | .ok place =>
    let existing := (l.part place).kind
    if existing = kind then .ok () else .error (.mixedOrdinal ordinal existing kind)
  | .error _ => .ok ()

/-! ### Adding an edge -/

/-- Put an edge behind those of the partition at a place. -/
def extend (l : OrdinalBuckets) (place : Nat) (id : EdgeId) : OrdinalBuckets where
  edges := l.edges.insertIdxIfInBounds (l.part place).stop id
  parts := l.parts.modify place fun part => { part with size := part.size + 1 }

/-- Open a partition for an edge at a place. -/
def openAt (l : OrdinalBuckets) (place : Nat) (ordinal : UInt8) (kind : EdgeKind) (id : EdgeId) :
    OrdinalBuckets :=
  let start := if place = 0 then 0 else (l.part (place - 1)).stop
  { edges := l.edges.insertIdxIfInBounds start id
    parts := l.parts.insertIdxIfInBounds place ⟨ordinal, kind, start, 1⟩ }

/-- Let every partition behind a place start one later. -/
def shiftAfter (l : OrdinalBuckets) (place : Nat) : OrdinalBuckets :=
  { l with
    parts := l.parts.mapIdx fun i part =>
      if place < i then { part with start := part.start + 1 } else part }

/-- Add an edge, unless its ordinal has edges of another kind. The flag tells whether the edge is new
there. -/
def insert (l : OrdinalBuckets) (ordinal : UInt8) (kind : EdgeKind) (id : EdgeId) :
    Except AdjacencyError (Bool × OrdinalBuckets) := do
  l.check ordinal kind
  match l.search ordinal with
  | .ok place =>
    if id ∈ l.slice (l.part place) then return (false, l)
    else return (true, (l.extend place id).shiftAfter place)
  | .error place => return (true, (l.openAt place ordinal kind id).shiftAfter place)

/-! ### All edges -/

/-- Every edge, by ascending ordinal. -/
def toList (l : OrdinalBuckets) : List EdgeId := l.edges.toList

/-- How many edges there are. -/
def size (l : OrdinalBuckets) : Nat := l.edges.size

/-- The ordinals in use, each with the kind of its edges. -/
def partitions (l : OrdinalBuckets) : List (UInt8 × EdgeKind) :=
  l.parts.toList.map fun part => (part.ordinal, part.kind)

/-- One more than the largest ordinal in use, or zero. -/
def ordinalCount (l : OrdinalBuckets) : Nat :=
  match l.parts.back? with
  | some part => part.ordinal.toNat + 1
  | none => 0

end OrdinalBuckets

/-- The edges of one ordinal, in the order in which they came. -/
structure Bucket where
  ordinal : UInt8
  kind : EdgeKind
  edges : Array EdgeId
  deriving DecidableEq, Repr

/-- The ordinals in use, each with its edges. -/
def OrdinalBuckets.buckets (l : OrdinalBuckets) : List Bucket :=
  l.parts.toList.map fun part => ⟨part.ordinal, part.kind, l.slice part⟩

/-! ## All edges at a node -/

/-- The edges that leave a node and those that arrive at it. -/
structure Adjacency where
  buckets : OrdinalBuckets := {}
  continuation : Option EdgeId := none
  incoming : Array EdgeId := #[]
  deriving DecidableEq, Repr, Inhabited

namespace Adjacency

/-- Record an edge that arrives. -/
def addIncoming (a : Adjacency) (id : EdgeId) : Adjacency :=
  { a with incoming := a.incoming.push id }

/-- Record an edge that leaves: a call continuation in its own place, every other edge in the bucket
of its ordinal. -/
def addOutgoing (a : Adjacency) (id : EdgeId) (kind : EdgeKind) (ordinal : UInt8) :
    Except AdjacencyError Adjacency :=
  if kind = .callContinuation then
    match a.continuation with
    | some existing =>
      if existing = id then .ok a else .error (.callContinuationTaken existing)
    | none => .ok { a with continuation := some id }
  else do
    let (_, buckets) ← a.buckets.insert ordinal kind id
    return { a with buckets }

/-- Whether a new edge of this kind and ordinal may leave the node. -/
def checkOutgoing (a : Adjacency) (kind : EdgeKind) (ordinal : UInt8) :
    Except AdjacencyError Unit :=
  if kind = .callContinuation then
    match a.continuation with
    | some existing => .error (.callContinuationTaken existing)
    | none => .ok ()
  else a.buckets.check ordinal kind

/-- Every edge that leaves the node, the call continuation last. -/
def outgoing (a : Adjacency) : List EdgeId :=
  a.buckets.toList ++ a.continuation.toList

/-- How many edges leave the node. -/
def outgoingSize (a : Adjacency) : Nat :=
  a.buckets.size + if a.continuation.isSome then 1 else 0

end Adjacency
end FlowAtlas
