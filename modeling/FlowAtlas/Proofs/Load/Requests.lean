import FlowAtlas.Proofs.Cluster.Requests
import FlowAtlas.Proofs.Load.Asks
import FlowAtlas.Proofs.Stateful

/-!
# What a load asks of the clusters

A load changes its clusters by requests to single clusters.  `Routing.Requests` lists which ones
there can be, given the block records and the cross-module records of the trace, and `Routing.Step`
is one such change; the search for what was not reached is another.

Whether a load succeeds or fails, and wherever it fails, its clusters have come of the empty ones by
such steps.  An invariant of the clusters at every moment of every load therefore needs a proof for
each kind of request, and nothing about files, counters and errors.  `Crossing.follows_split` shows
where the requests of a record that crosses between clusters come from.
-/

set_option autoImplicit false

namespace FlowAtlas

open EStateM Relation

namespace Clusters

variable {cs : Clusters} {c : Cluster} {x : ClusterNode}

/-- The place holds a basic block. -/
def HasBlock (cs : Clusters) (x : ClusterNode) : Prop :=
  (cs.get x.cluster).graph.hasNode x.node ∧ ((cs.get x.cluster).graph.node x.node).key.isBlock

theorem HasBlock.get_set (hx : cs.HasBlock x) :
    Clusters.get (cs.setIfInBounds x.cluster.index c) x.cluster = c := by
  rw [get_setIfInBounds, if_pos ⟨rfl, index_lt_of_hasNode hx.1⟩]

/-- A block stays while its cluster grows. -/
theorem HasBlock.set (hx : cs.HasBlock x) (hc : (cs.get x.cluster).Extends c) :
    HasBlock (cs.setIfInBounds x.cluster.index c) x := by
  rw [HasBlock, hx.get_set]
  exact ⟨hc.graph.hasNode _ hx.1, (hc.graph.key_eq hx.1).symm ▸ hx.2⟩

end Clusters

/-! ## Requests -/

namespace Routing

variable {r : Routing} {blocks : List (Nat × NodeRecord)} {crosses : List (Nat × CrossRecord)}
  {cs cs' : Clusters} {i : ClusterId} {q : Cluster.Request} {x y : ClusterNode} {e : Endpoint}
  {stream : StreamKind} {position : Nat} {record : CrossRecord}

/-- The cluster of a block record. -/
def home (r : Routing) (q : Nat × NodeRecord) : ClusterId :=
  r.cluster (r.modules.locate q.2.tag .block q.1).1

/-- The node that a block record brings. -/
def nodeOf (r : Routing) (q : Nat × NodeRecord) : Node :=
  let (unit, tag) := r.modules.locate q.2.tag .block q.1
  { key := .block unit tag q.2.version, hash := q.2.hash, kind := q.2.kind, unit }

/-- What a load may ask of a cluster, given the block records and the cross-module records. -/
inductive Requests (r : Routing) (blocks : List (Nat × NodeRecord))
    (crosses : List (Nat × CrossRecord)) (cs : Clusters) : ClusterId → Cluster.Request → Prop
  /-- A block record brings its node. -/
  | block {q : Nat × NodeRecord} : q ∈ blocks →
      Requests r blocks crosses cs (r.home q) (.node (r.nodeOf q))
  /-- The first block record brings the process root as well. -/
  | root {q : Nat × NodeRecord} {owner : UnitId} : blocks.head? = some q →
      Requests r blocks crosses cs (r.home q) (.root owner)
  /-- The root leads to the block of that record. -/
  | rootEdge {q : Nat × NodeRecord} {a b : NodeId} : blocks.head? = some q →
      (cs.get (r.home q)).root = some a →
      (cs.get (r.home q)).graph.find? (r.nodeOf q).key = some b →
      Requests r blocks crosses cs (r.home q) (.edge a b .moduleEntry 0)
  /-- A record joins two blocks of one cluster. -/
  | edge {x y : ClusterNode} {k : EdgeKind} {o : UInt8} : cs.HasBlock x → cs.HasBlock y →
      x.cluster = y.cluster → Requests r blocks crosses cs x.cluster (.edge x.node y.node k o)
  /-- A record that crosses between clusters needs an exit, -/
  | exit {q : Nat × CrossRecord} {x y : ClusterNode} {owner : UnitId} : q ∈ crosses →
      r.Crosses cs q.1 q.2 x y →
      Requests r blocks crosses cs x.cluster (.exitFor q.2.signatureHash owner q.2.isCallback)
  /-- to which its source leads, -/
  | exitEdge {x : ClusterNode} {h : UInt64} {n : NodeId} {k : EdgeKind} {o : UInt8} :
      cs.HasBlock x → (cs.get x.cluster).exitPoint? h = some n →
      Requests r blocks crosses cs x.cluster (.edge x.node n k o)
  /-- and an entry, -/
  | entry {q : Nat × CrossRecord} {x y : ClusterNode} {owner : UnitId} : q ∈ crosses →
      r.Crosses cs q.1 q.2 x y →
      Requests r blocks crosses cs y.cluster (.entryFor q.2.signatureHash owner q.2.isCallback)
  /-- which leads to its target. -/
  | entryEdge {y : ClusterNode} {h : UInt64} {n : NodeId} :
      cs.HasBlock y → (cs.get y.cluster).entryPoint? h = some n →
      Requests r blocks crosses cs y.cluster (.edge n y.node .crossCustomModule 0)

/-- One change of the clusters in a load. -/
inductive Step (r : Routing) (blocks : List (Nat × NodeRecord))
    (crosses : List (Nat × CrossRecord)) (cs : Clusters) : Clusters → Prop
  | ask {i : ClusterId} {q : Cluster.Request} : r.Requests blocks crosses cs i q →
      Step r blocks crosses cs (cs.ask i q)
  /-- What was not reached is marked. -/
  | mark {cs' : Clusters} : cs'.size = cs.size →
      (∀ i, ∃ found, cs'.get i = { cs.get i with reachability := found }) →
      Step r blocks crosses cs cs'

theorem Resolves.hasBlock (h : r.Resolves cs stream position e x) : cs.HasBlock x := by
  refine ⟨h.hasNode, ?_⟩
  cases h with
  | recorded hx => rw [hx.2.2]; rfl
  | next _ _ hx => rw [hx.2.2]; rfl
  | previous _ _ _ hx => rw [hx.2.2]; rfl

/-- Requests of a load are proper: nodes come without edges, and edges are asked for between nodes
that are there. -/
theorem Requests.proper (hq : r.Requests blocks crosses cs i q) (h : cs.Coherent) :
    q.Proper (cs.get i) := by
  cases hq with
  | block => exact rfl
  | root | exit | entry => exact trivial
  | rootEdge _ ha hb =>
    exact ⟨(h _).hasNode_root ha, (((h _).graph.find?_eq_some_iff _ _).1 hb).1⟩
  | edge hx hy hxy => exact ⟨hx.1, hxy ▸ hy.1⟩
  | exitEdge hx hn => exact ⟨hx.1, ((h _).exits.issued _ _ hn).1⟩
  | entryEdge hy hn => exact ⟨((h _).entries.issued _ _ hn).1, hy.1⟩

theorem Step.coherent (hs : r.Step blocks crosses cs cs') (h : cs.Coherent) : cs'.Coherent := by
  cases hs with
  | ask hq => exact h.ask fun _ => hq.proper h
  | mark _ hget =>
    intro i
    obtain ⟨found, hi⟩ := hget i
    rw [hi]
    exact (h i).mark found

/-- Once the blocks are in place they stay. -/
theorem Step.sameBlocks (hs : r.Step [] crosses cs cs') : Clusters.SameBlocks cs cs' := by
  cases hs with
  | ask hq =>
    refine Clusters.sameBlocks_ask fun x hx => ?_
    cases hq with
    | block hq => cases hq
    | root | exit | entry => cases hx; rfl
    | rootEdge | edge | exitEdge | entryEdge => cases hx
  | mark _ hget =>
    intro i unit tag version
    obtain ⟨found, hi⟩ := hget i
    rw [hi]

theorem sameBlocks_of_steps (hs : ReflTransGen (r.Step [] crosses) cs cs') (h : cs.Coherent) :
    cs'.Coherent ∧ Clusters.SameBlocks cs cs' := by
  refine preserved_of_reflTransGen (p := fun cs' => cs'.Coherent ∧ Clusters.SameBlocks cs cs') hs
    (fun cs₁ cs₂ hstep => ?_) ⟨h, Clusters.SameBlocks.refl cs⟩
  rintro ⟨h₁, hsame⟩
  exact ⟨hstep.coherent h₁, hsame.trans hstep.sameBlocks⟩

end Routing

/-! ## Calls between clusters -/

namespace Crossing

open Routing

variable {r : Routing} {blocks : List (Nat × NodeRecord)} {crosses : List (Nat × CrossRecord)}
  {cs : Clusters} {x y : ClusterNode} {q : Nat × CrossRecord} {t : Transfer}

section

variable (h : cs.Coherent) (hq : q ∈ crosses) (hcross : r.Crosses cs q.1 q.2 x y)
  (hsignature : t.signature = q.2.signatureHash) (hcallback : t.isCallback = q.2.isCallback)

include hq hcross hsignature hcallback

theorem follows_splitExit : Follows (r.Step blocks crosses) id (splitExit x t) cs := by
  have hx := hcross.2.1.hasBlock
  refine Follows.bind (Follows.of_eq rfl) fun _ _ hget => ?_
  cases hget
  refine Follows.bind (Follows.single ?_) fun placed cs₁ hplaced => ?_
  · rw [Clusters.onNode_eq, hsignature, hcallback]
    exact .ask (.exit hq hcross)
  · obtain ⟨c, hc, rfl⟩ := Clusters.onNode_eq_ok hplaced
    have hs := Cluster.nodeStep_addExitFor (cs.get x.cluster) t.signature
      ((cs.get x.cluster).graph.node x.node).unit t.isCallback
    rw [hc] at hs
    have hexit : (Clusters.get (cs.setIfInBounds x.cluster.index c) x.cluster).exitPoint?
        t.signature = some placed.1 := by
      rw [hx.get_set]
      exact Cluster.exitPoint?_addExitFor hc
    refine Follows.bind (Follows.single ?_) fun _ _ _ => Follows.of_eq rfl
    show r.Step blocks crosses _ (Clusters.on x.cluster _ _).state
    rw [Clusters.state_on_addEdge]
    exact .ask (.exitEdge (hx.set hs.extends_) hexit)

theorem follows_splitEntry : Follows (r.Step blocks crosses) id (splitEntry y t) cs := by
  have hy := hcross.2.2.1.hasBlock
  refine Follows.bind (Follows.of_eq rfl) fun _ _ hget => ?_
  cases hget
  refine Follows.bind (Follows.single ?_) fun placed cs₁ hplaced => ?_
  · rw [Clusters.onNode_eq, hsignature, hcallback]
    exact .ask (.entry hq hcross)
  · obtain ⟨c, hc, rfl⟩ := Clusters.onNode_eq_ok hplaced
    have hs := Cluster.nodeStep_addEntryFor (cs.get y.cluster) t.signature
      ((cs.get y.cluster).graph.node y.node).unit t.isCallback
    rw [hc] at hs
    have hentry : (Clusters.get (cs.setIfInBounds y.cluster.index c) y.cluster).entryPoint?
        t.signature = some placed.1 := by
      rw [hy.get_set]
      exact Cluster.entryPoint?_addEntryFor hc
    refine Follows.bind (Follows.single ?_) fun _ _ _ => Follows.of_eq rfl
    show r.Step blocks crosses _ (Clusters.on y.cluster _ _).state
    rw [Clusters.state_on_addEdge]
    exact .ask (.entryEdge (hy.set hs.extends_) hentry)

include h

/-- A record that crosses between clusters is split by requests that it calls for. -/
theorem follows_split : Follows (r.Step blocks crosses) id (split x y t) cs := by
  rw [split]
  split
  · exact Follows.of_eq rfl
  · refine Follows.bind
      (follows_splitExit hq hcross hsignature hcallback).adaptExcept fun exit cs₁ hexit => ?_
    rw [adaptExcept_eq_ok_iff] at hexit
    obtain ⟨hgrow, hsame, -⟩ := grows_splitExit h hcross.2.1.hasNode hexit
    have hcross₁ : r.Crosses cs₁ q.1 q.2 x y := (crosses_iff h hgrow hsame).2 hcross
    refine Follows.bind (follows_splitEntry hq hcross₁ hsignature hcallback).adaptExcept
      fun _ _ _ => Follows.of_eq rfl

end

end Crossing
end FlowAtlas
