import FlowAtlas.Proofs.Cluster.Guarded
import FlowAtlas.Proofs.Load.Edges
import FlowAtlas.Proofs.Load.Following

/-!
# Where the nodes of a load come from

Whatever the records of a trace say, a node of a loaded cluster was brought by a block record, or is
the process root, or is a boundary node of a call between clusters (`Routing.Brings`).  The main
theorem `TraceFiles.brought_of_load` needs nothing but the success of the load.

In particular a node that is no boundary node is a block, and it is owned by the unit that its key
names.
-/

set_option autoImplicit false

namespace FlowAtlas

open EStateM Relation

namespace Routing

variable {r : Routing} {blocks : List (Nat × NodeRecord)} {crosses : List (Nat × CrossRecord)}
  {cs cs' : Clusters} {i : ClusterId} {q : Cluster.Request} {x : Node}

/-- What can become a node, given the block records. -/
inductive Brings (r : Routing) (blocks : List (Nat × NodeRecord)) : Node → Prop
  | block {q : Nat × NodeRecord} : q ∈ blocks → Brings r blocks (r.nodeOf q)
  | root (owner : UnitId) : Brings r blocks (.processRoot owner)
  | boundary (signature : UInt64) {side : NodeKind} (isCallback : Bool) (owner : UnitId) :
      side.isBoundary → Brings r blocks (.boundary signature side isCallback owner)

theorem Brings.bare (h : r.Brings blocks x) : r.Brings blocks x.bare := by
  cases h with
  | block hq => exact .block hq
  | root owner => exact .root owner
  | boundary signature isCallback owner hside => exact .boundary signature isCallback owner hside

/-- A block belongs to the unit of its key, at which its record was located. -/
theorem Brings.unit_eq {unit : UnitId} {tag : UInt64} {version : UInt8} (h : r.Brings blocks x)
    (hkey : x.key = .block unit tag version) :
    x.unit = unit ∧ ∃ q ∈ blocks, (r.modules.locate q.2.tag .block q.1).1 = unit := by
  cases h with
  | @block q hq =>
    obtain ⟨hunit, -, -⟩ := NodeKey.block.inj hkey
    exact ⟨hunit, q, hq, hunit⟩
  | root => cases hkey
  | boundary => cases hkey

/-- Only blocks are no boundary nodes. -/
theorem Brings.isBlock (h : r.Brings blocks x) (hkind : x.kind.isBoundary = false) :
    x.key.isBlock := by
  cases h with
  | block => rfl
  | root => cases hkind
  | boundary _ _ _ hside => exact absurd (hside.symm.trans hkind) nofun

theorem Requests.brings (hq : r.Requests blocks crosses cs i q) (hx : q.asked? = some x) :
    r.Brings blocks x := by
  cases hq with
  | block hq => cases hx; exact .block hq
  | root => cases hx; exact .root _
  | exit => cases hx; exact .boundary _ _ _ rfl
  | entry => cases hx; exact .boundary _ _ _ rfl
  | rootEdge | edge | exitEdge | entryEdge => cases hx

/-- Every node of the clusters has come in one of these ways. -/
def Brought (r : Routing) (blocks : List (Nat × NodeRecord)) (cs : Clusters) : Prop :=
  ∀ i n, (cs.get i).graph.hasNode n → r.Brings blocks ((cs.get i).graph.node n).bare

theorem Requests.brought (hq : r.Requests blocks crosses cs i q) (h : r.Brought blocks cs)
    {n : NodeId} (hn : (q.apply (cs.get i)).graph.hasNode n) :
    r.Brings blocks ((q.apply (cs.get i)).graph.node n).bare := by
  cases hx : q.asked? with
  | some x =>
    obtain ⟨placed, hs⟩ := Cluster.Request.nodeStep (cs.get i) hx
    rcases hs.node_cases hn with hold | ⟨hnew, -⟩ | hroot
    · rw [hs.extends_.graph.bare n hold]
      exact h i n hold
    · rw [hnew]
      exact (hq.brings hx).bare
    · rw [hroot]
      exact .root _
  | none =>
    cases q with
    | edge s t k o =>
      have hsame := (cs.get i).graph.sameNodes_addEdge s t k o
      rw [Cluster.Request.apply, Cluster.addEdge, Cluster.state_onGraph] at hn ⊢
      rw [hsame.bare]
      exact h i n (hsame.hasNode_iff.1 hn)
    | node | entryFor | exitFor | root => cases hx

theorem Step.brought (hs : r.Step blocks crosses cs cs') (h : r.Brought blocks cs) :
    r.Brought blocks cs' := by
  cases hs with
  | ask hq =>
    exact Clusters.forall_get_ask (p := fun _ c => ∀ n, c.graph.hasNode n →
      r.Brings blocks (c.graph.node n).bare) h fun _ _ hn => hq.brought h hn
  | mark _ hget =>
    intro i
    obtain ⟨found, hi⟩ := hget i
    rw [hi]
    exact h i

/-- Clusters that have come of empty ones are coherent, and all their nodes have been brought. -/
theorem brought_of_steps (hs : ReflTransGen (r.Step blocks crosses) cs cs')
    (hempty : ∀ i, ∃ id name, cs.get i = .empty id name) :
    cs'.Coherent ∧ r.Brought blocks cs' := by
  refine preserved_of_reflTransGen (p := fun cs => cs.Coherent ∧ r.Brought blocks cs) hs
    (fun cs₁ cs₂ hstep h => ⟨hstep.coherent h.1, hstep.brought h.2⟩)
    ⟨fun i => ?_, fun i n hn => ?_⟩
  · obtain ⟨id, name, hi⟩ := hempty i
    exact hi ▸ Cluster.coherent_empty id name
  · obtain ⟨id, name, hi⟩ := hempty i
    rw [hi] at hn
    exact absurd (Graph.hasNode_iff.1 hn) (Nat.not_lt_zero _)

end Routing

namespace TraceFiles

variable {config : ClusterConfig} {t : TraceFiles} {g : ProcessGraph}

/-- The clusters of a load have come of empty ones by requests. -/
theorem steps_of_load (h : (t.load config).result = .ok g) :
    ReflTransGen ((Routing.ofConfig config g.units g.modules).Step
      (t.blockStream.delivered NodeRecord) (t.crossModuleStream.delivered CrossRecord))
      config.emptyClusters g.clusters := by
  obtain ⟨-, s, hr, hclusters, -⟩ := stages_of_load h
  have hsteps := follows_stages (t := t) (r := .ofConfig config g.units g.modules)
    (s := { clusters := config.emptyClusters }) (get_emptyClusters config)
  rw [Follows, hr] at hsteps
  rw [hclusters]
  exact hsteps

/-- **Every node of a load was brought by a record**, or was made for the process root or for a call
between clusters. -/
theorem brought_of_load (h : (t.load config).result = .ok g) :
    g.clusters.Coherent ∧ (Routing.ofConfig config g.units g.modules).Brought
      (t.blockStream.delivered NodeRecord) g.clusters :=
  Routing.brought_of_steps (steps_of_load h) (get_emptyClusters config)

end TraceFiles
end FlowAtlas
