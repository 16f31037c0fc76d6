import FlowAtlas.Proofs.Graph.Coherent
import FlowAtlas.Proofs.Stateful

/-!
# What a request for an edge does

`Graph.addEdge` looks for an edge between the two nodes, checks, and then changes the arena and both
nodes in several steps, of which some could fail.  `Graph.EdgeStep` lists all that can come of it,
each case with its condition on the edges that are stored, and `edgeStep_addEdge` says that nothing
else does: in particular the later steps never fail, so a refusal finds the graph as it was.

`Coherent.addEdge` concludes that requests keep the invariant, granted or not, and
`Coherent.joins_addEdge_iff` which nodes are joined after a request that was granted.
-/

set_option autoImplicit false

namespace FlowAtlas
namespace Graph

open Adjacency EdgeMap

variable {g : Graph} {s t : NodeId} {k : EdgeKind} {o : UInt8} {z : Edge} {id : EdgeId}

/-- What can come of asking for an edge of kind `k` and ordinal `o` from `s` to `t`. -/
inductive EdgeStep (g : Graph) (s t : NodeId) (k : EdgeKind) (o : UInt8) :
    EStateM.Result GraphError Graph EdgeOutcome → Prop
  /-- Nothing joins the nodes, and the source takes the edge. -/
  | added : (∀ e z, g.edge? e = some z → ¬(z.source = s ∧ z.target = t)) →
      Accepts g.edge? s k o →
      EdgeStep g s t k o (.ok (.added ⟨g.edges.size⟩) (g.withEdge ⟨s, t, k, o⟩))
  /-- Nothing joins the nodes, and the source refuses the edge. -/
  | refused {cause : AdjacencyError} :
      (∀ e z, g.edge? e = some z → ¬(z.source = s ∧ z.target = t)) → ¬Accepts g.edge? s k o →
      EdgeStep g s t k o (.error (.illegalEdgeState (g.node s).key cause) g)
  /-- The edge is there. -/
  | duplicate {id : EdgeId} {o₀ : UInt8} : g.edge? id = some ⟨s, t, k, o₀⟩ →
      k = .callContinuation ∨ o₀ = o → EdgeStep g s t k o (.ok (.duplicate id) g)
  /-- A direct edge stands in for the call continuation. -/
  | merged {id : EdgeId} {o₀ : UInt8} : g.edge? id = some ⟨s, t, .direct, o₀⟩ →
      k = .callContinuation → EdgeStep g s t k o (.ok (.mergedIntoDirect id) g)
  /-- The call continuation becomes a direct edge, which the source takes. -/
  | upgraded {id : EdgeId} {o₀ : UInt8} : g.edge? id = some ⟨s, t, .callContinuation, o₀⟩ →
      k = .direct → Accepts g.edge? s .direct o →
      EdgeStep g s t k o (.ok (.upgraded id) (g.withDirect s id o))
  /-- The call continuation cannot become a direct edge, as the source refuses that. -/
  | notUpgraded {id : EdgeId} {o₀ : UInt8} {cause : AdjacencyError} :
      g.edge? id = some ⟨s, t, .callContinuation, o₀⟩ → k = .direct →
      ¬Accepts g.edge? s .direct o →
      EdgeStep g s t k o (.error (.illegalEdgeState (g.node s).key cause) g)
  /-- Another edge joins the nodes. -/
  | multiple {id : EdgeId} {k₀ : EdgeKind} {o₀ : UInt8} : g.edge? id = some ⟨s, t, k₀, o₀⟩ →
      ¬(k₀ = k ∧ (k = .callContinuation ∨ o₀ = o)) → ¬(k₀ = .direct ∧ k = .callContinuation) →
      ¬(k₀ = .callContinuation ∧ k = .direct) →
      EdgeStep g s t k o
        (.error (.multipleEdge (g.node s).key (g.node t).key k₀ o₀ k o) g)

/-! ## The steps of a request -/

theorem checkOutgoing_of_accepts (h : Coherent g) (hacc : Accepts g.edge? s k o) :
    checkOutgoing s k o g = .ok () g := by
  rw [checkOutgoing, (h.outgoingAt s).checkOutgoing_eq_ok_iff.2 hacc]

theorem checkOutgoing_of_not_accepts (h : Coherent g) (hacc : ¬Accepts g.edge? s k o) :
    ∃ cause, checkOutgoing s k o g = .error (.illegalEdgeState (g.node s).key cause) g := by
  rw [checkOutgoing]
  cases hc : (g.node s).edges.checkOutgoing k o with
  | ok u => exact absurd ((h.outgoingAt s).checkOutgoing_eq_ok_iff.1 hc) hacc
  | error cause => exact ⟨cause, rfl⟩

/-- Once the source has accepted an edge, recording it cannot fail. -/
theorem appendEdge_of_accepts (h : Coherent g) (hacc : Accepts g.edge? z.source z.kind z.ordinal) :
    appendEdge z g = .ok (.added ⟨g.edges.size⟩) (g.withEdge z) := by
  have hout := h.outgoingAt z.source
  have hnew : (⟨g.edges.size⟩ : EdgeId) ∉ (g.node z.source).edges.buckets.edgesAt z.ordinal := by
    intro hmem
    obtain ⟨y, hy, -⟩ := (hout.mem_edgesAt _ _).1 hmem
    cases (edge?_next g).symm.trans hy.1
  have hadd := addOutgoing_eq_ok (hout.checkOutgoing_eq_ok_iff.2 hacc) hnew
  have hattach : attachOutgoing z.source ⟨g.edges.size⟩ z.kind z.ordinal
      { g with edges := g.edges.push z } =
        .ok () (({ g with edges := g.edges.push z } : Graph).setAdjacency z.source
          ((g.node z.source).edges.withOutgoing ⟨g.edges.size⟩ z.kind z.ordinal)) := by
    have hnode : ({ g with edges := g.edges.push z } : Graph).node z.source = g.node z.source := rfl
    rw [attachOutgoing, hnode, hadd]
  rw [appendEdge, EStateM.bind_of_ok (checkOutgoing_of_accepts h hacc)]
  show (attachOutgoing z.source ⟨g.edges.size⟩ z.kind z.ordinal >>= _)
    { g with edges := g.edges.push z } = _
  rw [EStateM.bind_of_ok hattach]
  rfl

theorem appendEdge_of_not_accepts (h : Coherent g)
    (hacc : ¬Accepts g.edge? z.source z.kind z.ordinal) :
    ∃ cause, appendEdge z g = .error (.illegalEdgeState (g.node z.source).key cause) g := by
  obtain ⟨cause, hc⟩ := checkOutgoing_of_not_accepts h hacc
  exact ⟨cause, EStateM.bind_of_error hc⟩

/-- Once the source has accepted the direct edge, a call continuation is replaced without fail. -/
theorem upgrade_of_accepts (h : Coherent g) (hz : g.edge? id = some z)
    (hk : z.kind = .callContinuation) (hacc : Accepts g.edge? z.source .direct o) :
    upgrade id o g = .ok (.upgraded id) (g.withDirect z.source id o) := by
  have hout := h.outgoingAt z.source
  have hsrc := (h.ends id z hz).1
  -- the call continuation stands in no bucket, so the bucket takes it as new
  have hnew : id ∉ (g.node z.source).edges.buckets.edgesAt o := by
    intro hmem
    obtain ⟨y, hy, hcc, -⟩ := (hout.mem_edgesAt o id).1 hmem
    exact hcc (Option.some.inj (hz.symm.trans hy.1) ▸ hk)
  have hcheck : (g.node z.source).edges.withoutContinuation.checkOutgoing .direct o = .ok () := by
    rw [checkOutgoing_withoutContinuation (by decide)]
    exact hout.checkOutgoing_eq_ok_iff.2 hacc
  have hadd := addOutgoing_eq_ok hcheck hnew
  have hattach : attachOutgoing z.source id .direct o
      (g.setAdjacency z.source (g.node z.source).edges.withoutContinuation) =
        .ok () (g.setAdjacency z.source
          ((g.node z.source).edges.withoutContinuation.withOutgoing id .direct o)) := by
    rw [attachOutgoing, node_setAdjacency hsrc, if_pos rfl, hadd]
    exact congrArg (EStateM.Result.ok ()) setAdjacency_setAdjacency
  rw [upgrade]
  show (checkOutgoing (g.edge id).source .direct o >>= _) g = _
  rw [edge_eq hz, EStateM.bind_of_ok (checkOutgoing_of_accepts h hacc)]
  show (attachOutgoing z.source id .direct o >>= _)
    (g.setAdjacency z.source (g.node z.source).edges.withoutContinuation) = _
  rw [EStateM.bind_of_ok hattach]
  rfl

theorem upgrade_of_not_accepts (h : Coherent g) (hz : g.edge? id = some z)
    (hacc : ¬Accepts g.edge? z.source .direct o) :
    ∃ cause, upgrade id o g = .error (.illegalEdgeState (g.node z.source).key cause) g := by
  obtain ⟨cause, hc⟩ := checkOutgoing_of_not_accepts h hacc
  refine ⟨cause, ?_⟩
  rw [upgrade]
  show (checkOutgoing (g.edge id).source .direct o >>= _) g = _
  rw [edge_eq hz, EStateM.bind_of_error hc]

/-! ## Requests -/

/-- What comes of a request between two nodes that an edge joins already. -/
theorem edgeStep_reconcile (h : Coherent g) {k₀ : EdgeKind} {o₀ : UInt8}
    (hz : g.edge? id = some ⟨s, t, k₀, o₀⟩) : EdgeStep g s t k o (reconcile id k o g) := by
  have hedge : g.edge id = ⟨s, t, k₀, o₀⟩ := edge_eq hz
  rw [reconcile, EStateM.bind_of_ok (EStateM.get_eq_ok g), hedge]
  dsimp only
  split
  · rename_i hsame
    obtain ⟨rfl, ho⟩ := hsame
    exact .duplicate hz ho
  · rename_i hdiff
    split
    · exact .merged hz rfl
    · by_cases hacc : Accepts g.edge? s .direct o
      · rw [upgrade_of_accepts h hz rfl hacc]
        exact .upgraded hz rfl hacc
      · obtain ⟨cause, hc⟩ := upgrade_of_not_accepts h hz hacc
        rw [hc]
        exact .notUpgraded hz rfl hacc
    · rename_i hmerge hup
      exact .multiple hz hdiff (fun hk => hmerge hk.1 hk.2) fun hk => hup hk.1 hk.2

/-- **Nothing else comes of a request for an edge.** -/
theorem edgeStep_addEdge (h : Coherent g) (s t : NodeId) (k : EdgeKind) (o : UInt8) :
    EdgeStep g s t k o (addEdge s t k o g) := by
  rw [addEdge, EStateM.bind_of_ok (EStateM.get_eq_ok g)]
  cases hf : g.findEdge? s t with
  | none =>
    have hnone := h.findEdge?_eq_none hf
    by_cases hacc : Accepts g.edge? s k o
    · show EdgeStep g s t k o (appendEdge ⟨s, t, k, o⟩ g)
      rw [appendEdge_of_accepts h hacc]
      exact .added hnone hacc
    · obtain ⟨cause, hc⟩ := appendEdge_of_not_accepts (z := ⟨s, t, k, o⟩) h hacc
      show EdgeStep g s t k o (appendEdge ⟨s, t, k, o⟩ g)
      rw [hc]
      exact .refused hnone hacc
  | some id =>
    obtain ⟨k₀, o₀, hz⟩ := h.findEdge?_eq_some hf
    exact edgeStep_reconcile h hz

/-! ### The nodes -/

/-- The step leaves the nodes alone, whether it fails or not. -/
def KeepsNodes {α : Type} (x : Update α) : Prop := ∀ g, SameNodes g (x g).state

namespace KeepsNodes

variable {α β : Type} {x : Update α} {f : α → Update β}

theorem of_state_eq (h : ∀ g, (x g).state = g) : KeepsNodes x := fun g => by
  rw [h g]
  exact SameNodes.refl g

theorem modify {f : Graph → Graph} (h : ∀ g, SameNodes g (f g)) :
    KeepsNodes (modify f : Update PUnit) := h

theorem bind (hx : KeepsNodes x) (hf : ∀ a, KeepsNodes (f a)) : KeepsNodes (x >>= f) := fun g => by
  have hfirst := hx g
  cases hr : x g with
  | ok a g₁ =>
    rw [hr] at hfirst
    rw [EStateM.bind_of_ok hr]
    exact hfirst.trans (hf a g₁)
  | error cause g₁ =>
    rw [hr] at hfirst
    rw [EStateM.bind_of_error hr]
    exact hfirst

end KeepsNodes

theorem sameNodes_edges (g : Graph) (edges : Array Edge) : SameNodes g { g with edges } :=
  ⟨rfl, rfl, rfl, fun _ => rfl⟩

theorem keepsNodes_checkOutgoing (s : NodeId) (k : EdgeKind) (o : UInt8) :
    KeepsNodes (checkOutgoing s k o) := .of_state_eq fun g => by
  rw [checkOutgoing]
  cases (g.node s).edges.checkOutgoing k o <;> rfl

theorem keepsNodes_attachOutgoing (s : NodeId) (id : EdgeId) (k : EdgeKind) (o : UInt8) :
    KeepsNodes (attachOutgoing s id k o) := fun g => by
  rw [attachOutgoing]
  cases (g.node s).edges.addOutgoing id k o with
  | ok a => exact sameNodes_setAdjacency
  | error cause => exact SameNodes.refl g

theorem keepsNodes_appendEdge (z : Edge) : KeepsNodes (appendEdge z) := by
  refine (keepsNodes_checkOutgoing _ _ _).bind fun _ => ?_
  refine KeepsNodes.bind (.of_state_eq fun _ => rfl) fun g => ?_
  refine KeepsNodes.bind (.modify fun g => sameNodes_edges g _) fun _ => ?_
  refine (keepsNodes_attachOutgoing _ _ _ _).bind fun _ => ?_
  exact KeepsNodes.bind (.modify fun _ => sameNodes_attachIncoming) fun _ =>
    .of_state_eq fun _ => rfl

theorem keepsNodes_upgrade (id : EdgeId) (o : UInt8) : KeepsNodes (upgrade id o) := by
  refine KeepsNodes.bind (.of_state_eq fun _ => rfl) fun g => ?_
  refine (keepsNodes_checkOutgoing _ _ _).bind fun _ => ?_
  refine KeepsNodes.bind (.modify fun _ => sameNodes_setAdjacency) fun _ => ?_
  refine (keepsNodes_attachOutgoing _ _ _ _).bind fun _ => ?_
  exact KeepsNodes.bind (.modify fun g => sameNodes_edges g _) fun _ => .of_state_eq fun _ => rfl

theorem keepsNodes_reconcile (id : EdgeId) (k : EdgeKind) (o : UInt8) :
    KeepsNodes (reconcile id k o) := by
  refine KeepsNodes.bind (.of_state_eq fun _ => rfl) fun g => ?_
  dsimp only
  split
  · exact .of_state_eq fun _ => rfl
  · split
    · exact .of_state_eq fun _ => rfl
    · exact keepsNodes_upgrade id o
    · exact .of_state_eq fun _ => rfl

/-- Requests for edges leave the nodes alone, granted or not. -/
theorem sameNodes_addEdge (g : Graph) (s t : NodeId) (k : EdgeKind) (o : UInt8) :
    SameNodes g (Graph.addEdge s t k o g).state := by
  have hkeeps : KeepsNodes (Graph.addEdge s t k o) := by
    refine KeepsNodes.bind (.of_state_eq fun _ => rfl) fun g => ?_
    split
    · exact keepsNodes_reconcile _ k o
    · exact keepsNodes_appendEdge _
  exact hkeeps g

/-- Requests for edges keep the invariant, granted or not. -/
theorem Coherent.addEdge (h : Coherent g) (hs : g.hasNode s) (ht : g.hasNode t) :
    Coherent (Graph.addEdge s t k o g).state := by
  have hstep := edgeStep_addEdge h s t k o
  cases hr : Graph.addEdge s t k o g with
  | ok outcome g' =>
    rw [hr] at hstep
    cases hstep with
    | added hnew hacc => exact h.withEdge hs ht hnew hacc
    | duplicate => exact h
    | merged => exact h
    | upgraded hz _ hacc => exact h.withDirect hz rfl rfl hacc
  | error cause g' =>
    rw [hr] at hstep
    cases hstep <;> exact h

/-! ## Joined nodes -/

/-- An edge leads from one node to the other. -/
def Joins (g : Graph) (s t : NodeId) : Prop :=
  ∃ e z, g.edge? e = some z ∧ z.source = s ∧ z.target = t

variable {g' : Graph} {a b : NodeId}

theorem joins_of_edge? (hz : g.edge? id = some z) : g.Joins z.source z.target :=
  ⟨id, z, hz, rfl, rfl⟩

/-- A graph in which one edge is another joins the ends of that edge and what was joined before. -/
theorem joins_iff_of_edge?_eq_update (hE : g'.edge? = Function.update g.edge? id (some z))
    (hid : ∀ y, g.edge? id = some y → y.source = z.source ∧ y.target = z.target) :
    g'.Joins a b ↔ g.Joins a b ∨ (a = z.source ∧ b = z.target) := by
  constructor
  · rintro ⟨e, y, hy, rfl, rfl⟩
    rw [hE] at hy
    by_cases he : e = id
    · rw [he, Function.update_self] at hy
      cases hy
      exact Or.inr ⟨rfl, rfl⟩
    · rw [Function.update_of_ne he] at hy
      exact Or.inl ⟨e, y, hy, rfl, rfl⟩
  · have hnew : g'.edge? id = some z := by rw [hE, Function.update_self]
    rintro (⟨e, y, hy, rfl, rfl⟩ | ⟨rfl, rfl⟩)
    · by_cases he : e = id
      · obtain ⟨hs, ht⟩ := hid y (he ▸ hy)
        rw [hs, ht]
        exact joins_of_edge? hnew
      · refine ⟨e, y, ?_, rfl, rfl⟩
        rw [hE, Function.update_of_ne he]
        exact hy
    · exact joins_of_edge? hnew

/-- **A request that is granted joins its two nodes, and no others.** -/
theorem Coherent.joins_addEdge_iff {outcome : EdgeOutcome} (h : Coherent g)
    (hr : Graph.addEdge s t k o g = .ok outcome g') :
    g'.Joins a b ↔ g.Joins a b ∨ (a = s ∧ b = t) := by
  have hstep := edgeStep_addEdge h s t k o
  rw [hr] at hstep
  -- unless the graph changes, its nodes are joined already
  have hjoined : ∀ {z : Edge} {id : EdgeId}, g.edge? id = some z →
      (g.Joins a b ↔ g.Joins a b ∨ (a = z.source ∧ b = z.target)) := fun hz => by
    refine (or_iff_left_of_imp ?_).symm
    rintro ⟨rfl, rfl⟩
    exact joins_of_edge? hz
  cases hstep with
  | added hnone =>
    refine joins_iff_of_edge?_eq_update edge?_withEdge fun y hy => ?_
    cases (edge?_next g).symm.trans hy
  | duplicate hz => exact hjoined hz
  | merged hz => exact hjoined hz
  | upgraded hz =>
    refine joins_iff_of_edge?_eq_update (edge?_withDirect hz) fun y hy => ?_
    rw [hz] at hy
    cases hy
    exact ⟨rfl, rfl⟩

end Graph

/-!
## The parts of a graph agree after every run

`Graph.Reachable` are the graphs that requests lead to from the empty one, in any order and with
refused requests among them.  `coherent_of_reachable` is the induction over such a run.

`Graph.WellFormed` is what an observer sees of the invariant: each node stands under its key and its
hash, and each edge stands exactly once at its source and exactly once at its target, in the place
that its kind and ordinal call for.  `wellFormed_of_reachable` is the main theorem.
-/

namespace Graph

open Adjacency EdgeMap

/-! ### Runs -/

/-- What can be asked of a graph. -/
inductive Request
  | node (x : Node)
  | edge (source target : NodeId) (kind : EdgeKind) (ordinal : UInt8)

namespace Request

/-- What callers see to: a node comes without edges, and an edge is asked for between nodes that are
there. -/
def Proper (g : Graph) : Request → Prop
  | node x => x.edges = {}
  | edge s t _ _ => g.hasNode s ∧ g.hasNode t

instance (g : Graph) (r : Request) : Decidable (r.Proper g) :=
  match r with
  | node x => inferInstanceAs (Decidable (x.edges = {}))
  | edge s t _ _ => inferInstanceAs (Decidable (g.hasNode s ∧ g.hasNode t))

/-- The graph after a request, whether it was granted or refused. -/
def apply (g : Graph) : Request → Graph
  | node x => (g.addNode x).2
  | edge s t k o => (addEdge s t k o g).state

end Request

/-- The graphs that requests lead to. -/
inductive Reachable : Graph → Prop
  | empty : Reachable .empty
  | step {g : Graph} {r : Request} : Reachable g → r.Proper g → Reachable (r.apply g)

variable {g : Graph} {n : NodeId} {e : EdgeId} {z : Edge}

theorem coherent_of_reachable (h : Reachable g) : Coherent g := by
  induction h with
  | empty => exact coherent_empty
  | @step g r _ hr ih =>
    cases r with
    | node x => exact ih.addNode hr
    | edge s t k o => exact ih.addEdge hr.1 hr.2

theorem Reachable.withNode {x : Node} (h : Reachable g) (hx : x.edges = {})
    (hnew : g.find? x.key = none) : Reachable (g.withNode x) := by
  have hnext : Reachable ((Request.node x).apply g) := .step h hx
  rwa [Request.apply, addNode_of_new hnew] at hnext

theorem find?_empty {key : NodeKey} : empty.find? key = none := by
  simp [find?, empty]

theorem reachable_withNode {x : Node} (hx : x.edges = {}) : Reachable (empty.withNode x) :=
  Reachable.empty.withNode hx find?_empty

/-! ### What an observer sees -/

/-- Nodes stand under their keys and hashes, and edges at their ends. -/
structure WellFormed (g : Graph) : Prop where
  /-- The index leads from the key of each node to its place, and has no other keys. -/
  find?_eq_some_iff : ∀ key n, g.find? key = some n ↔ g.hasNode n ∧ (g.node n).key = key
  /-- The nodes of a hash are listed once each, in the order in which they came. -/
  nodesByHash_eq : ∀ h, (g.nodesByHash h).toList = g.nodeIds.filter fun n => (g.node n).hash = h
  /-- Edges join nodes of the graph. -/
  ends : ∀ e z, g.edge? e = some z → g.hasNode z.source ∧ g.hasNode z.target
  /-- An edge leaves its source, once, and no other node. -/
  count_outgoing : ∀ e z, g.edge? e = some z → ∀ n,
    (g.outgoing n).count e = if n = z.source then 1 else 0
  /-- An edge arrives at its target, once, and at no other node. -/
  count_incoming : ∀ e z, g.edge? e = some z → ∀ n,
    (g.node n).edges.incoming.toList.count e = if n = z.target then 1 else 0
  /-- Nothing but the edges of the graph is kept at its nodes. -/
  issued : ∀ n e, e ∈ g.outgoing n ∨ e ∈ (g.node n).edges.incoming → ∃ z, g.edge? e = some z
  /-- The place of the call continuation holds one, and holds it at its source. -/
  continuation : ∀ e z, g.edge? e = some z →
    ((g.node z.source).edges.continuation = some e ↔ z.kind = .callContinuation)
  /-- Every other edge stands in the bucket of its ordinal, whose kind is its own. -/
  bucket : ∀ e z, g.edge? e = some z → z.kind ≠ .callContinuation →
    e ∈ (g.node z.source).edges.buckets.edgesAt z.ordinal ∧
      (g.node z.source).edges.buckets.kindAt? z.ordinal = some z.kind
  /-- Two nodes are joined by one edge at most in one direction. -/
  joined_once : ∀ e e' z z', g.edge? e = some z → g.edge? e' = some z' →
    z.source = z'.source → z.target = z'.target → e = e'

theorem Coherent.mem_outgoing (h : Coherent g) :
    e ∈ g.outgoing n ↔ ∃ z, g.edge? e = some z ∧ z.source = n :=
  (h.outgoingAt n).mem_outgoing

theorem Coherent.mem_incoming (h : Coherent g) :
    e ∈ (g.node n).edges.incoming ↔ ∃ z, g.edge? e = some z ∧ z.target = n :=
  (h.incomingAt n).mem_incoming e

/-- A list without repetition holds an element once if it holds it at all. -/
theorem count_eq_ite {l : List EdgeId} (hl : l.Nodup) {p : Prop} [Decidable p] (hp : e ∈ l ↔ p) :
    l.count e = if p then 1 else 0 := by
  by_cases he : p
  · rw [if_pos he]
    exact List.count_eq_one_of_mem hl (hp.2 he)
  · rw [if_neg he]
    exact List.count_eq_zero_of_not_mem fun hmem => he (hp.1 hmem)

theorem Coherent.wellFormed (h : Coherent g) : WellFormed g where
  find?_eq_some_iff := h.find?_eq_some_iff
  nodesByHash_eq := h.nodesByHash_eq
  ends := h.ends
  count_outgoing e z hz n := by
    refine count_eq_ite (h.outgoingAt n).nodup (h.mem_outgoing.trans ⟨?_, ?_⟩)
    · rintro ⟨z', hz', hn⟩
      rw [Option.some.inj (hz.symm.trans hz'), hn]
    · exact fun hn => ⟨z, hz, hn.symm⟩
  count_incoming e z hz n := by
    refine count_eq_ite (h.incomingAt n).nodup ?_
    rw [Array.mem_toList_iff, h.mem_incoming]
    constructor
    · rintro ⟨z', hz', hn⟩
      rw [Option.some.inj (hz.symm.trans hz'), hn]
    · exact fun hn => ⟨z, hz, hn.symm⟩
  issued n e he := by
    rcases he with he | he
    · obtain ⟨z, hz, -⟩ := h.mem_outgoing.1 he
      exact ⟨z, hz⟩
    · obtain ⟨z, hz, -⟩ := h.mem_incoming.1 he
      exact ⟨z, hz⟩
  continuation e z hz := by
    rw [(h.outgoingAt z.source).continuation]
    constructor
    · rintro ⟨z', hz', hk⟩
      rw [Option.some.inj (hz.symm.trans hz'.1), hk]
    · exact fun hk => ⟨z, ⟨hz, rfl⟩, hk⟩
  bucket e z hz hk :=
    ⟨((h.outgoingAt z.source).mem_edgesAt _ _).2 ⟨z, ⟨hz, rfl⟩, hk, rfl⟩,
      ((h.outgoingAt z.source).kindAt _ _).2 ⟨e, z, ⟨hz, rfl⟩, hk, rfl, rfl⟩⟩
  joined_once := h.joined_once

/-- **The parts of a graph agree after every run of requests**, refused requests included. -/
theorem wellFormed_of_reachable (h : Reachable g) : WellFormed g :=
  (coherent_of_reachable h).wellFormed

/-- A call continuation from a block to itself becomes direct, and a third request is refused. -/
theorem wellFormed_block_with_loop :
    let g := empty.withNode { key := .block ⟨1⟩ 16 0, hash := 5, kind := .normal, unit := ⟨1⟩ }
    let g₁ := (Request.edge ⟨0⟩ ⟨0⟩ .callContinuation 0).apply g
    let g₂ := (Request.edge ⟨0⟩ ⟨0⟩ .direct 1).apply g₁
    let g₃ := (Request.edge ⟨0⟩ ⟨0⟩ .indirect 1).apply g₂
    WellFormed g₃ ∧ g₃.edge? ⟨0⟩ = some ⟨⟨0⟩, ⟨0⟩, .direct, 1⟩ := by
  intro g g₁ g₂ g₃
  have h : Reachable g := reachable_withNode rfl
  have h₁ : Reachable g₁ := .step h (by decide +kernel)
  have h₂ : Reachable g₂ := .step h₁ (by decide +kernel)
  have h₃ : Reachable g₃ := .step h₂ (by decide +kernel)
  exact ⟨wellFormed_of_reachable h₃, by decide +kernel⟩

end Graph
end FlowAtlas
