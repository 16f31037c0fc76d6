import FlowAtlas.Load.Basic
import FlowAtlas.Proofs.Cluster.Tasks

/-!
# What is announced of a graph

`Graph.Announced` says that a list of events tells of each node and each edge of a graph once, and
of an edge after both its ends.  The graph is that of a cluster, and events of other clusters may
stand in between.

A cluster changes with news: `Cluster.Reports` says that the events that told of it before, followed
by the news, tell of it afterwards.  A node is news when it was placed as new
(`NodeStep.reports`), and an edge when the request for it made a new one (`reports_addEdge`); merged
and upgraded edges and boundary nodes that are used again are none.
-/

set_option autoImplicit false

namespace FlowAtlas

namespace LoadEvent

/-- The cluster in which something was created. -/
def creation? : LoadEvent → Option ClusterId
  | nodeAdded c _ _ => some c
  | edgeAdded c _ _ => some c
  | clusterLoaded _ => none
  | graphLoaded => none

/-- The node of cluster `i` that is announced, with its key. -/
def node? (i : ClusterId) : LoadEvent → Option (NodeId × NodeKey)
  | nodeAdded c n key => if c = i then some (n, key) else none
  | _ => none

/-- The edge of cluster `i` that is announced. -/
def edge? (i : ClusterId) : LoadEvent → Option EdgeId
  | edgeAdded c id _ => if c = i then some id else none
  | _ => none

variable {i : ClusterId} {e : LoadEvent} {n : NodeId} {key : NodeKey} {id : EdgeId} {z : Edge}

theorem node?_nodeAdded : node? i (.nodeAdded i n key) = some (n, key) := if_pos rfl

theorem edge?_edgeAdded : edge? i (.edgeAdded i id z) = some id := if_pos rfl

theorem node?_eq_some_iff : node? i e = some (n, key) ↔ e = .nodeAdded i n key := by
  constructor
  · intro h
    cases e with
    | nodeAdded c n' key' =>
      rw [node?] at h
      split at h
      · rename_i hc
        cases h
        rw [hc]
      · cases h
    | edgeAdded | clusterLoaded | graphLoaded => cases h
  · rintro rfl
    exact node?_nodeAdded

theorem node?_of_creation?_ne (h : e.creation? ≠ some i) : node? i e = none := by
  cases e with
  | nodeAdded c n key => exact if_neg fun hc => h (congrArg some hc)
  | edgeAdded | clusterLoaded | graphLoaded => rfl

theorem edge?_of_creation?_ne (h : e.creation? ≠ some i) : edge? i e = none := by
  cases e with
  | edgeAdded c id z => exact if_neg fun hc => h (congrArg some hc)
  | nodeAdded | clusterLoaded | graphLoaded => rfl

/-- Whenever an edge of cluster `i` is announced, both its ends were announced before. -/
def EndsFirst (i : ClusterId) (events : List LoadEvent) : Prop :=
  ∀ before id z, before ++ [.edgeAdded i id z] <+: events →
    (∃ key, .nodeAdded i z.source key ∈ before) ∧ ∃ key, .nodeAdded i z.target key ∈ before

theorem endsFirst_nil (i : ClusterId) : EndsFirst i [] := by
  intro before id z h
  exact absurd (List.prefix_nil.1 h) (List.append_ne_nil_of_right_ne_nil _ (List.cons_ne_nil _ _))

/-- Only a further edge asks for something. -/
theorem EndsFirst.concat {events : List LoadEvent} (h : EndsFirst i events)
    (he : ∀ id z, e = .edgeAdded i id z →
      (∃ key, .nodeAdded i z.source key ∈ events) ∧ ∃ key, .nodeAdded i z.target key ∈ events) :
    EndsFirst i (events ++ [e]) := by
  intro before id z hprefix
  rcases List.prefix_concat_iff.1 hprefix with heq | hprefix
  · obtain ⟨rfl, hlast⟩ := List.append_inj' heq rfl
    exact he id z (List.cons.inj hlast).1.symm
  · exact h before id z hprefix

end LoadEvent

/-- An edge that was `y` when it was added may have become `z`, as call continuations become direct
edges. -/
inductive Edge.Becomes : Edge → Edge → Prop
  | same (z : Edge) : Becomes z z
  | direct {s t : NodeId} {o o' : UInt8} : Becomes ⟨s, t, .callContinuation, o⟩ ⟨s, t, .direct, o'⟩

namespace Graph

open LoadEvent

variable {g g' : Graph} {i : ClusterId} {events news : List LoadEvent} {e : LoadEvent} {x : Node}
  {n s t : NodeId} {k : EdgeKind} {o : UInt8} {z : Edge} {id : EdgeId} {outcome : EdgeOutcome}

/-! ## The numbers of edges -/

/-- The places of all edges, in ascending order. -/
def edgeIds (g : Graph) : List EdgeId := (List.range g.edges.size).map EdgeId.mk

theorem edgeIds_withEdge : (g.withEdge z).edgeIds = g.edgeIds ++ [⟨g.edges.size⟩] := by
  have hsize : (g.withEdge z).edges.size = g.edges.size + 1 := Array.size_push ..
  rw [edgeIds, edgeIds, hsize, List.range_succ, List.map_append]
  rfl

theorem edgeIds_withDirect : (g.withDirect s id o).edgeIds = g.edgeIds := by
  rw [edgeIds, edgeIds, withDirect, Array.size_modify]

/-! ## Graphs that are announced -/

/-- The events tell of the graph, which is that of cluster `i`: each of its nodes and each of its
edges is announced exactly once, in the order of their numbers, and nothing else of the cluster. -/
structure Announced (g : Graph) (i : ClusterId) (events : List LoadEvent) : Prop where
  nodes : events.filterMap (node? i) = g.nodeIds.map fun n => (n, (g.node n).key)
  edges : events.filterMap (LoadEvent.edge? i) = g.edgeIds
  /-- The edges are still those that were announced, but for call continuations that have become
  direct. -/
  becomes : ∀ id y, .edgeAdded i id y ∈ events → ∃ z, g.edge? id = some z ∧ y.Becomes z
  endsFirst : EndsFirst i events

namespace Announced

theorem empty (i : ClusterId) : Graph.empty.Announced i [] where
  nodes := rfl
  edges := rfl
  becomes _ _ hmem := by cases hmem
  endsFirst := endsFirst_nil i

/-- Every node was announced under its key. -/
theorem mem_of_hasNode (h : g.Announced i events) (hn : g.hasNode n) :
    .nodeAdded i n (g.node n).key ∈ events := by
  have hmem : (n, (g.node n).key) ∈ events.filterMap (node? i) := by
    rw [h.nodes]
    exact List.mem_map_of_mem (mem_nodeIds.2 hn)
  obtain ⟨e, he, hnode⟩ := List.mem_filterMap.1 hmem
  exact node?_eq_some_iff.1 hnode ▸ he

/-- What happens elsewhere tells nothing of the graph. -/
theorem concat_of_ne (h : g.Announced i events) (he : e.creation? ≠ some i) :
    g.Announced i (events ++ [e]) where
  nodes := by
    rw [List.filterMap_append, List.filterMap_cons_none (node?_of_creation?_ne he),
      List.filterMap_nil, List.append_nil, h.nodes]
  edges := by
    rw [List.filterMap_append, List.filterMap_cons_none (edge?_of_creation?_ne he),
      List.filterMap_nil, List.append_nil, h.edges]
  becomes id y hmem := by
    rcases List.mem_append.1 hmem with hmem | hmem
    · exact h.becomes id y hmem
    · exact absurd (congrArg creation? (List.mem_singleton.1 hmem).symm) he
  endsFirst := h.endsFirst.concat fun id y heq => absurd (congrArg creation? heq) he

theorem append_of_ne (h : g.Announced i events) (hnews : ∀ e ∈ news, e.creation? ≠ some i) :
    g.Announced i (events ++ news) := by
  induction news generalizing events with
  | nil =>
    rw [List.append_nil]
    exact h
  | cons e news ih =>
    rw [← List.singleton_append, ← List.append_assoc]
    exact ih (h.concat_of_ne (hnews e List.mem_cons_self)) fun e' he' =>
      hnews e' (List.mem_cons_of_mem e he')

theorem withNode (h : g.Announced i events) :
    (g.withNode x).Announced i (events ++ [.nodeAdded i ⟨g.nodes.size⟩ x.key]) where
  nodes := by
    have hold : g.nodeIds.map (fun n => (n, ((g.withNode x).node n).key)) =
        g.nodeIds.map fun n => (n, (g.node n).key) := by
      refine List.map_congr_left fun n hn => ?_
      rw [node_withNode, if_neg]
      rintro rfl
      exact Coherent.not_hasNode_next g (mem_nodeIds.1 hn)
    rw [List.filterMap_append, List.filterMap_cons_some node?_nodeAdded, List.filterMap_nil,
      nodeIds_withNode, List.map_append, List.map_singleton, node_withNode, if_pos rfl, hold,
      h.nodes]
  edges := (List.filterMap_append ..).trans ((List.append_nil _).trans h.edges)
  becomes id y hmem := by
    rcases List.mem_append.1 hmem with hmem | hmem
    · exact h.becomes id y hmem
    · cases List.mem_singleton.1 hmem
  endsFirst := h.endsFirst.concat fun id y heq => by cases heq

theorem withEdge (h : g.Announced i events) (hs : g.hasNode z.source) (ht : g.hasNode z.target) :
    (g.withEdge z).Announced i (events ++ [.edgeAdded i ⟨g.edges.size⟩ z]) where
  nodes := by
    rw [List.filterMap_append, h.nodes, sameNodes_withEdge.nodeIds_eq]
    refine (List.append_nil _).trans (List.map_congr_left fun n _ => ?_)
    rw [sameNodes_withEdge.key_eq]
  edges := by
    rw [List.filterMap_append, List.filterMap_cons_some edge?_edgeAdded, List.filterMap_nil,
      h.edges, edgeIds_withEdge]
  becomes id y hmem := by
    rw [edge?_withEdge]
    rcases List.mem_append.1 hmem with hmem | hmem
    · obtain ⟨w, hw, hbecomes⟩ := h.becomes id y hmem
      refine ⟨w, ?_, hbecomes⟩
      rw [Function.update_of_ne, hw]
      rintro rfl
      cases (edge?_next g).symm.trans hw
    · cases List.mem_singleton.1 hmem
      exact ⟨z, Function.update_self .., .same z⟩
  endsFirst := h.endsFirst.concat fun id y heq => by
    cases heq
    exact ⟨⟨_, h.mem_of_hasNode hs⟩, _, h.mem_of_hasNode ht⟩

/-- That a call continuation becomes a direct edge is not announced. -/
theorem withDirect (h : g.Announced i events) {o₀ : UInt8}
    (hid : g.edge? id = some ⟨s, t, .callContinuation, o₀⟩) :
    (g.withDirect s id o).Announced i events where
  nodes := by
    rw [h.nodes, sameNodes_withDirect.nodeIds_eq]
    refine List.map_congr_left fun n _ => ?_
    rw [sameNodes_withDirect.key_eq]
  edges := h.edges.trans edgeIds_withDirect.symm
  becomes e y hmem := by
    obtain ⟨w, hw, hbecomes⟩ := h.becomes e y hmem
    rw [edge?_withDirect hid]
    by_cases he : e = id
    · rw [he] at hw
      cases hid.symm.trans hw
      cases hbecomes
      refine ⟨⟨s, t, .direct, o⟩, ?_, .direct⟩
      rw [he, Function.update_self]
    · exact ⟨w, (Function.update_of_ne he ..).trans hw, hbecomes⟩
  endsFirst := h.endsFirst

end Announced

/-! ## News -/

/-- What is announced of a node that was placed in cluster `i`. -/
def nodeNews (g : Graph) (i : ClusterId) (placed : NodeId × Bool) : List LoadEvent :=
  if placed.2 then [.nodeAdded i placed.1 (g.node placed.1).key] else []

/-- What is announced of a request for an edge in cluster `i`. -/
def edgeNews (g : Graph) (i : ClusterId) (outcome : EdgeOutcome) : List LoadEvent :=
  if outcome.isNew then [.edgeAdded i outcome.edge (g.edge outcome.edge)] else []

theorem edgeNews_added : g.edgeNews i (.added id) = [.edgeAdded i id (g.edge id)] := rfl

theorem edgeNews_of_not_isNew (h : outcome.isNew = false) : g.edgeNews i outcome = [] := by
  rw [edgeNews, h, if_neg Bool.false_ne_true]

theorem creation?_of_mem_nodeNews {placed : NodeId × Bool} (he : e ∈ g.nodeNews i placed) :
    e.creation? = some i := by
  rw [nodeNews] at he
  split at he
  · cases List.mem_singleton.1 he
    rfl
  · cases he

theorem creation?_of_mem_edgeNews (he : e ∈ g.edgeNews i outcome) : e.creation? = some i := by
  rw [edgeNews] at he
  split at he
  · cases List.mem_singleton.1 he
    rfl
  · cases he

theorem SameNodes.nodeNews_eq (h : SameNodes g g') (placed : NodeId × Bool) :
    g'.nodeNews i placed = g.nodeNews i placed := by
  rw [nodeNews, nodeNews, h.key_eq]

theorem Announced.addNode (h : g.Announced i events) (x : Node) :
    (g.addNode x).2.Announced i (events ++ (g.addNode x).2.nodeNews i (g.addNode x).1) := by
  cases hf : g.find? x.key with
  | some n =>
    rw [addNode_of_find? hf, nodeNews, if_neg Bool.false_ne_true, List.append_nil]
    exact h
  | none =>
    rw [addNode_of_new hf, nodeNews, if_pos rfl, node_withNode, if_pos rfl]
    exact h.withNode

theorem Announced.addEdge (h : g.Announced i events) (hg : g.Coherent) (hs : g.hasNode s)
    (ht : g.hasNode t) (hr : Graph.addEdge s t k o g = .ok outcome g') :
    g'.Announced i (events ++ g'.edgeNews i outcome) := by
  have hstep := edgeStep_addEdge hg s t k o
  rw [hr] at hstep
  cases hstep with
  | added =>
    have hedge : (g.withEdge ⟨s, t, k, o⟩).edge ⟨g.edges.size⟩ = ⟨s, t, k, o⟩ := edge_eq (by
      rw [edge?_withEdge, Function.update_self])
    rw [edgeNews_added, hedge]
    exact h.withEdge hs ht
  | duplicate | merged =>
    rw [edgeNews_of_not_isNew rfl, List.append_nil]
    exact h
  | upgraded hid =>
    rw [edgeNews_of_not_isNew rfl, List.append_nil]
    exact h.withDirect hid

/-- Where there are no edges, a request that is granted makes a new one. -/
theorem eq_added_of_edgeless (hg : g.Coherent) (hno : ∀ e, g.edge? e = none)
    (hr : Graph.addEdge s t k o g = .ok outcome g') : outcome = .added outcome.edge := by
  have hstep := edgeStep_addEdge hg s t k o
  rw [hr] at hstep
  cases hstep with
  | added => rfl
  | duplicate hid | merged hid | upgraded hid => cases (hno _).symm.trans hid

end Graph

namespace Cluster

variable {c c' c₁ c₂ c₃ : Cluster} {i : ClusterId} {news news' : List LoadEvent} {x : Node}
  {placed : NodeId × Bool} {s t a b : NodeId} {k : EdgeKind} {o : UInt8} {outcome : EdgeOutcome}
  {transfer : Transfer}

/-- The cluster `c'` has come of `c`, which is cluster `i`, and the news tell what is new. -/
structure Reports (c : Cluster) (i : ClusterId) (c' : Cluster) (news : List LoadEvent) :
    Prop where
  coherent : c'.Coherent
  id_eq : c'.id = c.id
  creation?_eq : ∀ e ∈ news, e.creation? = some i
  announced : ∀ events, c.graph.Announced i events → c'.graph.Announced i (events ++ news)

theorem Reports.trans (h : c₁.Reports i c₂ news) (h' : c₂.Reports i c₃ news') :
    c₁.Reports i c₃ (news ++ news') where
  coherent := h'.coherent
  id_eq := h'.id_eq.trans h.id_eq
  creation?_eq e he := by
    rcases List.mem_append.1 he with he | he
    · exact h.creation?_eq e he
    · exact h'.creation?_eq e he
  announced events hevents := by
    rw [← List.append_assoc]
    exact h'.announced _ (h.announced events hevents)

/-- **A node is news when it was placed as new.** -/
theorem NodeStep.reports (hs : NodeStep c x (placed, c')) (h : c.Coherent) (hx : x.edges = {}) :
    c.Reports i c' (c'.graph.nodeNews i placed) where
  coherent := hs.coherent h hx
  id_eq := by
    cases hs with
    | knownEntry | entry | knownExit | exit | knownRoot | root | block => rfl
  creation?_eq e he := Graph.creation?_of_mem_nodeNews he
  announced events hevents := by
    cases hs with
    | knownEntry | knownExit | knownRoot =>
      rw [Graph.nodeNews, if_neg Bool.false_ne_true, List.append_nil]
      exact hevents
    | entry | exit | block => exact hevents.addNode x
    | root => exact hevents.addNode (.processRoot x.unit)

/-- **An edge is news when the request for it made a new one.** -/
theorem reports_addEdge (h : c.Coherent) (hs : c.graph.hasNode s) (ht : c.graph.hasNode t)
    (hr : addEdge s t k o c = .ok outcome c') :
    c.Reports i c' (c'.graph.edgeNews i outcome) := by
  have hgrow := grows_addEdge h hs ht hr
  obtain ⟨g, hg, rfl⟩ := addEdge_eq_ok hr
  exact {
    coherent := hgrow.coherent
    id_eq := rfl
    creation?_eq := fun e he => Graph.creation?_of_mem_edgeNews he
    announced := fun events hevents => hevents.addEdge h.graph hs ht hg }

/-- A node and then an edge at it. -/
theorem NodeStep.reports_addEdge (hs : NodeStep c x (placed, c₁)) (h : c.Coherent)
    (hx : x.edges = {}) (ha : c₁.graph.hasNode a) (hb : c₁.graph.hasNode b)
    (hr : addEdge a b k o c₁ = .ok outcome c') :
    c.Reports i c' (c'.graph.nodeNews i placed ++ c'.graph.edgeNews i outcome) := by
  have hnode := hs.reports (i := i) h hx
  have hsame : c₁.graph.SameNodes c'.graph := by
    obtain ⟨g, hg, rfl⟩ := addEdge_eq_ok hr
    have hsame := c₁.graph.sameNodes_addEdge a b k o
    rw [hg] at hsame
    exact hsame
  rw [hsame.nodeNews_eq]
  exact hnode.trans (Cluster.reports_addEdge hnode.coherent ha hb hr)

theorem reports_leave (h : c.Coherent) (ha : c.graph.hasNode a)
    (hr : leave a transfer c = .ok (placed, outcome) c') :
    c.Reports i c' (c'.graph.nodeNews i placed ++ c'.graph.edgeNews i outcome) := by
  obtain ⟨c₁, hplace, hlink⟩ := bridge_eq_ok_iff.1 hr
  have hs := nodeStep_addExitFor c transfer.signature (c.graph.node a).unit transfer.isCallback
  rw [hplace] at hs
  exact hs.reports_addEdge h rfl (hs.extends_.graph.hasNode a ha) (hs.hasNode h) hlink

theorem reports_enter (h : c.Coherent) (hb : c.graph.hasNode b)
    (hr : enter b transfer c = .ok (placed, outcome) c') :
    c.Reports i c' (c'.graph.nodeNews i placed ++ c'.graph.edgeNews i outcome) := by
  obtain ⟨c₁, hplace, hlink⟩ := bridge_eq_ok_iff.1 hr
  have hs := nodeStep_addEntryFor c transfer.signature (c.graph.node b).unit transfer.isCallback
  rw [hplace] at hs
  exact hs.reports_addEdge h rfl (hs.hasNode h) (hs.extends_.graph.hasNode b hb) hlink

end Cluster
end FlowAtlas
