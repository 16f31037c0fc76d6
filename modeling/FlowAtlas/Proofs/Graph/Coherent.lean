import FlowAtlas.Proofs.Graph.Arena

/-!
# What is kept at the nodes is what the arena says

A graph keeps its nodes three times over (by place, by key, by content hash) and each of its edges
at three places (in the arena, at its source, at its target).  `Graph.Coherent` is the invariant
that these agree, phrased for use in proofs.

* `Coherent.addNode` keeps it when a node is asked for.
* `Coherent.withEdge` and `Coherent.withDirect` keep it when an edge is appended or when a call
  continuation becomes a direct edge, provided that the edge is one that its source accepts.
-/

set_option autoImplicit false

namespace FlowAtlas
namespace Graph

open Adjacency EdgeMap

/-! ## The invariant -/

variable {g : Graph} {s t n : NodeId} {k : EdgeKind} {o : UInt8} {x : Node} {z : Edge}
  {e id : EdgeId}

/-- What is kept by key, by hash and at each node is what the arena says. -/
structure Coherent (g : Graph) : Prop where
  find?_eq_some_iff : ∀ key n, g.find? key = some n ↔ g.hasNode n ∧ (g.node n).key = key
  nodesByHash_eq : ∀ h, (g.nodesByHash h).toList = g.nodeIds.filter fun n => (g.node n).hash = h
  outgoingAt : ∀ n, OutgoingAt g.edge? n (g.node n).edges
  incomingAt : ∀ n, IncomingAt g.edge? n (g.node n).edges
  ends : ∀ e z, g.edge? e = some z → g.hasNode z.source ∧ g.hasNode z.target
  joined_once : ∀ e e' z z', g.edge? e = some z → g.edge? e' = some z' →
    z.source = z'.source → z.target = z'.target → e = e'

theorem coherent_empty : Coherent .empty where
  find?_eq_some_iff key n := by
    rw [hasNode_iff, find?]
    exact iff_of_false (fun h => by simp [empty] at h) fun h => Nat.not_lt_zero _ h.1
  nodesByHash_eq h := by
    rw [nodesByHash, HashIndex.get]
    simp [empty, nodeIds]
  outgoingAt n := outgoingAt_empty fun e z hz => by cases hz.1
  incomingAt n := incomingAt_empty fun e z hz => by cases hz.1
  ends e z hz := by cases hz
  joined_once e e' z z' hz := by cases hz

namespace Coherent

/-! ## Nodes -/

theorem not_hasNode_next (g : Graph) : ¬g.hasNode ⟨g.nodes.size⟩ := by
  rw [hasNode_iff]
  exact Nat.lt_irrefl _

theorem withNode (h : Coherent g) (hx : x.edges = {}) (hnew : g.find? x.key = none) :
    Coherent (g.withNode x) where
  find?_eq_some_iff key n := by
    rw [find?_withNode, hasNode_withNode, node_withNode]
    by_cases hn : n = ⟨g.nodes.size⟩
    · rw [if_pos hn, hn, and_iff_right (Or.inr rfl)]
      by_cases hk : x.key = key
      · rw [if_pos hk]
        exact iff_of_true rfl hk
      · rw [if_neg hk, h.find?_eq_some_iff]
        exact iff_of_false (fun hf => not_hasNode_next g hf.1) hk
    · rw [if_neg hn, or_iff_left hn]
      by_cases hk : x.key = key
      · rw [if_pos hk, ← h.find?_eq_some_iff, ← hk, hnew]
        exact iff_of_false (fun hf => hn (Option.some.inj hf).symm) fun hf => by cases hf
      · rw [if_neg hk, h.find?_eq_some_iff]
  nodesByHash_eq c := by
    have hnext : (⟨g.nodes.size⟩ : NodeId) ∉ g.byHash.get x.hash := fun hmem => by
      have hmem : (⟨g.nodes.size⟩ : NodeId) ∈ (g.nodesByHash x.hash).toList :=
        Array.mem_toList_iff.2 hmem
      rw [h.nodesByHash_eq] at hmem
      exact not_hasNode_next g (mem_nodeIds.1 (List.mem_filter.1 hmem).1)
    have hold : g.nodeIds.filter (fun n => ((g.withNode x).node n).hash = c) =
        (g.nodesByHash c).toList := by
      rw [h.nodesByHash_eq]
      refine List.filter_congr fun n hn => ?_
      rw [node_withNode, if_neg]
      rintro rfl
      exact not_hasNode_next g (mem_nodeIds.1 hn)
    rw [nodesByHash_withNode hnext, nodeIds_withNode, List.filter_append, hold,
      List.filter_singleton, node_withNode, if_pos rfl]
    by_cases hc : x.hash = c
    · rw [if_pos hc, decide_eq_true hc, cond_true]
    · rw [if_neg hc, decide_eq_false hc, cond_false]
  outgoingAt n := by
    rw [edge?_withNode, node_withNode]
    split
    · rename_i hn
      rw [hx]
      refine outgoingAt_empty fun e z hz => not_hasNode_next g ?_
      exact hn ▸ hz.2 ▸ (h.ends e z hz.1).1
    · exact h.outgoingAt n
  incomingAt n := by
    rw [edge?_withNode, node_withNode]
    split
    · rename_i hn
      rw [hx]
      refine incomingAt_empty fun e z hz => not_hasNode_next g ?_
      exact hn ▸ hz.2 ▸ (h.ends e z hz.1).2
    · exact h.incomingAt n
  ends e z hz :=
    ⟨hasNode_withNode.2 (Or.inl (h.ends e z hz).1), hasNode_withNode.2 (Or.inl (h.ends e z hz).2)⟩
  joined_once := h.joined_once

theorem addNode (h : Coherent g) (hx : x.edges = {}) : Coherent (g.addNode x).2 := by
  cases hf : g.find? x.key with
  | some n => rw [addNode_of_find? hf]; exact h
  | none => rw [addNode_of_new hf]; exact h.withNode hx hf

theorem hasNode_addNode (h : Coherent g) (x : Node) :
    (g.addNode x).2.hasNode (g.addNode x).1.1 := by
  cases hf : g.find? x.key with
  | some n =>
    rw [addNode_of_find? hf]
    exact ((h.find?_eq_some_iff _ _).1 hf).1
  | none =>
    rw [addNode_of_new hf]
    exact hasNode_withNode.2 (Or.inr rfl)

theorem key_addNode (h : Coherent g) (x : Node) :
    ((g.addNode x).2.node (g.addNode x).1.1).key = x.key := by
  cases hf : g.find? x.key with
  | some n =>
    rw [addNode_of_find? hf]
    exact ((h.find?_eq_some_iff _ _).1 hf).2
  | none => rw [node_addNode_of_new hf]

/-! ## Edges -/

/-- `findEdge?` finds the edge from one node to another. -/
theorem findEdge?_eq_some (h : Coherent g) (hf : g.findEdge? s t = some e) :
    ∃ k o, g.edge? e = some ⟨s, t, k, o⟩ := by
  rw [findEdge?] at hf
  obtain ⟨z, hz, hs⟩ := (h.outgoingAt s).mem_outgoing.1 (List.mem_of_find?_eq_some hf)
  have ht := List.find?_some hf
  rw [edge_eq hz, decide_eq_true_iff] at ht
  obtain ⟨zs, zt, zk, zo⟩ := z
  obtain rfl : zs = s := hs
  obtain rfl : zt = t := ht
  exact ⟨zk, zo, hz⟩

theorem findEdge?_eq_none (h : Coherent g) (hf : g.findEdge? s t = none) :
    ∀ e z, g.edge? e = some z → ¬(z.source = s ∧ z.target = t) := by
  rintro e z hz ⟨hs, ht⟩
  rw [findEdge?, List.find?_eq_none] at hf
  refine hf e ((h.outgoingAt s).mem_outgoing.2 ⟨z, hz, hs⟩) ?_
  rw [edge_eq hz, decide_eq_true_iff]
  exact ht

/-- The nodes of a graph stay well kept while only edges change. -/
theorem of_sameNodes {g' : Graph} (h : Coherent g) (hg : SameNodes g g')
    (hout : ∀ n, OutgoingAt g'.edge? n (g'.node n).edges)
    (hin : ∀ n, IncomingAt g'.edge? n (g'.node n).edges)
    (hends : ∀ e z, g'.edge? e = some z → g.hasNode z.source ∧ g.hasNode z.target)
    (honce : ∀ e e' z z', g'.edge? e = some z → g'.edge? e' = some z' →
      z.source = z'.source → z.target = z'.target → e = e') : Coherent g' where
  find?_eq_some_iff key n := by
    rw [hg.find?_eq, hg.hasNode_iff, hg.key_eq]
    exact h.find?_eq_some_iff key n
  nodesByHash_eq c := by
    rw [hg.nodesByHash_eq, hg.nodeIds_eq, h.nodesByHash_eq]
    exact List.filter_congr fun n _ => by rw [hg.hash_eq]
  outgoingAt := hout
  incomingAt := hin
  ends e z hz := by rw [hg.hasNode_iff, hg.hasNode_iff]; exact hends e z hz
  joined_once := honce

theorem withEdge (h : Coherent g) (hs : g.hasNode z.source) (ht : g.hasNode z.target)
    (hnew : ∀ e y, g.edge? e = some y → ¬(y.source = z.source ∧ y.target = z.target))
    (hacc : Accepts g.edge? z.source z.kind z.ordinal) : Coherent (g.withEdge z) := by
  have hid := edge?_next g
  refine h.of_sameNodes sameNodes_withEdge (fun n => ?_) (fun n => ?_) (fun e y hy => ?_)
    fun e e' y y' hy hy' hys hyt => ?_
  · rw [edge?_withEdge, node_withEdge hs ht]
    have hout : OutgoingAt (Function.update g.edge? ⟨g.edges.size⟩ (some z)) n
        (if n = z.source then (g.node n).edges.withOutgoing ⟨g.edges.size⟩ z.kind z.ordinal
          else (g.node n).edges) := by
      by_cases hn : n = z.source
      · rw [if_pos hn]
        exact (h.outgoingAt n).add hid hn.symm (hn ▸ hacc)
      · rw [if_neg hn]
        refine (h.outgoingAt n).congr fun e y => ?_
        rw [leaves_update hid]
        exact or_iff_right fun he => hn he.2.2.symm
    dsimp only
    split
    · exact hout.addIncoming
    · exact hout
  · rw [edge?_withEdge, node_withEdge hs ht]
    have hin : IncomingAt g.edge? n
        (if n = z.source then (g.node n).edges.withOutgoing ⟨g.edges.size⟩ z.kind z.ordinal
          else (g.node n).edges) := by
      refine (h.incomingAt n).of_incoming_eq ?_
      split
      · exact withOutgoing_incoming
      · rfl
    dsimp only
    by_cases hn : n = z.target
    · rw [if_pos hn]
      exact hin.add hid hn.symm
    · rw [if_neg hn]
      refine hin.congr fun e => exists_congr fun y => ?_
      rw [arrives_update hid]
      exact or_iff_right fun he => hn he.2.2.symm
  · rw [edge?_withEdge, update_eq_some_iff hid] at hy
    rcases hy with ⟨-, rfl⟩ | hy
    · exact ⟨hs, ht⟩
    · exact h.ends e y hy
  · rw [edge?_withEdge, update_eq_some_iff hid] at hy hy'
    rcases hy with ⟨rfl, rfl⟩ | hy <;> rcases hy' with ⟨rfl, rfl⟩ | hy'
    · rfl
    · exact absurd ⟨hys.symm, hyt.symm⟩ (hnew e' y' hy')
    · exact absurd ⟨hys, hyt⟩ (hnew e y hy)
    · exact h.joined_once e e' y y' hy hy' hys hyt

theorem withDirect (h : Coherent g) (hz : g.edge? id = some z) (hs : z.source = s)
    (hk : z.kind = .callContinuation) (hacc : Accepts g.edge? s .direct o) :
    Coherent (g.withDirect s id o) := by
  have hsrc : g.hasNode s := hs ▸ (h.ends id z hz).1
  -- the new table is the old one with the edge taken out and put back as a direct one
  have hE : (g.withDirect s id o).edge? = Function.update (Function.update g.edge? id none) id
      (some { z with kind := .direct, ordinal := o }) := by
    rw [edge?_withDirect hz, Function.update_idem]
  have hid : Function.update g.edge? id none id = none := Function.update_self id none g.edge?
  have hends : ∀ e a b, (∃ y, (g.withDirect s id o).edge? e = some y ∧ y.source = a ∧
      y.target = b) ↔ ∃ y, g.edge? e = some y ∧ y.source = a ∧ y.target = b := by
    intro e a b
    rw [edge?_withDirect hz]
    exact ends_update hz rfl rfl
  refine h.of_sameNodes sameNodes_withDirect (fun n => ?_) (fun n => ?_) (fun e y hy => ?_)
    fun e e' y y' hy hy' hys hyt => ?_
  · rw [hE, node_withDirect hsrc]
    by_cases hn : n = s
    · rw [if_pos hn]
      have herase := (h.outgoingAt n).erase ⟨hz, hs.trans hn.symm⟩ hk
      refine herase.add hid (hs.trans hn.symm) fun e y hy => ?_
      exact hacc e y (hn ▸ (leaves_erase.1 hy).1)
    · rw [if_neg hn]
      refine (h.outgoingAt n).congr fun e y => ?_
      rw [leaves_update hid, leaves_erase]
      constructor
      · rintro (⟨-, -, hsn⟩ | ⟨hy, -⟩)
        · exact absurd (hsn.symm.trans hs) hn
        · exact hy
      · refine fun hy => Or.inr ⟨hy, fun he => hn ?_⟩
        have hyz : y = z := Option.some.inj (hy.1.symm.trans (he ▸ hz))
        exact hy.2.symm.trans (hyz ▸ hs)
  · rw [node_withDirect hsrc]
    have hin : IncomingAt g.edge? n (if n = s then
        (g.node n).edges.withoutContinuation.withOutgoing id .direct o
        else (g.node n).edges) := by
      refine (h.incomingAt n).of_incoming_eq ?_
      split
      · exact withOutgoing_incoming
      · rfl
    refine hin.congr fun e => ⟨fun ⟨y, hy, hyt⟩ => ?_, fun ⟨y, hy, hyt⟩ => ?_⟩
    · obtain ⟨y', hy', -, ht⟩ := (hends e y.source n).1 ⟨y, hy, rfl, hyt⟩
      exact ⟨y', hy', ht⟩
    · obtain ⟨y', hy', -, ht⟩ := (hends e y.source n).2 ⟨y, hy, rfl, hyt⟩
      exact ⟨y', hy', ht⟩
  · obtain ⟨y', hy', hs', ht'⟩ := (hends e _ _).1 ⟨y, hy, rfl, rfl⟩
    exact hs' ▸ ht' ▸ h.ends e y' hy'
  · obtain ⟨w, hw, hws, hwt⟩ := (hends e _ _).1 ⟨y, hy, rfl, rfl⟩
    obtain ⟨w', hw', hws', hwt'⟩ := (hends e' _ _).1 ⟨y', hy', rfl, rfl⟩
    exact h.joined_once e e' w w' hw hw' (hws.trans (hys.trans hws'.symm))
      (hwt.trans (hyt.trans hwt'.symm))

end Coherent
end Graph
end FlowAtlas
