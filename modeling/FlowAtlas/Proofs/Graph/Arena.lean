import FlowAtlas.Graph.Basic
import FlowAtlas.Proofs.Graph.Adjacency
import FlowAtlas.Proofs.Graph.HashIndex

/-!
# Reading a graph after it has grown

`Graph.addNode` and `Graph.addEdge` are made of four changes of the arena, and this file says what
each of them does to what can be read: the node of a place (`Graph.node`), the place of a key
(`Graph.find?`), the nodes of a hash (`Graph.nodesByHash`) and the edge of a number (`Graph.edge?`).

* `Graph.withNode` appends a node, which is what asking for one does unless its key is taken
  (`hasNode_or_new_of_addNode`).
* `Graph.setAdjacency` and `Graph.attachIncoming` change the edges at one node and nothing else,
  which is what `Graph.SameNodes` says.
* `Graph.withEdge` appends an edge and records it at both its ends; `Graph.withDirect` turns a call
  continuation into a direct edge.

A graph only grows: `Graph.Extends` says what stays through all of these.
-/

set_option autoImplicit false

namespace FlowAtlas

/-- The node apart from the edges at it. -/
def Node.bare (x : Node) : Node := { x with edges := {} }

namespace Graph

variable {g g' : Graph} {x y : Node} {n m s t : NodeId} {a : Adjacency} {e id : EdgeId} {z : Edge}
  {k : EdgeKind} {o : UInt8} {key : NodeKey} {h : UInt64}

/-- The edge of a number, if the graph has one. -/
def edge? (g : Graph) : EdgeMap := fun e => g.edges[e.index]?

theorem edge_eq (he : g.edge? e = some z) : g.edge e = z := by
  rw [edge, Array.getD_eq_getD_getElem?]
  exact congrArg (Option.getD · default) he

theorem edge?_next (g : Graph) : g.edge? ⟨g.edges.size⟩ = none :=
  Array.getElem?_eq_none (Nat.le_refl _)

theorem hasNode_iff : g.hasNode n ↔ n.index < g.nodes.size := by
  rw [hasNode, decide_eq_true_iff]

theorem getElem?_nodes (hn : g.hasNode n) : g.nodes.toList[n.index]? = some (g.node n) := by
  rw [Array.getElem?_toList, node, Array.getD_eq_getD_getElem?,
    Array.getElem?_eq_getElem (hasNode_iff.1 hn)]
  rfl

theorem mem_nodes_iff : x ∈ g.nodes.toList ↔ ∃ n, g.hasNode n ∧ g.node n = x := by
  constructor
  · intro hx
    obtain ⟨i, hi⟩ := List.mem_iff_getElem?.1 hx
    have hn : g.hasNode ⟨i⟩ := hasNode_iff.2 (List.getElem?_eq_some_iff.1 hi).1
    exact ⟨⟨i⟩, hn, Option.some.inj ((getElem?_nodes hn).symm.trans hi)⟩
  · rintro ⟨n, hn, rfl⟩
    exact List.mem_iff_getElem?.2 ⟨n.index, getElem?_nodes hn⟩

/-! ## Appending a node -/

/-- The graph with one more node. -/
def withNode (g : Graph) (x : Node) : Graph :=
  { g with
    nodes := g.nodes.push x
    ids := g.ids.insert x.key ⟨g.nodes.size⟩
    byHash := g.byHash.add x.hash ⟨g.nodes.size⟩ }

theorem addNode_of_find? (hx : g.find? x.key = some n) : g.addNode x = ((n, false), g) := by
  rw [addNode, hx]

theorem addNode_of_new (hx : g.find? x.key = none) :
    g.addNode x = ((⟨g.nodes.size⟩, true), g.withNode x) := by
  rw [addNode, hx]
  rfl

theorem edge?_withNode : (g.withNode x).edge? = g.edge? := rfl

theorem hasNode_withNode : (g.withNode x).hasNode n ↔ g.hasNode n ∨ n = ⟨g.nodes.size⟩ := by
  rw [hasNode_iff, hasNode_iff, withNode, Array.size_push, Nat.lt_succ_iff_lt_or_eq]
  exact or_congr_right ⟨fun hn => congrArg NodeId.mk hn, fun hn => congrArg NodeId.index hn⟩

theorem node_withNode :
    (g.withNode x).node n = if n = ⟨g.nodes.size⟩ then x else g.node n := by
  rw [node, node, withNode, Array.getD_eq_getD_getElem?, Array.getD_eq_getD_getElem?,
    Array.getElem?_push]
  by_cases hn : n = ⟨g.nodes.size⟩
  · rw [if_pos hn, if_pos (congrArg NodeId.index hn)]
    rfl
  · rw [if_neg hn, if_neg fun heq => hn (congrArg NodeId.mk heq)]

theorem find?_withNode :
    (g.withNode x).find? key = if x.key = key then some ⟨g.nodes.size⟩ else g.find? key := by
  rw [find?, withNode, Std.HashMap.getElem?_insert]
  by_cases hk : x.key = key
  · rw [if_pos hk, if_pos (beq_iff_eq.2 hk)]
  · rw [if_neg hk, if_neg fun hb => hk (beq_iff_eq.1 hb)]
    rfl

theorem nodesByHash_withNode {c : UInt64} (hnext : ⟨g.nodes.size⟩ ∉ g.byHash.get x.hash) :
    ((g.withNode x).nodesByHash c).toList =
      (g.nodesByHash c).toList ++ if x.hash = c then [⟨g.nodes.size⟩] else [] := by
  rw [nodesByHash, nodesByHash, withNode, HashIndex.get_add hnext]
  by_cases hc : x.hash = c
  · rw [if_pos hc, if_pos hc, Array.toList_push, hc]
  · rw [if_neg hc, if_neg hc, List.append_nil]

theorem nodeIds_withNode : (g.withNode x).nodeIds = g.nodeIds ++ [⟨g.nodes.size⟩] := by
  rw [nodeIds, nodeIds, withNode, Array.size_push, List.range_succ, List.map_append]
  rfl

theorem mem_nodeIds : n ∈ g.nodeIds ↔ g.hasNode n := by
  rw [nodeIds, List.mem_map, hasNode_iff]
  constructor
  · rintro ⟨i, hi, rfl⟩
    exact List.mem_range.1 hi
  · exact fun hn => ⟨n.index, List.mem_range.2 hn, rfl⟩

theorem pairwise_nodeIds (g : Graph) : g.nodeIds.Pairwise (·.index < ·.index) :=
  List.pairwise_map.2 List.pairwise_lt_range

theorem nodes_eq_map (g : Graph) : g.nodes.toList = g.nodeIds.map g.node := by
  refine List.ext_getElem (by simp [nodeIds]) fun i hi _ => ?_
  have hi : i < g.nodes.size := by simpa using hi
  simp [nodeIds, node, hi]

/-! ## Asking for a node -/

theorem find?_addNode :
    (g.addNode x).2.find? key = if x.key = key then some (g.addNode x).1.1 else g.find? key := by
  cases hf : g.find? x.key with
  | some n =>
    rw [addNode_of_find? hf]
    split
    · rename_i hk
      rw [← hk, hf]
    · rfl
  | none => rw [addNode_of_new hf, find?_withNode]

theorem edge?_addNode (g : Graph) (x : Node) : (g.addNode x).2.edge? = g.edge? := by
  cases hf : g.find? x.key with
  | some n => rw [addNode_of_find? hf]
  | none => rw [addNode_of_new hf, edge?_withNode]

theorem node_addNode_of_new (hx : g.find? x.key = none) :
    (g.addNode x).2.node (g.addNode x).1.1 = x := by
  rw [addNode_of_new hx, node_withNode, if_pos rfl]

/-- A node that was not there before is the one that was asked for. -/
theorem hasNode_or_new_of_addNode (hn : (g.addNode x).2.hasNode n) :
    g.hasNode n ∨ (n = (g.addNode x).1.1 ∧ (g.addNode x).2.node n = x) := by
  cases hf : g.find? x.key with
  | some i =>
    rw [addNode_of_find? hf] at hn
    exact Or.inl hn
  | none =>
    rw [addNode_of_new hf] at hn
    rcases hasNode_withNode.1 hn with hold | hnew
    · exact Or.inl hold
    · have hplace : n = (g.addNode x).1.1 := by rw [addNode_of_new hf, hnew]
      exact Or.inr ⟨hplace, hplace ▸ node_addNode_of_new hf⟩

/-! ## Changing the edges at a node -/

/-- The two graphs have the same nodes under the same keys and hashes, apart from the edges at
them. -/
structure SameNodes (g g' : Graph) : Prop where
  size : g'.nodes.size = g.nodes.size
  ids : g'.ids = g.ids
  byHash : g'.byHash = g.byHash
  bare : ∀ n, (g'.node n).bare = (g.node n).bare

namespace SameNodes

theorem refl (g : Graph) : SameNodes g g := ⟨rfl, rfl, rfl, fun _ => rfl⟩

theorem trans {g₁ g₂ g₃ : Graph} (h : SameNodes g₁ g₂) (h' : SameNodes g₂ g₃) :
    SameNodes g₁ g₃ :=
  ⟨h'.size.trans h.size, h'.ids.trans h.ids, h'.byHash.trans h.byHash,
    fun n => (h'.bare n).trans (h.bare n)⟩

theorem key_eq (h : SameNodes g g') (n : NodeId) : (g'.node n).key = (g.node n).key := by
  have hb := congrArg Node.key (h.bare n)
  exact hb

theorem hash_eq (h : SameNodes g g') (n : NodeId) : (g'.node n).hash = (g.node n).hash := by
  have hb := congrArg Node.hash (h.bare n)
  exact hb

theorem kind_eq (h : SameNodes g g') (n : NodeId) : (g'.node n).kind = (g.node n).kind := by
  have hb := congrArg Node.kind (h.bare n)
  exact hb

theorem hasNode_iff (h : SameNodes g g') : g'.hasNode n ↔ g.hasNode n := by
  rw [Graph.hasNode_iff, Graph.hasNode_iff, h.size]

theorem find?_eq (h : SameNodes g g') : g'.find? key = g.find? key := by
  rw [find?, find?, h.ids]

theorem nodeIds_eq (h : SameNodes g g') : g'.nodeIds = g.nodeIds := by
  rw [nodeIds, nodeIds, h.size]

theorem nodesByHash_eq (h : SameNodes g g') (c : UInt64) : g'.nodesByHash c = g.nodesByHash c := by
  rw [nodesByHash, nodesByHash, h.byHash]

end SameNodes

theorem node_modify {f : Node → Node} (hm : g.hasNode m) :
    (({ g with nodes := g.nodes.modify m.index f } : Graph).node n) =
      if n = m then f (g.node n) else g.node n := by
  rw [hasNode_iff] at hm
  rw [node, node, Array.getD_eq_getD_getElem?, Array.getD_eq_getD_getElem?, Array.getElem?_modify]
  by_cases hn : n = m
  · subst hn
    rw [if_pos rfl, if_pos rfl, Array.getElem?_eq_getElem hm]
    rfl
  · rw [if_neg hn, if_neg fun heq => hn (congrArg NodeId.mk heq.symm)]

theorem sameNodes_modify {f : Node → Node} (hf : ∀ x, (f x).bare = x.bare) :
    SameNodes g { g with nodes := g.nodes.modify m.index f } where
  size := Array.size_modify
  ids := rfl
  byHash := rfl
  bare n := by
    by_cases hm : g.hasNode m
    · rw [node_modify hm]
      split
      · exact hf _
      · rfl
    · rw [hasNode_iff, Nat.not_lt] at hm
      rw [node, node, Array.getD_eq_getD_getElem?, Array.getD_eq_getD_getElem?,
        Array.getElem?_modify]
      split
      · rename_i hmn
        rw [← hmn, Array.getElem?_eq_none hm]
        rfl
      · rfl

theorem sameNodes_setAdjacency : SameNodes g (g.setAdjacency m a) :=
  sameNodes_modify fun _ => rfl

theorem sameNodes_attachIncoming : SameNodes g (g.attachIncoming m id) :=
  sameNodes_modify fun _ => rfl

theorem node_setAdjacency (hm : g.hasNode m) :
    (g.setAdjacency m a).node n = if n = m then { g.node n with edges := a } else g.node n :=
  node_modify hm

theorem node_attachIncoming (hm : g.hasNode m) :
    (g.attachIncoming m id).node n =
      if n = m then { g.node n with edges := (g.node n).edges.addIncoming id } else g.node n :=
  node_modify hm

theorem setAdjacency_setAdjacency {a' : Adjacency} :
    (g.setAdjacency m a).setAdjacency m a' = g.setAdjacency m a' := by
  have hn : (g.nodes.modify m.index fun x => { x with edges := a }).modify m.index
      (fun x => { x with edges := a' }) = g.nodes.modify m.index fun x => { x with edges := a' } := by
    refine Array.ext_getElem? fun i => ?_
    rw [Array.getElem?_modify, Array.getElem?_modify, Array.getElem?_modify]
    split
    · rw [Option.map_map]
      rfl
    · rfl
  rw [setAdjacency, setAdjacency, setAdjacency, hn]

/-! ## Appending an edge -/

/-- The graph with one more edge, recorded at both its ends. -/
def withEdge (g : Graph) (z : Edge) : Graph :=
  let id : EdgeId := ⟨g.edges.size⟩
  let recorded := ({ g with edges := g.edges.push z }).setAdjacency z.source
    ((g.node z.source).edges.withOutgoing id z.kind z.ordinal)
  recorded.attachIncoming z.target id

theorem edge?_withEdge :
    (g.withEdge z).edge? = Function.update g.edge? ⟨g.edges.size⟩ (some z) := by
  funext e
  rw [edge?, withEdge]
  show (g.edges.push z)[e.index]? = _
  rw [Array.getElem?_push]
  by_cases he : e = ⟨g.edges.size⟩
  · rw [he, if_pos rfl, Function.update_self]
  · rw [if_neg fun heq => he (congrArg EdgeId.mk heq), Function.update_of_ne he]
    rfl

theorem sameNodes_withEdge : SameNodes g (g.withEdge z) :=
  have h : SameNodes g { g with edges := g.edges.push z } := ⟨rfl, rfl, rfl, fun _ => rfl⟩
  (h.trans sameNodes_setAdjacency).trans sameNodes_attachIncoming

theorem node_withEdge (hs : g.hasNode z.source) (ht : g.hasNode z.target) :
    ((g.withEdge z).node n).edges =
      let a := if n = z.source then (g.node n).edges.withOutgoing ⟨g.edges.size⟩ z.kind z.ordinal
        else (g.node n).edges
      if n = z.target then a.addIncoming ⟨g.edges.size⟩ else a := by
  have hs' : ({ g with edges := g.edges.push z } : Graph).hasNode z.source := hs
  have ht' : ({ g with edges := g.edges.push z } : Graph).hasNode z.target := ht
  rw [withEdge, node_attachIncoming (sameNodes_setAdjacency.hasNode_iff.2 ht'),
    node_setAdjacency hs']
  by_cases hn : n = z.source
  · rw [if_pos hn, if_pos hn, hn]
    split <;> rfl
  · rw [if_neg hn, if_neg hn]
    split <;> rfl

/-! ## Turning a call continuation into a direct edge -/

/-- The graph in which edge number `id`, a call continuation that leaves `s`, is a direct edge of
ordinal `o`. -/
def withDirect (g : Graph) (s : NodeId) (id : EdgeId) (o : UInt8) : Graph :=
  { g.setAdjacency s ((g.node s).edges.withoutContinuation.withOutgoing id .direct o) with
    edges := g.edges.modify id.index fun e => { e with kind := .direct, ordinal := o } }

theorem edge?_withDirect (hid : g.edge? id = some z) :
    (g.withDirect s id o).edge? =
      Function.update g.edge? id (some { z with kind := .direct, ordinal := o }) := by
  funext e
  rw [edge?, withDirect, Array.getElem?_modify]
  by_cases he : e = id
  · have hz : g.edges[id.index]? = some z := hid
    rw [he, if_pos rfl, Function.update_self, hz]
    rfl
  · rw [if_neg fun heq => he (congrArg EdgeId.mk heq.symm), Function.update_of_ne he]
    rfl

theorem sameNodes_withDirect : SameNodes g (g.withDirect s id o) :=
  have h : SameNodes (g.setAdjacency s _) (g.withDirect s id o) := ⟨rfl, rfl, rfl, fun _ => rfl⟩
  sameNodes_setAdjacency.trans h

theorem node_withDirect (hs : g.hasNode s) :
    ((g.withDirect s id o).node n).edges =
      if n = s then (g.node n).edges.withoutContinuation.withOutgoing id .direct o
      else (g.node n).edges := by
  have h : (g.withDirect s id o).node n = (g.setAdjacency s
      ((g.node s).edges.withoutContinuation.withOutgoing id .direct o)).node n := rfl
  rw [h, node_setAdjacency hs]
  by_cases hn : n = s
  · rw [if_pos hn, if_pos hn, hn]
  · rw [if_neg hn, if_neg hn]

/-! ## What every change keeps -/

/-- The nodes of `g` are nodes of `g'`, apart from the edges at them, and stand under the same
keys. -/
structure Extends (g g' : Graph) : Prop where
  hasNode : ∀ n, g.hasNode n → g'.hasNode n
  bare : ∀ n, g.hasNode n → (g'.node n).bare = (g.node n).bare
  find?_eq_some : ∀ key n, g.find? key = some n → g'.find? key = some n

namespace Extends

theorem refl (g : Graph) : Extends g g := ⟨fun _ h => h, fun _ _ => rfl, fun _ _ h => h⟩

theorem trans {g₁ g₂ g₃ : Graph} (h : Extends g₁ g₂) (h' : Extends g₂ g₃) : Extends g₁ g₃ where
  hasNode n hn := h'.hasNode n (h.hasNode n hn)
  bare n hn := (h'.bare n (h.hasNode n hn)).trans (h.bare n hn)
  find?_eq_some key n hf := h'.find?_eq_some key n (h.find?_eq_some key n hf)

theorem key_eq (h : Extends g g') (hn : g.hasNode n) : (g'.node n).key = (g.node n).key := by
  have hb := congrArg Node.key (h.bare n hn)
  exact hb

theorem hash_eq (h : Extends g g') (hn : g.hasNode n) : (g'.node n).hash = (g.node n).hash := by
  have hb := congrArg Node.hash (h.bare n hn)
  exact hb

theorem kind_eq (h : Extends g g') (hn : g.hasNode n) : (g'.node n).kind = (g.node n).kind := by
  have hb := congrArg Node.kind (h.bare n hn)
  exact hb

end Extends

theorem SameNodes.extends (h : SameNodes g g') : Extends g g' where
  hasNode n hn := h.hasNode_iff.2 hn
  bare n _ := h.bare n
  find?_eq_some key n hf := by rw [h.find?_eq, hf]

theorem extends_withNode (hx : g.find? x.key = none) : Extends g (g.withNode x) where
  hasNode n hn := hasNode_withNode.2 (Or.inl hn)
  bare n hn := by
    rw [node_withNode, if_neg]
    rintro rfl
    exact Nat.lt_irrefl _ (hasNode_iff.1 hn)
  find?_eq_some key n hf := by
    rw [find?_withNode, if_neg, hf]
    rintro rfl
    cases hx.symm.trans hf

theorem extends_addNode (g : Graph) (x : Node) : Extends g (g.addNode x).2 := by
  cases hf : g.find? x.key with
  | some n => rw [addNode_of_find? hf]; exact Extends.refl g
  | none => rw [addNode_of_new hf]; exact extends_withNode hf

end Graph
end FlowAtlas
