import FlowAtlas.Proofs.Cluster.Guarded
import FlowAtlas.Proofs.Cluster.Tasks

/-!
# The points at which signatures pass

Calls of a signature pass through one node on each side of a cluster: they enter at `entryPoint?`
and leave at `exitPoint?`.  Both sides work alike, so they are treated as one here: `point? side` is
the point of a side, and `placeFor side` finds or makes it.

* `Cluster.Tidy` holds as long as blocks of an ordinary kind are added, and nothing else but the
  points and the process root (`Tidy.apply`).  What is registered for a signature then is a boundary
  node of that signature, and no other node has its key (`Tidy.placeFor_eq`).
* `Cluster.Placed` says what has become of a cluster when the point of a signature was asked for,
  and a node joined to it: `Tidy.placed_leave` and `Tidy.placed_enter`.
-/

set_option autoImplicit false

namespace FlowAtlas

open EStateM

/-! ## Nodes that are what their keys say -/

/-- A block is of an ordinary kind, and a boundary node has the kind and the hash of its key. -/
def Node.Plain (x : Node) : Prop :=
  match x.key with
  | .block _ _ _ => x.kind.isBoundary = false
  | .boundary signature side _ => side.isBoundary ∧ x.kind = side ∧ x.hash = signature
  | .processRoot => True

namespace Node.Plain

variable {x y : Node}

/-- The edges at a node have no say in this. -/
theorem of_bare_eq (hx : x.Plain) (h : y.bare = x.bare) : y.Plain := by
  have hbare : x.bare.Plain := hx
  rw [← h] at hbare
  exact hbare

/-- A boundary node other than the process root is known by its kind and its hash. -/
theorem key_eq (hx : x.Plain) (hkey : x.key ≠ .processRoot) (hkind : x.kind.isBoundary) :
    ∃ isCallback, x.key = .boundary x.hash x.kind isCallback := by
  rw [Plain] at hx
  cases hk : x.key with
  | block =>
    rw [hk] at hx
    dsimp only at hx
    rw [hx] at hkind
    cases hkind
  | boundary signature side isCallback =>
    rw [hk] at hx
    obtain ⟨-, rfl, rfl⟩ := hx
    exact ⟨isCallback, rfl⟩
  | processRoot => exact absurd hk hkey

theorem of_key_eq {signature : UInt64} {side : NodeKind} {isCallback : Bool} (hx : x.Plain)
    (hkey : x.key = .boundary signature side isCallback) :
    side.isBoundary ∧ x.kind = side ∧ x.hash = signature := by
  rw [Plain, hkey] at hx
  exact hx

end Node.Plain

theorem Node.plain_boundary {side : NodeKind} (hside : side.isBoundary) (signature : UInt64)
    (isCallback : Bool) (owner : UnitId) : (Node.boundary signature side isCallback owner).Plain :=
  ⟨hside, rfl, rfl⟩

namespace Cluster

variable {c c' c₁ : Cluster} {side : NodeKind} {signature : UInt64} {isCallback : Bool}
  {owner : UnitId} {x : Node} {a b m n : NodeId} {q : Request} {t : Transfer} {k : EdgeKind}
  {o : UInt8} {outcome : EdgeOutcome} {placed : NodeId × Bool}

/-! ## Both sides as one -/

/-- The node at which calls of a signature pass on a side of the cluster. -/
def point? (c : Cluster) (side : NodeKind) (signature : UInt64) : Option NodeId :=
  match side with
  | .clusterEntry => c.entryPoint? signature
  | .clusterExit => c.exitPoint? signature
  | _ => none

/-- Find or make the node at which calls of a signature pass on a side. -/
def placeFor (side : NodeKind) (signature : UInt64) (owner : UnitId) (isCallback : Bool)
    (c : Cluster) : (NodeId × Bool) × Cluster :=
  match side with
  | .clusterEntry => c.addEntryFor signature owner isCallback
  | _ => c.addExitFor signature owner isCallback

/-- The cluster with a new node, which is the point of its hash on the side of its kind. -/
def withPoint (c : Cluster) (x : Node) : Cluster :=
  match x.kind with
  | .clusterEntry =>
    { c with
      graph := c.graph.withNode x
      entries := c.entries.insert x.hash ⟨c.graph.nodeCount⟩ }
  | _ =>
    { c with
      graph := c.graph.withNode x
      exits := c.exits.insert x.hash ⟨c.graph.nodeCount⟩ }

@[simp] theorem graph_withPoint : (c.withPoint x).graph = c.graph.withNode x := by
  rw [withPoint]
  split <;> rfl

theorem point?_withPoint (hkind : x.kind.isBoundary) :
    (c.withPoint x).point? side signature =
      if side = x.kind ∧ signature = x.hash then some ⟨c.graph.nodeCount⟩
      else c.point? side signature := by
  have hinsert (registry : Registry) :
      (registry.insert x.hash ⟨c.graph.nodeCount⟩)[signature]? =
        if signature = x.hash then some ⟨c.graph.nodeCount⟩ else registry[signature]? := by
    rw [Registry.getElem?_register]
    exact if_congr eq_comm rfl rfl
  cases hk : x.kind <;> rw [hk] at hkind <;> try cases hkind
  all_goals
    cases side <;> simp [point?, withPoint, hk, entryPoint?, exitPoint?, hinsert]

/-! ## The invariant -/

/-- Every node is what its key says, and what is registered for a signature is a boundary node of
that signature. -/
structure Tidy (c : Cluster) : Prop where
  coherent : c.Coherent
  faithful : c.Faithful
  plain : ∀ n, c.graph.hasNode n → (c.graph.node n).Plain

theorem tidy_empty (id : ClusterId) (name : String) : Tidy (.empty id name) where
  coherent := coherent_empty id name
  faithful := faithful_empty id name
  plain _ hn := absurd (Graph.hasNode_iff.1 hn) (Nat.not_lt_zero _)

/-- Callers add blocks of an ordinary kind without edges, and ask for edges between nodes that are
there. -/
def Request.Orderly (c : Cluster) : Request → Prop
  | node x => x.key.isBlock ∧ x.kind.isBoundary = false ∧ x.edges = {}
  | edge s t _ _ => c.graph.hasNode s ∧ c.graph.hasNode t
  | _ => True

namespace Request.Orderly

theorem proper (hq : q.Orderly c) : q.Proper c := by
  cases q with
  | node x => exact hq.2.2
  | edge => exact hq
  | entryFor | exitFor | root => trivial

theorem plain_asked (hq : q.Orderly c) (hx : q.asked? = some x) : x.Plain := by
  cases q with
  | node x =>
    cases hx
    obtain ⟨unit, tag, version, hkey⟩ := NodeKey.isBlock_iff.1 hq.1
    rw [Node.Plain, hkey]
    exact hq.2.1
  | entryFor => cases hx; exact Node.plain_boundary rfl _ _ _
  | exitFor => cases hx; exact Node.plain_boundary rfl _ _ _
  | root => cases hx; trivial
  | edge => cases hx

end Request.Orderly

namespace Tidy

/-- What is registered for a signature is a boundary node of that signature. -/
theorem point?_eq_some (h : c.Tidy) (hn : c.point? side signature = some n) :
    c.graph.hasNode n ∧ (c.graph.node n).key ≠ .processRoot ∧
      (c.graph.node n).kind = side ∧ (c.graph.node n).hash = signature := by
  cases side with
  | clusterEntry =>
    obtain ⟨hnode, hkey⟩ := h.coherent.entries.issued _ _ hn
    exact ⟨hnode, hkey, h.faithful.1 _ _ hn⟩
  | clusterExit =>
    obtain ⟨hnode, hkey⟩ := h.coherent.exits.issued _ _ hn
    exact ⟨hnode, hkey, h.faithful.2 _ _ hn⟩
  | _ => cases hn

/-- Every boundary node is registered for its hash. -/
theorem point?_of_hasNode (h : c.Tidy) (hn : c.graph.hasNode n)
    (hkey : (c.graph.node n).key ≠ .processRoot)
    (hkind : (c.graph.node n).kind.isBoundary) :
    c.point? (c.graph.node n).kind (c.graph.node n).hash = some n := by
  cases hk : (c.graph.node n).kind with
  | clusterEntry => exact h.coherent.entries.complete n hn hk hkey
  | clusterExit => exact h.coherent.exits.complete n hn hk hkey
  | _ => rw [hk] at hkind; cases hkind

/-- A node that has the key of a boundary node is registered for its signature. -/
theorem point?_of_find? (h : c.Tidy)
    (hn : c.graph.find? (.boundary signature side isCallback) = some n) :
    c.point? side signature = some n := by
  obtain ⟨hnode, hkey⟩ := (h.coherent.graph.find?_eq_some_iff _ _).1 hn
  obtain ⟨hside, hkind, hhash⟩ := (h.plain n hnode).of_key_eq hkey
  have hpoint := h.point?_of_hasNode hnode (by rw [hkey]; exact nofun) (hkind ▸ hside)
  rwa [hkind, hhash] at hpoint

/-- Nodes that are what their keys say do not clash. -/
theorem not_clashes (h : c.Tidy) (hx : x.Plain) : ¬c.Clashes x := by
  rintro ⟨hkey, hfind, hfree⟩
  have hkind : x.kind.isBoundary := by
    rcases hfree with ⟨hk, -⟩ | ⟨hk, -⟩ <;> rw [hk] <;> rfl
  obtain ⟨isCallback, hxkey⟩ := hx.key_eq hkey hkind
  obtain ⟨n, hn⟩ := Option.ne_none_iff_exists'.1 hfind
  rw [hxkey] at hn
  have hpoint := h.point?_of_find? hn
  rcases hfree with ⟨hk, hfree⟩ | ⟨hk, hfree⟩
  · rw [hk] at hpoint
    cases hpoint.symm.trans hfree
  · rw [hk] at hpoint
    cases hpoint.symm.trans hfree

/-- One request keeps the invariant, granted or refused. -/
theorem apply (h : c.Tidy) (hq : q.Orderly c) : (q.apply c).Tidy where
  coherent := h.coherent.apply hq.proper
  faithful := by
    refine h.coherent.faithful_apply_iff.2 ⟨h.faithful, ?_⟩
    rintro ⟨x, hx, hclash⟩
    exact h.not_clashes (hq.plain_asked hx) hclash
  plain n hn := by
    cases hx : q.asked? with
    | some x =>
      obtain ⟨placed, hs⟩ := Request.nodeStep c hx
      rcases hs.node_cases hn with hold | ⟨hnew, -⟩ | hroot
      · exact (h.plain n hold).of_bare_eq (hs.extends_.graph.bare n hold)
      · rw [hnew]
        exact hq.plain_asked hx
      · rw [hroot]
        trivial
    | none =>
      cases q with
      | edge s t k o =>
        have hsame := c.graph.sameNodes_addEdge s t k o
        rw [Request.apply, addEdge, state_onGraph] at hn ⊢
        exact (h.plain n (hsame.hasNode_iff.1 hn)).of_bare_eq (hsame.bare n)
      | node | entryFor | exitFor | root => cases hx

/-! ## Finding or making a point -/

/-- The point of a signature is found where there is one, and else it is a new node. -/
theorem placeFor_eq (h : c.Tidy) (hside : side.isBoundary) :
    c.placeFor side signature owner isCallback =
      match c.point? side signature with
      | some n => ((n, false), c)
      | none => ((⟨c.graph.nodeCount⟩, true),
          c.withPoint (.boundary signature side isCallback owner)) := by
  have hnew (hnone : c.point? side signature = none) :
      c.graph.find? (.boundary signature side isCallback) = none := by
    cases hfind : c.graph.find? (.boundary signature side isCallback) with
    | none => rfl
    | some n => cases (h.point?_of_find? hfind).symm.trans hnone
  have hadd (hnone : c.point? side signature = none) :
      c.graph.addNode (.boundary signature side isCallback owner) =
        ((⟨c.graph.nodeCount⟩, true),
          c.graph.withNode (.boundary signature side isCallback owner)) :=
    Graph.addNode_of_new (hnew hnone)
  cases side with
  | clusterEntry =>
    rw [placeFor, addEntryFor, addEntry]
    cases hn : c.point? .clusterEntry signature with
    | some n =>
      have hentry : c.entries[signature]? = some n := hn
      simp only [Node.boundary, hentry]
    | none =>
      have hentry : c.entries[signature]? = none := hn
      rw [hadd hn]
      simp only [Node.boundary, hentry]
      rfl
  | clusterExit =>
    show c.addExitFor signature owner isCallback = _
    rw [addExitFor, addExit]
    cases hn : c.point? .clusterExit signature with
    | some n =>
      have hexit : c.exits[signature]? = some n := hn
      simp only [Node.boundary, hexit]
    | none =>
      have hexit : c.exits[signature]? = none := hn
      rw [hadd hn]
      simp only [Node.boundary, hexit]
      rfl
  | _ => cases hside

end Tidy

/-- What has become of a cluster when the point of a signature was asked for on one side: a point
that was there is kept with its owner, and a new one belongs to the owner that was named.  No other
node and no other point has changed. -/
structure Placed (c c' : Cluster) (side : NodeKind) (signature : UInt64) (isCallback : Bool)
    (owner : UnitId) (placed : NodeId × Bool) : Prop where
  point : c'.point? side signature = some placed.1
  kind_eq : (c'.graph.node placed.1).kind = side
  hash_eq : (c'.graph.node placed.1).hash = signature
  kept : ∀ n, c.point? side signature = some n →
    placed = (n, false) ∧ (c'.graph.node n).bare = (c.graph.node n).bare
  made : c.point? side signature = none → placed = (⟨c.graph.nodeCount⟩, true) ∧
    (c'.graph.node placed.1).bare = .boundary signature side isCallback owner
  nodes : ∀ n, n ≠ placed.1 → (c'.graph.hasNode n ↔ c.graph.hasNode n) ∧
    (c'.graph.node n).bare = (c.graph.node n).bare
  points : ∀ side' signature', ¬(side' = side ∧ signature' = signature) →
    c'.point? side' signature' = c.point? side' signature'

/-- The edges have no say in this. -/
theorem Placed.withGraph {g : Graph}
    (h : c.Placed c₁ side signature isCallback owner placed) (hg : c₁.graph.SameNodes g) :
    c.Placed { c₁ with graph := g } side signature isCallback owner placed where
  point := by rw [← h.point]; cases side <;> rfl
  kind_eq := (hg.kind_eq _).trans h.kind_eq
  hash_eq := (hg.hash_eq _).trans h.hash_eq
  kept n hn := ⟨(h.kept n hn).1, (hg.bare n).trans (h.kept n hn).2⟩
  made hnone := ⟨(h.made hnone).1, (hg.bare _).trans (h.made hnone).2⟩
  nodes n hn := ⟨hg.hasNode_iff.trans (h.nodes n hn).1, (hg.bare n).trans (h.nodes n hn).2⟩
  points side' signature' hne := by
    rw [← h.points side' signature' hne]
    cases side' <;> rfl

namespace Tidy

theorem placed_placeFor (h : c.Tidy) (hside : side.isBoundary)
    (hr : c.placeFor side signature owner isCallback = (placed, c₁)) :
    c.Placed c₁ side signature isCallback owner placed ∧ c₁.graph.edge? = c.graph.edge? := by
  rw [h.placeFor_eq hside] at hr
  cases hn : c.point? side signature with
  | some n =>
    rw [hn] at hr
    cases hr
    obtain ⟨-, -, hkind, hhash⟩ := h.point?_eq_some hn
    refine ⟨⟨hn, hkind, hhash, fun m hm => ?_, fun hnone => ?_, fun _ _ => ⟨Iff.rfl, rfl⟩,
      fun _ _ _ => rfl⟩, rfl⟩
    · cases hn.symm.trans hm
      exact ⟨rfl, rfl⟩
    · cases hn.symm.trans hnone
  | none =>
    rw [hn] at hr
    cases hr
    have hnode : (c.withPoint (.boundary signature side isCallback owner)).graph.node
        ⟨c.graph.nodeCount⟩ = .boundary signature side isCallback owner := by
      rw [graph_withPoint, Graph.node_withNode]
      exact if_pos rfl
    refine ⟨⟨?_, congrArg Node.kind hnode, congrArg Node.hash hnode, fun m hm => ?_,
      fun _ => ⟨rfl, congrArg Node.bare hnode⟩, fun n hne => ?_,
      fun side' signature' hne => ?_⟩, ?_⟩
    · rw [point?_withPoint hside]
      exact if_pos ⟨rfl, rfl⟩
    · cases hn.symm.trans hm
    · rw [graph_withPoint, Graph.hasNode_withNode, Graph.node_withNode]
      exact ⟨or_iff_left hne, by rw [if_neg]; exact hne⟩
    · rw [point?_withPoint hside]
      exact if_neg hne
    · rw [graph_withPoint, Graph.edge?_withNode]

theorem placed_addEdge (h : c.Tidy) (hside : side.isBoundary)
    (hplace : c.placeFor side signature owner isCallback = (placed, c₁)) (h₁ : c₁.Tidy)
    (ha : c₁.graph.hasNode a) (hb : c₁.graph.hasNode b)
    (hr : addEdge a b k o c₁ = .ok outcome c') :
    c.Placed c' side signature isCallback owner placed ∧
      c.graph.Granted c'.graph ⟨a, b, k, o⟩ outcome := by
  obtain ⟨hplaced, hedges⟩ := h.placed_placeFor hside hplace
  obtain ⟨g, hg, rfl⟩ := addEdge_eq_ok hr
  have hsame := c₁.graph.sameNodes_addEdge a b k o
  rw [hg] at hsame
  exact ⟨hplaced.withGraph hsame,
    (h₁.coherent.graph.granted_addEdge ha hb hg).of_edge?_eq hedges⟩

/-- A node that leads to the exit of a signature. -/
theorem placed_leave (h : c.Tidy) (ha : c.graph.hasNode a)
    (hr : leave a t c = .ok (placed, outcome) c') :
    c.Placed c' .clusterExit t.signature t.isCallback (c.graph.node a).unit placed ∧
      c.graph.Granted c'.graph ⟨a, placed.1, t.kind, t.ordinal⟩ outcome := by
  obtain ⟨c₁, hplace, hlink⟩ := bridge_eq_ok_iff.1 hr
  have hs := nodeStep_addExitFor c t.signature (c.graph.node a).unit t.isCallback
  have h₁ := h.apply (q := .exitFor t.signature (c.graph.node a).unit t.isCallback) trivial
  dsimp only [Request.apply] at h₁ hplace hlink
  rw [hplace] at hs h₁
  exact h.placed_addEdge rfl hplace h₁ (hs.extends_.graph.hasNode a ha) (hs.hasNode h.coherent)
    hlink

/-- The entry of a signature that leads to a node. -/
theorem placed_enter (h : c.Tidy) (hb : c.graph.hasNode b)
    (hr : enter b t c = .ok (placed, outcome) c') :
    c.Placed c' .clusterEntry t.signature t.isCallback (c.graph.node b).unit placed ∧
      c.graph.Granted c'.graph ⟨placed.1, b, .crossCustomModule, 0⟩ outcome := by
  obtain ⟨c₁, hplace, hlink⟩ := bridge_eq_ok_iff.1 hr
  have hs := nodeStep_addEntryFor c t.signature (c.graph.node b).unit t.isCallback
  have h₁ := h.apply (q := .entryFor t.signature (c.graph.node b).unit t.isCallback) trivial
  dsimp only [Request.apply] at h₁ hplace hlink
  rw [hplace] at hs h₁
  exact h.placed_addEdge rfl hplace h₁ (hs.hasNode h.coherent) (hs.extends_.graph.hasNode b hb)
    hlink

end Tidy

end Cluster
end FlowAtlas
