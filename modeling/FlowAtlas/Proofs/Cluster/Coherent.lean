import FlowAtlas.Cluster.Basic
import FlowAtlas.Proofs.Graph.AddEdge

/-!
# What a cluster keeps fits its graph

A node reaches a cluster in one of four ways: as an entry, as an exit, as the process root or as an
ordinary block.  `Cluster.NodeStep` lists what can come of it, and every way of adding a node is one
of these cases (`nodeStep_addNode`, `nodeStep_addEntryFor`, `nodeStep_addExitFor`,
`nodeStep_addRoot`).

`Cluster.Coherent` is the invariant of a cluster, which nodes (`NodeStep.coherent`) and edges
(`Coherent.addEdge`) keep.  `NodeStep.faithful_iff` says when the registries stay faithful: unless
the node `Clashes`.
-/

set_option autoImplicit false

namespace FlowAtlas

/-!
## Registries of boundary nodes

A cluster keeps its entries and its exits in two registries, which lead from a signature to a node.
Both work alike, so they are treated as one here: a registry `m` for the nodes of a kind `κ`.

* `Registers g κ m` holds in every run: what stands in the registry is a node of the graph, and every
  node of the kind stands there under its hash.
* `Faithful g κ m` is the converse, that what stands in the registry has the kind and the hash.  It
  is lost when a node is registered whose key another node has already (`faithful_register_iff`).

`Cluster.Coherent` is the invariant of a whole cluster.
-/

/-- Which node stands for which signature. -/
abbrev Registry := Std.HashMap UInt64 NodeId

namespace Registry

variable {g g' : Graph} {κ : NodeKind} {m : Registry} {x : Node} {n : NodeId} {h : UInt64}

theorem getElem?_register :
    (m.insert x.hash n)[h]? = if x.hash = h then some n else m[h]? := by
  rw [Std.HashMap.getElem?_insert]
  by_cases hh : x.hash = h
  · rw [if_pos hh, if_pos (beq_iff_eq.2 hh)]
  · rw [if_neg hh, if_neg fun hb => hh (beq_iff_eq.1 hb)]

/-! ### What a registry holds -/

/-- What stands in the registry is a node, though not the process root, and every node of the kind
but the process root stands there under its hash. -/
structure Registers (g : Graph) (κ : NodeKind) (m : Registry) : Prop where
  issued : ∀ (h : UInt64) n, m[h]? = some n → g.hasNode n ∧ (g.node n).key ≠ .processRoot
  complete : ∀ n, g.hasNode n → (g.node n).kind = κ → (g.node n).key ≠ .processRoot →
    m[(g.node n).hash]? = some n

/-- What stands in the registry has the kind, and the hash under which it stands. -/
def Faithful (g : Graph) (κ : NodeKind) (m : Registry) : Prop :=
  ∀ (h : UInt64) n, m[h]? = some n → (g.node n).kind = κ ∧ (g.node n).hash = h

theorem registers_empty (κ : NodeKind) : Registers .empty κ ∅ where
  issued h n hm := by simp at hm
  complete n hn := by simp [Graph.hasNode, Graph.empty] at hn

theorem faithful_empty (g : Graph) (κ : NodeKind) : Faithful g κ ∅ := by
  intro h n hm
  simp at hm

/-- Whatever stands in a faithful registry stands there once. -/
theorem Faithful.hash_eq (hf : Faithful g κ m) {h h' : UInt64} (hm : m[h]? = some n)
    (hm' : m[h']? = some n) : h = h' :=
  (hf h n hm).2.symm.trans (hf h' n hm').2

/-! ### Growing the graph beside a registry -/

/-- A registry need not know of new nodes that are of another kind, or the process root. -/
theorem Registers.of_extends (hr : Registers g κ m) (hg : g.Extends g')
    (hnew : ∀ n, g'.hasNode n → g.hasNode n ∨ (g'.node n).kind ≠ κ ∨
      (g'.node n).key = .processRoot) : Registers g' κ m where
  issued h n hm := by
    obtain ⟨hn, hkey⟩ := hr.issued h n hm
    exact ⟨hg.hasNode n hn, by rwa [hg.key_eq hn]⟩
  complete n hn hkind hkey := by
    rcases hnew n hn with hold | hother | hroot
    · rw [hg.kind_eq hold] at hkind
      rw [hg.key_eq hold] at hkey
      rw [hg.hash_eq hold]
      exact hr.complete n hold hkind hkey
    · exact absurd hkind hother
    · exact absurd hroot hkey

theorem Registers.faithful_iff_of_extends (hr : Registers g κ m) (hg : g.Extends g') :
    Faithful g' κ m ↔ Faithful g κ m := by
  refine forall_congr' fun h => forall_congr' fun n => forall_congr' fun hm => ?_
  have hn := (hr.issued h n hm).1
  rw [hg.kind_eq hn, hg.hash_eq hn]

theorem Registers.of_sameNodes (hr : Registers g κ m) (hg : g.SameNodes g') :
    Registers g' κ m :=
  hr.of_extends hg.extends fun _ hn => Or.inl (hg.hasNode_iff.1 hn)

theorem Registers.addNode (hr : Registers g κ m) (hx : x.kind ≠ κ ∨ x.key = .processRoot) :
    Registers (g.addNode x).2 κ m := by
  refine hr.of_extends (Graph.extends_addNode g x) fun n hn => ?_
  rcases Graph.hasNode_or_new_of_addNode hn with hold | ⟨-, hn⟩
  · exact Or.inl hold
  · rw [hn]
    exact Or.inr hx

/-! ### Registering a node -/

/-- The node is added to the graph, and what has its key then is put into the registry. -/
def register (g : Graph) (m : Registry) (x : Node) : Registry := m.insert x.hash (g.addNode x).1.1

section

variable (hg : g.Coherent) (hr : Registers g κ m) (hkind : x.kind = κ)
  (hkey : x.key ≠ .processRoot) (hfree : m[x.hash]? = none)

include hg hr hkey hfree

theorem Registers.register : Registers (g.addNode x).2 κ (register g m x) where
  issued h n hm := by
    rw [Registry.register, getElem?_register] at hm
    split at hm
    · cases hm
      exact ⟨hg.hasNode_addNode x, by rwa [hg.key_addNode x]⟩
    · obtain ⟨hn, hnk⟩ := hr.issued h n hm
      have hext := Graph.extends_addNode g x
      exact ⟨hext.hasNode n hn, by rwa [hext.key_eq hn]⟩
  complete n hn hnkind hnkey := by
    have hext := Graph.extends_addNode g x
    rw [Registry.register, getElem?_register]
    rcases Graph.hasNode_or_new_of_addNode hn with hold | ⟨hplace, hnew⟩
    · rw [hext.kind_eq hold] at hnkind
      rw [hext.key_eq hold] at hnkey
      rw [hext.hash_eq hold]
      have hm := hr.complete n hold hnkind hnkey
      rw [if_neg, hm]
      intro heq
      rw [← heq, hfree] at hm
      cases hm
    · rw [hnew, if_pos rfl, hplace]

include hkind

/-- **A registry stays faithful exactly when no other node has the key of the registered one.** -/
theorem faithful_register_iff :
    Faithful (g.addNode x).2 κ (register g m x) ↔ Faithful g κ m ∧ g.find? x.key = none := by
  have hext := Graph.extends_addNode g x
  have hat : (register g m x)[x.hash]? = some (g.addNode x).1.1 := by
    rw [register, getElem?_register, if_pos rfl]
  constructor
  · intro hf
    constructor
    · intro h n hm
      have hn := (hr.issued h n hm).1
      have hne : x.hash ≠ h := by
        rintro rfl
        cases hfree.symm.trans hm
      have hin : (register g m x)[h]? = some n := by
        rw [register, getElem?_register, if_neg hne, hm]
      rw [← hext.kind_eq hn, ← hext.hash_eq hn]
      exact hf h n hin
    · -- a node that has the key already would stand in the registry under the new hash as well
      cases hfind : g.find? x.key with
      | none => rfl
      | some i =>
        obtain ⟨hi, hik⟩ := (hg.find?_eq_some_iff _ _).1 hfind
        rw [Graph.addNode_of_find? hfind] at hf hat
        obtain ⟨hikind, hihash⟩ := hf _ _ hat
        have hm := hr.complete i hi hikind (hik ▸ hkey)
        rw [hihash, hfree] at hm
        cases hm
  · rintro ⟨hf, hnew⟩ h n hm
    rw [register, getElem?_register] at hm
    split at hm
    · rename_i heq
      cases hm
      rw [Graph.node_addNode_of_new hnew]
      exact ⟨hkind, heq⟩
    · have hn := (hr.issued h n hm).1
      rw [hext.kind_eq hn, hext.hash_eq hn]
      exact hf h n hm

end

end Registry

namespace Cluster

variable {c c' : Cluster} {x : Node} {placed : NodeId × Bool} {s t n : NodeId} {k : EdgeKind}
  {o : UInt8}

/-! ## Adding nodes -/

/-- What can come of adding a node. -/
inductive NodeStep (c : Cluster) (x : Node) : (NodeId × Bool) × Cluster → Prop
  | knownEntry {n : NodeId} : x.key ≠ .processRoot → x.kind = .clusterEntry →
      c.entries[x.hash]? = some n → NodeStep c x ((n, false), c)
  | entry : x.key ≠ .processRoot → x.kind = .clusterEntry → c.entries[x.hash]? = none →
      NodeStep c x ((c.graph.addNode x).1,
        { c with graph := (c.graph.addNode x).2, entries := Registry.register c.graph c.entries x })
  | knownExit {n : NodeId} : x.key ≠ .processRoot → x.kind = .clusterExit →
      c.exits[x.hash]? = some n → NodeStep c x ((n, false), c)
  | exit : x.key ≠ .processRoot → x.kind = .clusterExit → c.exits[x.hash]? = none →
      NodeStep c x ((c.graph.addNode x).1,
        { c with graph := (c.graph.addNode x).2, exits := Registry.register c.graph c.exits x })
  | knownRoot {n : NodeId} : x.key = .processRoot → c.root = some n →
      NodeStep c x ((n, false), c)
  | root : x.key = .processRoot → c.root = none →
      NodeStep c x ((c.graph.addNode (.processRoot x.unit)).1,
        { c with
          graph := (c.graph.addNode (.processRoot x.unit)).2
          root := some (c.graph.addNode (.processRoot x.unit)).1.1 })
  | block (blocks : Std.HashMap UnitId Nat) (blockCount : Nat) : x.key ≠ .processRoot →
      x.kind.isBoundary = false →
      NodeStep c x ((c.graph.addNode x).1,
        { c with graph := (c.graph.addNode x).2, blocks, blockCount })

theorem nodeStep_addEntry (hkey : x.key ≠ .processRoot) (hkind : x.kind = .clusterEntry) :
    NodeStep c x (c.addEntry x) := by
  cases hm : c.entries[x.hash]? with
  | some n => rw [addEntry, hm]; exact .knownEntry hkey hkind hm
  | none => rw [addEntry, hm]; exact .entry hkey hkind hm

theorem nodeStep_addExit (hkey : x.key ≠ .processRoot) (hkind : x.kind = .clusterExit) :
    NodeStep c x (c.addExit x) := by
  cases hm : c.exits[x.hash]? with
  | some n => rw [addExit, hm]; exact .knownExit hkey hkind hm
  | none => rw [addExit, hm]; exact .exit hkey hkind hm

theorem nodeStep_root (hkey : x.key = .processRoot) : NodeStep c x (c.addRoot x.unit) := by
  cases hm : c.root with
  | some n => rw [addRoot, hm]; exact .knownRoot hkey hm
  | none => rw [addRoot, hm]; exact .root hkey hm

theorem addBlock_of_find? (hfind : c.graph.find? x.key = some n) : (c.addBlock x).2 = c := by
  rw [addBlock, Graph.addNode_of_find? hfind]
  rfl

theorem addBlock_of_new (hfind : c.graph.find? x.key = none) :
    ∃ counts, (c.addBlock x).2 =
      { c with graph := c.graph.withNode x, blocks := counts, blockCount := c.blockCount + 1 } := by
  rw [addBlock, Graph.addNode_of_new hfind]
  exact ⟨_, rfl⟩

theorem nodeStep_addBlock (hkey : x.key ≠ .processRoot) (hkind : x.kind.isBoundary = false) :
    NodeStep c x (c.addBlock x) := by
  rw [addBlock]
  dsimp only
  split
  · exact .block _ _ hkey hkind
  · exact .block _ _ hkey hkind

theorem nodeStep_addNode (c : Cluster) (x : Node) : NodeStep c x (c.addNode x) := by
  rw [addNode]
  split
  · rename_i hkey
    exact nodeStep_root hkey
  · rename_i hkey
    split
    · rename_i hkind
      exact nodeStep_addEntry hkey hkind
    · rename_i hkind
      exact nodeStep_addExit hkey hkind
    · rename_i hentry hexit
      refine nodeStep_addBlock hkey ?_
      rw [NodeKind.isBoundary, decide_eq_false hentry, decide_eq_false hexit]
      rfl

theorem nodeStep_addEntryFor (c : Cluster) (h : UInt64) (owner : UnitId) (isCallback : Bool) :
    NodeStep c (.boundary h .clusterEntry isCallback owner) (c.addEntryFor h owner isCallback) :=
  nodeStep_addEntry (fun hkey => by cases hkey) rfl

theorem nodeStep_addExitFor (c : Cluster) (h : UInt64) (owner : UnitId) (isCallback : Bool) :
    NodeStep c (.boundary h .clusterExit isCallback owner) (c.addExitFor h owner isCallback) :=
  nodeStep_addExit (fun hkey => by cases hkey) rfl

theorem nodeStep_addRoot (c : Cluster) (owner : UnitId) :
    NodeStep c (.processRoot owner) (c.addRoot owner) :=
  nodeStep_root rfl

/-! ## The invariant -/

/-- The parts of the graph agree, the registries lead to its nodes, and the root is the node of its
key. -/
structure Coherent (c : Cluster) : Prop where
  graph : c.graph.Coherent
  entries : Registry.Registers c.graph .clusterEntry c.entries
  exits : Registry.Registers c.graph .clusterExit c.exits
  root_eq : c.root = c.graph.find? .processRoot
  root_kind : ∀ n, c.root = some n → (c.graph.node n).kind = .clusterEntry

/-- What stands in the registries has the kind and the hash that it should. -/
def Faithful (c : Cluster) : Prop :=
  Registry.Faithful c.graph .clusterEntry c.entries ∧
    Registry.Faithful c.graph .clusterExit c.exits

/-- The node is to be registered under a new hash, but another node has its key. -/
def Clashes (c : Cluster) (x : Node) : Prop :=
  x.key ≠ .processRoot ∧ c.graph.find? x.key ≠ none ∧
    ((x.kind = .clusterEntry ∧ c.entries[x.hash]? = none) ∨
      (x.kind = .clusterExit ∧ c.exits[x.hash]? = none))

theorem coherent_empty (id : ClusterId) (name : String) : Coherent (.empty id name) where
  graph := Graph.coherent_empty
  entries := Registry.registers_empty _
  exits := Registry.registers_empty _
  root_eq := by simp [empty, Graph.find?]
  root_kind n hn := by cases hn

theorem faithful_empty (id : ClusterId) (name : String) : Faithful (.empty id name) :=
  ⟨Registry.faithful_empty _ _, Registry.faithful_empty _ _⟩

theorem Coherent.hasNode_root (h : c.Coherent) (hn : c.root = some n) : c.graph.hasNode n := by
  rw [h.root_eq] at hn
  exact ((h.graph.find?_eq_some_iff _ _).1 hn).1

namespace NodeStep

theorem coherent (hs : NodeStep c x (placed, c')) (h : c.Coherent) (hx : x.edges = {}) :
    c'.Coherent := by
  have hext := Graph.extends_addNode c.graph x
  -- the root is where it was, unless the node is the root itself
  have hroot : ∀ {y : Node}, y.key ≠ .processRoot →
      c.root = (c.graph.addNode y).2.find? .processRoot := fun hy => by
    rw [Graph.find?_addNode, if_neg hy, h.root_eq]
  have hrootKind : ∀ n, c.root = some n →
      ((c.graph.addNode x).2.node n).kind = .clusterEntry := fun n hn => by
    rw [hext.kind_eq (h.hasNode_root hn), h.root_kind n hn]
  cases hs with
  | knownEntry => exact h
  | entry hkey hkind hfree =>
    exact {
      graph := h.graph.addNode hx
      entries := h.entries.register h.graph hkey hfree
      exits := h.exits.addNode (Or.inl (by rw [hkind]; decide))
      root_eq := hroot hkey
      root_kind := hrootKind }
  | knownExit => exact h
  | exit hkey hkind hfree =>
    exact {
      graph := h.graph.addNode hx
      entries := h.entries.addNode (Or.inl (by rw [hkind]; decide))
      exits := h.exits.register h.graph hkey hfree
      root_eq := hroot hkey
      root_kind := hrootKind }
  | knownRoot => exact h
  | root hkey hnone =>
    have hnew : c.graph.find? (Node.processRoot x.unit).key = none := h.root_eq ▸ hnone
    exact {
      graph := h.graph.addNode rfl
      entries := h.entries.addNode (Or.inr rfl)
      exits := h.exits.addNode (Or.inr rfl)
      root_eq := by
        dsimp only
        rw [Graph.find?_addNode]
        rfl
      root_kind := by
        rintro n hn
        cases hn
        rw [Graph.node_addNode_of_new hnew]
        rfl }
  | block blocks blockCount hkey hkind =>
    exact {
      graph := h.graph.addNode hx
      entries := h.entries.addNode (Or.inl fun hk => by rw [hk] at hkind; cases hkind)
      exits := h.exits.addNode (Or.inl fun hk => by rw [hk] at hkind; cases hkind)
      root_eq := hroot hkey
      root_kind := hrootKind }

/-- **The registries stay faithful exactly when the node does not clash.** -/
theorem faithful_iff (hs : NodeStep c x (placed, c')) (h : c.Coherent) :
    c'.Faithful ↔ c.Faithful ∧ ¬c.Clashes x := by
  have hext := Graph.extends_addNode c.graph x
  cases hs with
  | knownEntry hkey hkind hm =>
    refine (and_iff_left ?_).symm
    rintro ⟨-, -, ⟨-, hfree⟩ | ⟨hexit, -⟩⟩
    · cases hm.symm.trans hfree
    · cases hkind.symm.trans hexit
  | entry hkey hkind hfree =>
    have hclash : c.Clashes x ↔ c.graph.find? x.key ≠ none :=
      ⟨fun hc => hc.2.1, fun hf => ⟨hkey, hf, Or.inl ⟨hkind, hfree⟩⟩⟩
    rw [Faithful, Faithful, hclash, not_not, h.exits.faithful_iff_of_extends hext,
      Registry.faithful_register_iff h.graph h.entries hkind hkey hfree, and_right_comm]
  | knownExit hkey hkind hm =>
    refine (and_iff_left ?_).symm
    rintro ⟨-, -, ⟨hentry, -⟩ | ⟨-, hfree⟩⟩
    · cases hkind.symm.trans hentry
    · cases hm.symm.trans hfree
  | exit hkey hkind hfree =>
    have hclash : c.Clashes x ↔ c.graph.find? x.key ≠ none :=
      ⟨fun hc => hc.2.1, fun hf => ⟨hkey, hf, Or.inr ⟨hkind, hfree⟩⟩⟩
    rw [Faithful, Faithful, hclash, not_not, h.entries.faithful_iff_of_extends hext,
      Registry.faithful_register_iff h.graph h.exits hkind hkey hfree, and_assoc]
  | knownRoot hkey => exact (and_iff_left fun hc => hc.1 hkey).symm
  | root hkey =>
    have hext := Graph.extends_addNode c.graph (.processRoot x.unit)
    rw [and_iff_left fun hc => hc.1 hkey, Faithful, Faithful,
      h.entries.faithful_iff_of_extends hext, h.exits.faithful_iff_of_extends hext]
  | block blocks blockCount hkey hkind =>
    have hclash : ¬c.Clashes x := by
      rintro ⟨-, -, ⟨hk, -⟩ | ⟨hk, -⟩⟩
      · rw [hk] at hkind; cases hkind
      · rw [hk] at hkind; cases hkind
    rw [and_iff_left hclash, Faithful, Faithful,
      h.entries.faithful_iff_of_extends hext, h.exits.faithful_iff_of_extends hext]

end NodeStep

/-! ## Adding edges -/

theorem state_onGraph {α : Type} (step : Graph.Update α) (c : Cluster) :
    (onGraph step c).state = { c with graph := (step c.graph).state } := by
  rw [onGraph]
  cases step c.graph with
  | ok a g => rfl
  | error cause g => rfl

/-- What a search has found is no part of the invariant. -/
theorem Coherent.mark (h : c.Coherent) (found : Option Reachability) :
    Coherent { c with reachability := found } :=
  ⟨h.graph, h.entries, h.exits, h.root_eq, h.root_kind⟩

/-- A cluster whose graph changes in its edges alone stays well kept. -/
theorem Coherent.withGraph {g : Graph} (h : c.Coherent) (hg : g.Coherent)
    (hsame : c.graph.SameNodes g) : Coherent { c with graph := g } where
  graph := hg
  entries := h.entries.of_sameNodes hsame
  exits := h.exits.of_sameNodes hsame
  root_eq := h.root_eq.trans hsame.find?_eq.symm
  root_kind n hn := (hsame.kind_eq n).trans (h.root_kind n hn)

theorem Coherent.addEdge (h : c.Coherent) (hs : c.graph.hasNode s) (ht : c.graph.hasNode t) :
    (Cluster.addEdge s t k o c).state.Coherent := by
  rw [Cluster.addEdge, state_onGraph]
  exact h.withGraph (h.graph.addEdge hs ht) (c.graph.sameNodes_addEdge s t k o)

theorem Coherent.faithful_addEdge_iff (h : c.Coherent) :
    (Cluster.addEdge s t k o c).state.Faithful ↔ c.Faithful := by
  have hext := (c.graph.sameNodes_addEdge s t k o).extends
  rw [Cluster.addEdge, state_onGraph, Faithful, Faithful]
  exact and_congr (h.entries.faithful_iff_of_extends hext) (h.exits.faithful_iff_of_extends hext)

end Cluster
end FlowAtlas
