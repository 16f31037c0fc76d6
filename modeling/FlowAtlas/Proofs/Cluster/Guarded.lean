import FlowAtlas.Proofs.Cluster.Requests
import FlowAtlas.Proofs.Graph.AddEdge

/-!
# Which nodes edges may lead to and from

Edges run between blocks, from entries to blocks and from blocks to exits.  Besides, the process
root leads to the first block.  `Cluster.Guarded` is the invariant that says so.  It has to speak of
the registries as well: what stands there for a signature may be a block that was recorded as an
entry or exit, and edges may be asked for at whatever stands there.

* `Guarded.nodeStep` and `Guarded.addEdge` are the steps that keep it.
* `Guarded.shielded` draws the conclusion for the nodes that are no blocks: no edge arrives at an
  entry or at the root, and none leaves an exit.
* `Guarded.violation` says that only a block can break the rule on entries and exits.
-/

set_option autoImplicit false

namespace FlowAtlas

/-! ## Keys -/

namespace NodeKey

/-- Edges may lead to nodes of this key: to blocks and to exits. -/
def mayReceive : NodeKey → Bool
  | block _ _ _ => true
  | boundary _ kind _ => kind = .clusterExit
  | processRoot => false

/-- Edges may lead from nodes of this key, the process root apart: from blocks and from entries. -/
def maySend : NodeKey → Bool
  | block _ _ _ => true
  | boundary _ kind _ => kind = .clusterEntry
  | processRoot => false

variable {key : NodeKey}

theorem mayReceive_of_isBlock (h : key.isBlock) : key.mayReceive := by
  obtain ⟨unit, tag, version, rfl⟩ := isBlock_iff.1 h
  rfl

theorem maySend_of_isBlock (h : key.isBlock) : key.maySend := by
  obtain ⟨unit, tag, version, rfl⟩ := isBlock_iff.1 h
  rfl

end NodeKey

/-- The kind of the node goes with its key: a boundary node has the kind that its key says, and a
block one of the kinds `K`. -/
def Node.Fits (K : NodeKind → Prop) (x : Node) : Prop :=
  match x.key with
  | .block _ _ _ => K x.kind
  | .boundary _ kind _ => x.kind = kind
  | .processRoot => x.kind = .clusterEntry

namespace Node.Fits

variable {K : NodeKind → Prop} {x y : Node}

/-- The edges at a node have no say in this. -/
theorem of_bare_eq (hx : x.Fits K) (h : y.bare = x.bare) : y.Fits K := by
  have hbare : x.bare.Fits K := hx
  rw [← h] at hbare
  exact hbare

theorem of_isBlock (hx : x.Fits K) (hkey : x.key.isBlock) : K x.kind := by
  obtain ⟨unit, tag, version, hk⟩ := NodeKey.isBlock_iff.1 hkey
  rw [Fits, hk] at hx
  exact hx

theorem maySend (hx : x.Fits K) (hkey : x.key ≠ .processRoot) (hkind : x.kind = .clusterEntry) :
    x.key.maySend := by
  rw [Fits] at hx
  cases hk : x.key with
  | block => rfl
  | boundary h kind isCallback =>
    rw [hk] at hx
    have hkind' : kind = .clusterEntry := hx.symm.trans hkind
    rw [hkind']
    rfl
  | processRoot => exact absurd hk hkey

theorem mayReceive (hx : x.Fits K) (hkind : x.kind = .clusterExit) : x.key.mayReceive := by
  rw [Fits] at hx
  cases hk : x.key with
  | block => rfl
  | boundary h kind isCallback =>
    rw [hk] at hx
    have hkind' : kind = .clusterExit := hx.symm.trans hkind
    rw [hkind']
    rfl
  | processRoot =>
    rw [hk] at hx
    cases hkind.symm.trans hx

/-- What fits and may receive edges is no entry unless it is a block. -/
theorem isBlock_of_mayReceive (hx : x.Fits K) (hkey : x.key.mayReceive) (hkind : x.kind.isEntry) :
    x.key.isBlock := by
  rw [Fits] at hx
  cases hk : x.key with
  | block => rfl
  | boundary h kind isCallback =>
    rw [hk] at hx hkey
    have hexit : kind = .clusterExit := of_decide_eq_true hkey
    rw [show x.kind = kind from hx, hexit] at hkind
    cases hkind
  | processRoot => rw [hk] at hkey; cases hkey

/-- What fits and sends edges is no exit unless it is a block. -/
theorem isBlock_of_maySend (hx : x.Fits K) (hkey : x.key = .processRoot ∨ x.key.maySend)
    (hkind : x.kind.isExit) : x.key.isBlock := by
  rw [Fits] at hx
  cases hk : x.key with
  | block => rfl
  | boundary h kind isCallback =>
    rw [hk] at hx hkey
    have hentry : kind = .clusterEntry := of_decide_eq_true (hkey.resolve_left nofun)
    rw [show x.kind = kind from hx, hentry] at hkind
    cases hkind
  | processRoot =>
    rw [hk] at hx
    rw [show x.kind = .clusterEntry from hx] at hkind
    cases hkind

end Node.Fits

/-! ## The edges of a request -/

namespace Graph

variable {g : Graph} {s t n : NodeId} {k : EdgeKind} {o : UInt8} {e : EdgeId} {z : Edge} {x : Node}

/-- After a request, an edge was there before or is the one that was asked for. -/
theorem Coherent.edge?_addEdge (h : Coherent g)
    (hz : (Graph.addEdge s t k o g).state.edge? e = some z) :
    g.edge? e = some z ∨ z = ⟨s, t, k, o⟩ := by
  have hstep := edgeStep_addEdge h s t k o
  have hupdate : ∀ {id : EdgeId} {y : Edge},
      Function.update g.edge? id (some y) e = some z → g.edge? e = some z ∨ z = y := by
    intro id y hy
    by_cases he : e = id
    · rw [he, Function.update_self] at hy
      exact Or.inr (Option.some.inj hy).symm
    · rw [Function.update_of_ne he] at hy
      exact Or.inl hy
  cases hr : Graph.addEdge s t k o g with
  | ok outcome g' =>
    rw [hr] at hstep hz
    cases hstep with
    | added =>
      rw [EStateM.Result.state_ok, edge?_withEdge] at hz
      exact hupdate hz
    | duplicate => exact Or.inl hz
    | merged => exact Or.inl hz
    | upgraded hid hk =>
      rw [EStateM.Result.state_ok, edge?_withDirect hid] at hz
      rw [hk]
      exact hupdate hz
  | error cause g' =>
    rw [hr] at hstep hz
    cases hstep <;> exact Or.inl hz

end Graph

/-! ## The invariant -/

namespace Cluster

variable {c c' : Cluster} {K : NodeKind → Prop} {first : NodeKey → Prop} {x : Node}
  {placed : NodeId × Bool} {n s t : NodeId} {k : EdgeKind} {o : UInt8} {key : NodeKey}

/-- The ends of an edge are such that it may be there.  The process root may only lead to a node
with a key of `first`. -/
def Permits (c : Cluster) (first : NodeKey → Prop) (z : Edge) : Prop :=
  (c.graph.node z.target).key.mayReceive ∧
    ((c.graph.node z.source).key.maySend ∨
      ((c.graph.node z.source).key = .processRoot ∧ z.kind = .moduleEntry ∧ z.ordinal = 0 ∧
        first (c.graph.node z.target).key))

/-- Edges are where they may be, and so is what stands in the registries. -/
structure Guarded (K : NodeKind → Prop) (first : NodeKey → Prop) (c : Cluster) : Prop where
  coherent : c.Coherent
  fits : ∀ n, c.graph.hasNode n → (c.graph.node n).Fits K
  entries : ∀ h n, c.entryPoint? h = some n → (c.graph.node n).key.maySend
  exits : ∀ h n, c.exitPoint? h = some n → (c.graph.node n).key.mayReceive
  edges : ∀ e z, c.graph.edge? e = some z → c.Permits first z

theorem guarded_empty (id : ClusterId) (name : String) : Guarded K first (.empty id name) where
  coherent := coherent_empty id name
  fits n hn := absurd (Graph.hasNode_iff.1 hn) (Nat.not_lt_zero _)
  entries h n hn := by simp [entryPoint?, empty] at hn
  exits h n hn := by simp [exitPoint?, empty] at hn
  edges e z hz := by cases hz

/-! ### Nodes -/

/-- After a node was added, a node was there before, or it is that node, or the process root. -/
theorem NodeStep.node_cases (hs : NodeStep c x (placed, c')) (hn : c'.graph.hasNode n) :
    c.graph.hasNode n ∨ (c'.graph.node n = x ∧ x.key ≠ .processRoot) ∨
      c'.graph.node n = .processRoot x.unit := by
  cases hs with
  | knownEntry | knownExit | knownRoot => exact Or.inl hn
  | entry hkey | exit hkey | block _ _ hkey =>
    rcases Graph.hasNode_or_new_of_addNode hn with hold | ⟨-, hnew⟩
    · exact Or.inl hold
    · exact Or.inr (Or.inl ⟨hnew, hkey⟩)
  | root =>
    rcases Graph.hasNode_or_new_of_addNode hn with hold | ⟨-, hnew⟩
    · exact Or.inl hold
    · exact Or.inr (Or.inr hnew)

/-- What stands in the registry of entries stood there before, or is what has the key of the node.
-/
theorem NodeStep.entryPoint?_cases (hs : NodeStep c x (placed, c')) (h : c.Coherent)
    {signature : UInt64} (hn : c'.entryPoint? signature = some n) :
    c.entryPoint? signature = some n ∨
      (x.kind = .clusterEntry ∧ x.key ≠ .processRoot ∧ x.hash = signature ∧
        (c'.graph.node n).key = x.key) := by
  cases hs with
  | knownEntry | knownExit | knownRoot | exit | block | root => exact Or.inl hn
  | entry hkey hkind hfree =>
    have hn : (Registry.register c.graph c.entries x)[signature]? = some n := hn
    rw [Registry.register, Registry.getElem?_register] at hn
    split at hn
    · rename_i hhash
      cases hn
      exact Or.inr ⟨hkind, hkey, hhash, h.graph.key_addNode x⟩
    · exact Or.inl hn

theorem NodeStep.exitPoint?_cases (hs : NodeStep c x (placed, c')) (h : c.Coherent)
    {signature : UInt64} (hn : c'.exitPoint? signature = some n) :
    c.exitPoint? signature = some n ∨
      (x.kind = .clusterExit ∧ x.hash = signature ∧ (c'.graph.node n).key = x.key) := by
  cases hs with
  | knownEntry | knownExit | knownRoot | entry | block | root => exact Or.inl hn
  | exit hkey hkind hfree =>
    have hn : (Registry.register c.graph c.exits x)[signature]? = some n := hn
    rw [Registry.register, Registry.getElem?_register] at hn
    split at hn
    · rename_i hhash
      cases hn
      exact Or.inr ⟨hkind, hhash, h.graph.key_addNode x⟩
    · exact Or.inl hn

namespace Guarded

theorem nodeStep (h : c.Guarded K first) (hs : NodeStep c x (placed, c')) (hedges : x.edges = {})
    (hx : x.Fits K) : c'.Guarded K first where
  coherent := hs.coherent h.coherent hedges
  fits n hn := by
    rcases hs.node_cases hn with hold | ⟨hnew, -⟩ | hroot
    · exact (h.fits n hold).of_bare_eq (hs.extends_.graph.bare n hold)
    · rw [hnew]
      exact hx
    · rw [hroot]
      exact rfl
  entries signature n hn := by
    rcases hs.entryPoint?_cases h.coherent hn with hold | ⟨hkind, hroot, -, hkey⟩
    · rw [hs.extends_.graph.key_eq (h.coherent.entries.issued _ _ hold).1]
      exact h.entries signature n hold
    · rw [hkey]
      exact hx.maySend hroot hkind
  exits signature n hn := by
    rcases hs.exitPoint?_cases h.coherent hn with hold | ⟨hkind, -, hkey⟩
    · rw [hs.extends_.graph.key_eq (h.coherent.exits.issued _ _ hold).1]
      exact h.exits signature n hold
    · rw [hkey]
      exact hx.mayReceive hkind
  edges e z hz := by
    rw [hs.edge?_eq] at hz
    obtain ⟨hsource, htarget⟩ := h.coherent.graph.ends e z hz
    have hext := hs.extends_.graph
    rw [Permits, hext.key_eq hsource, hext.key_eq htarget]
    exact h.edges e z hz

/-! ### Edges -/

theorem addEdge (h : c.Guarded K first) (hs : c.graph.hasNode s) (ht : c.graph.hasNode t)
    (hz : c.Permits first ⟨s, t, k, o⟩) : (Cluster.addEdge s t k o c).state.Guarded K first := by
  have hcoherent := h.coherent.addEdge (k := k) (o := o) hs ht
  have hsame := c.graph.sameNodes_addEdge s t k o
  rw [Cluster.addEdge, state_onGraph] at hcoherent ⊢
  exact {
    coherent := hcoherent
    fits := fun n hn => (h.fits n (hsame.hasNode_iff.1 hn)).of_bare_eq (hsame.bare n)
    entries := fun signature n hn => by
      rw [hsame.key_eq]
      exact h.entries signature n hn
    exits := fun signature n hn => by
      rw [hsame.key_eq]
      exact h.exits signature n hn
    edges := fun e z he => by
      rw [Permits, hsame.key_eq, hsame.key_eq]
      rcases h.coherent.graph.edge?_addEdge he with hold | rfl
      · exact h.edges e z hold
      · exact hz }

theorem mark (h : c.Guarded K first) (found : Option Reachability) :
    Guarded K first { c with reachability := found } where
  coherent := h.coherent.mark found
  fits := h.fits
  entries := h.entries
  exits := h.exits
  edges := h.edges

/-! ### What follows for the nodes -/

theorem incoming_eq_empty (h : c.Guarded K first) (hn : (c.graph.node n).key.mayReceive = false) :
    (c.graph.node n).edges.incoming = #[] := by
  rw [Array.eq_empty_iff_forall_not_mem]
  intro e he
  obtain ⟨z, hz, rfl⟩ := h.coherent.graph.mem_incoming.1 he
  rw [(h.edges e z hz).1] at hn
  cases hn

theorem outgoing_eq_nil (h : c.Guarded K first) (hroot : (c.graph.node n).key ≠ .processRoot)
    (hn : (c.graph.node n).key.maySend = false) : c.graph.outgoing n = [] := by
  rw [List.eq_nil_iff_forall_not_mem]
  intro e he
  obtain ⟨z, hz, rfl⟩ := h.coherent.graph.mem_outgoing.1 he
  rcases (h.edges e z hz).2 with hsend | ⟨hkey, -⟩
  · rw [hsend] at hn
    cases hn
  · exact hroot hkey

/-- The process root leads to one node at most. -/
theorem outgoing_root (h : c.Guarded K first)
    (hfirst : ∀ key key', first key → first key' → key = key')
    (hroot : (c.graph.node n).key = .processRoot) :
    c.graph.outgoing n = [] ∨ ∃ e m, c.graph.outgoing n = [e] ∧
      c.graph.edge? e = some ⟨n, m, .moduleEntry, 0⟩ ∧ first (c.graph.node m).key := by
  have hall : ∀ e ∈ c.graph.outgoing n, ∃ m, c.graph.edge? e = some ⟨n, m, .moduleEntry, 0⟩ ∧
      first (c.graph.node m).key := by
    intro e he
    obtain ⟨⟨s, m, k, o⟩, hz, rfl⟩ := h.coherent.graph.mem_outgoing.1 he
    rcases (h.edges e _ hz).2 with hsend | ⟨-, rfl, rfl, hkey⟩
    · rw [hroot] at hsend
      cases hsend
    · exact ⟨m, hz, hkey⟩
  have hnodup : (c.graph.outgoing n).Nodup := (h.coherent.graph.outgoingAt n).nodup
  cases hl : c.graph.outgoing n with
  | nil => exact Or.inl rfl
  | cons e rest =>
    rw [hl] at hall hnodup
    obtain ⟨m, hm, hkey⟩ := hall e List.mem_cons_self
    refine Or.inr ⟨e, m, ?_, hm, hkey⟩
    -- any other edge would join the same two nodes
    rw [List.cons_inj_right, List.eq_nil_iff_forall_not_mem]
    intro e' he'
    obtain ⟨m', hm', hkey'⟩ := hall e' (List.mem_cons_of_mem e he')
    have htarget : m = m' := by
      have hends := (h.coherent.graph.find?_eq_some_iff _ _).2
        ⟨(h.coherent.graph.ends e _ hm).2, rfl⟩
      have hends' := (h.coherent.graph.find?_eq_some_iff _ _).2
        ⟨(h.coherent.graph.ends e' _ hm').2, rfl⟩
      dsimp only at hends hends'
      rw [hfirst _ _ hkey' hkey, hends] at hends'
      exact Option.some.inj hends'
    have heq := h.coherent.graph.joined_once e e' _ _ hm hm' rfl htarget
    exact (List.nodup_cons.1 hnodup).1 (heq ▸ he')

/-- **Only a block can break the rule on entries and exits**, and one whose kind is that of an entry
or exit. -/
theorem violation (h : c.Guarded K first) (hn : c.graph.hasNode n) {cause : GraphError}
    (hv : Graph.violation? (c.graph.node n) = some cause) :
    ∃ key kind count, key.isBlock ∧ K kind ∧
      ((kind.isEntry ∧ cause = .entryHasIncoming key kind count) ∨
        (kind.isExit ∧ cause = .exitHasOutgoing key kind count)) := by
  have hfits := h.fits n hn
  rw [Graph.violation?] at hv
  split at hv
  · rename_i hentry
    rw [Bool.and_eq_true, decide_eq_true_eq] at hentry
    obtain ⟨hkind, hcount⟩ := hentry
    cases hv
    have hreceive : (c.graph.node n).key.mayReceive := by
      by_contra hnot
      rw [h.incoming_eq_empty (Bool.eq_false_iff.2 hnot)] at hcount
      exact absurd hcount (Nat.lt_irrefl 0)
    have hblock := hfits.isBlock_of_mayReceive hreceive hkind
    exact ⟨_, _, _, hblock, hfits.of_isBlock hblock, Or.inl ⟨hkind, rfl⟩⟩
  · split at hv
    · rename_i hexit
      rw [Bool.and_eq_true, decide_eq_true_eq, Adjacency.outgoingSize_eq] at hexit
      obtain ⟨hkind, hcount⟩ := hexit
      cases hv
      have hsend : (c.graph.node n).key = .processRoot ∨ (c.graph.node n).key.maySend := by
        by_contra hnot
        rw [not_or] at hnot
        have hnil := h.outgoing_eq_nil hnot.1 (Bool.eq_false_iff.2 hnot.2)
        rw [Graph.outgoing] at hnil
        rw [hnil] at hcount
        exact absurd hcount (Nat.lt_irrefl 0)
      have hblock := hfits.isBlock_of_maySend hsend hkind
      exact ⟨_, _, _, hblock, hfits.of_isBlock hblock, Or.inr ⟨hkind, rfl⟩⟩
    · cases hv

end Guarded

/-! ## Nodes that were made on the way -/

/-- The nodes that no record describes keep to the rule on entries and exits: no edge arrives at the
process root or at the entry of a signature, none leaves the exit of a signature, and the root leads
to one node at most, with a key of `first`. -/
structure Shielded (first : NodeKey → Prop) (c : Cluster) : Prop where
  incoming_root : ∀ n, c.graph.hasNode n → (c.graph.node n).key = .processRoot →
    (c.graph.node n).edges.incoming = #[]
  outgoing_root : ∀ n, c.graph.hasNode n → (c.graph.node n).key = .processRoot →
    c.graph.outgoing n = [] ∨ ∃ e m, c.graph.outgoing n = [e] ∧
      c.graph.edge? e = some ⟨n, m, .moduleEntry, 0⟩ ∧ first (c.graph.node m).key
  incoming_entry : ∀ n h kind isCallback, c.graph.hasNode n →
    (c.graph.node n).key = .boundary h kind isCallback → (c.graph.node n).kind = .clusterEntry →
    (c.graph.node n).edges.incoming = #[]
  outgoing_exit : ∀ n h kind isCallback, c.graph.hasNode n →
    (c.graph.node n).key = .boundary h kind isCallback → (c.graph.node n).kind = .clusterExit →
    c.graph.outgoing n = []

theorem Guarded.shielded (h : c.Guarded K first)
    (hfirst : ∀ key key', first key → first key' → key = key') : c.Shielded first where
  incoming_root n hn hkey := h.incoming_eq_empty (by rw [hkey]; rfl)
  outgoing_root n hn hkey := h.outgoing_root hfirst hkey
  incoming_entry n signature kind isCallback hn hkey hkind := by
    have hfits := h.fits n hn
    rw [Node.Fits, hkey, hkind] at hfits
    have hentry : NodeKind.clusterEntry = kind := hfits
    exact h.incoming_eq_empty (by rw [hkey, ← hentry]; rfl)
  outgoing_exit n signature kind isCallback hn hkey hkind := by
    have hfits := h.fits n hn
    rw [Node.Fits, hkey, hkind] at hfits
    have hexit : NodeKind.clusterExit = kind := hfits
    refine h.outgoing_eq_nil (fun hroot => by cases hkey.symm.trans hroot) ?_
    rw [hkey, ← hexit]
    rfl

end Cluster
end FlowAtlas
