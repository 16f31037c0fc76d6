import FlowAtlas.Proofs.Cluster.Coherent
import FlowAtlas.Proofs.Cluster.Growth

/-!
# One request at a time

Whatever a step does to the clusters of a process, it does by requests to single clusters.
`Clusters.ask` is such a request, and `Clusters.onNode_eq` and `Clusters.state_on_addEdge` say that
the steps of a load are requests.  A request keeps the invariant (`Coherent.ask`), and unless it
brings a block it leaves the blocks as they are (`sameBlocks_apply`).
-/

set_option autoImplicit false

namespace FlowAtlas

/-!
## When the registries describe the graph

`Cluster.Describes` says that `entryPoints` and `exitPoints` list the boundary nodes of the graph,
each once, and that whoever asks for a signature is led to a node of that hash.

This is lost when a node is registered under a hash although another node has its key: the graph
keeps the other node, and the registry takes it for what it is not.  `describes_run_iff` is the main
theorem: the registries describe the graph after a run exactly when no request of the run clashes in
this way.  `clash_is_registered` is the shortest run that goes wrong.
-/

namespace Cluster

/-! ### Runs -/

/-- What can be asked of a cluster. -/
inductive Request
  | node (x : Node)
  | entryFor (signature : UInt64) (owner : UnitId) (isCallback : Bool)
  | exitFor (signature : UInt64) (owner : UnitId) (isCallback : Bool)
  | root (owner : UnitId)
  | edge (source target : NodeId) (kind : EdgeKind) (ordinal : UInt8)

namespace Request

/-- What callers see to: a node comes without edges, and an edge is asked for between nodes that are
there. -/
def Proper (c : Cluster) : Request → Prop
  | node x => x.edges = {}
  | edge s t _ _ => c.graph.hasNode s ∧ c.graph.hasNode t
  | _ => True

/-- The node that is asked for. -/
def asked? : Request → Option Node
  | node x => some x
  | entryFor h owner isCallback => some (.boundary h .clusterEntry isCallback owner)
  | exitFor h owner isCallback => some (.boundary h .clusterExit isCallback owner)
  | root owner => some (.processRoot owner)
  | edge _ _ _ _ => none

/-- The node that is asked for is to be registered, but another node has its key. -/
def Clashes (c : Cluster) (r : Request) : Prop := ∃ x, r.asked? = some x ∧ c.Clashes x

/-- The cluster after a request, whether it was granted or refused. -/
def apply (c : Cluster) : Request → Cluster
  | node x => (c.addNode x).2
  | entryFor h owner isCallback => (c.addEntryFor h owner isCallback).2
  | exitFor h owner isCallback => (c.addExitFor h owner isCallback).2
  | root owner => (c.addRoot owner).2
  | edge s t k o => (addEdge s t k o c).state

end Request

/-- The cluster after requests. -/
def run : Cluster → List Request → Cluster
  | c, [] => c
  | c, r :: rs => run (r.apply c) rs

/-- Callers see to what they should throughout a run. -/
def ProperRun : Cluster → List Request → Prop
  | _, [] => True
  | c, r :: rs => r.Proper c ∧ ProperRun (r.apply c) rs

/-- No request of a run clashes. -/
def ClashFree : Cluster → List Request → Prop
  | _, [] => True
  | c, r :: rs => ¬r.Clashes c ∧ ClashFree (r.apply c) rs

variable {c c' : Cluster} {r : Request} {x : Node} {n : NodeId}

/-- A request for a node is a step of `Cluster.NodeStep`. -/
theorem Request.nodeStep (c : Cluster) (hx : r.asked? = some x) :
    ∃ placed, NodeStep c x (placed, r.apply c) := by
  cases r with
  | node x => cases hx; exact ⟨_, nodeStep_addNode c x⟩
  | entryFor h owner isCallback => cases hx; exact ⟨_, nodeStep_addEntryFor c h owner isCallback⟩
  | exitFor h owner isCallback => cases hx; exact ⟨_, nodeStep_addExitFor c h owner isCallback⟩
  | root owner => cases hx; exact ⟨_, nodeStep_addRoot c owner⟩
  | edge => cases hx

theorem Request.edges_asked (hr : r.Proper c) (hx : r.asked? = some x) : x.edges = {} := by
  cases r with
  | node x => cases hx; exact hr
  | entryFor => cases hx; rfl
  | exitFor => cases hx; rfl
  | root => cases hx; rfl
  | edge => cases hx

/-- One request keeps the invariant. -/
theorem Coherent.apply (h : c.Coherent) (hr : r.Proper c) : (r.apply c).Coherent := by
  cases hx : r.asked? with
  | some x =>
    obtain ⟨placed, hs⟩ := Request.nodeStep c hx
    exact hs.coherent h (Request.edges_asked hr hx)
  | none =>
    cases r with
    | edge s t k o => exact h.addEdge hr.1 hr.2
    | node | entryFor | exitFor | root => cases hx

/-- One request keeps the registries faithful unless it clashes, and nothing mends them. -/
theorem Coherent.faithful_apply_iff (h : c.Coherent) :
    (r.apply c).Faithful ↔ c.Faithful ∧ ¬r.Clashes c := by
  cases hx : r.asked? with
  | some x =>
    obtain ⟨placed, hs⟩ := Request.nodeStep c hx
    have hclash : r.Clashes c ↔ c.Clashes x := by
      constructor
      · rintro ⟨y, hy, hc⟩
        rw [Option.some.inj (hx.symm.trans hy)]
        exact hc
      · exact fun hc => ⟨x, hx, hc⟩
    rw [hs.faithful_iff h, hclash]
  | none =>
    have hclash : ¬r.Clashes c := by
      rintro ⟨y, hy, -⟩
      cases hx.symm.trans hy
    rw [and_iff_left hclash]
    cases r with
    | edge s t k o => exact h.faithful_addEdge_iff
    | node | entryFor | exitFor | root => cases hx

theorem Coherent.run {rs : List Request} (h : c.Coherent) (hrs : ProperRun c rs) :
    (run c rs).Coherent := by
  induction rs generalizing c with
  | nil => exact h
  | cons r rs ih => exact ih (h.apply hrs.1) hrs.2

theorem Coherent.faithful_run_iff {rs : List Request} (h : c.Coherent) (hrs : ProperRun c rs) :
    (Cluster.run c rs).Faithful ↔ c.Faithful ∧ ClashFree c rs := by
  induction rs generalizing c with
  | nil => exact (and_iff_left trivial).symm
  | cons r rs ih =>
    rw [Cluster.run, ih (h.apply hrs.1) hrs.2, h.faithful_apply_iff, and_assoc]
    rfl

/-! ### What the registries list -/

/-- The registries list the boundary nodes of the graph and lead to the hash that is asked for. -/
structure Describes (c : Cluster) : Prop where
  entryPoints_eq : c.entryPoints = c.graph.nodeIds.filter fun n =>
    (c.graph.node n).kind = .clusterEntry
  exitPoints_eq : c.exitPoints = c.graph.nodeIds.filter fun n =>
    (c.graph.node n).kind = .clusterExit
  hash_entryPoint : ∀ h n, c.entryPoint? h = some n → (c.graph.node n).hash = h
  hash_exitPoint : ∀ h n, c.exitPoint? h = some n → (c.graph.node n).hash = h

theorem mem_values_iff {m : Registry} : n ∈ m.toList.map (·.2) ↔ ∃ h : UInt64, m[h]? = some n := by
  rw [List.mem_map]
  constructor
  · rintro ⟨⟨h, n'⟩, hmem, rfl⟩
    exact ⟨h, Std.HashMap.mem_toList_iff_getElem?_eq_some.1 hmem⟩
  · rintro ⟨h, hm⟩
    exact ⟨(h, n), Std.HashMap.mem_toList_iff_getElem?_eq_some.2 hm, rfl⟩

/-- A faithful registry lists nothing twice. -/
theorem nodup_values {g : Graph} {κ : NodeKind} {m : Registry} (hf : Registry.Faithful g κ m) :
    (m.toList.map (·.2)).Nodup := by
  rw [List.Nodup, List.pairwise_map]
  refine (Std.HashMap.distinct_keys_toList (m := m)).imp_of_mem fun {p q} hp hq hne heq => ?_
  have hp' := Std.HashMap.mem_toList_iff_getElem?_eq_some.1 hp
  have hq' := Std.HashMap.mem_toList_iff_getElem?_eq_some.1 hq
  rw [← heq] at hq'
  rw [hf.hash_eq hp' hq', beq_self_eq_true] at hne
  cases hne

theorem mem_ascending {l : List NodeId} : n ∈ ascending l ↔ n ∈ l :=
  List.mem_mergeSort

/-- Nodes in ascending order are the nodes of a graph that are among them. -/
theorem ascending_eq_filter {g : Graph} {l : List NodeId} {p : NodeId → Bool} (hl : l.Nodup)
    (hmem : ∀ n, n ∈ l ↔ g.hasNode n ∧ p n) : ascending l = g.nodeIds.filter p := by
  have hids := g.pairwise_nodeIds
  have hnodup : g.nodeIds.Nodup := hids.imp fun hlt heq => Nat.ne_of_lt hlt (congrArg _ heq)
  have hperm : (ascending l).Perm (g.nodeIds.filter p) := by
    refine (List.mergeSort_perm l _).trans ?_
    rw [List.perm_ext_iff_of_nodup hl (hnodup.filter p)]
    intro n
    rw [hmem, List.mem_filter, Graph.mem_nodeIds]
  have hsorted : (ascending l).Pairwise fun a b => a.index ≤ b.index := by
    refine (List.pairwise_mergeSort (fun a b c hab hbc => ?_) (fun a b => ?_) l).imp
      of_decide_eq_true
    · rw [decide_eq_true_iff] at hab hbc ⊢
      exact Nat.le_trans hab hbc
    · rw [Bool.or_eq_true, decide_eq_true_iff, decide_eq_true_iff]
      exact Nat.le_total _ _
  refine hperm.eq_of_pairwise (fun a b _ _ hab hba => ?_) hsorted
    ((hids.filter p).imp Nat.le_of_lt)
  exact congrArg NodeId.mk (Nat.le_antisymm hab hba)

/-- What a faithful registry lists are the nodes of its kind, but for the process root. -/
theorem mem_values_iff_of_faithful {g : Graph} {κ : NodeKind} {m : Registry}
    (hr : Registry.Registers g κ m) (hf : Registry.Faithful g κ m) :
    n ∈ m.toList.map (·.2) ↔
      g.hasNode n ∧ (g.node n).kind = κ ∧ (g.node n).key ≠ .processRoot := by
  rw [mem_values_iff]
  constructor
  · rintro ⟨h, hm⟩
    exact ⟨(hr.issued h n hm).1, (hf h n hm).1, (hr.issued h n hm).2⟩
  · rintro ⟨hn, hkind, hkey⟩
    exact ⟨_, hr.complete n hn hkind hkey⟩

theorem Coherent.entryPoints_eq (h : c.Coherent) (hf : c.Faithful) :
    c.entryPoints = c.graph.nodeIds.filter fun n => (c.graph.node n).kind = .clusterEntry := by
  have hroot : ∀ n, n ∈ c.root.toList ↔ c.graph.hasNode n ∧ (c.graph.node n).key = .processRoot := by
    intro n
    rw [Option.mem_toList, h.root_eq, h.graph.find?_eq_some_iff]
  refine ascending_eq_filter ?_ fun n => ?_
  · rw [List.nodup_append]
    refine ⟨nodup_values hf.1, ?_, ?_⟩
    · cases c.root with
      | none => exact List.nodup_nil
      | some n => exact List.nodup_singleton n
    · rintro n hn _ hn' rfl
      exact ((mem_values_iff_of_faithful h.entries hf.1).1 hn).2.2 ((hroot n).1 hn').2
  · rw [List.mem_append, mem_values_iff_of_faithful h.entries hf.1, hroot, decide_eq_true_iff]
    constructor
    · rintro (⟨hn, hkind, -⟩ | ⟨hn, hkey⟩)
      · exact ⟨hn, hkind⟩
      · exact ⟨hn, h.root_kind n (h.root_eq.trans ((h.graph.find?_eq_some_iff _ _).2 ⟨hn, hkey⟩))⟩
    · rintro ⟨hn, hkind⟩
      by_cases hkey : (c.graph.node n).key = .processRoot
      · exact Or.inr ⟨hn, hkey⟩
      · exact Or.inl ⟨hn, hkind, hkey⟩

theorem Coherent.exitPoints_eq (h : c.Coherent) (hf : c.Faithful) :
    c.exitPoints = c.graph.nodeIds.filter fun n => (c.graph.node n).kind = .clusterExit := by
  refine ascending_eq_filter (nodup_values hf.2) fun n => ?_
  rw [mem_values_iff_of_faithful h.exits hf.2, decide_eq_true_iff]
  refine and_congr_right fun hn => and_iff_left_of_imp fun hkind hkey => ?_
  have hroot := h.root_kind n (h.root_eq.trans ((h.graph.find?_eq_some_iff _ _).2 ⟨hn, hkey⟩))
  cases hkind.symm.trans hroot

theorem Coherent.describes_iff (h : c.Coherent) : c.Describes ↔ c.Faithful := by
  constructor
  · intro hd
    constructor
    · intro hash n hm
      refine ⟨?_, hd.hash_entryPoint hash n hm⟩
      have hn : n ∈ c.entryPoints :=
        mem_ascending.2 (List.mem_append_left _ (mem_values_iff.2 ⟨hash, hm⟩))
      rw [hd.entryPoints_eq] at hn
      exact of_decide_eq_true (List.mem_filter.1 hn).2
    · intro hash n hm
      refine ⟨?_, hd.hash_exitPoint hash n hm⟩
      have hn : n ∈ c.exitPoints := mem_ascending.2 (mem_values_iff.2 ⟨hash, hm⟩)
      rw [hd.exitPoints_eq] at hn
      exact of_decide_eq_true (List.mem_filter.1 hn).2
  · intro hf
    exact {
      entryPoints_eq := h.entryPoints_eq hf
      exitPoints_eq := h.exitPoints_eq hf
      hash_entryPoint := fun hash n hm => (hf.1 hash n hm).2
      hash_exitPoint := fun hash n hm => (hf.2 hash n hm).2 }

/-- **The registries describe the graph after a run exactly when no request of it clashes.** -/
theorem describes_run_iff (id : ClusterId) (name : String) (rs : List Request)
    (hrs : ProperRun (empty id name) rs) :
    (run (empty id name) rs).Describes ↔ ClashFree (empty id name) rs := by
  have h := coherent_empty id name
  rw [(h.run hrs).describes_iff, h.faithful_run_iff hrs]
  exact and_iff_right (faithful_empty id name)

/-- Nothing clashes when the process root leads to a new entry. -/
theorem describes_run_root_to_entry :
    let rs : List Request := [.root ⟨1⟩, .entryFor 7 ⟨1⟩ false, .edge ⟨0⟩ ⟨1⟩ .direct 0]
    (run (empty ⟨0⟩ "main") rs).Describes := by
  intro rs
  refine (describes_run_iff ⟨0⟩ "main" rs ?_).2 ?_
  · simp [rs, ProperRun, Request.Proper, Request.apply, addRoot, addEntryFor, addEntry, empty,
      Graph.addNode, Graph.find?, Node.boundary, Node.processRoot, Graph.hasNode]
  · simp [rs, ClashFree, Request.Clashes, Clashes, Request.asked?, Request.apply, addRoot,
      addEntryFor, addEntry, empty, Graph.addNode, Graph.find?, Node.boundary, Node.processRoot]

/-- A block is recorded twice, the second time as an entry and with another hash.  The entry of that
hash then is the ordinary block that came first. -/
theorem clash_is_registered :
    let first : Node := { key := .block ⟨1⟩ 16 0, hash := 5, kind := .normal, unit := ⟨1⟩ }
    let second : Node := { first with hash := 9, kind := .clusterEntry }
    let c := run (empty ⟨0⟩ "main") [.node first, .node second]
    ProperRun (empty ⟨0⟩ "main") [.node first, .node second] ∧
      c.entryPoint? 9 = some ⟨0⟩ ∧ c.graph.node ⟨0⟩ = first ∧ ¬c.Describes := by
  intro first second c
  have hentry : c.entryPoint? 9 = some ⟨0⟩ := by
    simp [c, run, Request.apply, addNode, first, second, addBlock, addEntry, empty, Graph.addNode,
      Graph.find?, entryPoint?]
  have hnode : c.graph.node ⟨0⟩ = first := by
    simp [c, run, Request.apply, addNode, first, second, addBlock, addEntry, empty, Graph.addNode,
      Graph.find?, Graph.node]
  refine ⟨⟨rfl, rfl, trivial⟩, hentry, hnode, fun hd => ?_⟩
  have hhash := hd.hash_entryPoint 9 ⟨0⟩ hentry
  rw [hnode] at hhash
  exact absurd hhash (by decide)

end Cluster

/-! ## Requests to the clusters of a process -/

/-- The key of a basic block. -/
def NodeKey.isBlock : NodeKey → Bool
  | block _ _ _ => true
  | _ => false

theorem NodeKey.isBlock_iff {key : NodeKey} :
    key.isBlock ↔ ∃ unit tag version, key = .block unit tag version := by
  constructor
  · intro h
    cases key with
    | block unit tag version => exact ⟨unit, tag, version, rfl⟩
    | boundary | processRoot => cases h
  · rintro ⟨unit, tag, version, rfl⟩
    rfl

namespace Cluster

variable {c : Cluster} {q : Request} {owner : UnitId} {x : Node} {n : NodeId} {h : UInt64}

/-- Whoever asks for the root is led to it. -/
theorem root_addRoot (c : Cluster) (owner : UnitId) :
    (c.addRoot owner).2.root = some (c.addRoot owner).1.1 := by
  rw [addRoot]
  cases hroot : c.root with
  | some n => exact hroot
  | none => rfl

/-- A request that brings no block leaves the blocks as they are. -/
theorem sameBlocks_apply (hq : ∀ x, q.asked? = some x → x.key.isBlock = false) :
    c.SameBlocks (q.apply c) := by
  intro unit tag version
  cases hx : q.asked? with
  | some x =>
    obtain ⟨placed, hs⟩ := Request.nodeStep c hx
    refine hs.find?_eq_of_ne fun hkey => ?_
    have hblock := hq x hx
    rw [hkey] at hblock
    cases hblock
  | none =>
    cases q with
    | edge s t k o =>
      rw [Request.apply, addEdge, state_onGraph]
      exact (c.graph.sameNodes_addEdge s t k o).find?_eq
    | node | entryFor | exitFor | root => cases hx

end Cluster

namespace Clusters

open Cluster (Request)

variable {ε α : Type} {cs : Clusters} {i j : ClusterId} {q : Request} {s t : NodeId} {k : EdgeKind}
  {o : UInt8}

/-- A request to one of the clusters, granted or refused. -/
def ask (cs : Clusters) (i : ClusterId) (q : Request) : Clusters :=
  cs.setIfInBounds i.index (q.apply (cs.get i))

theorem get_ask :
    (cs.ask i q).get j = if j = i ∧ i.index < cs.size then q.apply (cs.get i) else cs.get j :=
  get_setIfInBounds

theorem get_ask_self (hi : i.index < cs.size) : (cs.ask i q).get i = q.apply (cs.get i) := by
  rw [get_ask, if_pos ⟨rfl, hi⟩]

theorem get_ask_of_ne (hj : j ≠ i) : (cs.ask i q).get j = cs.get j := by
  rw [get_ask, if_neg fun h => hj h.1]

theorem size_ask : (cs.ask i q).size = cs.size := Array.size_setIfInBounds

/-- A number that is not in use stands for no cluster that could be asked. -/
theorem ask_of_size_le (hi : cs.size ≤ i.index) : cs.ask i q = cs :=
  Array.setIfInBounds_eq_of_size_le hi

/-- What holds of every cluster still does if it holds of the one that was asked. -/
theorem forall_get_ask {p : ClusterId → Cluster → Prop} (h : ∀ j, p j (cs.get j))
    (hi : i.index < cs.size → p i (q.apply (cs.get i))) : ∀ j, p j ((cs.ask i q).get j) := by
  intro j
  rw [get_ask]
  split
  · rename_i hj
    exact hj.1 ▸ hi hj.2
  · exact h j

theorem Coherent.ask (h : cs.Coherent) (hq : i.index < cs.size → q.Proper (cs.get i)) :
    (cs.ask i q).Coherent :=
  forall_get_ask (p := fun _ c => c.Coherent) h fun hi => (h i).apply (hq hi)

theorem sameBlocks_ask (hq : ∀ x, q.asked? = some x → x.key.isBlock = false) :
    SameBlocks cs (cs.ask i q) :=
  forall_get_ask (p := fun j c => (cs.get j).SameBlocks c) (fun _ _ _ _ => rfl) fun _ =>
    Cluster.sameBlocks_apply hq

theorem onNode_eq (step : Cluster → (NodeId × Bool) × Cluster) :
    (onNode i step cs : EStateM.Result ε Clusters (NodeId × Bool)) =
      .ok (step (cs.get i)).1 (cs.setIfInBounds i.index (step (cs.get i)).2) :=
  congrArg (EStateM.Result.ok _) (Array.setIfInBounds_setIfInBounds _)

theorem state_on (step : EStateM ε Cluster α) :
    (on i step cs).state = cs.setIfInBounds i.index (step (cs.get i)).state := by
  rw [on]
  cases step (cs.get i) with
  | ok a c => exact Array.setIfInBounds_setIfInBounds _
  | error cause c => exact Array.setIfInBounds_setIfInBounds _

theorem state_on_addEdge : (on i (Cluster.addEdge s t k o) cs).state = cs.ask i (.edge s t k o) :=
  state_on _

end Clusters
end FlowAtlas
