import FlowAtlas.Proofs.Cluster.Points
import FlowAtlas.Proofs.Stateful

/-!
# Transfers between clusters, granted and refused

A transfer between two clusters is split into a half in each of them, which are asked for one after
the other and without a way back.

* `placed_split` says what a split that was granted leaves behind: both points stand for the
  signature, each half is an edge at its point, and nothing else has changed.
* `split_refused` says what a split that was refused leaves behind: a new exit at most.  The half of
  the target is never refused.  This needs that nothing but the halves of transfers leaves an entry,
  which is the invariant `Cluster.Quiet`.

Both hold in every state that `Clusters.Reached` describes, which is after any requests to clusters
that were empty at first, granted or refused.
-/

set_option autoImplicit false

namespace FlowAtlas

open EStateM

/-! ## The two halves as requests -/

namespace Cluster

variable {c c' : Cluster} {a b n : NodeId} {t : Transfer} {k : EdgeKind} {o : UInt8} {q : Request}
  {signature : UInt64} {cause : GraphError}

theorem bridge_eq {place : UnitId → Cluster → (NodeId × Bool) × Cluster}
    {link : NodeId → EStateM GraphError Cluster EdgeOutcome} :
    bridge n place link c =
      (link (place (c.graph.node n).unit c).1.1 >>= fun outcome =>
        pure ((place (c.graph.node n).unit c).1, outcome))
          (place (c.graph.node n).unit c).2 := rfl

theorem state_bridge {place : UnitId → Cluster → (NodeId × Bool) × Cluster}
    {link : NodeId → EStateM GraphError Cluster EdgeOutcome} :
    (bridge n place link c).state =
      (link (place (c.graph.node n).unit c).1.1 (place (c.graph.node n).unit c).2).state := by
  rw [bridge_eq]
  exact state_bind_eq (fun c => c) fun _ _ => rfl

/-- The half of the source asks for an exit and then for an edge. -/
theorem state_leave : (leave a t c).state =
    (Request.edge a (c.addExitFor t.signature (c.graph.node a).unit t.isCallback).1.1 t.kind
      t.ordinal).apply
        ((Request.exitFor t.signature (c.graph.node a).unit t.isCallback).apply c) :=
  state_bridge

/-- The half of the target asks for an entry and then for an edge. -/
theorem state_enter : (enter b t c).state =
    (Request.edge (c.addEntryFor t.signature (c.graph.node b).unit t.isCallback).1.1 b
      .crossCustomModule 0).apply
        ((Request.entryFor t.signature (c.graph.node b).unit t.isCallback).apply c) :=
  state_bridge

theorem entryPoint?_addExitFor_eq (c : Cluster) (signature : UInt64) (owner : UnitId)
    (isCallback : Bool) (other : UInt64) :
    (c.addExitFor signature owner isCallback).2.entryPoint? other = c.entryPoint? other := by
  rw [addExitFor, addExit]
  split <;> rfl

/-- An edge that is refused leaves the cluster as it was. -/
theorem addEdge_eq_error (h : c.Coherent) (hr : addEdge a b k o c = .error cause c') : c' = c := by
  have hstep := Graph.edgeStep_addEdge h.graph a b k o
  rw [addEdge, onGraph] at hr
  dsimp only at hr
  cases hg : Graph.addEdge a b k o c.graph with
  | ok outcome g =>
    rw [hg] at hr
    cases hr
  | error cause' g =>
    rw [hg] at hr hstep
    cases hr
    cases hstep <;> rfl

namespace Tidy

theorem orderly_leave (h : c.Tidy) (ha : c.graph.hasNode a) :
    (Request.edge a (c.addExitFor t.signature (c.graph.node a).unit t.isCallback).1.1 t.kind
      t.ordinal).Orderly
        ((Request.exitFor t.signature (c.graph.node a).unit t.isCallback).apply c) := by
  have hs := nodeStep_addExitFor c t.signature (c.graph.node a).unit t.isCallback
  exact ⟨hs.extends_.graph.hasNode a ha, hs.hasNode h.coherent⟩

theorem orderly_enter (h : c.Tidy) (hb : c.graph.hasNode b) :
    (Request.edge (c.addEntryFor t.signature (c.graph.node b).unit t.isCallback).1.1 b
      .crossCustomModule 0).Orderly
        ((Request.entryFor t.signature (c.graph.node b).unit t.isCallback).apply c) := by
  have hs := nodeStep_addEntryFor c t.signature (c.graph.node b).unit t.isCallback
  exact ⟨hs.hasNode h.coherent, hs.extends_.graph.hasNode b hb⟩

theorem exitFor (h : c.Tidy) (signature : UInt64) (owner : UnitId) (isCallback : Bool) :
    ((Request.exitFor signature owner isCallback).apply c).Tidy :=
  h.apply (q := .exitFor signature owner isCallback) trivial

theorem entryFor (h : c.Tidy) (signature : UInt64) (owner : UnitId) (isCallback : Bool) :
    ((Request.entryFor signature owner isCallback).apply c).Tidy :=
  h.apply (q := .entryFor signature owner isCallback) trivial

theorem leave (h : c.Tidy) (ha : c.graph.hasNode a) : (Cluster.leave a t c).state.Tidy := by
  rw [state_leave]
  exact (h.exitFor _ _ _).apply (h.orderly_leave ha)

theorem enter (h : c.Tidy) (hb : c.graph.hasNode b) : (Cluster.enter b t c).state.Tidy := by
  rw [state_enter]
  exact (h.entryFor _ _ _).apply (h.orderly_enter hb)

/-- A node that cannot be led to an exit leaves the cluster as it was, but for the exit if there was
none. -/
theorem leave_eq_error (h : c.Tidy) (hr : Cluster.leave a t c = .error cause c') :
    c' = c ∨ c.exitPoint? t.signature = none ∧ c' =
      { c with
        graph := c.graph.withNode
          (.boundary t.signature .clusterExit t.isCallback (c.graph.node a).unit)
        exits := c.exits.insert t.signature ⟨c.graph.nodeCount⟩ } := by
  have hside : NodeKind.clusterExit.isBoundary := rfl
  have hadd : c.addExitFor t.signature (c.graph.node a).unit t.isCallback = _ :=
    h.placeFor_eq hside
  have hstate : c' = (c.addExitFor t.signature (c.graph.node a).unit t.isCallback).2 := by
    rcases bind_eq_error_iff.1 (bridge_eq.symm.trans hr) with hlink | ⟨_, _, _, hpure⟩
    · exact addEdge_eq_error (h.exitFor _ _ _).coherent hlink
    · cases hpure
  rw [hstate, hadd]
  cases hn : c.point? .clusterExit t.signature with
  | some n => exact .inl rfl
  | none => exact .inr ⟨hn, rfl⟩

/-- A node that is not joined to the exit of a signature can be led to it exactly when it takes the
edge. -/
theorem exists_leave_iff (h : c.Tidy)
    (hapart : ∀ exit, c.exitPoint? t.signature = some exit → ¬c.graph.Joins a exit) :
    (∃ result c', Cluster.leave a t c = .ok result c') ↔
      Accepts c.graph.edge? a t.kind t.ordinal := by
  cases hplace : c.addExitFor t.signature (c.graph.node a).unit t.isCallback with
  | mk placed c₁ =>
  have hside : NodeKind.clusterExit.isBoundary := rfl
  obtain ⟨hplaced, hedges⟩ := h.placed_placeFor hside hplace
  have h₁ := h.exitFor t.signature (c.graph.node a).unit t.isCallback
  rw [Request.apply, hplace] at h₁
  have hfree : ∀ e z, c₁.graph.edge? e = some z → ¬(z.source = a ∧ z.target = placed.1) := by
    rintro e z hz ⟨hsource, htarget⟩
    rw [hedges] at hz
    cases hexit : c.exitPoint? t.signature with
    | some exit =>
      rw [(hplaced.kept exit hexit).1] at htarget
      exact hapart exit hexit ⟨e, z, hz, hsource, htarget⟩
    | none =>
      -- no edge of the cluster leads to a node that is new
      have hnode := (h.coherent.graph.ends e z hz).2
      rw [htarget, (hplaced.made hexit).1, Graph.hasNode_iff] at hnode
      exact Nat.lt_irrefl _ hnode
  have hstep := Graph.edgeStep_addEdge h₁.coherent.graph a placed.1 t.kind t.ordinal
  rw [← hedges]
  constructor
  · rintro ⟨⟨placed', outcome⟩, c', hr⟩
    obtain ⟨c₁', hplace', hlink⟩ := bridge_eq_ok_iff.1 hr
    obtain ⟨rfl, rfl⟩ := Prod.mk.inj (hplace.symm.trans hplace')
    obtain ⟨g, hg, -⟩ := addEdge_eq_ok hlink
    rw [hg] at hstep
    cases hstep with
    | added _ hacc => exact hacc
    | duplicate hz | merged hz | upgraded hz => exact absurd ⟨rfl, rfl⟩ (hfree _ _ hz)
  · intro hacc
    cases hg : Graph.addEdge a placed.1 t.kind t.ordinal c₁.graph with
    | ok outcome g =>
      exact ⟨(placed, outcome), _, bridge_eq_ok_iff.2 ⟨_, hplace, addEdge_of_graph hg⟩⟩
    | error cause g =>
      rw [hg] at hstep
      cases hstep with
      | refused _ hnot => exact absurd hacc hnot
      | notUpgraded hz | multiple hz => exact absurd ⟨rfl, rfl⟩ (hfree _ _ hz)

end Tidy

/-! ## Entries that nothing but transfers leave -/

/-- Only the second halves of transfers leave the entries of signatures. -/
def Quiet (c : Cluster) : Prop :=
  ∀ signature n, c.entryPoint? signature = some n →
    ∀ e z, c.graph.edge? e = some z → z.source = n → z.kind = .crossCustomModule ∧ z.ordinal = 0

theorem quiet_empty (id : ClusterId) (name : String) : Quiet (.empty id name) :=
  fun _ _ _ _ _ hz => by cases hz

/-- The request is for no edge from an entry, but for one as transfers have it. -/
def Request.Quiet (c : Cluster) : Request → Prop
  | edge s _ k o => (∀ signature, c.entryPoint? signature ≠ some s) ∨
      k = .crossCustomModule ∧ o = 0
  | _ => True

namespace Tidy

theorem quiet_apply (h : c.Tidy) (hquiet : c.Quiet) (hq : q.Orderly c) (hq' : q.Quiet c) :
    (q.apply c).Quiet := by
  intro signature n hn e z hz hsource
  cases hx : q.asked? with
  | some x =>
    obtain ⟨placed, hs⟩ := Request.nodeStep c hx
    have hext := hs.extends_.graph
    rw [hs.edge?_eq] at hz
    -- the entry has an edge, so it was there before, and was registered
    have hnode : c.graph.hasNode n := hsource ▸ (h.coherent.graph.ends e z hz).1
    have hpoint : (q.apply c).point? .clusterEntry signature = some n := hn
    obtain ⟨-, hkey, hkind, hhash⟩ := (h.apply hq).point?_eq_some hpoint
    rw [hext.key_eq hnode] at hkey
    rw [hext.kind_eq hnode] at hkind
    rw [hext.hash_eq hnode] at hhash
    have hpoint := h.point?_of_hasNode hnode hkey (hkind ▸ rfl)
    rw [hkind, hhash] at hpoint
    exact hquiet signature n hpoint e z hz hsource
  | none =>
    cases q with
    | edge s t k o =>
      rw [Request.apply, addEdge, state_onGraph] at hn hz
      rcases h.coherent.graph.edge?_addEdge hz with hold | rfl
      · exact hquiet signature n hn e z hold hsource
      · rcases hq' with hnot | hgood
        · have hs : s = n := hsource
          rw [hs] at hnot
          exact absurd hn (hnot signature)
        · exact hgood
    | node | entryFor | exitFor | root => cases hx

theorem quiet_leave (h : c.Tidy) (hquiet : c.Quiet) (ha : c.graph.hasNode a)
    (hnot : ∀ signature, c.entryPoint? signature ≠ some a) :
    (Cluster.leave a t c).state.Quiet := by
  rw [state_leave]
  refine (h.exitFor _ _ _).quiet_apply (h.quiet_apply hquiet trivial trivial)
    (h.orderly_leave ha) (.inl fun signature => ?_)
  rw [Request.apply, entryPoint?_addExitFor_eq]
  exact hnot signature

theorem quiet_enter (h : c.Tidy) (hquiet : c.Quiet) (hb : c.graph.hasNode b) :
    (Cluster.enter b t c).state.Quiet := by
  rw [state_enter]
  exact (h.entryFor _ _ _).quiet_apply (h.quiet_apply hquiet trivial trivial) (h.orderly_enter hb)
    (.inr ⟨rfl, rfl⟩)

/-- The entry of a signature can be led to any node of a quiet cluster. -/
theorem exists_enter (h : c.Tidy) (hquiet : c.Quiet) (b : NodeId) (t : Transfer) :
    ∃ result c', Cluster.enter b t c = .ok result c' := by
  let q : Request := .entryFor t.signature (c.graph.node b).unit t.isCallback
  cases hplace : c.addEntryFor t.signature (c.graph.node b).unit t.isCallback with
  | mk placed c₁ =>
  have h₁ := h.entryFor t.signature (c.graph.node b).unit t.isCallback
  have hquiet₁ := h.quiet_apply hquiet (q := q) trivial trivial
  rw [Request.apply, hplace] at h₁ hquiet₁
  have hedges := hquiet₁ _ _ (entryPoint?_addEntryFor hplace)
  have hstep := Graph.edgeStep_addEdge h₁.coherent.graph placed.1 b .crossCustomModule 0
  cases hg : Graph.addEdge placed.1 b .crossCustomModule 0 c₁.graph with
  | ok outcome g =>
    exact ⟨(placed, outcome), _, bridge_eq_ok_iff.2 ⟨c₁, hplace, addEdge_of_graph hg⟩⟩
  | error cause g =>
    rw [hg] at hstep
    cases hstep with
    | refused _ hnot =>
      refine absurd (fun e z hz => ?_) hnot
      rw [if_neg (by decide)]
      exact fun _ _ => (hedges e z hz.1 hz.2).1
    | notUpgraded _ hk => cases hk
    | multiple hz hdiff =>
      obtain ⟨rfl, rfl⟩ := hedges _ _ hz rfl
      exact absurd ⟨rfl, Or.inr rfl⟩ hdiff

end Tidy

end Cluster

/-! ## All clusters -/

namespace Clusters

variable {cs cs' : Clusters} {i : ClusterId}

/-- What can be asked of the clusters of a process. -/
inductive Request
  /-- A request to one of the clusters. -/
  | one (i : ClusterId) (q : Cluster.Request)
  /-- A transfer between two of them. -/
  | split (source target : ClusterNode) (t : Transfer)

namespace Request

/-- The clusters after a request, granted or refused. -/
def apply (cs : Clusters) : Request → Clusters
  | one i q => cs.ask i q
  | split x y t => (Crossing.split x y t cs).state

/-- Callers add blocks of an ordinary kind, and ask for edges and transfers between nodes that are
there. -/
def Orderly (cs : Clusters) : Request → Prop
  | one i q => q.Orderly (cs.get i)
  | split x y _ =>
    (cs.get x.cluster).graph.hasNode x.node ∧ (cs.get y.cluster).graph.hasNode y.node

/-- No edge or transfer is asked for from the entry of a signature. -/
def Detached (cs : Clusters) : Request → Prop
  | one i (.edge s _ _ _) => ∀ signature, (cs.get i).entryPoint? signature ≠ some s
  | one _ _ => True
  | split x _ _ => ∀ signature, (cs.get x.cluster).entryPoint? signature ≠ some x.node

end Request

/-- The clusters have come of empty ones by requests that are as `p` says. -/
inductive Reached (p : Clusters → Request → Prop) : Clusters → Prop
  | empty {cs : Clusters} : (∀ i, ∃ id name, cs.get i = .empty id name) → Reached p cs
  | step {cs : Clusters} (q : Request) : Reached p cs → p cs q → Reached p (q.apply cs)

theorem Reached.mono {p p' : Clusters → Request → Prop} (h : Reached p cs)
    (hp : ∀ cs q, p cs q → p' cs q) : Reached p' cs := by
  induction h with
  | empty hempty => exact .empty hempty
  | step q _ hq ih => exact .step q ih (hp _ q hq)

end Clusters

namespace Crossing

variable {cs cs' : Clusters} {x y : ClusterNode} {t : Transfer} {crossing : Crossing}

/-- What holds of every cluster still does after a split if it holds of the halves. -/
theorem forall_get_split {p : Cluster → Prop} (h : ∀ i, p (cs.get i))
    (hx : x.cluster.index < cs.size) (hy : y.cluster.index < cs.size)
    (hleave : p (Cluster.leave x.node t (cs.get x.cluster)).state)
    (henter : p (Cluster.enter y.node t (cs.get y.cluster)).state) :
    ∀ i, p (Clusters.get (split x y t cs).state i) := by
  by_cases hxy : x.cluster = y.cluster
  · have hstate : (split x y t cs).state = cs := by
      rw [split, if_pos hxy]
      rfl
    rwa [hstate]
  · have hset (cs : Clusters) (j : ClusterId) (c : Cluster) (h : ∀ i, p (cs.get i)) (hc : p c) :
        ∀ i, p (Clusters.get (cs.setIfInBounds j.index c) i) := by
      intro i
      rw [Clusters.get_setIfInBounds]
      split
      · exact hc
      · exact h i
    rw [split_eq hxy hx hy]
    cases hl : Cluster.leave x.node t (cs.get x.cluster) with
    | error cause c =>
      rw [hl] at hleave
      exact hset _ _ _ h hleave
    | ok exit c =>
      rw [hl] at hleave
      cases he : Cluster.enter y.node t (cs.get y.cluster) with
      | error cause d =>
        rw [he] at henter
        exact hset _ _ _ (hset _ _ _ h hleave) henter
      | ok entry d =>
        rw [he] at henter
        exact hset _ _ _ (hset _ _ _ h hleave) henter

end Crossing

namespace Clusters

variable {p : Clusters → Request → Prop} {cs cs' : Clusters} {x y : ClusterNode} {t : Transfer}
  {crossing : Crossing}

/-! ## Invariants of runs -/

theorem tidy_of_reached (hp : ∀ cs q, p cs q → q.Orderly cs) (h : Reached p cs) :
    ∀ i, (cs.get i).Tidy := by
  induction h with
  | empty hempty =>
    intro i
    obtain ⟨id, name, hi⟩ := hempty i
    rw [hi]
    exact Cluster.tidy_empty id name
  | @step cs q _ hq ih =>
    have horderly := hp cs q hq
    cases q with
    | one i q => exact forall_get_ask (p := fun _ c => c.Tidy) ih fun _ => (ih i).apply horderly
    | split x y t =>
      obtain ⟨hx, hy⟩ := horderly
      exact Crossing.forall_get_split ih (index_lt_of_hasNode hx) (index_lt_of_hasNode hy)
        ((ih _).leave hx) ((ih _).enter hy)

theorem quiet_of_reached (hp : ∀ cs q, p cs q → q.Orderly cs ∧ q.Detached cs) (h : Reached p cs) :
    ∀ i, (cs.get i).Quiet := by
  induction h with
  | empty hempty =>
    intro i
    obtain ⟨id, name, hi⟩ := hempty i
    rw [hi]
    exact Cluster.quiet_empty id name
  | @step cs q hreached hq ih =>
    have htidy := tidy_of_reached (fun cs q hq => (hp cs q hq).1) hreached
    obtain ⟨horderly, hdetached⟩ := hp cs q hq
    cases q with
    | one i q =>
      refine forall_get_ask (p := fun _ c => c.Quiet) ih fun _ =>
        (htidy i).quiet_apply (ih i) horderly ?_
      cases q with
      | edge => exact .inl hdetached
      | node | entryFor | exitFor | root => trivial
    | split x y t =>
      obtain ⟨hx, hy⟩ := horderly
      exact Crossing.forall_get_split ih (index_lt_of_hasNode hx) (index_lt_of_hasNode hy)
        ((htidy _).quiet_leave (ih _) hx hdetached) ((htidy _).quiet_enter (ih _) hy)

/-! ## Splits that are granted -/

/-- Two nodes that no transfer of the signature has joined yet are joined by one exactly when the
source takes its edge. -/
theorem exists_split_iff (h : Reached (fun cs q => q.Orderly cs ∧ q.Detached cs) cs)
    (hxy : x.cluster ≠ y.cluster) (hx : (cs.get x.cluster).graph.hasNode x.node)
    (hy : (cs.get y.cluster).graph.hasNode y.node)
    (hapart : ∀ exit, (cs.get x.cluster).exitPoint? t.signature = some exit →
      ¬(cs.get x.cluster).graph.Joins x.node exit) :
    (∃ crossing cs', Crossing.split x y t cs = .ok crossing cs') ↔
      Accepts (cs.get x.cluster).graph.edge? x.node t.kind t.ordinal := by
  have htidy := tidy_of_reached (fun _ _ hq => hq.1) h
  have hquiet := quiet_of_reached (fun _ _ hq => hq) h
  obtain ⟨entry, d, henter⟩ := (htidy y.cluster).exists_enter (hquiet y.cluster) y.node t
  rw [← (htidy x.cluster).exists_leave_iff hapart,
    Crossing.split_eq hxy (index_lt_of_hasNode hx) (index_lt_of_hasNode hy), henter]
  cases Cluster.leave x.node t (cs.get x.cluster) with
  | ok exit c => exact iff_of_true ⟨_, _, rfl⟩ ⟨_, _, rfl⟩
  | error cause c => exact iff_of_false nofun nofun

/-! ## Two clusters with a block each -/

/-- A block of the first cluster. -/
def mainBlock : Node := { key := .block ⟨1⟩ 16 0, hash := 5, kind := .normal, unit := ⟨1⟩ }

/-- A block of the second cluster. -/
def libraryBlock : Node := { key := .block ⟨2⟩ 32 0, hash := 6, kind := .normal, unit := ⟨2⟩ }

/-- Two clusters to which a block each was added. -/
def twoBlocks : Clusters :=
  (Request.one ⟨1⟩ (.node libraryBlock)).apply
    ((Request.one ⟨0⟩ (.node mainBlock)).apply #[.empty ⟨0⟩ "main", .empty ⟨1⟩ "library"])

theorem get_twoBlocks :
    (∃ counts, twoBlocks.get ⟨0⟩ = { Cluster.empty ⟨0⟩ "main" with
      graph := Graph.empty.withNode mainBlock, blocks := counts, blockCount := 1 }) ∧
    ∃ counts, twoBlocks.get ⟨1⟩ = { Cluster.empty ⟨1⟩ "library" with
      graph := Graph.empty.withNode libraryBlock, blocks := counts, blockCount := 1 } :=
  ⟨Cluster.addBlock_of_new (c := .empty ⟨0⟩ "main") (x := mainBlock) Graph.find?_empty,
    Cluster.addBlock_of_new (c := .empty ⟨1⟩ "library") (x := libraryBlock) Graph.find?_empty⟩

theorem graph_twoBlocks : (twoBlocks.get ⟨0⟩).graph = Graph.empty.withNode mainBlock ∧
    (twoBlocks.get ⟨1⟩).graph = Graph.empty.withNode libraryBlock := by
  obtain ⟨⟨_, hmain⟩, ⟨_, hlibrary⟩⟩ := get_twoBlocks
  exact ⟨congrArg Cluster.graph hmain, congrArg Cluster.graph hlibrary⟩

theorem points_twoBlocks (signature : UInt64) :
    (twoBlocks.get ⟨0⟩).entryPoint? signature = none ∧
      (twoBlocks.get ⟨0⟩).exitPoint? signature = none := by
  obtain ⟨⟨_, hmain⟩, -⟩ := get_twoBlocks
  rw [hmain]
  exact ⟨Std.HashMap.getElem?_empty, Std.HashMap.getElem?_empty⟩

theorem reached_twoBlocks : Reached (fun cs q => q.Orderly cs ∧ q.Detached cs) twoBlocks := by
  refine .step _ (.step _ (.empty ?_) ⟨⟨rfl, rfl, rfl⟩, trivial⟩) ⟨⟨rfl, rfl, rfl⟩, trivial⟩
  rintro ⟨_ | _ | _⟩
  · exact ⟨⟨0⟩, "main", rfl⟩
  · exact ⟨⟨1⟩, "library", rfl⟩
  · exact ⟨⟨0⟩, "", rfl⟩

/-- Another block of the first cluster. -/
def mainBranch : Node := { key := .block ⟨1⟩ 24 0, hash := 7, kind := .normal, unit := ⟨1⟩ }

/-- Two clusters, the first of which has two blocks. -/
def threeBlocks : Clusters := (Request.one ⟨0⟩ (.node mainBranch)).apply twoBlocks

theorem main_threeBlocks : ∃ counts, threeBlocks.get ⟨0⟩ = { Cluster.empty ⟨0⟩ "main" with
    graph := (Graph.empty.withNode mainBlock).withNode mainBranch, blocks := counts,
    blockCount := 2 } := by
  obtain ⟨⟨_, hmain⟩, -⟩ := get_twoBlocks
  have hget : threeBlocks.get ⟨0⟩ = ((twoBlocks.get ⟨0⟩).addBlock mainBranch).2 := rfl
  rw [hget, hmain]
  refine Cluster.addBlock_of_new ?_
  rw [Graph.find?_withNode, if_neg (by decide)]
  exact Graph.find?_empty

theorem reached_threeBlocks : Reached (fun cs q => q.Orderly cs ∧ q.Detached cs) threeBlocks :=
  .step _ reached_twoBlocks ⟨⟨rfl, rfl, rfl⟩, trivial⟩

/-! ## What a split leaves behind -/

/-- **A split puts two edges, at the two points of its signature, and changes nothing else.**  A
point that was there is kept with its owner, and a new one belongs to the unit of the node that it
is joined to.  The edge of the source is as it was asked for, except that a direct edge may stand in
for a call continuation, and the edge of the target is a cross-module edge of ordinal zero. -/
theorem placed_split (h : Reached (fun cs q => q.Orderly cs) cs)
    (hx : (cs.get x.cluster).graph.hasNode x.node) (hy : (cs.get y.cluster).graph.hasNode y.node)
    (hr : Crossing.split x y t cs = .ok crossing cs') :
    (crossing.exit.cluster = x.cluster ∧
      (cs.get x.cluster).Placed (cs'.get x.cluster) .clusterExit t.signature t.isCallback
        ((cs.get x.cluster).graph.node x.node).unit
        (crossing.exit.node, crossing.exitCreated) ∧
      (cs.get x.cluster).graph.Granted (cs'.get x.cluster).graph
        ⟨x.node, crossing.exit.node, t.kind, t.ordinal⟩ crossing.exitEdge) ∧
    (crossing.entry.cluster = y.cluster ∧
      (cs.get y.cluster).Placed (cs'.get y.cluster) .clusterEntry t.signature t.isCallback
        ((cs.get y.cluster).graph.node y.node).unit
        (crossing.entry.node, crossing.entryCreated) ∧
      (cs.get y.cluster).graph.Granted (cs'.get y.cluster).graph
        ⟨crossing.entry.node, y.node, .crossCustomModule, 0⟩ crossing.entryEdge ∧
      (cs'.get y.cluster).graph.edge? crossing.entryEdge.edge =
        some ⟨crossing.entry.node, y.node, .crossCustomModule, 0⟩) ∧
    cs'.size = cs.size ∧
      ∀ i, i ≠ x.cluster → i ≠ y.cluster → cs'.get i = cs.get i := by
  have htidy := tidy_of_reached (fun _ _ hq => hq) h
  have hxi := index_lt_of_hasNode hx
  have hyi := index_lt_of_hasNode hy
  obtain ⟨hxy, hexitAt, hentryAt, c, d, hleave, henter, rfl⟩ := Crossing.split_eq_ok hxi hyi hr
  have hgetx : get (Array.setIfInBounds (cs.setIfInBounds x.cluster.index c)
      y.cluster.index d) x.cluster = c := by
    rw [get_setIfInBounds, if_neg fun h => hxy h.1, get_setIfInBounds, if_pos ⟨rfl, hxi⟩]
  have hgety : get (Array.setIfInBounds (cs.setIfInBounds x.cluster.index c)
      y.cluster.index d) y.cluster = d := by
    rw [get_setIfInBounds, Array.size_setIfInBounds, if_pos ⟨rfl, hyi⟩]
  obtain ⟨hexit, hexitEdge⟩ := (htidy x.cluster).placed_leave hx hleave
  obtain ⟨hentry, hentryEdge⟩ := (htidy y.cluster).placed_enter hy henter
  rw [hgetx, hgety]
  refine ⟨⟨hexitAt, hexit, hexitEdge⟩, ⟨hentryAt, hentry, hentryEdge, ?_⟩, ?_,
    fun i hix hiy => ?_⟩
  · have hkind : EdgeKind.crossCustomModule ≠ .callContinuation := by decide
    obtain ⟨z, hz, hstands⟩ := hentryEdge.edge
    rw [hz, hstands.eq_of_ne hkind]
  · rw [Array.size_setIfInBounds, Array.size_setIfInBounds]
  · rw [get_setIfInBounds, if_neg fun h => hiy h.1, get_setIfInBounds,
      if_neg fun h => hix h.1]

/-- Two blocks of a cluster are led to a block of another one by calls of one signature.  The points
are new when the first call is split, and the second call passes through the same ones. -/
theorem placed_split_threeBlocks : ∃ first cs second cs',
    Crossing.split ⟨⟨0⟩, ⟨0⟩⟩ ⟨⟨1⟩, ⟨0⟩⟩ ⟨.callContinuation, 0, 9, true⟩ threeBlocks =
      .ok first cs ∧
    Crossing.split ⟨⟨0⟩, ⟨1⟩⟩ ⟨⟨1⟩, ⟨0⟩⟩ ⟨.callContinuation, 0, 9, true⟩ cs = .ok second cs' ∧
    (first.exitCreated ∧ first.entryCreated) ∧
    ((second.exit.node, second.exitCreated) = (first.exit.node, false) ∧
      (cs.get ⟨0⟩).graph.Granted (cs'.get ⟨0⟩).graph
        ⟨⟨1⟩, second.exit.node, .callContinuation, 0⟩ second.exitEdge) ∧
    (second.entry.node, second.entryCreated) = (first.entry.node, false) ∧
      (cs.get ⟨1⟩).graph.Granted (cs'.get ⟨1⟩).graph
        ⟨second.entry.node, ⟨0⟩, .crossCustomModule, 0⟩ second.entryEdge := by
  obtain ⟨_, hmain⟩ := main_threeBlocks
  obtain ⟨-, _, hlibrary⟩ := get_twoBlocks
  change threeBlocks.get ⟨1⟩ = _ at hlibrary
  have hx : (threeBlocks.get ⟨0⟩).graph.hasNode ⟨0⟩ := by rw [hmain]; rfl
  have hy : (threeBlocks.get ⟨1⟩).graph.hasNode ⟨0⟩ := by rw [hlibrary]; rfl
  have hentries (signature : UInt64) : (threeBlocks.get ⟨0⟩).entryPoint? signature = none := by
    rw [hmain]
    exact Std.HashMap.getElem?_empty
  have hnoExit : (threeBlocks.get ⟨0⟩).exitPoint? 9 = none := by
    rw [hmain]
    exact Std.HashMap.getElem?_empty
  have hnoEntry : (threeBlocks.get ⟨1⟩).entryPoint? 9 = none := by
    rw [hlibrary]
    exact Std.HashMap.getElem?_empty
  have hnoEdge (e : EdgeId) : (threeBlocks.get ⟨0⟩).graph.edge? e = none := by rw [hmain]; rfl
  -- the first call, which makes the points
  obtain ⟨first, cs, hfirst⟩ := (exists_split_iff (x := ⟨⟨0⟩, ⟨0⟩⟩) (y := ⟨⟨1⟩, ⟨0⟩⟩)
    (t := ⟨.callContinuation, 0, 9, true⟩) reached_threeBlocks (by decide) hx hy
    fun exit hexit => by cases hnoExit.symm.trans hexit).2
    fun e z hz => by cases (hnoEdge e).symm.trans hz.1
  obtain ⟨⟨-, hexit, hexitEdge⟩, ⟨-, hentry, -⟩, -⟩ :=
    placed_split (reached_threeBlocks.mono fun _ _ hq => hq.1) hx hy hfirst
  have hexitNew : (first.exit.node, first.exitCreated) = (⟨2⟩, true) := by
    rw [(hexit.made hnoExit).1, hmain]
    rfl
  have hentryNew : (first.entry.node, first.entryCreated) = (⟨1⟩, true) := by
    rw [(hentry.made hnoEntry).1, hlibrary]
    rfl
  have hreached : Reached (fun cs q => q.Orderly cs ∧ q.Detached cs) cs := by
    have hstep := reached_threeBlocks.step
      (.split ⟨⟨0⟩, ⟨0⟩⟩ ⟨⟨1⟩, ⟨0⟩⟩ ⟨.callContinuation, 0, 9, true⟩)
      ⟨⟨hx, hy⟩, fun signature => by rw [hentries]; exact nofun⟩
    rwa [Request.apply, hfirst] at hstep
  -- the second call, whose source nothing leaves yet
  have hx₂ : (cs.get ⟨0⟩).graph.hasNode ⟨1⟩ := by
    refine (hexit.nodes ⟨1⟩ ?_).1.2 (by rw [hmain]; rfl)
    rw [hexitNew]
    decide
  have hy₂ : (cs.get ⟨1⟩).graph.hasNode ⟨0⟩ := by
    refine (hentry.nodes ⟨0⟩ ?_).1.2 hy
    rw [hentryNew]
    decide
  have hsource : ∀ e z, (cs.get ⟨0⟩).graph.edge? e = some z → z.source ≠ ⟨1⟩ := by
    intro e z hz
    rcases hexitEdge.edge?_eq_some hz with hold | hstands
    · cases (hnoEdge e).symm.trans hold
    · have hne : (⟨0⟩ : NodeId) ≠ ⟨1⟩ := by decide
      rwa [hstands.1]
  obtain ⟨second, cs', hsecond⟩ := (exists_split_iff (x := ⟨⟨0⟩, ⟨1⟩⟩) (y := ⟨⟨1⟩, ⟨0⟩⟩)
    (t := ⟨.callContinuation, 0, 9, true⟩) hreached (by decide) hx₂ hy₂
    fun exit _ ⟨e, z, hz, hends⟩ => hsource e z hz hends.1).2
    fun e z hz => absurd hz.2 (hsource e z hz.1)
  obtain ⟨⟨-, hexit₂, hexitEdge₂⟩, ⟨-, hentry₂, hentryEdge₂, -⟩, -⟩ :=
    placed_split (hreached.mono fun _ _ hq => hq.1) hx₂ hy₂ hsecond
  exact ⟨first, cs, second, cs', hfirst, hsecond,
    ⟨congrArg Prod.snd hexitNew, congrArg Prod.snd hentryNew⟩,
    ⟨(hexit₂.kept _ hexit.point).1, hexitEdge₂⟩, (hentry₂.kept _ hentry.point).1, hentryEdge₂⟩

/-- **A split is refused on the side of its source only**, and a refused one leaves the clusters as
they were, but for a new exit without edges where there was none for the signature.  It takes that
no edge was asked for from the entry of a signature, other than by transfers. -/
theorem split_refused (h : Reached (fun cs q => q.Orderly cs ∧ q.Detached cs) cs)
    (hxy : x.cluster ≠ y.cluster) (hx : (cs.get x.cluster).graph.hasNode x.node)
    (hy : (cs.get y.cluster).graph.hasNode y.node) :
    (∀ exit cs₁, Crossing.splitExit x t cs = .ok exit cs₁ →
      ∃ entry cs₂, Crossing.splitEntry y t cs₁ = .ok entry cs₂) ∧
    ∀ cause cs', Crossing.split x y t cs = .error cause cs' →
      cs'.size = cs.size ∧ (∀ i, i ≠ x.cluster → cs'.get i = cs.get i) ∧
      (cs'.get x.cluster = cs.get x.cluster ∨
        (cs.get x.cluster).exitPoint? t.signature = none ∧ cs'.get x.cluster =
          { cs.get x.cluster with
            graph := (cs.get x.cluster).graph.withNode (.boundary t.signature .clusterExit
              t.isCallback ((cs.get x.cluster).graph.node x.node).unit)
            exits := (cs.get x.cluster).exits.insert t.signature
              ⟨(cs.get x.cluster).graph.nodeCount⟩ }) := by
  have htidy := tidy_of_reached (fun _ _ hq => hq.1) h
  have hquiet := quiet_of_reached (fun _ _ hq => hq) h
  have hxi := index_lt_of_hasNode hx
  have hyi := index_lt_of_hasNode hy
  obtain ⟨entry, d, henter⟩ := (htidy y.cluster).exists_enter (hquiet y.cluster) y.node t
  constructor
  · intro exit cs₁ hr
    rw [Crossing.splitExit_eq hxi] at hr
    obtain ⟨c, hleave, rfl⟩ := on_eq_ok hr
    refine ⟨entry, Array.setIfInBounds (cs.setIfInBounds x.cluster.index c) y.cluster.index d, ?_⟩
    rw [Crossing.splitEntry_eq (by rwa [Array.size_setIfInBounds])]
    refine on_eq_ok_iff.2 ⟨d, ?_, rfl⟩
    rw [get_setIfInBounds, if_neg fun h => hxy h.1.symm, henter]
  · intro cause cs' hr
    rw [Crossing.split_eq hxy hxi hyi] at hr
    cases hleave : Cluster.leave x.node t (cs.get x.cluster) with
    | ok exit c =>
      rw [hleave, henter] at hr
      cases hr
    | error cause c =>
      rw [hleave] at hr
      cases hr
      refine ⟨Array.size_setIfInBounds, fun i hi => ?_, ?_⟩
      · rw [get_setIfInBounds, if_neg fun h => hi h.1]
      · rw [get_setIfInBounds, if_pos ⟨rfl, hxi⟩]
        exact (htidy x.cluster).leave_eq_error hleave

/-- Two clusters with a block each, of which one leads to itself. -/
def jumpingBlock : Clusters := (Request.one ⟨0⟩ (.edge ⟨0⟩ ⟨0⟩ .direct 0)).apply twoBlocks

/-- The block that leads to itself is to be led to the other one by an edge of another kind. -/
theorem split_refused_jumpingBlock : ∃ cause cs',
    Crossing.split ⟨⟨0⟩, ⟨0⟩⟩ ⟨⟨1⟩, ⟨0⟩⟩ ⟨.indirect, 0, 9, false⟩ jumpingBlock =
      .error cause cs' ∧
    cs'.size = jumpingBlock.size ∧ ∀ i, i ≠ ⟨0⟩ → cs'.get i = jumpingBlock.get i := by
  obtain ⟨hmain, hlibrary⟩ := graph_twoBlocks
  have hget : jumpingBlock.get ⟨0⟩ =
      (Cluster.addEdge ⟨0⟩ ⟨0⟩ .direct 0 (twoBlocks.get ⟨0⟩)).state := rfl
  rw [Cluster.addEdge, Cluster.state_onGraph, hmain] at hget
  have hreached : Reached (fun cs q => q.Orderly cs ∧ q.Detached cs) jumpingBlock := by
    refine .step _ reached_twoBlocks ⟨⟨?_, ?_⟩, fun signature => ?_⟩
    · rw [hmain]; rfl
    · rw [hmain]; rfl
    · rw [(points_twoBlocks signature).1]
      exact (Option.some_ne_none _).symm
  have hx : (jumpingBlock.get ⟨0⟩).graph.hasNode ⟨0⟩ := by rw [hget]; decide +kernel
  have hy : (jumpingBlock.get ⟨1⟩).graph.hasNode ⟨0⟩ := by
    have hother : jumpingBlock.get ⟨1⟩ = twoBlocks.get ⟨1⟩ := rfl
    rw [hother, hlibrary]
    rfl
  have hedge : (jumpingBlock.get ⟨0⟩).graph.edge? ⟨0⟩ = some ⟨⟨0⟩, ⟨0⟩, .direct, 0⟩ := by
    rw [hget]
    decide +kernel
  have hnone : (jumpingBlock.get ⟨0⟩).exitPoint? 9 = none := by
    rw [hget]
    exact (points_twoBlocks 9).2
  have hrefused : ¬∃ crossing cs', Crossing.split ⟨⟨0⟩, ⟨0⟩⟩ ⟨⟨1⟩, ⟨0⟩⟩ ⟨.indirect, 0, 9, false⟩
      jumpingBlock = .ok crossing cs' := by
    rw [exists_split_iff hreached (by decide) hx hy fun exit hexit => by
      cases hnone.symm.trans hexit]
    intro haccepts
    have hkind := haccepts ⟨0⟩ _ ⟨hedge, rfl⟩
    rw [if_neg (by decide)] at hkind
    cases hkind (by decide) rfl
  cases hsplit : Crossing.split ⟨⟨0⟩, ⟨0⟩⟩ ⟨⟨1⟩, ⟨0⟩⟩ ⟨.indirect, 0, 9, false⟩ jumpingBlock with
  | ok crossing cs' => exact absurd ⟨crossing, cs', hsplit⟩ hrefused
  | error cause cs' =>
    have h := (split_refused hreached (by decide) hx hy).2 _ _ hsplit
    exact ⟨_, _, rfl, h.1, h.2.1⟩

end Clusters
end FlowAtlas
