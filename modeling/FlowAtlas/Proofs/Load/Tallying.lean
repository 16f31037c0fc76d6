import FlowAtlas.Proofs.Cluster.Population
import FlowAtlas.Proofs.Load.Account
import FlowAtlas.Proofs.Load.Origin
import Mathlib.Algebra.BigOperators.Group.List.Lemmas
import Mathlib.Algebra.Ring.Nat

/-!
# The numbers of blocks in a summary

A summary takes its numbers from the counts that the clusters keep.  `ClusterSummary.Counts` says
that they are the numbers of nodes and edges in the graph, and `blockCounts_exact` that this is so
in the summary of every load, and that the counts of a cluster are right after any requests.

No request can make the counts wrong, so a load needs no more than the rule
`TraceFiles.forall_clusters_of_load` for what every request keeps.
-/

set_option autoImplicit false

namespace FlowAtlas

/-!
## How many blocks a cluster has

A cluster counts its ordinary nodes while they come, in all and for each unit, and never looks at
the graph again.  `Cluster.Tallied` says that the counts are those of the graph.

What is counted goes by the node that is asked for, what is stored may be another node of the same
key.  The two agree as a node is counted only if it is new, and is stored as it is then.
`Cluster.CountsOwners` is the invariant, in terms of the units that own the ordinary nodes
(`Graph.owners`).  One request keeps it whatever is asked for (`CountsOwners.apply`), and `Tallied`
follows from it.
-/

/-! ### Ordinary nodes -/

namespace NodeKind

variable {k : NodeKind}

theorem isBoundary_eq_false_iff : k.isBoundary = false ↔ k ≠ .clusterEntry ∧ k ≠ .clusterExit := by
  cases k <;> decide

/-- Every kind counts as executable but those of entries and exits for other clusters. -/
theorem isExecutable_iff : k.isExecutable ↔ k ≠ .clusterEntry ∧ k ≠ .clusterExit := by
  rw [isExecutable, Bool.not_eq_true', isBoundary_eq_false_iff]

end NodeKind

namespace Graph

variable {g g' : Graph} {x : Node} {u : UnitId}

/-- The nodes that are neither entries nor exits for other clusters. -/
def ordinaryNodes (g : Graph) : List Node :=
  g.nodes.toList.filter fun x => x.kind ≠ .clusterEntry ∧ x.kind ≠ .clusterExit

/-- The ordinary nodes of a unit. -/
def ordinaryNodesOf (g : Graph) (u : UnitId) : List Node :=
  g.ordinaryNodes.filter (·.unit = u)

/-- The unit of each ordinary node, in the order of the nodes. -/
def owners (g : Graph) : List UnitId := g.ordinaryNodes.map (·.unit)

theorem length_owners (g : Graph) : g.owners.length = g.ordinaryNodes.length :=
  List.length_map _

theorem count_owners (g : Graph) (u : UnitId) :
    g.owners.count u = (g.ordinaryNodesOf u).length := by
  rw [owners, List.count, List.countP_map, List.countP_eq_length_filter, ordinaryNodesOf]
  rfl

theorem mem_owners_iff : u ∈ g.owners ↔ g.ordinaryNodesOf u ≠ [] := by
  rw [← List.count_pos_iff, count_owners, List.length_pos_iff]

theorem owners_eq (g : Graph) :
    g.owners = (g.bares.filter fun x => !x.kind.isBoundary).map (·.unit) := by
  rw [owners, ordinaryNodes, bares, List.filter_map, List.map_map]
  refine congrArg _ (List.filter_congr fun x _ => ?_)
  show decide (x.kind ≠ .clusterEntry ∧ x.kind ≠ .clusterExit) = !x.kind.isBoundary
  rw [Bool.eq_iff_iff, decide_eq_true_iff, Bool.not_eq_true', NodeKind.isBoundary_eq_false_iff]

theorem SameNodes.owners_eq (h : SameNodes g g') : g'.owners = g.owners := by
  rw [Graph.owners_eq, Graph.owners_eq, h.bares_eq]

theorem owners_withNode (g : Graph) (x : Node) :
    (g.withNode x).owners = if x.kind.isBoundary then g.owners else g.owners ++ [x.unit] := by
  rw [owners_eq, owners_eq, bares_withNode, List.filter_append, List.map_append]
  by_cases hx : x.kind.isBoundary
  · simp [Node.bare, hx]
  · simp [Node.bare, hx]

/-- Boundary nodes have no owner that counts. -/
theorem owners_addNode_of_isBoundary (g : Graph) (hx : x.kind.isBoundary) :
    (g.addNode x).2.owners = g.owners := by
  cases hfind : g.find? x.key with
  | some n => rw [addNode_of_find? hfind]
  | none => rw [addNode_of_new hfind, owners_withNode, if_pos hx]

end Graph

namespace Cluster

variable {c c' : Cluster} {q : Request} {x : Node} {placed : NodeId × Bool} {u : UnitId}
  {s : UnitShare}

/-! ### The invariant -/

/-- The cluster counts the owners of its ordinary nodes. -/
structure CountsOwners (c : Cluster) : Prop where
  blockCount_eq : c.blockCount = c.graph.owners.length
  getElem?_blocks : ∀ u,
    c.blocks[u]? = if u ∈ c.graph.owners then some (c.graph.owners.count u) else none

theorem countsOwners_empty (id : ClusterId) (name : String) : CountsOwners (.empty id name) where
  blockCount_eq := rfl
  getElem?_blocks _ := Std.HashMap.getElem?_empty

namespace CountsOwners

/-- Nothing has to be counted while the owners stay the same. -/
theorem of_owners_eq (h : c.CountsOwners) (howners : c'.graph.owners = c.graph.owners)
    (hblocks : c'.blocks = c.blocks) (hcount : c'.blockCount = c.blockCount) :
    c'.CountsOwners where
  blockCount_eq := by rw [hcount, howners, h.blockCount_eq]
  getElem?_blocks u := by rw [hblocks, howners, h.getElem?_blocks]

/-- A block counts exactly when it is new to the graph. -/
theorem addBlock (h : c.CountsOwners) (hx : x.kind.isBoundary = false) :
    (c.addBlock x).2.CountsOwners := by
  cases hfind : c.graph.find? x.key with
  | some n =>
    rw [addBlock_of_find? hfind]
    exact h
  | none =>
    have howners : (c.graph.withNode x).owners = c.graph.owners ++ [x.unit] := by
      rw [Graph.owners_withNode, if_neg (Bool.eq_false_iff.1 hx)]
    have hexecutable : x.kind.isExecutable :=
      NodeKind.isExecutable_iff.2 (NodeKind.isBoundary_eq_false_iff.1 hx)
    rw [Cluster.addBlock, Graph.addNode_of_new hfind]
    simp only [hexecutable, if_true]
    exact {
      blockCount_eq := by simp [howners, h.blockCount_eq]
      getElem?_blocks := fun u => by
        simp only [howners, Std.HashMap.getElem?_alter, h.getElem?_blocks, beq_iff_eq]
        by_cases hu : x.unit = u
        · subst hu
          by_cases hold : x.unit ∈ c.graph.owners
          · simp [hold]
          · simp [hold, List.count_eq_zero.2 hold]
        · simp [hu, Ne.symm hu] }

/-- Nodes that are no blocks change no count. -/
theorem nodeStep (h : c.CountsOwners) (hs : NodeStep c x (placed, c'))
    (hx : x.key = .processRoot ∨ x.kind.isBoundary) : c'.CountsOwners := by
  cases hs with
  | knownEntry | knownExit | knownRoot => exact h
  | entry _ hkind | exit _ hkind =>
    refine h.of_owners_eq (Graph.owners_addNode_of_isBoundary _ ?_) rfl rfl
    rw [hkind]
    rfl
  | root => exact h.of_owners_eq (Graph.owners_addNode_of_isBoundary _ rfl) rfl rfl
  | block _ _ hkey hkind =>
    rw [hkind] at hx
    rcases hx with hroot | hboundary
    · exact absurd hroot hkey
    · cases hboundary

/-- **Every request keeps the counts right**, granted or refused, whatever node is asked for and
wherever an edge is. -/
theorem apply (h : c.CountsOwners) (q : Request) : (q.apply c).CountsOwners := by
  cases q with
  | node x =>
    by_cases hx : x.key = .processRoot ∨ x.kind.isBoundary
    · exact h.nodeStep (nodeStep_addNode c x) hx
    · rw [not_or, Bool.not_eq_true] at hx
      rw [Request.apply, addNode_eq_addBlock hx.1 hx.2]
      exact h.addBlock hx.2
  | entryFor hash owner isCallback =>
    exact h.nodeStep (nodeStep_addEntryFor c hash owner isCallback) (Or.inr rfl)
  | exitFor hash owner isCallback =>
    exact h.nodeStep (nodeStep_addExitFor c hash owner isCallback) (Or.inr rfl)
  | root owner => exact h.nodeStep (nodeStep_addRoot c owner) (Or.inl rfl)
  | edge s t k o =>
    rw [Request.apply, addEdge, state_onGraph]
    exact h.of_owners_eq (c.graph.sameNodes_addEdge s t k o).owners_eq rfl rfl

theorem run {rs : List Request} (h : c.CountsOwners) : (Cluster.run c rs).CountsOwners := by
  induction rs generalizing c with
  | nil => exact h
  | cons q rs ih => exact ih (h.apply q)

/-! ### What follows for the counts -/

/-- The shares are those of the owners, each once. -/
theorem shares_perm (h : c.CountsOwners) :
    c.shares.Perm (c.graph.owners.dedup.map fun u => ⟨u, c.graph.owners.count u⟩) := by
  have hkeys : c.blocks.toList.Nodup :=
    Std.HashMap.distinct_keys_toList.imp fun {p q} hne heq => by simp [heq] at hne
  have htoList : c.blocks.toList.Perm
      (c.graph.owners.dedup.map fun u => (u, c.graph.owners.count u)) := by
    refine (List.perm_ext_iff_of_nodup hkeys ?_).2 fun ⟨u, n⟩ => ?_
    · exact (List.nodup_dedup _).map fun u v huv => congrArg Prod.fst huv
    · rw [Std.HashMap.mem_toList_iff_getElem?_eq_some, h.getElem?_blocks]
      simp
  refine (List.mergeSort_perm _ _).trans ?_
  have hmap := htoList.map fun p : UnitId × Nat => (⟨p.1, p.2⟩ : UnitShare)
  rwa [List.map_map] at hmap

/-- The shares add up to the number of all blocks. -/
theorem sum_shares (h : c.CountsOwners) :
    (c.shares.map (·.executableBlocks)).sum = c.graph.owners.length := by
  have hsum := (h.shares_perm.map (·.executableBlocks)).sum_eq
  rw [List.map_map] at hsum
  exact hsum.trans (List.sum_map_count_dedup_eq_length _)

end CountsOwners

theorem executableBlockCount_eq_sum (c : Cluster) :
    c.executableBlockCount = (c.shares.map (·.executableBlocks)).sum := by
  rw [executableBlockCount, List.sum_eq_foldl, List.foldl_map]

/-- The counts of the cluster are those of the ordinary nodes of its graph. -/
structure Tallied (c : Cluster) : Prop where
  blockCount_eq : c.blockCount = c.graph.ordinaryNodes.length
  executableBlockCount_eq : c.executableBlockCount = c.graph.ordinaryNodes.length
  /-- A unit has a share exactly when it owns an ordinary node, and its share is their number. -/
  share?_eq_some_iff : ∀ u s, c.share? u = some s ↔
    c.graph.ordinaryNodesOf u ≠ [] ∧ s = ⟨u, (c.graph.ordinaryNodesOf u).length⟩

theorem CountsOwners.tallied (h : c.CountsOwners) : c.Tallied where
  blockCount_eq := h.blockCount_eq.trans c.graph.length_owners
  executableBlockCount_eq := by
    rw [executableBlockCount_eq_sum, h.sum_shares, Graph.length_owners]
  share?_eq_some_iff u s := by
    rw [share?, h.getElem?_blocks, ← Graph.mem_owners_iff, ← Graph.count_owners]
    by_cases hu : u ∈ c.graph.owners
    · simp [hu, eq_comm]
    · simp [hu]

end Cluster

open EStateM

/-! ## Summaries -/

/-- The summary of the cluster has the numbers of its graph: the ordinary nodes, counted at once,
for all units together and unit by unit, and the edges. -/
structure ClusterSummary.Counts (s : ClusterSummary) (c : Cluster) : Prop where
  nodes_eq : s.nodes = c.graph.ordinaryNodes.length
  executableBlocks_eq : s.executableBlocks = s.nodes
  modules_eq : (s.modules.map (·.executableBlocks)).sum = s.nodes
  edges_eq : s.edges = c.graph.edges.size

theorem Cluster.CountsOwners.summarize {c : Cluster} (h : c.CountsOwners) (units : UnitTable) :
    (ProcessGraph.summarize units c).Counts c where
  nodes_eq := h.tallied.blockCount_eq
  executableBlocks_eq :=
    h.tallied.executableBlockCount_eq.trans h.tallied.blockCount_eq.symm
  modules_eq := by
    have hmap : ((ProcessGraph.summarize units c).modules.map (·.executableBlocks)) =
        c.shares.map (·.executableBlocks) := List.map_map
    rw [hmap, h.sum_shares, ← h.blockCount_eq]
    rfl
  edges_eq := rfl

/-- Clusters that count right have a summary that does, cluster by cluster. -/
theorem ProcessGraph.summary_counts {g : ProcessGraph} (h : ∀ i, (g.clusters.get i).CountsOwners) :
    List.Forall₂ (fun c s => s.Counts c) g.populated g.summary.clusters := by
  refine List.forall₂_map_right_iff.2 (List.forall₂_same.2 fun c hc => ?_)
  obtain ⟨i, rfl⟩ := Clusters.exists_get_eq (List.mem_of_mem_filter hc)
  exact (h i).summarize g.units

/-! ## Loads -/

namespace TraceFiles

variable {t : TraceFiles}

/-- What holds of a cluster without nodes and is kept by every request, whatever is asked for, holds
of every cluster after a load. -/
theorem forall_clusters_of_load {p : Cluster → Prop} (hempty : ∀ id name, p (.empty id name))
    (hask : ∀ c (q : Cluster.Request), p c → p (q.apply c))
    (hmark : ∀ c found, p c → p { c with reachability := found }) {config : ClusterConfig}
    {g : ProcessGraph} (h : (t.load config).result = .ok g) : ∀ i, p (g.clusters.get i) := by
  refine preserved_of_reflTransGen (p := fun cs => ∀ i, p (cs.get i)) (steps_of_load h)
    (fun cs cs' hstep hcs => ?_) fun i => ?_
  · cases hstep with
    | ask => exact Clusters.forall_get_ask (p := fun _ c => p c) hcs fun _ => hask _ _ (hcs _)
    | mark _ hget =>
      intro i
      obtain ⟨found, hi⟩ := hget i
      rw [hi]
      exact hmark _ found (hcs i)
  · obtain ⟨id, name, hi⟩ := get_emptyClusters config i
    exact hi ▸ hempty id name

end TraceFiles

/-- **Block counts are those of the graph**: of every cluster after any requests, and in the summary
of every load. -/
theorem blockCounts_exact :
    (∀ id name rs, (Cluster.run (.empty id name) rs).Tallied) ∧
      ∀ (t : TraceFiles) (config : ClusterConfig) (g : ProcessGraph),
        (t.load config).result = .ok g →
          List.Forall₂ (fun c s => s.Counts c) g.populated g.summary.clusters := by
  refine ⟨fun id name rs => (Cluster.countsOwners_empty id name).run.tallied, ?_⟩
  intro t config g hload
  exact ProcessGraph.summary_counts <| TraceFiles.forall_clusters_of_load
    Cluster.countsOwners_empty (fun _ q h => h.apply q)
    (fun _ _ h => h.of_owners_eq rfl rfl rfl) hload

open TraceFiles in
/-- Two clusters that have boundary nodes beside their block, and edges. -/
theorem blockCounts_exact_callingOut : ∃ g,
    ((callingOut mixedEdges).load (.empty "main")).result = .ok g ∧
      g.populated.map outline = callingOutline ∧
        List.Forall₂ (fun c s => s.Counts c) g.populated g.summary.clusters := by
  obtain ⟨g, hload, -, houtline⟩ := exists_load_callingOut mixedEdges List.mem_cons_self
  have hpopulated : g.populated = g.clusters.toList := by
    refine List.filter_eq_self.2 fun c hc => decide_eq_true ?_
    have hmem : outline c ∈ callingOutline := houtline ▸ List.mem_map_of_mem hc
    have hkeys : ∀ o ∈ callingOutline, 0 < o.2.1.length := by decide
    simpa [outline, Graph.nodeCount] using hkeys _ hmem
  exact ⟨g, hload, hpopulated ▸ houtline, blockCounts_exact.2 _ _ _ hload⟩

end FlowAtlas
