import FlowAtlas.Proofs.Cluster.Splitting
import FlowAtlas.Proofs.Graph.Unreached
import FlowAtlas.Proofs.Load.Locality

/-!
# What a load leaves unreached

A load ends with a search of every cluster that holds nodes.  The search starts at the nodes that
`Cluster.IsStart` describes, and `Cluster.Searched` says what it leaves behind: a node is flagged
exactly when no such node leads to it, and a cluster without nodes has not been searched.

No request searches a cluster (`reachability_apply`), so before the search nothing is flagged
anywhere (`Makes.unsearched`).  `TraceFiles.searched_of_load` is about a whole load, and
`unreachable_exact` puts it beside the exactness of the search itself.
-/

set_option autoImplicit false

namespace FlowAtlas

open EStateM FlowAtlas.Graph

/-! ## Where a search starts -/

namespace Cluster

variable {c : Cluster} {n : NodeId} {task : Cluster.Task}

/-- Execution may enter the cluster here. -/
inductive IsStart (c : Cluster) (n : NodeId) : Prop
  /-- The entry of a signature. -/
  | entry {signature : UInt64} : c.entryPoint? signature = some n → IsStart c n
  | root : c.root = some n → IsStart c n
  /-- A node of an entry kind, registered or not. -/
  | kind : c.graph.hasNode n → (c.graph.node n).kind = .processEntry ∨
      (c.graph.node n).kind = .clusterEntry → IsStart c n

theorem mem_roots_iff : n ∈ c.roots ↔ c.IsStart n := by
  have hroots : n ∈ c.roots ↔ ((∃ signature, c.entryPoint? signature = some n) ∨ c.root = some n) ∨
      c.graph.hasNode n ∧ (c.graph.node n).kind.isEntry := by
    rw [roots, entryPoints, List.mem_append, mem_ascending, List.mem_append, mem_values_iff,
      Option.mem_toList, List.mem_filter, mem_nodeIds]
    rfl
  rw [hroots]
  simp only [NodeKind.isEntry, Bool.or_eq_true, decide_eq_true_eq]
  constructor
  · rintro ((⟨signature, hn⟩ | hn) | ⟨hn, hkind⟩)
    · exact .entry hn
    · exact .root hn
    · exact .kind hn hkind
  · rintro (hn | hn | ⟨hn, hkind⟩)
    · exact Or.inl (Or.inl ⟨_, hn⟩)
    · exact Or.inl (Or.inr hn)
    · exact Or.inr ⟨hn, hkind⟩

/-- The search of the cluster is up to date. -/
structure Searched (c : Cluster) : Prop where
  /-- A cluster without nodes has not been searched. -/
  absent : c.graph.nodeCount = 0 → c.reachability = none
  present : 0 < c.graph.nodeCount → c.reachability.isSome
  /-- Flagged are the nodes that no start leads to. -/
  flagged_iff : ∀ n, c.isUnreachable n ↔ c.graph.hasNode n ∧ ∀ s, c.IsStart s → ¬c.graph.Leads s n

/-- A search that has just been made is up to date. -/
theorem Coherent.searched_findUnreachable (h : c.Coherent) (hcount : 0 < c.graph.nodeCount) :
    c.findUnreachable.2.Searched where
  absent hnone := absurd hnone (Nat.ne_of_gt hcount)
  present _ := rfl
  flagged_iff n := by
    have hflag : c.findUnreachable.2.isUnreachable n ↔
        n ∈ (Reachability.analyze c.graph c.roots).unreachable := by
      rw [findUnreachable, isUnreachable, decide_eq_true_iff]
    -- the search has changed nothing that a start depends on
    have hstart : ∀ s, c.findUnreachable.2.IsStart s ↔ s ∈ c.roots := fun s => mem_roots_iff.symm
    rw [hflag, Reachability.mem_unreachable_iff h.graph]
    simp only [hstart]
    rfl

/-- Where there are no nodes, no search is as good as one. -/
theorem searched_of_nodeCount_eq_zero (hcount : c.graph.nodeCount = 0)
    (hnone : c.reachability = none) : c.Searched where
  absent _ := hnone
  present hpos := absurd hcount (Nat.ne_of_gt hpos)
  flagged_iff n := by
    refine iff_of_false (fun hflag => ?_) fun hn => ?_
    · rw [isUnreachable, hnone] at hflag
      cases hflag
    · have hn := hasNode_iff.1 hn.1
      rw [nodeCount] at hcount
      omega

/-! ## Before the search -/

theorem NodeStep.reachability_eq {x : Node} {placed : NodeId × Bool} {c' : Cluster}
    (hs : NodeStep c x (placed, c')) : c'.reachability = c.reachability := by
  cases hs <;> rfl

/-- A request does not search the cluster. -/
theorem reachability_apply (c : Cluster) (q : Request) :
    (q.apply c).reachability = c.reachability := by
  cases hx : q.asked? with
  | some x =>
    obtain ⟨placed, hs⟩ := Request.nodeStep c hx
    exact hs.reachability_eq
  | none =>
    cases q with
    | edge s t k o => rw [Request.apply, addEdge, state_onGraph]
    | node | entryFor | exitFor | root => cases hx

/-- A task is done by requests. -/
theorem reachability_run {c' : Cluster} (hr : task.run c = .ok () c') :
    c'.reachability = c.reachability := by
  have hstate : ∀ {α : Type} {x : EStateM GraphError Cluster α},
      (x >>= fun _ => pure ()) c = .ok () c' → (x c).state = c' := by
    intro α x h
    obtain ⟨a, c₁, hx, hpure⟩ := bind_eq_ok_iff.1 h
    cases hpure
    rw [hx, Result.state_ok]
  cases task with
  | join a b k o =>
    rw [← hstate hr]
    exact reachability_apply c (.edge a b k o)
  | leave a t => rw [← hstate hr, state_leave, reachability_apply, reachability_apply]
  | enter b t => rw [← hstate hr, state_enter, reachability_apply, reachability_apply]

end Cluster

namespace Clusters

variable {cs cs' : Clusters} {tasks : List (ClusterId × Cluster.Task)}

/-- No cluster has been searched. -/
def Unsearched (cs : Clusters) : Prop :=
  ∀ i, (cs.get i).reachability = none

theorem Unsearched.ask (h : cs.Unsearched) (i : ClusterId) (q : Cluster.Request) :
    (cs.ask i q).Unsearched :=
  forall_get_ask (p := fun _ c => c.reachability = none) h fun _ =>
    (Cluster.reachability_apply _ q).trans (h i)

theorem Unsearched.withRoot (h : cs.Unsearched) (first : ClusterNode) (kind : NodeKind) :
    (cs.withRoot first kind).Unsearched := by
  rw [Clusters.withRoot]
  split
  · exact h.ask _ _
  · exact (h.ask _ _).ask _ _

theorem Unsearched.perform (h : cs.Unsearched) (hr : Clusters.perform tasks cs = .ok () cs') :
    cs'.Unsearched := by
  induction tasks generalizing cs with
  | nil =>
    cases hr
    exact h
  | cons q tasks ih =>
    obtain ⟨c, hc, htasks⟩ := perform_cons_eq_ok_iff.1 hr
    refine ih (fun i => ?_) htasks
    rw [get_setIfInBounds]
    split
    · exact (Cluster.reachability_run hc).trans (h _)
    · exact h i

end Clusters

namespace Loading

variable {r : Routing} {s s' : LoadState} {blocks : List (Nat × NodeRecord)}

theorem clusters_addRoot {first : ClusterNode} {kind : NodeKind} {u : Unit}
    (hr : addRoot first kind s = .ok u s') : s'.clusters = s.clusters.withRoot first kind := by
  have hstate := state_addRoot first kind s
  rwa [hr, Result.state_ok] at hstate

theorem unsearched_loadNodes (h : s.clusters.Unsearched)
    (hr : (blocks.forM fun q => loadNode r q.1 q.2) s = .ok () s') : s'.clusters.Unsearched := by
  induction blocks generalizing s with
  | nil =>
    cases hr
    exact h
  | cons q blocks ih =>
    obtain ⟨s₁, hq, hblocks⟩ := forM_cons_eq_ok_iff.1 hr
    refine ih ?_ hblocks
    obtain ⟨s₀, hclusters, -, hq'⟩ := loadNode_eq r q s
    have h₀ : s₀.clusters.Unsearched := hclusters ▸ h.ask _ _
    rw [hq'] at hq
    split at hq
    · exact clusters_addRoot hq ▸ h₀.withRoot _ _
    · cases hq
      exact h₀

end Loading

namespace TraceFiles

variable {t : TraceFiles} {config : ClusterConfig} {g : ProcessGraph} {s : LoadState}
  {blocks : List (Nat × NodeRecord)} {edges : List (Nat × EdgeRecord)}
  {crosses : List (Nat × CrossRecord)} {cs : Clusters} {c : Cluster}

theorem Makes.unsearched (h : t.Makes config g blocks edges crosses s cs) : cs.Unsearched := by
  have hempty : config.emptyClusters.Unsearched := fun i => by
    obtain ⟨id, name, hi⟩ := get_emptyClusters config i
    rw [hi, Cluster.empty]
  exact (Loading.unsearched_loadNodes hempty h.runs.placed).perform h.runs.performed

/-- **A load leaves every cluster searched**, if it has nodes. -/
theorem searched_of_load (h : (t.load config).result = .ok g) (hc : c ∈ g.clusters.toList) :
    c.Searched := by
  obtain ⟨blocks, edges, crosses, s, cs, h⟩ := load_eq_ok_iff.1 h
  obtain ⟨i, rfl⟩ := Clusters.exists_get_eq hc
  have hcoherent := Clusters.coherent_perform h.coherent h.ready h.runs.performed i
  rw [h.clusters, Clusters.get_searched]
  split
  · rename_i hpos
    exact hcoherent.searched_findUnreachable hpos
  · rename_i hzero
    exact Cluster.searched_of_nodeCount_eq_zero (by omega) (h.unsearched i)

end TraceFiles

/-! ## Exactness -/

/-- **The unreachable nodes are exact**: in a graph they are the nodes that none of the given roots
leads to, and after a load every cluster flags the nodes that no start leads to. -/
theorem unreachable_exact :
    (∀ g : Graph, g.Reachable → ∀ roots : List NodeId, (∀ r ∈ roots, g.hasNode r) → ∀ n,
      n ∈ (Reachability.analyze g roots).unreachable ↔
        g.hasNode n ∧ ∀ r ∈ roots, ¬g.Leads r n) ∧
      ∀ (t : TraceFiles) (config : ClusterConfig) (g : ProcessGraph),
        (t.load config).result = .ok g → ∀ c ∈ g.clusters.toList, c.Searched :=
  ⟨fun _ hg roots _ _ => Reachability.mem_unreachable_iff (coherent_of_reachable hg) roots,
    fun _ _ _ hload _ hc => TraceFiles.searched_of_load hload hc⟩

open TraceFiles in
theorem unreachable_exact_oneBlock :
    (⟨2⟩ ∈ (Reachability.analyze Reachability.loopWithExit [⟨0⟩]).unreachable ↔
        Reachability.loopWithExit.hasNode ⟨2⟩ ∧
          ∀ r ∈ [(⟨0⟩ : NodeId)], ¬Reachability.loopWithExit.Leads r ⟨2⟩) ∧
      ∃ g c, (oneBlock.load (.empty "main")).result = .ok g ∧ c ∈ g.clusters.toList ∧
        c.graph.nodeCount = 2 ∧ c.Searched := by
  refine ⟨unreachable_exact.1 _ Reachability.reachable_loopWithExit [⟨0⟩] (by decide +kernel) _, ?_⟩
  obtain ⟨u, s, hs, -, hnode, -, hcount, -⟩ := exists_stages_oneBlock
  have hload := load_oneBlock hs
  have hc := Clusters.mem_of_hasNode hnode
  exact ⟨_, _, hload, hc, hcount, unreachable_exact.2 _ _ _ hload _ hc⟩

end FlowAtlas
