import Mathlib.Algebra.BigOperators.Group.List.Basic
import FlowAtlas.Proofs.Cluster.Tasks
import FlowAtlas.Proofs.Load.Blocks
import FlowAtlas.Proofs.Load.Edges

/-!
# A load as work on the clusters

What an edge record or a cross-module record comes to depends on the blocks alone, and these stay
once they are in place.  So all records can be judged beforehand: `Routing.edgeWork` and
`Routing.crossWork` say what a record asks of the clusters and what it counts, as a `Work`.

`Loading.Performs` says that a step of a load does a work, and nothing else as far as clusters, root
and counts go: the step succeeds exactly when the tasks do.  `worksAs_loadEdge` and
`worksAs_loadCross` are the single records, `WorksAs.forM` is a file of them, and
`TraceFiles.load_eq_ok_iff` is a whole load: it succeeds exactly when its files can be read, the
blocks are in place, the work of all records is done and the rule on entries and exits holds.
-/

set_option autoImplicit false

namespace FlowAtlas

open EStateM

/-! ## Counts -/

attribute [ext] LoadStats

namespace LoadStats

instance : Add LoadStats where
  add a b := {
    nodeRecords := a.nodeRecords + b.nodeRecords
    edgeRecords := a.edgeRecords + b.edgeRecords
    crossModuleRecords := a.crossModuleRecords + b.crossModuleRecords
    skippedSentinels := a.skippedSentinels + b.skippedSentinels
    discardedContinuations := a.discardedContinuations + b.discardedContinuations
    unresolvedEndpoints := a.unresolvedEndpoints + b.unresolvedEndpoints
    alternateVersionHits := a.alternateVersionHits + b.alternateVersionHits
    clusterCrossings := a.clusterCrossings + b.clusterCrossings
    misroutedEdges := a.misroutedEdges + b.misroutedEdges }

@[simp] theorem mk_add_mk (a b c d e f g h i a' b' c' d' e' f' g' h' i' : Nat) :
    (⟨a, b, c, d, e, f, g, h, i⟩ + ⟨a', b', c', d', e', f', g', h', i'⟩ : LoadStats) =
      ⟨a + a', b + b', c + c', d + d', e + e', f + f', g + g', h + h', i + i'⟩ := rfl

instance : Zero LoadStats := ⟨{}⟩

/-- Counts are added one by one. -/
instance : AddCommMonoid LoadStats where
  add_assoc _ _ _ := by ext <;> exact Nat.add_assoc _ _ _
  zero_add _ := by ext <;> exact Nat.zero_add _
  add_zero _ := by ext <;> exact Nat.add_zero _
  add_comm _ _ := by ext <;> exact Nat.add_comm _ _
  nsmul := nsmulRec

end LoadStats

/-! ## Work -/

/-- What records come to: tasks for the clusters, and what is counted. -/
structure Work where
  tasks : List (ClusterId × Cluster.Task)
  tally : LoadStats

namespace Work

/-- Something is counted. -/
def count (tally : LoadStats) : Work := ⟨[], tally⟩

instance : Append Work := ⟨fun v w => ⟨v.tasks ++ w.tasks, v.tally + w.tally⟩⟩

@[simp] theorem tasks_count (tally : LoadStats) : (count tally).tasks = [] := rfl

@[simp] theorem tally_count (tally : LoadStats) : (count tally).tally = tally := rfl

@[simp] theorem tasks_append (v w : Work) : (v ++ w).tasks = v.tasks ++ w.tasks := rfl

@[simp] theorem tally_append (v w : Work) : (v ++ w).tally = v.tally + w.tally := rfl

/-- One work after another. -/
def all (ws : List Work) : Work := ⟨ws.flatMap Work.tasks, (ws.map Work.tally).sum⟩

theorem all_cons (w : Work) (ws : List Work) : all (w :: ws) = w ++ all ws := rfl

theorem all_append (vs ws : List Work) : all (vs ++ ws) = all vs ++ all ws := by
  rw [all, List.flatMap_append, List.map_append, List.sum_append]
  rfl

/-- Work is ready when each part of it is. -/
theorem ready_all {α : Type} {cs : Clusters} {work : α → Work}
    (h : ∀ q, cs.Ready (work q).tasks) (records : List α) :
    cs.Ready (all (records.map work)).tasks := by
  intro p hp
  obtain ⟨w, hw, hp⟩ := List.mem_flatMap.1 hp
  obtain ⟨q, -, rfl⟩ := List.mem_map.1 hw
  exact h q p hp

end Work

/-- What a cross-module record tells, its ends apart. -/
def CrossRecord.transfer (record : CrossRecord) : Transfer :=
  ⟨record.edge.kind, record.edge.ordinal, record.signatureHash, record.isCallback⟩

namespace Routing

variable {r : Routing} {cs cs' : Clusters} {e : EdgeRecord} {stream : StreamKind} {position : Nat}
  {found : ClusterNode → ClusterNode → Work}

/-- What an edge record comes to, given what it comes to when both its ends are found. -/
def work (r : Routing) (cs : Clusters) (e : EdgeRecord) (stream : StreamKind) (position : Nat)
    (found : ClusterNode → ClusterNode → Work) : Work :=
  .count { alternateVersionHits := (r.fate cs e stream position).2 } ++
    match (r.fate cs e stream position).1 with
    | .skipped => .count { skippedSentinels := 1 }
    | .discarded => .count { discardedContinuations := 1 }
    | .unresolved => .count { unresolvedEndpoints := 1 }
    | .resolved x y => found x y

/-- What a record of the edge stream comes to: it joins two nodes of one cluster. -/
def edgeWork (r : Routing) (cs : Clusters) (q : Nat × EdgeRecord) : Work :=
  .count { edgeRecords := 1 } ++ r.work cs q.2 .edge q.1 fun x y =>
    if x.cluster = y.cluster then
      ⟨[(x.cluster, .join x.node y.node q.2.kind q.2.ordinal)], {}⟩
    else .count { misroutedEdges := 1 }

/-- What a cross-module record comes to: it joins two nodes of one cluster, or leaves one cluster
and enters another. -/
def crossWork (r : Routing) (cs : Clusters) (q : Nat × CrossRecord) : Work :=
  .count { crossModuleRecords := 1 } ++ r.work cs q.2.edge .crossModuleEdge q.1 fun x y =>
    if x.cluster = y.cluster then
      ⟨[(x.cluster, .join x.node y.node q.2.edge.kind q.2.edge.ordinal)], {}⟩
    else
      ⟨[(x.cluster, .leave x.node q.2.transfer), (y.cluster, .enter y.node q.2.transfer)],
        { clusterCrossings := 1 }⟩

/-- What all records of both kinds come to. -/
def allWork (r : Routing) (cs : Clusters) (edges : List (Nat × EdgeRecord))
    (crosses : List (Nat × CrossRecord)) : Work :=
  .all (edges.map (r.edgeWork cs)) ++ .all (crosses.map (r.crossWork cs))

/-! ### Judging by the blocks -/

theorem find?_of_sameBlocks (hsame : Clusters.SameBlocks cs cs') : r.find? cs' = r.find? cs := by
  funext e stream position
  have hversion : ∀ i unit tag, (fun version => (cs'.get i).graph.find? (.block unit tag version)) =
      fun version => (cs.get i).graph.find? (.block unit tag version) :=
    fun i unit tag => funext fun version => hsame i unit tag version
  rw [find?, find?]
  dsimp only
  rw [hversion, hsame]

theorem fate_of_sameBlocks (hsame : Clusters.SameBlocks cs cs') : r.fate cs' = r.fate cs := by
  funext e stream position
  rw [fate, fate, find?_of_sameBlocks hsame]

theorem edgeWork_of_sameBlocks (hsame : Clusters.SameBlocks cs cs') :
    r.edgeWork cs' = r.edgeWork cs := by
  funext q
  rw [edgeWork, edgeWork, work, work, fate_of_sameBlocks hsame]

theorem crossWork_of_sameBlocks (hsame : Clusters.SameBlocks cs cs') :
    r.crossWork cs' = r.crossWork cs := by
  funext q
  rw [crossWork, crossWork, work, work, fate_of_sameBlocks hsame]

/-- Only records that are resolved ask something of the clusters. -/
theorem mem_tasks_work (h : cs.Coherent) {p : ClusterId × Cluster.Task}
    (hp : p ∈ (r.work cs e stream position found).tasks) :
    ∃ x y, e.isSkipped = false ∧ r.Resolves cs stream position e.source x ∧
      r.Resolves cs stream position e.target y ∧ p ∈ (found x y).tasks := by
  cases hfate : (r.fate cs e stream position).1 with
  | resolved x y =>
    rw [work, hfate] at hp
    obtain ⟨hskip, hx, hy⟩ := (fate_eq_resolved_iff h).1 hfate
    exact ⟨x, y, hskip, hx, hy, hp⟩
  | skipped | discarded | unresolved =>
    rw [work, hfate] at hp
    cases hp

theorem ready_edgeWork (h : cs.Coherent) (q : Nat × EdgeRecord) :
    cs.Ready (r.edgeWork cs q).tasks := by
  intro p hp
  obtain ⟨x, y, -, hx, hy, hp⟩ := mem_tasks_work h hp
  split at hp
  · rename_i hxy
    rw [List.mem_singleton.1 hp]
    exact ⟨hx.hasNode, hxy ▸ hy.hasNode⟩
  · cases hp

theorem ready_crossWork (h : cs.Coherent) (q : Nat × CrossRecord) :
    cs.Ready (r.crossWork cs q).tasks := by
  intro p hp
  obtain ⟨x, y, -, hx, hy, hp⟩ := mem_tasks_work h hp
  split at hp
  · rename_i hxy
    rw [List.mem_singleton.1 hp]
    exact ⟨hx.hasNode, hxy ▸ hy.hasNode⟩
  · rcases List.mem_pair.1 hp with rfl | rfl
    · exact hx.hasNode
    · exact hy.hasNode

theorem ready_allWork {edges : List (Nat × EdgeRecord)} {crosses : List (Nat × CrossRecord)}
    (h : cs.Coherent) : cs.Ready (r.allWork cs edges crosses).tasks := by
  intro p hp
  rcases List.mem_append.1 hp with hp | hp
  · exact Work.ready_all (ready_edgeWork h) edges p hp
  · exact Work.ready_all (ready_crossWork h) crosses p hp

end Routing

/-- The clusters after the search for what no entry leads to. -/
def Clusters.searched (cs : Clusters) : Clusters :=
  cs.map fun c => if c.graph.nodeCount > 0 then c.findUnreachable.2 else c

/-! ## Steps of a load -/

namespace Loading

open Routing

variable {ε α : Type} {x y : Loading Unit} {s s' : LoadState} {u : Unit} {v w : Work}
  {i : ClusterId} {a b : NodeId} {k : EdgeKind} {o : UInt8} {stage : LoadStage}
  {n m : ClusterNode} {t : Transfer} {r : Routing} {e : EdgeRecord} {stream : StreamKind}
  {position : Nat}

/-- As far as clusters, root and counts go, the step does this work: it succeeds when the tasks do,
and then it has done them and counted. -/
structure Performs (x : Loading Unit) (s : LoadState) (w : Work) : Prop where
  exists_ok : ∀ cs, Clusters.perform w.tasks s.clusters = .ok () cs → ∃ s', x s = .ok () s'
  eq_ok : ∀ s', x s = .ok () s' → Clusters.perform w.tasks s.clusters = .ok () s'.clusters ∧
    s'.root = s.root ∧ s'.stats = s.stats + w.tally

/-- A step may look at the state first. -/
theorem Performs.get_bind {f : LoadState → Loading Unit} (h : Performs (f s) s w) :
    Performs (get >>= f) s w where
  exists_ok := h.exists_ok
  eq_ok := h.eq_ok

/-- One step after another does one work after another. -/
theorem Performs.seq (hx : Performs x s v) (hy : ∀ s₁, x s = .ok () s₁ → Performs y s₁ w) :
    Performs (x >>= fun _ => y) s (v ++ w) where
  exists_ok cs hcs := by
    obtain ⟨cs₁, hv, hw⟩ := Clusters.perform_append_eq_ok_iff.1 hcs
    obtain ⟨s₁, hr⟩ := hx.exists_ok cs₁ hv
    obtain ⟨hv', -, -⟩ := hx.eq_ok s₁ hr
    cases hv.symm.trans hv'
    obtain ⟨s', hr'⟩ := (hy s₁ hr).exists_ok cs hw
    exact ⟨s', (bind_of_ok hr).trans hr'⟩
  eq_ok s' hr := by
    obtain ⟨_, s₁, hr₁, hr₂⟩ := bind_eq_ok_iff.1 hr
    obtain ⟨hv, hroot₁, hstats₁⟩ := hx.eq_ok s₁ hr₁
    obtain ⟨hw, hroot₂, hstats₂⟩ := (hy s₁ hr₁).eq_ok s' hr₂
    refine ⟨Clusters.perform_append_eq_ok_iff.2 ⟨s₁.clusters, hv, hw⟩, hroot₂.trans hroot₁, ?_⟩
    rw [hstats₂, hstats₁, add_assoc]
    rfl

theorem performs_count {f : LoadStats → LoadStats} {tally : LoadStats}
    (hf : ∀ n, f n = n + tally) : Performs (count f) s (.count tally) where
  exists_ok _ _ := ⟨_, rfl⟩
  eq_ok s' hr := by
    cases hr
    exact ⟨rfl, rfl, hf s.stats⟩

/-! ### Counts of single steps -/

theorem stats_announceNode (c : ClusterId) (placed : NodeId × Bool) (s : LoadState) :
    (announceNode c placed s).state.stats = s.stats := by
  rw [announceNode]
  split
  · rfl
  · rfl

theorem stats_announceEdge (c : ClusterId) (outcome : EdgeOutcome) (s : LoadState) :
    (announceEdge c outcome s).state.stats = s.stats := by
  rw [announceEdge]
  split
  · rfl
  · rfl

theorem stats_onClusters (asError : Clusters → ε → LoadError) (step : EStateM ε Clusters α)
    (s : LoadState) :
    (onClusters asError step s).state.stats = s.stats := by
  rw [onClusters]
  cases step s.clusters with
  | ok a cs => rfl
  | error cause cs => rfl

theorem stats_place {step : Cluster → (NodeId × Bool) × Cluster} :
    (place i step s).state.stats = s.stats := by
  rw [place, state_bind_eq LoadState.stats fun placed s₁ => ?_]
  · exact stats_onClusters _ _ s
  · rw [state_bind_eq LoadState.stats fun _ _ => rfl, stats_announceNode]

theorem stats_join {isKnownNew : Bool} :
    (join stage i a b k o isKnownNew s).state.stats = s.stats := by
  rw [join, state_bind_eq LoadState.stats fun outcome s₁ => stats_announceEdge i _ s₁]
  exact stats_onClusters _ _ s

theorem stats_cross (hr : cross n m t s = .ok u s') :
    s'.stats = s.stats + { clusterCrossings := 1 } := by
  obtain ⟨crossing, s₁, hon, hr⟩ := bind_eq_ok_iff.1 hr
  obtain ⟨_, s₂, hcount, hr⟩ := bind_eq_ok_iff.1 hr
  have hafter : s'.stats = s₂.stats := by
    have hrest := state_bind_eq (x := announceNode n.cluster (crossing.exit.node,
        crossing.exitCreated)) (s := s₂) LoadState.stats fun (_ : Unit) s₃ =>
      (state_bind_eq LoadState.stats fun (_ : Unit) s₄ =>
        (state_bind_eq LoadState.stats fun (_ : Unit) s₅ =>
          stats_announceEdge m.cluster crossing.entryEdge s₅).trans
            (stats_announceNode m.cluster (crossing.entry.node, crossing.entryCreated) s₄)).trans
              (stats_announceEdge n.cluster crossing.exitEdge s₃)
    rw [stats_announceNode] at hrest
    rw [← hrest]
    exact congrArg (fun result => LoadState.stats (Result.state result)) hr.symm
  have hbefore := stats_onClusters (fun cs cause => .graph .crossModuleEdges
    (nameOf cs n.cluster ++ " -> " ++ nameOf cs m.cluster) cause) (Crossing.split n m t) s
  rw [hon] at hbefore
  cases hcount
  rw [hafter, ← hbefore]
  rfl

/-! ### Work of single steps -/

theorem performs_join {isKnownNew : Bool} :
    Performs (join stage i a b k o isKnownNew) s ⟨[(i, .join a b k o)], {}⟩ where
  exists_ok cs hcs := by
    obtain ⟨c, hc, -⟩ := Clusters.perform_cons_eq_ok_iff.1 hcs
    obtain ⟨outcome, c', hedge, -⟩ := bind_eq_ok_iff.1 hc
    obtain ⟨g, hg, -⟩ := Cluster.addEdge_eq_ok hedge
    exact exists_join stage isKnownNew hg
  eq_ok s' hr := by
    obtain ⟨outcome, hon, hroot⟩ := join_eq_ok hr
    obtain ⟨c, hc, hcs⟩ := Clusters.on_eq_ok hon
    have hstats : (join stage i a b k o isKnownNew s).state.stats = s.stats := stats_join
    rw [hr] at hstats
    refine ⟨Clusters.perform_cons_eq_ok_iff.2 ⟨c, bind_of_ok hc, ?_⟩, hroot, ?_⟩
    · rw [hcs]
      rfl
    · exact hstats.trans (add_zero _).symm

/-- What comes after a split only counts and announces. -/
theorem exists_cross {crossing : Crossing} {cs : Clusters}
    (h : Crossing.split n m t s.clusters = .ok crossing cs) : ∃ s', cross n m t s = .ok () s' := by
  obtain ⟨s₁, hon⟩ : ∃ s₁, onClusters (fun cs cause => .graph .crossModuleEdges
      (nameOf cs n.cluster ++ " -> " ++ nameOf cs m.cluster) cause)
      (Crossing.split n m t) s = .ok crossing s₁ := by
    rw [onClusters]
    dsimp only
    rw [h]
    exact ⟨_, rfl⟩
  obtain ⟨s₃, h₃, -⟩ := exists_announceNode n.cluster (crossing.exit.node, crossing.exitCreated)
    { s₁ with stats := { s₁.stats with clusterCrossings := s₁.stats.clusterCrossings + 1 } }
  obtain ⟨s₄, h₄, -⟩ := exists_announceEdge n.cluster crossing.exitEdge s₃
  obtain ⟨s₅, h₅, -⟩ := exists_announceNode m.cluster (crossing.entry.node, crossing.entryCreated)
    s₄
  obtain ⟨s', h', -⟩ := exists_announceEdge m.cluster crossing.entryEdge s₅
  refine ⟨s', (bind_of_ok hon).trans ?_⟩
  refine (bind_of_ok (x := count _) rfl).trans ((bind_of_ok h₃).trans ?_)
  exact (bind_of_ok h₄).trans ((bind_of_ok h₅).trans h')

theorem performs_cross (hnm : n.cluster ≠ m.cluster) (hn : n.cluster.index < s.clusters.size)
    (hm : m.cluster.index < s.clusters.size) :
    Performs (cross n m t) s
      ⟨[(n.cluster, .leave n.node t), (m.cluster, .enter m.node t)],
        { clusterCrossings := 1 }⟩ where
  exists_ok cs hcs := by
    obtain ⟨crossing, hsplit⟩ := (Crossing.exists_split_iff hnm hn hm).2 hcs
    exact exists_cross hsplit
  eq_ok s' hr := by
    obtain ⟨crossing, hsplit, hroot⟩ := cross_eq_ok hr
    exact ⟨(Crossing.exists_split_iff hnm hn hm).1 ⟨crossing, hsplit⟩, hroot, stats_cross hr⟩

theorem performs_resolve {found : ClusterNode → ClusterNode → Loading Unit}
    {work : ClusterNode → ClusterNode → Work} (h : s.clusters.Coherent)
    (hfound : ∀ x y s₁, Keeps s s₁ → r.Resolves s.clusters stream position e.source x →
      r.Resolves s.clusters stream position e.target y → Performs (found x y) s₁ (work x y)) :
    Performs (resolve r e stream position found) s (r.work s.clusters e stream position work) := by
  refine Performs.get_bind ?_
  rw [Routing.work]
  cases hfate : r.fate s.clusters e stream position with
  | mk fate alternates =>
    refine Performs.seq (performs_count fun n => rfl) fun s₁ hcount => ?_
    cases fate with
    | resolved x y =>
      obtain ⟨-, hx, hy⟩ := (fate_eq_resolved_iff h).1 (congrArg Prod.fst hfate)
      exact hfound x y s₁ (keeps_count hcount) hx hy
    | skipped | discarded | unresolved => exact performs_count fun n => rfl

/-! ## Records -/

/-- Records of one kind, taken in by `step`, come to the work `work` as the blocks stand. -/
structure WorksAs {α : Type} (step : Nat × α → Loading Unit) (work : Clusters → Nat × α → Work) :
    Prop where
  performs : ∀ q s, s.clusters.Coherent → Performs (step q) s (work s.clusters q)
  ready : ∀ q (cs : Clusters), cs.Coherent → cs.Ready (work cs q).tasks
  of_sameBlocks : ∀ cs cs', Clusters.SameBlocks cs cs' → work cs' = work cs

/-- **An edge record does the work that it comes to.** -/
theorem worksAs_loadEdge (r : Routing) : WorksAs (fun q => loadEdge r q.1 q.2) r.edgeWork where
  performs q s h := by
    rw [loadEdge, edgeWork]
    refine Performs.seq (performs_count fun n => rfl) fun s₁ hcount => ?_
    have hk := keeps_count hcount
    have h₁ : s₁.clusters.Coherent := hk.clusters ▸ h
    rw [← hk.clusters]
    refine performs_resolve h₁ fun x y s₂ _ _ _ => ?_
    split
    · exact performs_join
    · exact performs_count fun n => rfl
  ready q cs h := ready_edgeWork h q
  of_sameBlocks cs cs' hsame := edgeWork_of_sameBlocks hsame

/-- **A cross-module record does the work that it comes to.** -/
theorem worksAs_loadCross (r : Routing) : WorksAs (fun q => loadCross r q.1 q.2) r.crossWork where
  performs q s h := by
    rw [loadCross, crossWork]
    refine Performs.seq (performs_count fun n => rfl) fun s₁ hcount => ?_
    have hk := keeps_count hcount
    have h₁ : s₁.clusters.Coherent := hk.clusters ▸ h
    rw [← hk.clusters]
    refine performs_resolve h₁ fun x y s₂ hk₂ hx hy => ?_
    split
    · exact performs_join
    · rename_i hxy
      rw [← hk₂.clusters] at hx hy
      exact performs_cross hxy (Clusters.index_lt_of_hasNode hx.hasNode)
        (Clusters.index_lt_of_hasNode hy.hasNode)
  ready q cs h := ready_crossWork h q
  of_sameBlocks cs cs' hsame := crossWork_of_sameBlocks hsame

namespace WorksAs

variable {step : Nat × α → Loading Unit} {work : Clusters → Nat × α → Work}

/-- Records one after another do the work that they come to as the blocks stand at the beginning. -/
theorem forM (hw : WorksAs step work) (h : s.clusters.Coherent) (records : List (Nat × α)) :
    Performs (records.forM step) s (.all (records.map (work s.clusters))) := by
  induction records generalizing s with
  | nil =>
    exact ⟨fun _ _ => ⟨s, rfl⟩, fun s' hr => by cases hr; exact ⟨rfl, rfl, (add_zero _).symm⟩⟩
  | cons q records ih =>
    show Performs (step q >>= fun _ => records.forM step) s
      (work s.clusters q ++ Work.all (records.map (work s.clusters)))
    refine Performs.seq (hw.performs q s h) fun s₁ hr => ?_
    obtain ⟨hq, -, -⟩ := (hw.performs q s h).eq_ok s₁ hr
    have hready := hw.ready q s.clusters h
    -- the other records are judged as before, since the first one has left the blocks alone
    rw [← hw.of_sameBlocks _ _ (Clusters.sameBlocks_perform h hready hq)]
    exact ih (Clusters.coherent_perform h hready hq)

end WorksAs

/-- The records of both kinds one after another. -/
theorem performs_records (h : s.clusters.Coherent) (r : Routing)
    (edges : List (Nat × EdgeRecord)) (crosses : List (Nat × CrossRecord)) :
    Performs (do
      edges.forM fun q => loadEdge r q.1 q.2
      crosses.forM fun q => loadCross r q.1 q.2) s (r.allWork s.clusters edges crosses) := by
  have hedges := (worksAs_loadEdge r).forM h edges
  have hready := Work.ready_all (ready_edgeWork (r := r) h) edges
  refine hedges.seq fun s₁ hr => ?_
  obtain ⟨hperform, -, -⟩ := hedges.eq_ok s₁ hr
  have hsame := Clusters.sameBlocks_perform h hready hperform
  rw [← crossWork_of_sameBlocks hsame]
  exact (worksAs_loadCross r).forM (Clusters.coherent_perform h hready hperform) crosses

/-! ## Block records -/

theorem stats_addRoot {kind : NodeKind} : (addRoot n kind s).state.stats = s.stats := by
  rw [addRoot, bind_of_ok (get_eq_ok s), state_bind_eq LoadState.stats fun root s₁ => ?_]
  · exact stats_place
  · cases kind.isEntry with
    | true => rfl
    | false =>
      refine (state_bind_eq LoadState.stats fun _ _ => rfl).trans ?_
      exact stats_join

theorem stats_loadNode {q : Nat × NodeRecord} (hr : loadNode r q.1 q.2 s = .ok u s') :
    s'.stats = s.stats + { nodeRecords := 1 } := by
  obtain ⟨_, s₁, hcount, hr⟩ := bind_eq_ok_iff.1 hr
  obtain ⟨node, s₂, hplace, hr⟩ := bind_eq_ok_iff.1 hr
  obtain ⟨_, _, hget, hr⟩ := bind_eq_ok_iff.1 hr
  cases hget
  have hplaced : (Result.ok node s₂ : EStateM.Result LoadError LoadState NodeId).state.stats =
      s₁.stats := hplace ▸ stats_place
  have hlast : s'.stats = s₂.stats := by
    cases hroot : s₂.root.isNone with
    | true =>
      rw [hroot, if_pos rfl] at hr
      have hadd : (Result.ok u s' : EStateM.Result LoadError LoadState Unit).state.stats =
          s₂.stats := hr ▸ stats_addRoot
      exact hadd
    | false =>
      rw [hroot] at hr
      cases hr
      rfl
  cases hcount
  exact hlast.trans hplaced

theorem stats_loadNodes {blocks : List (Nat × NodeRecord)}
    (hr : (blocks.forM fun q => loadNode r q.1 q.2) s = .ok u s') :
    s'.stats = s.stats + { nodeRecords := blocks.length } := by
  induction blocks generalizing s with
  | nil =>
    cases hr
    exact (add_zero _).symm
  | cons q blocks ih =>
    obtain ⟨s₁, hq, hblocks⟩ := forM_cons_eq_ok_iff.1 hr
    rw [ih hblocks, stats_loadNode hq, add_assoc, List.length_cons, Nat.add_comm]
    rfl

/-! ## The last stages -/

/-- The check passes when every cluster keeps the rule. -/
theorem validate_eq_ok_iff : validate s = .ok u s' ↔
    s' = s ∧ ∀ c ∈ s.clusters.toList, c.validate = .ok () := by
  rw [validate, bind_of_ok (get_eq_ok s)]
  refine forM_eq_ok_iff_of_check fun c s u s' => ?_
  cases hc : c.validate with
  | ok v =>
    constructor
    · intro h
      cases h
      exact ⟨rfl, rfl⟩
    · rintro ⟨rfl, -⟩
      rfl
  | error cause =>
    constructor
    · intro h
      cases h
    · rintro ⟨-, hok⟩
      cases hok

end Loading

/-! ## A whole load -/

namespace TraceFiles

open Loading Routing

variable {t : TraceFiles} {r : Routing} {s₀ s s' : LoadState} {config : ClusterConfig}
  {g : ProcessGraph} {blocks : List (Nat × NodeRecord)} {edges : List (Nat × EdgeRecord)}
  {crosses : List (Nat × CrossRecord)} {cs : Clusters}

theorem coherent_emptyClusters (config : ClusterConfig) : config.emptyClusters.Coherent := by
  intro i
  obtain ⟨id, name, hi⟩ := get_emptyClusters config i
  exact hi ▸ Cluster.coherent_empty id name

/-- The stages of a load that succeeds, from its records: the blocks are in place in `s`, and the
work of the other records leads to the clusters `cs`, which keep the rule on entries and exits. -/
structure Runs (r : Routing) (s₀ : LoadState) (blocks : List (Nat × NodeRecord))
    (edges : List (Nat × EdgeRecord)) (crosses : List (Nat × CrossRecord)) (s : LoadState)
    (cs : Clusters) : Prop where
  placed : (blocks.forM fun q => loadNode r q.1 q.2) s₀ = .ok () s
  performed : Clusters.perform (r.allWork s.clusters edges crosses).tasks s.clusters = .ok () cs
  valid : ∀ c ∈ cs.toList, c.validate = .ok ()

/-- The files of the trace hold these records and nothing else. -/
structure HoldsAll (t : TraceFiles) (blocks : List (Nat × NodeRecord))
    (edges : List (Nat × EdgeRecord)) (crosses : List (Nat × CrossRecord)) : Prop where
  blocks : t.blockStream.Holds blocks
  edges : t.edgeStream.Holds edges
  crosses : t.crossModuleStream.Holds crosses

theorem stages_eq_ok_iff (s₀ : LoadState)
    (hempty : ∀ i, ∃ id name, s₀.clusters.get i = .empty id name) (hroot : s₀.root = none)
    (hfiles : t.HoldsAll blocks edges crosses) :
    (∃ s', t.stages r s₀ = .ok () s' ∧ s'.clusters = g.clusters ∧ s'.root = g.root ∧
        s'.stats = g.stats) ↔
      ∃ s cs, Runs r s₀ blocks edges crosses s cs ∧ g.clusters = cs.searched ∧ g.root = s.root ∧
        g.stats = s.stats + (r.allWork s.clusters edges crosses).tally := by
  rw [stages, TraceFile.forEach_of_holds hfiles.blocks, TraceFile.forEach_of_holds hfiles.edges,
    TraceFile.forEach_of_holds hfiles.crosses]
  constructor
  · rintro ⟨s', hr, hclusters, hroot', hstats⟩
    obtain ⟨_, s₁, hblocks, hr⟩ := bind_eq_ok_iff.1 hr
    obtain ⟨_, s₂, hedges, hr⟩ := bind_eq_ok_iff.1 hr
    obtain ⟨_, s₃, hcrosses, hr⟩ := bind_eq_ok_iff.1 hr
    obtain ⟨_, s₄, hvalidate, hr⟩ := bind_eq_ok_iff.1 hr
    obtain ⟨_, s₅, hsearch, hannounce⟩ := bind_eq_ok_iff.1 hr
    have h₁ := (grows_loadNodes hempty hroot hblocks).coherent
    obtain ⟨hperform, hroot₃, hstats₃⟩ := (performs_records h₁ r edges crosses).eq_ok s₃
      (bind_eq_ok_iff.2 ⟨_, s₂, hedges, hcrosses⟩)
    obtain ⟨rfl, hvalid⟩ := validate_eq_ok_iff.1 hvalidate
    cases hsearch
    cases hannounce
    exact ⟨s₁, s₄.clusters, ⟨hblocks, hperform, hvalid⟩, hclusters.symm, hroot'.symm.trans hroot₃,
      hstats.symm.trans hstats₃⟩
  · rintro ⟨s₁, cs, ⟨hblocks, hperform, hvalid⟩, hclusters, hroot', hstats⟩
    have h₁ := (grows_loadNodes hempty hroot hblocks).coherent
    have hperforms := performs_records h₁ r edges crosses
    obtain ⟨s₃, hrecords⟩ := hperforms.exists_ok cs hperform
    obtain ⟨hperform', hroot₃, hstats₃⟩ := hperforms.eq_ok s₃ hrecords
    obtain ⟨_, s₂, hedges, hcrosses⟩ := bind_eq_ok_iff.1 hrecords
    cases hperform.symm.trans hperform'
    have hvalidate : validate s₃ = .ok () s₃ := validate_eq_ok_iff.2 ⟨rfl, hvalid⟩
    refine ⟨_, (bind_of_ok hblocks).trans ((bind_of_ok hedges).trans ((bind_of_ok hcrosses).trans
      (bind_of_ok hvalidate))), hclusters.symm, hroot₃.trans hroot'.symm, hstats₃.trans hstats.symm⟩

/-- Stages that succeed have read the files to their ends. -/
theorem exists_holdsAll (hr : t.stages r s₀ = .ok () s') :
    ∃ blocks edges crosses, t.HoldsAll blocks edges crosses := by
  obtain ⟨_, s₁, hblocks, hr⟩ := bind_eq_ok_iff.1 hr
  obtain ⟨_, s₂, hedges, hr⟩ := bind_eq_ok_iff.1 hr
  obtain ⟨_, s₃, hcrosses, -⟩ := bind_eq_ok_iff.1 hr
  obtain ⟨blocks, hblocks, -⟩ := TraceFile.forEach_eq_ok hblocks
  obtain ⟨edges, hedges, -⟩ := TraceFile.forEach_eq_ok hedges
  obtain ⟨crosses, hcrosses, -⟩ := TraceFile.forEach_eq_ok hcrosses
  exact ⟨blocks, edges, crosses, hblocks, hedges, hcrosses⟩

/-- A load of the trace makes this graph from these records, with the blocks in place in `s` and the
work of the other records done in `cs`. -/
structure Makes (t : TraceFiles) (config : ClusterConfig) (g : ProcessGraph)
    (blocks : List (Nat × NodeRecord)) (edges : List (Nat × EdgeRecord))
    (crosses : List (Nat × CrossRecord)) (s : LoadState) (cs : Clusters) : Prop where
  process : g.process = t.process
  log : t.moduleLog.readLog .initial = .ok (g.modules, g.units)
  files : t.HoldsAll blocks edges crosses
  runs : Runs (.ofConfig config g.units g.modules) { clusters := config.emptyClusters } blocks edges
    crosses s cs
  clusters : g.clusters = cs.searched
  root : g.root = s.root
  stats : g.stats = s.stats +
    ((Routing.ofConfig config g.units g.modules).allWork s.clusters edges crosses).tally

/-- **A load succeeds exactly when the work of its records does**, and makes the graph that this
work leads to. -/
theorem load_eq_ok_iff : (t.load config).result = .ok g ↔
    ∃ blocks edges crosses s cs, t.Makes config g blocks edges crosses s cs := by
  have hstages := fun blocks edges crosses (hfiles : t.HoldsAll blocks edges crosses) =>
    stages_eq_ok_iff (r := .ofConfig config g.units g.modules) (g := g)
      { clusters := config.emptyClusters } (get_emptyClusters config) rfl hfiles
  constructor
  · intro h
    rw [load] at h
    cases hlog : t.moduleLog.readLog .initial with
    | error cause =>
      rw [hlog] at h
      cases h
    | ok log =>
      obtain ⟨modules, units⟩ := log
      rw [hlog] at h
      dsimp only at h
      cases hr : t.stages (.ofConfig config units modules) { clusters := config.emptyClusters } with
      | error cause s =>
        rw [hr] at h
        cases h
      | ok u s' =>
        rw [hr] at h
        cases h
        obtain ⟨blocks, edges, crosses, hfiles⟩ := exists_holdsAll hr
        obtain ⟨s, cs, hruns, hclusters, hroot, hstats⟩ :=
          (hstages blocks edges crosses hfiles).1 ⟨s', hr, rfl, rfl, rfl⟩
        exact ⟨blocks, edges, crosses, s, cs, rfl, hlog, hfiles, hruns, hclusters, hroot, hstats⟩
  · rintro ⟨blocks, edges, crosses, s, cs, hprocess, hlog, hfiles, hruns, hclusters, hroot, hstats⟩
    obtain ⟨s', hr, hclusters', hroot', hstats'⟩ :=
      (hstages blocks edges crosses hfiles).2 ⟨s, cs, hruns, hclusters, hroot, hstats⟩
    rw [load, hlog]
    dsimp only
    rw [hr]
    dsimp only
    rw [hclusters', hroot', hstats', ← hprocess]

section

variable (h : t.Makes config g blocks edges crosses s cs)

include h

/-- The blocks of a load are in place in clusters that keep the invariant. -/
theorem Makes.coherent : s.clusters.Coherent :=
  (grows_loadNodes (get_emptyClusters config) rfl h.runs.placed).coherent

theorem Makes.ready :
    s.clusters.Ready ((Routing.ofConfig config g.units g.modules).allWork s.clusters edges
      crosses).tasks :=
  ready_allWork h.coherent

/-- The blocks are then those of the finished graph. -/
theorem Makes.sameBlocks : g.clusters.Coherent ∧ Clusters.SameBlocks s.clusters g.clusters := by
  have hcs := Clusters.coherent_perform h.coherent h.ready h.runs.performed
  have hsame := Clusters.sameBlocks_perform h.coherent h.ready h.runs.performed
  rw [h.clusters]
  constructor
  · intro i
    obtain ⟨found, hi⟩ := get_searched cs i
    rw [Clusters.searched, hi]
    exact (grows_reachability (hcs i) found).coherent
  · intro i unit tag version
    obtain ⟨found, hi⟩ := get_searched cs i
    rw [Clusters.searched, hi]
    exact hsame i unit tag version

/-- The records may be judged by the finished graph. -/
theorem Makes.allWork_eq (r : Routing) :
    r.allWork s.clusters edges crosses = r.allWork g.clusters edges crosses := by
  have hsame := h.sameBlocks.2
  rw [allWork, allWork, edgeWork_of_sameBlocks hsame, crossWork_of_sameBlocks hsame]

end

end TraceFiles
end FlowAtlas
