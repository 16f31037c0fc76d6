import FlowAtlas.Proofs.Cluster.Config
import FlowAtlas.Proofs.Load.Account
import FlowAtlas.Proofs.Load.Announced

/-!
# What a load announces

`announced_of_load` is the main theorem.  A load that succeeds has announced each node and each edge
of its clusters exactly once, and an edge after both its ends; then each cluster that holds nodes, in
the order of the clusters; and last the graph.

`Clusters.Told` is the invariant that carries the proof: whatever the clusters hold was announced,
and nothing else was.  The clusters change one at a time, and with news (`Told.report`), so that each
step of a load keeps the invariant: `told_place` and `told_join` within one cluster, `told_cross`
between two, and `told_loadNode`, `told_loadEdge` and `told_loadCross` for the records.  The edge from
the process root is announced without a look at what became of the request for it, which is right
because there are no other edges yet.
-/

set_option autoImplicit false

namespace FlowAtlas

open EStateM

/-- The events tell of all that the clusters, which are `n` in number, hold, and of nothing else. -/
structure Clusters.Told (cs : Clusters) (n : Nat) (events : List LoadEvent) : Prop where
  size : cs.size = n
  id_eq : ∀ i, i.index < n → (cs.get i).id = i
  coherent : cs.Coherent
  isSome_creation? : ∀ e ∈ events, e.creation?.isSome
  announced : ∀ i, (cs.get i).graph.Announced i events

namespace Clusters.Told

variable {cs : Clusters} {c : Cluster} {n : Nat} {i : ClusterId} {events news : List LoadEvent}

/-- A cluster may change when the change is reported. -/
theorem report (h : cs.Told n events) (hi : i.index < n) (hc : (cs.get i).Reports i c news) :
    Told (cs.setIfInBounds i.index c) n (events ++ news) where
  size := Array.size_setIfInBounds.trans h.size
  id_eq j hj := by
    rw [get_setIfInBounds]
    split
    · rename_i hji
      rw [hji.1, hc.id_eq, h.id_eq i hi]
    · exact h.id_eq j hj
  coherent j := by
    rw [get_setIfInBounds]
    split
    · exact hc.coherent
    · exact h.coherent j
  isSome_creation? e he := by
    rcases List.mem_append.1 he with he | he
    · exact h.isSome_creation? e he
    · rw [hc.creation?_eq e he]
      rfl
  announced j := by
    rw [get_setIfInBounds]
    split
    · rename_i hji
      rw [hji.1]
      exact hc.announced events (hji.1 ▸ h.announced i)
    · rename_i hji
      refine (h.announced j).append_of_ne fun e he hj => hji ⟨?_, h.size.symm ▸ hi⟩
      exact Option.some.inj (hj.symm.trans (hc.creation?_eq e he))

end Clusters.Told

namespace Loading

open Clusters Routing

variable {ε α : Type} {s s' s₁ s₂ : LoadState} {u : Unit} {i : ClusterId} {n : Nat}
  {news news' : List LoadEvent} {x : Node} {node a b : NodeId} {k : EdgeKind} {o : UInt8}
  {stage : LoadStage} {isKnownNew : Bool} {first y z : ClusterNode} {kind : NodeKind}
  {t : Transfer} {r : Routing} {position : Nat}

/-! ## Announcing -/

/-- The clusters are the same, and the news were announced. -/
structure Tells (s s' : LoadState) (news : List LoadEvent) : Prop where
  clusters : s'.clusters = s.clusters
  events : s'.events.toList = s.events.toList ++ news

theorem Tells.trans (h : Tells s s₁ news) (h' : Tells s₁ s' news') : Tells s s' (news ++ news') where
  clusters := h'.clusters.trans h.clusters
  events := by rw [h'.events, h.events, List.append_assoc]

theorem Tells.told (h : Tells s s' []) (hs : s.clusters.Told n s.events.toList) :
    s'.clusters.Told n s'.events.toList := by
  rw [h.clusters, h.events, List.append_nil]
  exact hs

theorem tells_count {f : LoadStats → LoadStats} (hr : count f s = .ok u s') : Tells s s' [] := by
  cases hr
  exact ⟨rfl, (List.append_nil _).symm⟩

theorem tells_announceNode {placed : NodeId × Bool} (hr : announceNode i placed s = .ok u s') :
    Tells s s' ((s.clusters.get i).graph.nodeNews i placed) := by
  rw [announceNode] at hr
  rw [Graph.nodeNews]
  split at hr
  · rename_i hnew
    cases hr
    rw [if_pos hnew]
    exact ⟨rfl, Array.toList_push⟩
  · rename_i hnew
    cases hr
    rw [if_neg hnew]
    exact ⟨rfl, (List.append_nil _).symm⟩

theorem tells_announceEdge {outcome : EdgeOutcome} (hr : announceEdge i outcome s = .ok u s') :
    Tells s s' ((s.clusters.get i).graph.edgeNews i outcome) := by
  rw [announceEdge] at hr
  rw [Graph.edgeNews]
  split at hr
  · rename_i hnew
    cases hr
    rw [if_pos hnew]
    exact ⟨rfl, Array.toList_push⟩
  · rename_i hnew
    cases hr
    rw [if_neg hnew]
    exact ⟨rfl, (List.append_nil _).symm⟩

theorem events_onClusters {c : α} {asError : Clusters → ε → LoadError}
    {step : EStateM ε Clusters α} (hr : onClusters asError step s = .ok c s') :
    s'.events = s.events := by
  rw [onClusters] at hr
  cases hs : step s.clusters with
  | ok c' cs =>
    rw [hs] at hr
    cases hr
    rfl
  | error cause cs =>
    rw [hs] at hr
    cases hr

/-! ## Nodes and edges -/

section

variable (h : s.clusters.Told n s.events.toList)

include h

/-- A node is placed in its cluster, and announced when it is new. -/
theorem told_place {step : Cluster → (NodeId × Bool) × Cluster} (hi : i.index < n)
    (hx : x.edges = {}) (hs : Cluster.NodeStep (s.clusters.get i) x (step (s.clusters.get i)))
    (hr : place i step s = .ok node s') :
    s'.clusters.Told n s'.events.toList ∧
      ∃ isNew, Cluster.NodeStep (s.clusters.get i) x ((node, isNew), s'.clusters.get i) := by
  obtain ⟨placed, s₁, hon, hr⟩ := bind_eq_ok_iff.1 hr
  obtain ⟨_, s₂, hannounce, hr⟩ := bind_eq_ok_iff.1 hr
  cases hr
  have htells := tells_announceNode hannounce
  obtain ⟨c, hc, hset⟩ := Clusters.onNode_eq_ok (onClusters_eq_ok hon).1
  have hget : s₁.clusters.get i = c := by
    rw [hset, get_setIfInBounds, if_pos ⟨rfl, h.size.symm ▸ hi⟩]
  rw [hc] at hs
  rw [htells.clusters, htells.events, events_onClusters hon, hget, hset]
  exact ⟨h.report hi (hs.reports (h.coherent i) hx), placed.2, hs⟩

/-- An edge is asked for in its cluster, and announced when it is new. -/
theorem told_join (ha : (s.clusters.get i).graph.hasNode a) (hb : (s.clusters.get i).graph.hasNode b)
    (hnew : isKnownNew = true → ∀ e, (s.clusters.get i).graph.edge? e = none)
    (hr : join stage i a b k o isKnownNew s = .ok u s') :
    s'.clusters.Told n s'.events.toList := by
  have hi : i.index < s.clusters.size := index_lt_of_hasNode ha
  obtain ⟨outcome, s₁, hon, hr⟩ := bind_eq_ok_iff.1 hr
  have htells := tells_announceEdge hr
  obtain ⟨c, hc, hset⟩ := Clusters.on_eq_ok (onClusters_eq_ok hon).1
  -- what is known to be new is new
  have houtcome : (if isKnownNew then .added outcome.edge else outcome) = outcome := by
    split
    · rename_i hknown
      obtain ⟨g, hg, -⟩ := Cluster.addEdge_eq_ok hc
      exact (Graph.eq_added_of_edgeless (h.coherent i).graph (hnew hknown) hg).symm
    · rfl
  have hget : s₁.clusters.get i = c := by rw [hset, get_setIfInBounds, if_pos ⟨rfl, hi⟩]
  rw [htells.clusters, htells.events, events_onClusters hon, hget, hset, houtcome]
  exact h.report (h.size ▸ hi) (Cluster.reports_addEdge (h.coherent i) ha hb hc)

/-- A transfer is split between two clusters, and what is new on either side is announced. -/
theorem told_cross (hy : (s.clusters.get y.cluster).graph.hasNode y.node)
    (hz : (s.clusters.get z.cluster).graph.hasNode z.node) (hr : cross y z t s = .ok u s') :
    s'.clusters.Told n s'.events.toList := by
  have hyi : y.cluster.index < s.clusters.size := index_lt_of_hasNode hy
  have hzi : z.cluster.index < s.clusters.size := index_lt_of_hasNode hz
  obtain ⟨crossing, s₁, hon, hr⟩ := bind_eq_ok_iff.1 hr
  obtain ⟨_, s₂, hcount, hr⟩ := bind_eq_ok_iff.1 hr
  obtain ⟨_, s₃, hexit, hr⟩ := bind_eq_ok_iff.1 hr
  obtain ⟨_, s₄, hexitEdge, hr⟩ := bind_eq_ok_iff.1 hr
  obtain ⟨_, s₅, hentry, hentryEdge⟩ := bind_eq_ok_iff.1 hr
  obtain ⟨hyz, -, -, c, d, hc, hd, hset⟩ :=
    Crossing.split_eq_ok hyi hzi (onClusters_eq_ok hon).1
  have hgety : s₁.clusters.get y.cluster = c := by
    rw [hset, get_setIfInBounds, if_neg fun heq => hyz heq.1, get_setIfInBounds,
      if_pos ⟨rfl, hyi⟩]
  have hgetz : s₁.clusters.get z.cluster = d := by
    rw [hset, get_setIfInBounds, if_pos ⟨rfl, by rwa [Array.size_setIfInBounds]⟩]
  -- all four announcements look at the clusters as the split has left them
  have h₂ := tells_count hcount
  have h₃ := h₂.trans (tells_announceNode hexit)
  have h₄ := h₃.trans (tells_announceEdge hexitEdge)
  have h₅ := h₄.trans (tells_announceNode hentry)
  have h₆ := h₅.trans (tells_announceEdge hentryEdge)
  rw [h₅.clusters, h₄.clusters, h₃.clusters, h₂.clusters, hgety, hgetz, List.nil_append,
    List.append_assoc] at h₆
  rw [h₆.clusters, h₆.events, events_onClusters hon, ← List.append_assoc, hset]
  have hleft := h.report (h.size ▸ hyi) (Cluster.reports_leave (h.coherent y.cluster) hy hc)
  refine hleft.report (h.size ▸ hzi) ?_
  rw [get_setIfInBounds, if_neg fun heq => hyz heq.1.symm]
  exact Cluster.reports_enter (h.coherent z.cluster) hz hd

/-! ## Records -/

/-- The process root is announced, and the edge from it to the first block, which is the first
edge. -/
theorem told_addRoot (hfirst : (s.clusters.get first.cluster).graph.hasNode first.node)
    (hno : ∀ e, (s.clusters.get first.cluster).graph.edge? e = none)
    (hr : addRoot first kind s = .ok u s') : s'.clusters.Told n s'.events.toList := by
  have hi : first.cluster.index < s.clusters.size := index_lt_of_hasNode hfirst
  rw [addRoot] at hr
  obtain ⟨_, _, hget, hr⟩ := bind_eq_ok_iff.1 hr
  cases hget
  obtain ⟨root, s₁, hplace, hr⟩ := bind_eq_ok_iff.1 hr
  obtain ⟨h₁, isNew, hs⟩ := told_place h (h.size ▸ hi) rfl (Cluster.nodeStep_addRoot _ _) hplace
  cases hkind : kind.isEntry with
  | true =>
    rw [hkind] at hr
    cases hr
    exact h₁
  | false =>
    rw [hkind] at hr
    obtain ⟨_, s₂, hjoin, hr⟩ := bind_eq_ok_iff.1 hr
    cases hr
    have hno₁ : ∀ e, (s₁.clusters.get first.cluster).graph.edge? e = none := fun e => by
      rw [hs.edge?_eq, hno]
    have hroot : (s₁.clusters.get first.cluster).graph.hasNode root := hs.hasNode (h.coherent _)
    have h₂ := told_join h₁ hroot (hs.extends_.graph.hasNode _ hfirst) (fun _ => hno₁) hjoin
    exact h₂

theorem told_loadNode (hhome : ∀ unit, (r.cluster unit).index < n)
    (hno : s.root = none → ∀ i e, (s.clusters.get i).graph.edge? e = none) {record : NodeRecord}
    (hr : loadNode r position record s = .ok u s') : s'.clusters.Told n s'.events.toList := by
  obtain ⟨_, s₁, hcount, hr⟩ := bind_eq_ok_iff.1 hr
  have hk := keeps_count hcount
  have h₁ := (tells_count hcount).told h
  obtain ⟨node, s₂, hplace, hr⟩ := bind_eq_ok_iff.1 hr
  obtain ⟨_, _, hget, hr⟩ := bind_eq_ok_iff.1 hr
  cases hget
  obtain ⟨h₂, isNew, hs⟩ := told_place h₁ (hhome _) rfl (Cluster.nodeStep_addNode _ _) hplace
  obtain ⟨-, -, hroot₂⟩ := place_eq_ok hplace
  rw [hroot₂, hk.root] at hr
  cases hroot : s.root with
  | none =>
    rw [hroot] at hr
    refine told_addRoot h₂ (hs.hasNode (h₁.coherent _)) (fun e => ?_) hr
    rw [hs.edge?_eq, hk.clusters, hno hroot]
  | some root =>
    rw [hroot] at hr
    cases hr
    exact h₂

theorem told_resolve {e : EdgeRecord} {stream : StreamKind}
    {found : ClusterNode → ClusterNode → Loading Unit}
    (hfound : ∀ y z s₁, s₁.clusters.Told n s₁.events.toList →
      (s₁.clusters.get y.cluster).graph.hasNode y.node →
      (s₁.clusters.get z.cluster).graph.hasNode z.node → found y z s₁ = .ok u s' →
      s'.clusters.Told n s'.events.toList)
    (hr : resolve r e stream position found s = .ok u s') :
    s'.clusters.Told n s'.events.toList := by
  rw [resolve] at hr
  obtain ⟨_, _, hget, hr⟩ := bind_eq_ok_iff.1 hr
  cases hget
  cases hfate : r.fate s.clusters e stream position with
  | mk fate alternates =>
    rw [hfate] at hr
    obtain ⟨_, s₁, hcount, hr⟩ := bind_eq_ok_iff.1 hr
    have h₁ := (tells_count hcount).told h
    cases fate with
    | resolved y z =>
      obtain ⟨-, hy, hz⟩ := (fate_eq_resolved_iff h.coherent).1 (congrArg Prod.fst hfate)
      rw [← (keeps_count hcount).clusters] at hy hz
      exact hfound y z s₁ h₁ hy.hasNode hz.hasNode hr
    | skipped | discarded | unresolved => exact (tells_count hr).told h₁

theorem told_loadEdge {e : EdgeRecord} (hr : loadEdge r position e s = .ok u s') :
    s'.clusters.Told n s'.events.toList := by
  obtain ⟨_, s₁, hcount, hr⟩ := bind_eq_ok_iff.1 hr
  refine told_resolve ((tells_count hcount).told h) (fun y z s₂ h₂ hy hz hr => ?_) hr
  split at hr
  · rename_i hyz
    exact told_join h₂ hy (hyz ▸ hz) (fun hknown => absurd hknown Bool.false_ne_true) hr
  · exact (tells_count hr).told h₂

theorem told_loadCross {c : CrossRecord} (hr : loadCross r position c s = .ok u s') :
    s'.clusters.Told n s'.events.toList := by
  obtain ⟨_, s₁, hcount, hr⟩ := bind_eq_ok_iff.1 hr
  refine told_resolve ((tells_count hcount).told h) (fun y z s₂ h₂ hy hz hr => ?_) hr
  split at hr
  · rename_i hyz
    exact told_join h₂ hy (hyz ▸ hz) (fun hknown => absurd hknown Bool.false_ne_true) hr
  · exact told_cross h₂ hy hz hr

theorem told_loadNodes {blocks : List (Nat × NodeRecord)}
    (hhome : ∀ unit, (r.cluster unit).index < n)
    (hno : s.root = none → ∀ i e, (s.clusters.get i).graph.edge? e = none)
    (hr : (blocks.forM fun q => loadNode r q.1 q.2) s = .ok u s') :
    s'.clusters.Told n s'.events.toList := by
  -- there are no edges as long as there is no root
  refine (preserved_of_forM_eq_ok (p := fun s => s.clusters.Told n s.events.toList ∧
    (s.root = none → ∀ i e, (s.clusters.get i).graph.edge? e = none)) ?_ hr ⟨h, hno⟩).1
  rintro q s s' ⟨h, hno⟩ hq
  exact ⟨told_loadNode h hhome hno hq, fun hroot => absurd hroot (root_of_loadNode hq)⟩

end

/-! ## The last stages -/

/-- The search keeps the graph and the number of every cluster. -/
theorem told_search {events : List LoadEvent} (h : s.clusters.Told n events)
    (hr : search s = .ok u s') : s'.clusters.Told n events := by
  cases hr
  have hget := get_searched s.clusters
  exact {
    size := (Array.size_map ..).trans h.size
    id_eq := fun i hi => by
      obtain ⟨found, heq⟩ := hget i
      rw [heq]
      exact h.id_eq i hi
    coherent := fun i => by
      obtain ⟨found, heq⟩ := hget i
      rw [heq]
      exact (grows_reachability (h.coherent i) found).coherent
    isSome_creation? := h.isSome_creation?
    announced := fun i => by
      obtain ⟨found, heq⟩ := hget i
      rw [heq]
      exact h.announced i }

/-- The clusters that hold nodes. -/
theorem events_search (hr : search s = .ok u s') :
    s'.events.toList = s.events.toList ++
      (s'.clusters.toList.filter fun c => c.graph.nodeCount > 0).map fun c => .clusterLoaded c.id := by
  cases hr
  dsimp only
  -- the search has changed neither the graphs nor the numbers
  have hkeep : ∀ c : Cluster, (if c.graph.nodeCount > 0 then c.findUnreachable.2 else c).graph =
      c.graph ∧ (if c.graph.nodeCount > 0 then c.findUnreachable.2 else c).id = c.id := by
    intro c
    split
    · exact ⟨rfl, rfl⟩
    · exact ⟨rfl, rfl⟩
  rw [Array.toList_append, Array.toList_map, Array.toList_filter, Array.toList_map,
    List.filter_map, List.map_map]
  congr 1
  simp only [Function.comp_def, hkeep]

end Loading

namespace TraceFiles

open Loading

variable {t : TraceFiles} {config : ClusterConfig} {g : ProcessGraph} {r : Routing}
  {s s' : LoadState} {u : Unit} {n : Nat}

theorem told_emptyClusters (config : ClusterConfig) :
    config.emptyClusters.Told config.emptyClusters.size [] where
  size := rfl
  id_eq i hi := by
    have hsize : config.emptyClusters.size = config.clusters.length := by
      rw [ClusterConfig.emptyClusters, List.size_toArray, List.length_mapIdx]
    rw [Clusters.get, ClusterConfig.emptyClusters, Array.getD_eq_getD_getElem?,
      List.getElem?_toArray, List.getElem?_mapIdx, List.getElem?_eq_getElem (hsize ▸ hi)]
    rfl
  coherent := coherent_emptyClusters config
  isSome_creation? e he := by cases he
  announced i := by
    obtain ⟨id, name, hi⟩ := get_emptyClusters config i
    rw [hi]
    exact Graph.Announced.empty i

theorem exists_told_of_stages (h : s.clusters.Told n s.events.toList)
    (hhome : ∀ unit, (r.cluster unit).index < n)
    (hno : s.root = none → ∀ i e, (s.clusters.get i).graph.edge? e = none)
    (hr : t.stages r s = .ok u s') :
    ∃ creations, s'.clusters.Told n creations ∧
      s'.events.toList = creations ++ (s'.clusters.toList.filter fun c =>
        c.graph.nodeCount > 0).map (fun c => .clusterLoaded c.id) ++ [.graphLoaded] := by
  obtain ⟨_, s₁, hblocks, hr⟩ := bind_eq_ok_iff.1 hr
  obtain ⟨_, s₂, hedges, hr⟩ := bind_eq_ok_iff.1 hr
  obtain ⟨_, s₃, hcrosses, hr⟩ := bind_eq_ok_iff.1 hr
  obtain ⟨_, s₄, hvalidate, hr⟩ := bind_eq_ok_iff.1 hr
  obtain ⟨_, s₅, hsearch, hannounce⟩ := bind_eq_ok_iff.1 hr
  obtain ⟨blocks, -, hblocks⟩ := TraceFile.forEach_eq_ok hblocks
  obtain ⟨edges, -, hedges⟩ := TraceFile.forEach_eq_ok hedges
  obtain ⟨crosses, -, hcrosses⟩ := TraceFile.forEach_eq_ok hcrosses
  have h₁ := told_loadNodes h hhome hno hblocks
  have h₂ := preserved_of_forM_eq_ok (p := fun s => s.clusters.Told n s.events.toList)
    (fun _ _ _ hs => told_loadEdge hs) hedges h₁
  have h₃ := preserved_of_forM_eq_ok (p := fun s => s.clusters.Told n s.events.toList)
    (fun _ _ _ hs => told_loadCross hs) hcrosses h₂
  obtain ⟨rfl, -⟩ := validate_eq_ok_iff.1 hvalidate
  have h₅ := told_search h₃ hsearch
  cases hannounce
  refine ⟨_, h₅, ?_⟩
  dsimp only
  rw [Array.toList_push, events_search hsearch]

/-- **Whatever a load creates is announced exactly once.**  When a load succeeds, the events before
the last ones tell of each node and each edge of each cluster and of nothing else, and of an edge
after both its ends; then come the clusters that hold nodes, in the order of their numbers, and last
the graph. -/
theorem announced_of_load (hconfig : config.Made) (h : (t.load config).result = .ok g) :
    ∃ creations, (t.load config).events =
        creations ++ g.populated.map (fun c => .clusterLoaded c.id) ++ [.graphLoaded] ∧
      (∀ e ∈ creations, e.creation?.isSome) ∧
      (∀ i, (g.clusters.get i).graph.Announced i creations) ∧
      ∀ i, i.index < g.clusters.size → (g.clusters.get i).id = i := by
  obtain ⟨hlog, s, hstages, hclusters, -⟩ := stages_of_load h
  have hevents : (t.load config).events = s.events.toList := by
    rw [load, hlog]
    dsimp only
    rw [hstages]
  have hno : ∀ i e, (config.emptyClusters.get i).graph.edge? e = none := fun i e => by
    obtain ⟨id, name, hi⟩ := get_emptyClusters config i
    rw [hi]
    rfl
  obtain ⟨creations, htold, hlast⟩ :=
    exists_told_of_stages (s := { clusters := config.emptyClusters }) (told_emptyClusters config)
      (hconfig.cluster_lt g.units g.modules) (fun _ => hno) hstages
  rw [← hclusters] at htold hlast
  exact ⟨creations, hevents.trans hlast, htold.isSome_creation?, htold.announced,
    fun i hi => htold.id_eq i (htold.size ▸ hi)⟩

/-- A trace with a call between clusters, whose blocks, root, exit and entry are all announced. -/
theorem announced_callingOut : ClusterConfig.Made (.empty "main") ∧ ∃ g creations,
    ((callingOut mixedEdges).load (.empty "main")).result = .ok g ∧
      ((callingOut mixedEdges).load (.empty "main")).events =
        creations ++ g.populated.map (fun c => .clusterLoaded c.id) ++ [.graphLoaded] ∧
      (∀ e ∈ creations, e.creation?.isSome) ∧
      (∀ i, (g.clusters.get i).graph.Announced i creations) ∧
      ∀ i, i.index < g.clusters.size → (g.clusters.get i).id = i := by
  obtain ⟨g, hload⟩ := load_callingOut mixedEdges List.mem_cons_self
  obtain ⟨creations, htold⟩ := announced_of_load (.empty "main") hload
  exact ⟨.empty "main", g, creations, hload, htold⟩

end TraceFiles
end FlowAtlas
