import Mathlib.Tactic.Abel
import FlowAtlas.Proofs.Load.Steady

/-!
# Loading a trace that tells everything twice

`TraceFiles.twice` is a trace with a second copy of each record stream behind the first.  Under a
steady log the second copy asks for what the first one has asked for, and it asks for nothing new:

* a block that was taken in is housed by its cluster from then on, and a cluster that houses a block
  is not changed by it (`Cluster.Houses`, `loadNodes_of_housed`);
* the tasks of edge records that were done once are done (`Clusters.perform_again`).

So `load_twice` says that the clusters are the same and that all is counted twice.
-/

set_option autoImplicit false

namespace FlowAtlas

open EStateM

/-! ## Blocks that were taken in -/

namespace Cluster

variable {c c' : Cluster} {x : Node}

/-- The cluster has what the node would bring: an entry or an exit of its hash, or a node of its
key. -/
structure Houses (c : Cluster) (x : Node) : Prop where
  entry : x.kind = .clusterEntry → (c.entryPoint? x.hash).isSome
  exit : x.kind = .clusterExit → (c.exitPoint? x.hash).isSome
  block : x.kind.isBoundary = false → (c.graph.find? x.key).isSome

theorem Houses.of_extends (h : c.Houses x) (hext : c.Extends c') : c'.Houses x where
  entry hkind := by
    obtain ⟨n, hn⟩ := Option.isSome_iff_exists.1 (h.entry hkind)
    rw [hext.entryPoint?_eq_some _ n hn]
    rfl
  exit hkind := by
    obtain ⟨n, hn⟩ := Option.isSome_iff_exists.1 (h.exit hkind)
    rw [hext.exitPoint?_eq_some _ n hn]
    rfl
  block hkind := by
    obtain ⟨n, hn⟩ := Option.isSome_iff_exists.1 (h.block hkind)
    rw [hext.graph.find?_eq_some _ n hn]
    rfl

theorem houses_of_entry (hkind : x.kind = .clusterEntry) (h : (c.entryPoint? x.hash).isSome) :
    c.Houses x where
  entry _ := h
  exit hexit := by cases hkind.symm.trans hexit
  block hblock := by rw [hkind] at hblock; cases hblock

theorem houses_of_exit (hkind : x.kind = .clusterExit) (h : (c.exitPoint? x.hash).isSome) :
    c.Houses x where
  entry hentry := by cases hkind.symm.trans hentry
  exit _ := h
  block hblock := by rw [hkind] at hblock; cases hblock

theorem houses_of_block (hkind : x.kind.isBoundary = false) (h : (c.graph.find? x.key).isSome) :
    c.Houses x where
  entry hentry := by rw [hentry] at hkind; cases hkind
  exit hexit := by rw [hexit] at hkind; cases hkind
  block _ := h

/-- A node that was added is housed. -/
theorem houses_addNode (c : Cluster) (hkey : x.key ≠ .processRoot) : (c.addNode x).2.Houses x := by
  have hs := nodeStep_addNode c x
  generalize c.addNode x = result at hs
  cases hs with
  | knownEntry _ hkind hm => exact houses_of_entry hkind (Option.isSome_of_mem hm)
  | entry _ hkind hm =>
    refine houses_of_entry hkind ?_
    rw [entryPoint?, Registry.register, Std.HashMap.getElem?_insert_self]
    rfl
  | knownExit _ hkind hm => exact houses_of_exit hkind (Option.isSome_of_mem hm)
  | exit _ hkind hm =>
    refine houses_of_exit hkind ?_
    rw [exitPoint?, Registry.register, Std.HashMap.getElem?_insert_self]
    rfl
  | knownRoot hroot => exact absurd hroot hkey
  | root hroot => exact absurd hroot hkey
  | block _ _ _ hkind =>
    refine houses_of_block hkind ?_
    rw [Graph.find?_addNode, if_pos rfl]
    rfl

/-- A cluster is not changed by a node that it houses. -/
theorem Houses.addNode_eq (h : c.Houses x) (hkey : x.key ≠ .processRoot) :
    (c.addNode x).2 = c := by
  rw [addNode, if_neg hkey]
  cases hkind : x.kind with
  | clusterEntry =>
    obtain ⟨n, hn⟩ := Option.isSome_iff_exists.1 (h.entry hkind)
    rw [entryPoint?] at hn
    dsimp only
    rw [addEntry, hn]
  | clusterExit =>
    obtain ⟨n, hn⟩ := Option.isSome_iff_exists.1 (h.exit hkind)
    rw [exitPoint?] at hn
    dsimp only
    rw [addExit, hn]
  | _ =>
    obtain ⟨n, hn⟩ := Option.isSome_iff_exists.1 (h.block (by rw [hkind]; rfl))
    dsimp only
    rw [addBlock, Graph.addNode_of_find? hn]
    rfl

end Cluster

/-! ## Block records again -/

/-- The cluster, if there is one, houses the node. -/
def Clusters.Houses (cs : Clusters) (i : ClusterId) (x : Node) : Prop :=
  i.index < cs.size → (cs.get i).Houses x

namespace Clusters

variable {cs cs' : Clusters} {i : ClusterId} {x : Node}

theorem Houses.of_grows {new : ClusterId → NodeId → NodeId → Prop} (h : cs.Houses i x)
    (hgrow : Grows cs cs' new) : cs'.Houses i x := fun hi =>
  (h (hgrow.size ▸ hi)).of_extends (hgrow.extends_ i)

theorem houses_ask (cs : Clusters) (i : ClusterId) (hkey : x.key ≠ .processRoot) :
    (cs.ask i (.node x)).Houses i x := by
  intro hi
  rw [size_ask] at hi
  rw [get_ask_self hi]
  exact Cluster.houses_addNode _ hkey

theorem Houses.ask_eq (h : cs.Houses i x) (hkey : x.key ≠ .processRoot) :
    cs.ask i (.node x) = cs := by
  by_cases hi : i.index < cs.size
  · have hnode : (Cluster.Request.node x).apply (cs.get i) = cs.get i := (h hi).addNode_eq hkey
    rw [ask, hnode, set_get_self]
  · exact ask_of_size_le (Nat.le_of_not_lt hi)

end Clusters

namespace Loading

variable {r : Routing} {s s' : LoadState} {u : Unit} {q : Nat × NodeRecord}
  {blocks : List (Nat × NodeRecord)}

/-- A block record that was taken in is housed, and there is a root from then on. -/
theorem houses_loadNode (h : s.clusters.Coherent) (hr : loadNode r q.1 q.2 s = .ok u s') :
    s'.clusters.Houses (r.home q) (r.nodeOf q) ∧ s'.clusters.Coherent ∧
      ∃ root, s'.root = some root := by
  have hkey : (r.nodeOf q).key ≠ .processRoot := nofun
  obtain ⟨s₁, hclusters, hroot₁, heq⟩ := loadNode_eq r q s
  have h₁ : s₁.clusters.Coherent := hclusters ▸ h.ask fun _ => rfl
  have hhouses : s₁.clusters.Houses (r.home q) (r.nodeOf q) :=
    hclusters ▸ Clusters.houses_ask s.clusters (r.home q) hkey
  rw [heq] at hr
  cases hroot : s.root with
  | none =>
    rw [hroot, if_pos Option.isNone_none] at hr
    have hfirst : (r.home q).index < s₁.clusters.size → (s₁.clusters.get (r.home q)).graph.hasNode
        ((s.clusters.get (r.home q)).addNode (r.nodeOf q)).1.1 := by
      intro hi
      rw [hclusters, Clusters.size_ask] at hi
      rw [hclusters, Clusters.get_ask_self hi]
      exact (Cluster.nodeStep_addNode (s.clusters.get (r.home q)) (r.nodeOf q)).hasNode (h _)
    obtain ⟨root, hroot', hgrow⟩ := grows_addRoot h₁ hfirst hr
    exact ⟨hhouses.of_grows hgrow, hgrow.coherent, _, hroot'⟩
  | some root =>
    rw [hroot] at hr
    cases hr
    exact ⟨hhouses, h₁, root, hroot₁.trans hroot⟩

/-- **All block records that were taken in are housed.** -/
theorem houses_loadNodes (h : s.clusters.Coherent)
    (hr : (blocks.forM fun q => loadNode r q.1 q.2) s = .ok u s') :
    (∀ q ∈ blocks, s'.clusters.Houses (r.home q) (r.nodeOf q)) ∧
      (blocks ≠ [] → s'.root ≠ none) := by
  induction blocks generalizing s with
  | nil => exact ⟨by simp, fun hne => absurd rfl hne⟩
  | cons q blocks ih =>
    obtain ⟨s₁, hq, hblocks⟩ := forM_cons_eq_ok_iff.1 hr
    obtain ⟨hhouses, h₁, root, hroot⟩ := houses_loadNode h hq
    obtain ⟨hgrow, hroot'⟩ := grows_loadNodes_rooted h₁ hroot hblocks
    refine ⟨List.forall_mem_cons.2 ⟨hhouses.of_grows hgrow, (ih h₁ hblocks).1⟩, fun _ => ?_⟩
    rw [hroot', hroot]
    exact Option.some_ne_none _

/-- **Block records that are housed change nothing**, once there is a root. -/
theorem loadNodes_of_housed (hroot : blocks ≠ [] → s.root ≠ none)
    (hhouses : ∀ q ∈ blocks, s.clusters.Houses (r.home q) (r.nodeOf q)) :
    ∃ s', (blocks.forM fun q => loadNode r q.1 q.2) s = .ok () s' ∧ s'.clusters = s.clusters ∧
      s'.root = s.root := by
  induction blocks generalizing s with
  | nil => exact ⟨s, rfl, rfl, rfl⟩
  | cons q blocks ih =>
    have hkey : (r.nodeOf q).key ≠ .processRoot := nofun
    have hroot := hroot (List.cons_ne_nil _ _)
    obtain ⟨hq, hblocks⟩ := List.forall_mem_cons.1 hhouses
    obtain ⟨s₁, h₁, hclusters, hroot₁⟩ := exists_loadNode_of_rooted (r := r) (q := q) hroot
    rw [hq.ask_eq hkey] at hclusters
    obtain ⟨s', hr, hclusters', hroot'⟩ := ih (s := s₁) (fun _ => hroot₁ ▸ hroot)
      (hclusters ▸ hblocks)
    exact ⟨s', forM_cons_eq_ok_iff.2 ⟨s₁, h₁, hr⟩, hclusters'.trans hclusters,
      hroot'.trans hroot₁⟩

end Loading

/-! ## Traces that are written twice -/

namespace TraceFile

open Record (Forms numbered)

variable {α : Type} [Record α] {f : TraceFile} {bs : Bytes} {values : List α}

/-- The file with a second copy behind the first. -/
def twice (f : TraceFile) : TraceFile :=
  { f with contents := f.contents.map fun bs => bs ++ bs }

/-- The second copy holds what the first one does, at later positions. -/
theorem holds_twice (hbs : f.contents = .ok bs) (hforms : Forms bs values) :
    f.twice.Holds (numbered 0 (values ++ values)) := by
  have hcontents : f.twice.contents = .ok (bs ++ bs) := by
    rw [twice, hbs]
    rfl
  exact holds_iff.2 ⟨bs ++ bs, values ++ values, hcontents, hforms.append hforms, rfl⟩

end TraceFile

namespace TraceFiles

open Loading Routing Record

variable {t : TraceFiles} {config : ClusterConfig} {g : ProcessGraph} {s : LoadState}
  {blocks : List (Nat × NodeRecord)} {edges : List (Nat × EdgeRecord)}
  {crosses : List (Nat × CrossRecord)} {cs : Clusters}

/-- The trace with a second copy of each record stream behind the first. -/
def twice (t : TraceFiles) : TraceFiles :=
  { t with
    blockStream := t.blockStream.twice
    edgeStream := t.edgeStream.twice
    crossModuleStream := t.crossModuleStream.twice }

/-- The second copy of the block records changes nothing, and counts as the first. -/
theorem placed_twice {r : Routing} {s₀ : LoadState} {values : List NodeRecord} {u : Unit}
    (h : s₀.clusters.Coherent) (hsteady : r.modules.Steady)
    (hlength : values.length + values.length ≤ StreamWindow.openEnd.toNat)
    (hr : ((numbered 0 values).forM fun q => loadNode r q.1 q.2) s₀ = .ok u s) :
    ∃ s', ((numbered 0 (values ++ values)).forM fun q => loadNode r q.1 q.2) s₀ = .ok () s' ∧
      s'.clusters = s.clusters ∧ s'.root = s.root ∧
        s'.stats = s.stats + { nodeRecords := values.length } := by
  obtain ⟨hhouses, hroot⟩ := houses_loadNodes h hr
  have hagain : ∀ q ∈ numbered values.length values,
      s.clusters.Houses (r.home q) (r.nodeOf q) := by
    rintro ⟨p, v⟩ hq
    -- the same record stands in the first copy
    obtain ⟨p', hq'⟩ := exists_mem_numbered (mem_of_mem_numbered hq) 0
    have hlt := lt_of_mem_numbered hq
    have hlt' := lt_of_mem_numbered hq'
    have hp : StreamWindow.Within p := Nat.lt_of_lt_of_le hlt hlength
    have hp' : StreamWindow.Within p' := by
      rw [StreamWindow.Within]
      omega
    have hhoused := hhouses (p', v) hq'
    rwa [home_of_steady hsteady hp', nodeOf_of_steady hsteady hp',
      ← home_of_steady hsteady hp, ← nodeOf_of_steady hsteady hp] at hhoused
  have hrooted : numbered values.length values ≠ [] → s.root ≠ none := by
    rw [Ne, numbered_eq_nil_iff] at hroot ⊢
    exact hroot
  obtain ⟨s', hr', hclusters, hroot'⟩ := loadNodes_of_housed hrooted hagain
  refine ⟨s', ?_, hclusters, hroot', ?_⟩
  · rw [numbered_append, Nat.zero_add]
    exact forM_append_eq_ok_iff.2 ⟨s, hr, hr'⟩
  · rw [stats_loadNodes hr', length_numbered]

/-- The work of records of which there is a second copy is that of either stream done twice. -/
theorem allWork_twice {r : Routing} (h : r.modules.Steady) {edges : List EdgeRecord}
    {crosses : List CrossRecord} (hcs : cs.Coherent)
    (hedges : edges.length + edges.length ≤ StreamWindow.openEnd.toNat)
    (hcrosses : crosses.length + crosses.length ≤ StreamWindow.openEnd.toNat) :
    ∃ v w : Work, r.allWork cs (numbered 0 edges) (numbered 0 crosses) = v ++ w ∧
      r.allWork cs (numbered 0 (edges ++ edges)) (numbered 0 (crosses ++ crosses)) =
        (v ++ v) ++ (w ++ w) ∧ cs.Ready v.tasks ∧ cs.Ready w.tasks := by
  refine ⟨.all (edges.map fun e => r.edgeWork cs (0, e)),
    .all (crosses.map fun e => r.crossWork cs (0, e)), ?_, ?_, ?_, ?_⟩
  · exact allWork_of_steady h (by omega) (by omega)
  · rw [allWork_of_steady h (by rwa [List.length_append]) (by rwa [List.length_append]),
      List.map_append, List.map_append, Work.all_append, Work.all_append]
  · exact Work.ready_all (fun e => ready_edgeWork hcs (0, e)) edges
  · exact Work.ready_all (fun e => ready_crossWork hcs (0, e)) crosses

/-- **A trace that tells everything twice makes the same clusters**, and all is counted twice. -/
theorem Makes.twice (h : t.Makes config g blocks edges crosses s cs) (hlog : t.moduleLog.Steady)
    (hsized : t.Sized) : ∃ blocks' edges' crosses' s',
      t.twice.Makes config { g with stats := g.stats + g.stats } blocks' edges' crosses' s' cs := by
  obtain ⟨bs, blocks, hbs, hblocks, rfl⟩ := TraceFile.holds_iff.1 h.files.blocks
  obtain ⟨es, edges, hes, hedges, rfl⟩ := TraceFile.holds_iff.1 h.files.edges
  obtain ⟨xs, crosses, hxs, hcrosses, rfl⟩ := TraceFile.holds_iff.1 h.files.crosses
  have hsteady := TraceFile.steady_of_readLog hlog h.log
  have hrouting : (Routing.ofConfig config g.units g.modules).modules.Steady := hsteady
  obtain ⟨s', hplaced, hclusters, hroot, hstats⟩ := placed_twice
    (coherent_emptyClusters config) hrouting
    (hblocks.twice_length_le (by decide) (hsized.blocks bs hbs)) h.runs.placed
  have hedgesLength := hedges.twice_length_le (by decide) (hsized.edges es hes)
  have hcrossesLength := hcrosses.twice_length_le (by decide) (hsized.crosses xs hxs)
  obtain ⟨v, w, hwork, htwice, hv, hw⟩ :=
    allWork_twice hrouting h.coherent hedgesLength hcrossesLength
  have hperformed := h.runs.performed
  rw [hwork] at hperformed
  refine ⟨_, _, _, s', h.process, h.log, ⟨TraceFile.holds_twice hbs hblocks,
    TraceFile.holds_twice hes hedges, TraceFile.holds_twice hxs hcrosses⟩,
    ⟨hplaced, ?_, h.runs.valid⟩, h.clusters, h.root.trans hroot.symm, ?_⟩
  · rw [hclusters, htwice]
    exact Clusters.perform_twice h.coherent hv hw hperformed
  · have hfirst : s.stats = { nodeRecords := blocks.length } := by
      rw [stats_loadNodes h.runs.placed, length_numbered]
      exact zero_add _
    rw [hclusters, htwice, hstats, ← hfirst]
    dsimp only
    rw [h.stats, hwork]
    simp only [Work.tally_append]
    abel

/-- A trace that loads also loads with a second copy of each record stream behind the first. -/
theorem load_twice_eq_ok (hload : (t.load config).result = .ok g) (hlog : t.moduleLog.Steady)
    (hsized : t.Sized) :
    (t.twice.load config).result = .ok { g with stats := g.stats + g.stats } := by
  obtain ⟨blocks, edges, crosses, s, cs, h⟩ := load_eq_ok_iff.1 hload
  obtain ⟨blocks', edges', crosses', s', h'⟩ := h.twice hlog hsized
  exact load_eq_ok_iff.2 ⟨blocks', edges', crosses', s', cs, h'⟩

/-- **What was told once may be told again.**  If a trace with a steady log loads, then it loads
with a second copy of each record stream behind the first, with the same clusters and the same root,
and every count is doubled.  Likewise requests for edges that all succeeded can be made again on the
graph that they led to: each of them is a repeat, and the graph is not changed. -/
theorem load_twice : (∀ (config : ClusterConfig) (t : TraceFiles) (g : ProcessGraph),
      (t.load config).result = .ok g → t.moduleLog.Steady → t.Sized →
        (t.twice.load config).result = .ok { g with stats := g.stats + g.stats }) ∧
    ∀ (g g' : Graph) (zs : List Edge) (outcomes : List EdgeOutcome), g.Reachable →
      (∀ z ∈ zs, g.HasEnds z) → Graph.addEdges zs g = .ok outcomes g' →
        ∃ outcomes', Graph.addEdges zs g' = .ok outcomes' g' ∧
          ∀ outcome ∈ outcomes', outcome.IsRepeat :=
  ⟨fun _ _ _ hload hlog hsized => load_twice_eq_ok hload hlog hsized,
    fun _ _ _ _ hreachable hends hr =>
      (Graph.coherent_of_reachable hreachable).addEdges_again hends hr⟩

/-- The trace of the two blocks loads when it is told twice, and a block that took a call
continuation and a direct edge takes them again. -/
theorem load_twice_callingOut :
    let x := Graph.empty.withNode unitNode
    let zs : List Edge := [⟨⟨0⟩, ⟨0⟩, .callContinuation, 0⟩, ⟨⟨0⟩, ⟨0⟩, .direct, 1⟩]
    (∃ g, ((callingOut mixedEdges).load (.empty "main")).result = .ok g ∧
      ((callingOut mixedEdges).twice.load (.empty "main")).result =
        .ok { g with stats := g.stats + g.stats }) ∧
    ∃ outcomes outcomes' y, Graph.addEdges zs x = .ok outcomes y ∧
      Graph.addEdges zs y = .ok outcomes' y ∧ ∀ outcome ∈ outcomes', outcome.IsRepeat := by
  intro x zs
  obtain ⟨htwice, hagain⟩ := load_twice
  obtain ⟨g, hload⟩ := load_callingOut mixedEdges List.mem_cons_self
  obtain ⟨outcomes, y, hr, -⟩ := Result.exists_ok_of_decide (Graph.addEdges zs x)
    (fun _ => True) (by decide +kernel)
  obtain ⟨outcomes', hr', hrepeats⟩ := hagain x y zs outcomes (Graph.reachable_withNode rfl)
    (by decide) hr
  exact ⟨⟨g, hload, htwice _ _ g hload (steady_callingOut _)
    (sized_callingOut _ List.mem_cons_self)⟩, outcomes, outcomes', y, hr, hr', hrepeats⟩

end TraceFiles
end FlowAtlas
