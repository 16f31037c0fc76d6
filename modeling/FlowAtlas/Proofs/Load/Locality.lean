import FlowAtlas.Proofs.Load.Steady

/-!
# Clusters do not interfere

What becomes of a cluster in a load depends on the blocks, on the edge records whose ends both lie
in it (`Routing.edgesWithin`) and on the cross-module records of which an end lies in it
(`Routing.crossesTouching`), and on no other record of the two streams.

Tasks can be taken apart by clusters (`Clusters.perform_eq_ok_iff`), so it is enough that the tasks
for the cluster come from these records alone (`tasksAt_allWork`).  `cluster_eq_of_loads` puts the
two loads side by side.
-/

set_option autoImplicit false

namespace FlowAtlas

open EStateM

/-! ## The records of a cluster -/

namespace Routing

open Record (numbered)

variable {r : Routing} {cs cs' : Clusters} {i : ClusterId} {edges : List EdgeRecord}
  {crosses : List CrossRecord}

/-- The record is not to be passed over, and both its ends stand for nodes of the cluster. -/
def LiesWithin (r : Routing) (cs : Clusters) (i : ClusterId) (q : Nat × EdgeRecord) : Prop :=
  ∃ a b, r.AsksWithin cs .edge q.1 q.2 i a b

/-- The record is not to be passed over, both its ends stand for nodes, and one of these is in the
cluster. -/
def Touches (r : Routing) (cs : Clusters) (i : ClusterId) (q : Nat × CrossRecord) : Prop :=
  q.2.edge.isSkipped = false ∧ ∃ x y, r.Resolves cs .crossModuleEdge q.1 q.2.edge.source x ∧
    r.Resolves cs .crossModuleEdge q.1 q.2.edge.target y ∧ (x.cluster = i ∨ y.cluster = i)

open Classical in
/-- The edge records that lie within the cluster, in their order. -/
noncomputable def edgesWithin (r : Routing) (cs : Clusters) (i : ClusterId)
    (records : List (Nat × EdgeRecord)) : List EdgeRecord :=
  (records.filter fun q => r.LiesWithin cs i q).map Prod.snd

open Classical in
/-- The cross-module records that touch the cluster, in their order. -/
noncomputable def crossesTouching (r : Routing) (cs : Clusters) (i : ClusterId)
    (records : List (Nat × CrossRecord)) : List CrossRecord :=
  (records.filter fun q => r.Touches cs i q).map Prod.snd

/-- Which records these are depends on the ordinary blocks alone. -/
theorem ownRecords_of_sameBlocks (h : cs.Coherent) (h' : cs'.Coherent)
    (hsame : Clusters.SameBlocks cs cs') (i : ClusterId) :
    r.edgesWithin cs' i = r.edgesWithin cs i ∧
      r.crossesTouching cs' i = r.crossesTouching cs i := by
  have hlies : r.LiesWithin cs' i = r.LiesWithin cs i := by
    funext q
    simp only [LiesWithin, AsksWithin, resolves_iff_of_sameBlocks h h' hsame]
  have htouches : r.Touches cs' i = r.Touches cs i := by
    funext q
    simp only [Touches, resolves_iff_of_sameBlocks h h' hsame]
  constructor
  · funext records
    rw [edgesWithin, edgesWithin, hlies]
  · funext records
    rw [crossesTouching, crossesTouching, htouches]

/-! ## The tasks of a cluster -/

/-- Other edge records ask nothing of the cluster. -/
theorem tasksAt_edgeWork (h : cs.Coherent) {q : Nat × EdgeRecord} (hq : ¬r.LiesWithin cs i q) :
    Clusters.tasksAt i (r.edgeWork cs q).tasks = [] := by
  refine List.eq_nil_iff_forall_not_mem.2 fun task htask => ?_
  obtain ⟨x, y, hskip, hx, hy, hp⟩ := mem_tasks_work h (Clusters.mem_tasksAt.1 htask)
  split at hp
  · rename_i hxy
    cases List.mem_singleton.1 hp
    obtain ⟨j, a⟩ := x
    obtain ⟨j', b⟩ := y
    cases hxy
    exact hq ⟨a, b, hskip, hx, hy⟩
  · cases hp

/-- Other cross-module records ask nothing of the cluster. -/
theorem tasksAt_crossWork (h : cs.Coherent) {q : Nat × CrossRecord} (hq : ¬r.Touches cs i q) :
    Clusters.tasksAt i (r.crossWork cs q).tasks = [] := by
  refine List.eq_nil_iff_forall_not_mem.2 fun task htask => ?_
  obtain ⟨x, y, hskip, hx, hy, hp⟩ := mem_tasks_work h (Clusters.mem_tasksAt.1 htask)
  split at hp
  · cases List.mem_singleton.1 hp
    exact hq ⟨hskip, x, y, hx, hy, Or.inl rfl⟩
  · rcases List.mem_pair.1 hp with hp | hp
    · cases hp
      exact hq ⟨hskip, x, y, hx, hy, Or.inl rfl⟩
    · cases hp
      exact hq ⟨hskip, x, y, hx, hy, Or.inr rfl⟩

open Classical in
/-- The tasks for the cluster come from the records with a property, if no other record brings one
and if it does not matter where a record stands. -/
theorem tasksAt_all {α : Type} {work : Nat × α → Work} {p : Nat × α → Prop}
    {records : List (Nat × α)} (hother : ∀ q, ¬p q → Clusters.tasksAt i (work q).tasks = [])
    (hwork : ∀ q ∈ records, work q = work (0, q.2)) :
    Clusters.tasksAt i (Work.all (records.map work)).tasks =
      ((records.filter fun q => p q).map Prod.snd).flatMap fun v =>
        Clusters.tasksAt i (work (0, v)).tasks := by
  induction records with
  | nil => rfl
  | cons q records ih =>
    obtain ⟨hq, hrecords⟩ := List.forall_mem_cons.1 hwork
    rw [List.map_cons, Work.all_cons, Work.tasks_append, Clusters.tasksAt_append, ih hrecords]
    by_cases hp : p q
    · rw [List.filter_cons_of_pos (by simpa using hp), List.map_cons, List.flatMap_cons, hq]
    · rw [List.filter_cons_of_neg (by simpa using hp), hother q hp, List.nil_append]

/-- **The tasks for a cluster come from its own records.** -/
theorem tasksAt_allWork (hsteady : r.modules.Steady) (h : cs.Coherent)
    (hedges : edges.length ≤ StreamWindow.openEnd.toNat)
    (hcrosses : crosses.length ≤ StreamWindow.openEnd.toNat) :
    Clusters.tasksAt i (r.allWork cs (numbered 0 edges) (numbered 0 crosses)).tasks =
      ((r.edgesWithin cs i (numbered 0 edges)).flatMap fun e =>
        Clusters.tasksAt i (r.edgeWork cs (0, e)).tasks) ++
      (r.crossesTouching cs i (numbered 0 crosses)).flatMap fun e =>
        Clusters.tasksAt i (r.crossWork cs (0, e)).tasks := by
  have hedge : ∀ q ∈ numbered 0 edges, r.edgeWork cs q = r.edgeWork cs (0, q.2) := by
    intro q hq
    have hlt := Record.lt_of_mem_numbered hq
    exact edgeWork_of_steady hsteady (by rw [StreamWindow.Within]; omega) q.2
  have hcross : ∀ q ∈ numbered 0 crosses, r.crossWork cs q = r.crossWork cs (0, q.2) := by
    intro q hq
    have hlt := Record.lt_of_mem_numbered hq
    exact crossWork_of_steady hsteady (by rw [StreamWindow.Within]; omega) q.2
  rw [allWork, Work.tasks_append, Clusters.tasksAt_append,
    tasksAt_all (fun q hq => tasksAt_edgeWork h hq) hedge,
    tasksAt_all (fun q hq => tasksAt_crossWork h hq) hcross]
  rfl

end Routing

/-! ## Two loads -/

/-- Each cluster is searched by itself. -/
theorem Clusters.get_searched (cs : Clusters) (i : ClusterId) : cs.searched.get i =
    if (cs.get i).graph.nodeCount > 0 then (cs.get i).findUnreachable.2 else cs.get i := by
  rw [searched, get, get, Array.getD_eq_getD_getElem?, Array.getD_eq_getD_getElem?,
    Array.getElem?_map]
  cases cs[i.index]? with
  | some c => rfl
  | none => rfl

theorem TraceFile.Holds.of_contents_eq {α : Type} [Record α] {f f' : TraceFile}
    {records : List (Nat × α)} (h : f.Holds records) (hcontents : f'.contents = f.contents) :
    f'.Holds records := by
  obtain ⟨bs, hbs, hrecords⟩ := h
  exact ⟨bs, hcontents.trans hbs, hrecords⟩

namespace TraceFiles

open Loading Routing

variable {t t' : TraceFiles} {config : ClusterConfig} {g g' : ProcessGraph} {i : ClusterId}
  {blocks blocks' : List (Nat × NodeRecord)} {edges edges' : List (Nat × EdgeRecord)}
  {crosses crosses' : List (Nat × CrossRecord)} {s s' : LoadState} {cs cs' : Clusters}

/-- Each cluster is as its own tasks leave it. -/
theorem Makes.perform_tasksAt (h : t.Makes config g blocks edges crosses s cs) (i : ClusterId) :
    Cluster.perform (Clusters.tasksAt i ((Routing.ofConfig config g.units g.modules).allWork
      g.clusters edges crosses).tasks) (s.clusters.get i) = .ok () (cs.get i) := by
  have hindex := fun p hp => h.ready.index_lt (q := p) hp
  have hget := ((Clusters.perform_eq_ok_iff hindex).1 h.runs.performed).2 i
  rwa [h.allWork_eq] at hget

/-- Loads of the same log and the same blocks know the same units and put the blocks in the same
places. -/
theorem Makes.places_eq (h : t.Makes config g blocks edges crosses s cs)
    (h' : t'.Makes config g' blocks' edges' crosses' s' cs')
    (hlog : t'.moduleLog.contents = t.moduleLog.contents)
    (hblocks : t'.blockStream.contents = t.blockStream.contents) :
    g'.modules = g.modules ∧ g'.units = g.units ∧ s' = s := by
  obtain ⟨log, hcontents, hread⟩ := TraceFile.readLog_eq_ok_iff.1 h.log
  have hread' := h'.log.symm.trans
    (TraceFile.readLog_eq_ok_iff.2 ⟨log, hlog.trans hcontents, hread⟩)
  obtain ⟨hmodules, hunits⟩ := Prod.mk.inj (Except.ok.inj hread')
  have hsame := (h.files.blocks.of_contents_eq hblocks).eq h'.files.blocks
  have hplaced := h'.runs.placed
  rw [hmodules, hunits, ← hsame] at hplaced
  exact ⟨hmodules, hunits, (Result.ok.inj (hplaced.symm.trans h.runs.placed)).2⟩

/-- The tasks for a cluster come from its own records in the files of a load. -/
theorem Makes.tasksAt_eq (h : t.Makes config g blocks edges crosses s cs)
    (hsteady : t.moduleLog.Steady) (hsized : t.Sized) (i : ClusterId) :
    let r := Routing.ofConfig config g.units g.modules
    Clusters.tasksAt i (r.allWork g.clusters edges crosses).tasks =
      ((r.edgesWithin g.clusters i (t.edgeStream.delivered EdgeRecord)).flatMap fun e =>
        Clusters.tasksAt i (r.edgeWork g.clusters (0, e)).tasks) ++
      (r.crossesTouching g.clusters i (t.crossModuleStream.delivered CrossRecord)).flatMap fun e =>
        Clusters.tasksAt i (r.crossWork g.clusters (0, e)).tasks := by
  intro r
  rw [h.files.edges.delivered_eq, h.files.crosses.delivered_eq]
  obtain ⟨es, edges, hes, hedges, rfl⟩ := TraceFile.holds_iff.1 h.files.edges
  obtain ⟨xs, crosses, hxs, hcrosses, rfl⟩ := TraceFile.holds_iff.1 h.files.crosses
  have hedgesLength := hedges.twice_length_le (by decide) (hsized.edges es hes)
  have hcrossesLength := hcrosses.twice_length_le (by decide) (hsized.crosses xs hxs)
  exact tasksAt_allWork (TraceFile.steady_of_readLog hsteady h.log) h.sameBlocks.1 (by omega)
    (by omega)

/-- **Clusters do not interfere.**  Two loads with the same configuration, the same steady log and
the same blocks make the same of a cluster, if the edge records within it are the same and the
cross-module records that touch it are, whatever other records there are. -/
theorem cluster_eq_of_loads (hload : (t.load config).result = .ok g)
    (hload' : (t'.load config).result = .ok g')
    (hlog : t'.moduleLog.contents = t.moduleLog.contents)
    (hblocks : t'.blockStream.contents = t.blockStream.contents)
    (hsteady : t.moduleLog.Steady) (hsized : t.Sized) (hsized' : t'.Sized)
    (hedges :
      (Routing.ofConfig config g'.units g'.modules).edgesWithin g'.clusters i
          (t'.edgeStream.delivered EdgeRecord) =
        (Routing.ofConfig config g.units g.modules).edgesWithin g.clusters i
          (t.edgeStream.delivered EdgeRecord))
    (hcrosses :
      (Routing.ofConfig config g'.units g'.modules).crossesTouching g'.clusters i
          (t'.crossModuleStream.delivered CrossRecord) =
        (Routing.ofConfig config g.units g.modules).crossesTouching g.clusters i
          (t.crossModuleStream.delivered CrossRecord)) :
    g'.clusters.get i = g.clusters.get i := by
  obtain ⟨blocks, edges, crosses, s, cs, h⟩ := load_eq_ok_iff.1 hload
  obtain ⟨blocks', edges', crosses', s', cs', h'⟩ := load_eq_ok_iff.1 hload'
  obtain ⟨hmodules, hunits, rfl⟩ := h.places_eq h' hlog hblocks
  have hsteady' : t'.moduleLog.Steady := fun log hcontents => hsteady log (hlog ▸ hcontents)
  have hperform := h.perform_tasksAt i
  have hperform' := h'.perform_tasksAt i
  rw [h.tasksAt_eq hsteady hsized, ← hedges, ← hcrosses] at hperform
  rw [h'.tasksAt_eq hsteady' hsized', hmodules, hunits] at hperform'
  rw [hmodules, hunits] at hperform
  -- both loads judge records by the blocks that they share
  rw [edgeWork_of_sameBlocks h.sameBlocks.2, crossWork_of_sameBlocks h.sameBlocks.2] at hperform
  rw [edgeWork_of_sameBlocks h'.sameBlocks.2, crossWork_of_sameBlocks h'.sameBlocks.2] at hperform'
  have hget : cs'.get i = cs.get i := (Result.ok.inj (hperform'.symm.trans hperform)).2
  rw [h.clusters, h'.clusters, Clusters.get_searched, Clusters.get_searched, hget]

/-- Of the edge records only the jump lies within the outer block's cluster. -/
theorem edgesWithin_callingOut (h : Clusters.Coherent #[unitCluster, outerCluster]) :
    unitRouting.edgesWithin #[unitCluster, outerCluster] ⟨1⟩ (Record.numbered 0 mixedEdges) =
      unitRouting.edgesWithin #[unitCluster, outerCluster] ⟨1⟩ (Record.numbered 0 [jumpBack]) := by
  have hlies : ∀ q, unitRouting.LiesWithin #[unitCluster, outerCluster] ⟨1⟩ q ↔ ∃ a b,
      (unitRouting.fate #[unitCluster, outerCluster] q.2 .edge q.1).1 =
        .resolved ⟨⟨1⟩, a⟩ ⟨⟨1⟩, b⟩ := fun q =>
    exists_congr fun a => exists_congr fun b => (fate_eq_resolved_iff h).symm
  simp [edgesWithin, hlies, mixedEdges, jumpBack, Record.numbered, fate, find?_callingOut,
    EdgeRecord.isSkipped, EdgeRecord.skipOrdinal]

/-- The cluster of the outer block is the same whether or not there are other edge records. -/
theorem cluster_eq_callingOut : ∃ g g',
    ((callingOut mixedEdges).load (.empty "main")).result = .ok g ∧
      ((callingOut [jumpBack]).load (.empty "main")).result = .ok g' ∧
        g'.clusters.get ⟨1⟩ = g.clusters.get ⟨1⟩ := by
  obtain ⟨g, s, cs, h, hs, hrouting, -⟩ := makes_callingOut mixedEdges (by simp)
  obtain ⟨g', s', cs', h', hs', hrouting', -⟩ := makes_callingOut [jumpBack] (by simp)
  have hload := load_eq_ok_iff.2 ⟨_, _, _, s, cs, h⟩
  have hload' := load_eq_ok_iff.2 ⟨_, _, _, s', cs', h'⟩
  obtain ⟨hedges, hcrosses⟩ := ownRecords_of_sameBlocks (r := unitRouting) h.coherent
    h.sameBlocks.1 h.sameBlocks.2 ⟨1⟩
  obtain ⟨hedges', hcrosses'⟩ := ownRecords_of_sameBlocks (r := unitRouting) h'.coherent
    h'.sameBlocks.1 h'.sameBlocks.2 ⟨1⟩
  have hcoherent := h.coherent
  rw [hs] at hcoherent hedges hcrosses
  rw [hs'] at hedges' hcrosses'
  refine ⟨g, g', hload, hload', cluster_eq_of_loads hload hload' rfl rfl (steady_callingOut _)
    (sized_callingOut _ (by simp)) (sized_callingOut _ (by simp)) ?_ ?_⟩
  · rw [hrouting, hrouting', hedges, hedges', h.files.edges.delivered_eq,
      h'.files.edges.delivered_eq, edgesWithin_callingOut hcoherent]
  · rw [hrouting, hrouting', hcrosses, hcrosses', h.files.crosses.delivered_eq,
      h'.files.crosses.delivered_eq]

end TraceFiles
end FlowAtlas
