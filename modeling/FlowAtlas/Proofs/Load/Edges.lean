import FlowAtlas.Proofs.Load.Asks

/-!
# The edges of a load are what its records ask for

`joins_iff_of_load` is the main theorem.  When a load succeeds, two nodes of a cluster are joined
exactly when

* the first is the process root and the second the block of the first block record, which is no
  entry (`Routing.AsksRoot`),
* an edge record or a cross-module record has these two ends (`Routing.AsksWithin`), or
* a cross-module record between two clusters has the one as an end and the other as the boundary
  node of its signature (`Routing.AsksAcross`),

all judged by the graph that the load gives.  The proof follows the stages: block records join
nothing, but for the first (`grows_loadNodes`); the other records join what they ask for
(`adds_forM`); and the last stages change no node and no edge (`keeps_validate`, `adds_search`).
-/

set_option autoImplicit false

namespace FlowAtlas

open EStateM

namespace Routing

variable {r : Routing} {cs cs' : Clusters} {root : Option ClusterNode}
  {blocks : List (Nat × NodeRecord)} {i : ClusterId} {a b : NodeId}

/-- The process root is `a`, and the first block record is that of `b` and no entry. -/
def AsksRoot (r : Routing) (cs : Clusters) (root : Option ClusterNode)
    (blocks : List (Nat × NodeRecord)) (i : ClusterId) (a b : NodeId) : Prop :=
  ∃ position record rest, blocks = (position, record) :: rest ∧ root = some ⟨i, a⟩ ∧
    record.kind.isEntry = false ∧
      r.Names cs .block position record.tag record.version ⟨i, b⟩

theorem asksRoot_iff_of_sameBlocks (h : cs.Coherent) (h' : cs'.Coherent)
    (hsame : Clusters.SameBlocks cs cs') :
    r.AsksRoot cs' root blocks i a b ↔ r.AsksRoot cs root blocks i a b := by
  refine exists_congr fun position => exists_congr fun record => exists_congr fun rest => ?_
  rw [names_iff_of_sameBlocks h h' hsame]

end Routing

namespace Loading

variable {r : Routing} {s s' : LoadState} {u : Unit} {position : Nat} {record : NodeRecord}
  {first : ClusterNode} {kind : NodeKind} {x : Node} {n : NodeId} {i : ClusterId}

/-! ## Block records -/

theorem grows_place {step : Cluster → (NodeId × Bool) × Cluster} (h : s.clusters.Coherent)
    (hx : x.edges = {}) (hs : Cluster.NodeStep (s.clusters.get i) x (step (s.clusters.get i)))
    (hr : place i step s = .ok n s') :
    Clusters.Grows s.clusters s'.clusters (fun _ _ _ => False) ∧
      (i.index < s.clusters.size → (s'.clusters.get i).graph.hasNode n) ∧ s'.root = s.root := by
  obtain ⟨isNew, hon, hroot⟩ := place_eq_ok hr
  obtain ⟨hgrow, hnode⟩ := Clusters.grows_onNode h hx hs hon
  exact ⟨hgrow, hnode, hroot⟩

/-- The first node of a cluster stands under its key. -/
theorem find?_of_place {id : ClusterId} {name : String}
    (hempty : s.clusters.get i = .empty id name) (hkey : x.key ≠ .processRoot)
    (hi : i.index < s.clusters.size) (hr : place i (·.addNode x) s = .ok n s') :
    (s'.clusters.get i).graph.find? x.key = some n := by
  obtain ⟨isNew, hon, -⟩ := place_eq_ok hr
  obtain ⟨c, hc, hset⟩ := Clusters.onNode_eq_ok hon
  have hs := Cluster.nodeStep_addNode (s.clusters.get i) x
  rw [hc, hempty] at hs
  rw [hset, Clusters.get_setIfInBounds, if_pos ⟨rfl, hi⟩]
  exact hs.find?_of_empty hkey

/-- The process root leads to the first block unless that is an entry. -/
theorem grows_addRoot (h : s.clusters.Coherent)
    (hfirst : first.cluster.index < s.clusters.size →
      (s.clusters.get first.cluster).graph.hasNode first.node)
    (hr : addRoot first kind s = .ok u s') :
    ∃ root, s'.root = some ⟨first.cluster, root⟩ ∧
      Clusters.Grows s.clusters s'.clusters fun i a b =>
        kind.isEntry = false ∧ (i = first.cluster ∧ first.cluster.index < s.clusters.size) ∧
          a = root ∧ b = first.node := by
  rw [addRoot] at hr
  obtain ⟨_, _, hget, hr⟩ := bind_eq_ok_iff.1 hr
  cases hget
  obtain ⟨root, s₁, hplace, hr⟩ := bind_eq_ok_iff.1 hr
  obtain ⟨hgrow, hnode, -⟩ := grows_place h rfl (Cluster.nodeStep_addRoot _ _) hplace
  refine ⟨root, ?_⟩
  cases hkind : kind.isEntry with
  | true =>
    rw [hkind] at hr
    cases hr
    refine ⟨rfl, hgrow.congr fun i a b => ?_⟩
    exact iff_of_false not_false fun hnew => by cases hnew.1
  | false =>
    rw [hkind] at hr
    obtain ⟨_, s₂, hjoin, hr⟩ := bind_eq_ok_iff.1 hr
    cases hr
    obtain ⟨outcome, hon, -⟩ := join_eq_ok hjoin
    have hsize := hgrow.size
    obtain ⟨hgrow₂, -⟩ := Clusters.grows_addEdge hgrow.coherent (fun hi => hnode (hsize ▸ hi))
      (fun hi => Clusters.hasNode_of_grows hgrow (hfirst (hsize ▸ hi))) hon
    refine ⟨rfl, (hgrow.trans hgrow₂).congr fun i a b => ?_⟩
    rw [false_or, and_iff_right rfl, hsize]

/-- Once there is a root, a block record joins nothing. -/
theorem grows_loadNode (h : s.clusters.Coherent) {root : ClusterNode} (hroot : s.root = some root)
    (hr : loadNode r position record s = .ok u s') :
    Clusters.Grows s.clusters s'.clusters (fun _ _ _ => False) ∧ s'.root = s.root := by
  obtain ⟨_, s₁, hcount, hr⟩ := bind_eq_ok_iff.1 hr
  have hk := keeps_count hcount
  obtain ⟨node, s₂, hplace, hr⟩ := bind_eq_ok_iff.1 hr
  obtain ⟨_, _, hget, hr⟩ := bind_eq_ok_iff.1 hr
  cases hget
  obtain ⟨hgrow, -, hroot₂⟩ := grows_place (hk.clusters.symm ▸ h) rfl
    (Cluster.nodeStep_addNode _ _) hplace
  rw [hk.root] at hroot₂
  rw [hk.clusters] at hgrow
  rw [hroot₂, hroot] at hr
  cases hr
  exact ⟨hgrow, hroot₂⟩

/-- The first block record makes the root, which leads to its block unless that is an entry.  A
cluster whose number is not in use has no nodes, so that only one that is in use names the block. -/
theorem grows_loadNode_first (hempty : ∀ i, ∃ id name, s.clusters.get i = .empty id name)
    (hroot : s.root = none) (hr : loadNode r position record s = .ok u s') :
    ∃ first root, s'.root = some ⟨first.cluster, root⟩ ∧
      (first.cluster.index < s.clusters.size →
        r.Names s'.clusters .block position record.tag record.version first) ∧
      Clusters.Grows s.clusters s'.clusters fun i a b =>
        record.kind.isEntry = false ∧ (i = first.cluster ∧ first.cluster.index < s.clusters.size) ∧
          a = root ∧ b = first.node := by
  have h : s.clusters.Coherent := fun i => by
    obtain ⟨id, name, hi⟩ := hempty i
    exact hi ▸ Cluster.coherent_empty id name
  obtain ⟨_, s₁, hcount, hr⟩ := bind_eq_ok_iff.1 hr
  have hk := keeps_count hcount
  obtain ⟨node, s₂, hplace, hr⟩ := bind_eq_ok_iff.1 hr
  obtain ⟨_, _, hget, hr⟩ := bind_eq_ok_iff.1 hr
  cases hget
  obtain ⟨hgrow, hnode, hroot₂⟩ := grows_place (hk.clusters.symm ▸ h) rfl
    (Cluster.nodeStep_addNode _ _) hplace
  rw [hroot₂, hk.root, hroot] at hr
  obtain ⟨root, hroot', hgrow'⟩ := grows_addRoot hgrow.coherent
    (fun hi => hnode (hgrow.size ▸ hi)) hr
  rw [hk.clusters] at hgrow
  refine ⟨_, root, hroot', fun hi => ?_, (hgrow.trans hgrow').congr fun i a b => ?_⟩
  · obtain ⟨id, name, hget⟩ := hempty (r.cluster (r.modules.locate record.tag .block position).1)
    have hfind := find?_of_place (hk.clusters.symm ▸ hget) (by nofun) (hk.clusters.symm ▸ hi) hplace
    exact Routing.Names.of_grows hgrow'
      ⟨rfl, ((hgrow.coherent _).graph.find?_eq_some_iff _ _).1 hfind⟩
  · rw [false_or, hgrow.size]

theorem grows_loadNodes_rooted {records : List (Nat × NodeRecord)} (h : s.clusters.Coherent)
    {root : ClusterNode} (hroot : s.root = some root)
    (hr : (records.forM fun q => loadNode r q.1 q.2) s = .ok u s') :
    Clusters.Grows s.clusters s'.clusters (fun _ _ _ => False) ∧ s'.root = s.root := by
  induction records generalizing s with
  | nil =>
    cases hr
    exact ⟨Clusters.Grows.refl h, rfl⟩
  | cons q records ih =>
    obtain ⟨s₁, hq, hrecords⟩ := forM_cons_eq_ok_iff.1 hr
    obtain ⟨hgrow, hroot₁⟩ := grows_loadNode h hroot hq
    obtain ⟨hgrow', hroot'⟩ := ih hgrow.coherent (hroot₁.trans hroot) hrecords
    refine ⟨(hgrow.trans hgrow').congr fun _ _ _ => ?_, hroot'.trans hroot₁⟩
    rw [or_self]

/-- **Block records join nothing but the process root and the first block.** -/
theorem grows_loadNodes {records : List (Nat × NodeRecord)}
    (hempty : ∀ i, ∃ id name, s.clusters.get i = .empty id name) (hroot : s.root = none)
    (hr : (records.forM fun q => loadNode r q.1 q.2) s = .ok u s') :
    Clusters.Grows s.clusters s'.clusters (r.AsksRoot s'.clusters s'.root records) := by
  cases records with
  | nil =>
    cases hr
    refine (Clusters.Grows.refl fun i => ?_).congr fun i a b => ?_
    · obtain ⟨id, name, hi⟩ := hempty i
      exact hi ▸ Cluster.coherent_empty id name
    · rw [false_iff]
      rintro ⟨_, _, _, hnil, -⟩
      cases hnil
  | cons q records =>
    obtain ⟨s₁, hq, hrecords⟩ := forM_cons_eq_ok_iff.1 hr
    obtain ⟨first, root, hroot₁, hnames, hgrow⟩ := grows_loadNode_first hempty hroot hq
    obtain ⟨hgrow', hroot'⟩ := grows_loadNodes_rooted hgrow.coherent hroot₁ hrecords
    refine (hgrow.trans hgrow').congr fun i a b => ?_
    rw [or_false, Routing.AsksRoot, hroot', hroot₁]
    constructor
    · rintro ⟨hkind, ⟨rfl, hi⟩, rfl, rfl⟩
      exact ⟨_, _, _, rfl, rfl, hkind, (hnames hi).of_grows hgrow'⟩
    · rintro ⟨position, record, rest, hlist, heq, hkind, hb⟩
      cases hlist
      cases heq
      have hi := (hgrow.trans hgrow').size ▸ hb.index_lt
      have hfirst := hb.eq hgrow'.coherent ((hnames hi).of_grows hgrow')
      exact ⟨hkind, ⟨rfl, hi⟩, rfl, congrArg ClusterNode.node hfirst⟩

/-! ## The last stages -/

theorem keeps_validate (hr : validate s = .ok u s') : Keeps s s' := by
  obtain ⟨_, _, hget, hr⟩ := bind_eq_ok_iff.1 hr
  cases hget
  have hs : s' = s := by
    refine state_eq_of_forM_eq_ok (fun c s₁ v s₂ hc => ?_) hr
    -- a check either passes, and leaves the state alone, or fails
    cases hv : c.validate with
    | ok w =>
      rw [hv] at hc
      cases hc
      rfl
    | error cause =>
      rw [hv] at hc
      cases hc
  rw [hs]
  exact Keeps.refl s

theorem grows_reachability {c : Cluster} (h : c.Coherent) (found : Option Reachability) :
    c.Grows { c with reachability := found } fun _ _ => False where
  coherent := h.mark found
  extends_ := ⟨Graph.Extends.refl c.graph, fun _ _ hn => hn, fun _ _ hn => hn⟩
  joins_iff _ _ := (or_iff_left not_false).symm

theorem adds_search (h : s.clusters.Coherent) (hr : search s = .ok u s') :
    Adds s s' fun _ _ _ => False := by
  cases hr
  refine ⟨⟨Array.size_map .., fun i => ?_, fun i => ?_, fun i a b => ?_⟩, fun i => ?_, rfl⟩
  all_goals
    obtain ⟨found, hi⟩ := get_searched s.clusters i
    dsimp only
    rw [hi]
  · exact (grows_reachability (h i) found).coherent
  · exact (grows_reachability (h i) found).extends_
  · exact (grows_reachability (h i) found).joins_iff a b
  · exact fun _ _ _ => rfl

end Loading

/-! ## The whole load -/

namespace TraceFiles

open Loading Routing

variable {t : TraceFiles} {r : Routing} {s s' : LoadState} {u : Unit} {config : ClusterConfig}
  {g : ProcessGraph}

theorem get_emptyClusters (config : ClusterConfig) (i : ClusterId) :
    ∃ id name, config.emptyClusters.get i = .empty id name := by
  rw [Clusters.get, ClusterConfig.emptyClusters, Array.getD_eq_getD_getElem?,
    List.getElem?_toArray, List.getElem?_mapIdx]
  cases config.clusters[i.index]? with
  | none => exact ⟨⟨0⟩, "", rfl⟩
  | some spec => exact ⟨⟨i.index⟩, spec.name, rfl⟩

theorem joins_iff_of_stages (hempty : ∀ i, ∃ id name, s.clusters.get i = .empty id name)
    (hroot : s.root = none) (hr : t.stages r s = .ok u s') :
    ∃ blocks edges crosses, t.blockStream.Holds blocks ∧ t.edgeStream.Holds edges ∧
      t.crossModuleStream.Holds crosses ∧ ∀ i a b, (s'.clusters.get i).graph.Joins a b ↔
        r.AsksRoot s'.clusters s'.root blocks i a b ∨
        (∃ q ∈ edges, r.AsksWithin s'.clusters .edge q.1 q.2 i a b) ∨
        ∃ q ∈ crosses, r.AsksWithin s'.clusters .crossModuleEdge q.1 q.2.edge i a b ∨
          r.AsksAcross s'.clusters q.1 q.2 i a b := by
  obtain ⟨_, s₁, hblocks, hr⟩ := bind_eq_ok_iff.1 hr
  obtain ⟨_, s₂, hedges, hr⟩ := bind_eq_ok_iff.1 hr
  obtain ⟨_, s₃, hcrosses, hr⟩ := bind_eq_ok_iff.1 hr
  obtain ⟨_, s₄, hvalidate, hr⟩ := bind_eq_ok_iff.1 hr
  obtain ⟨_, s₅, hsearch, hannounce⟩ := bind_eq_ok_iff.1 hr
  obtain ⟨blocks, hblocksFile, hblocks⟩ := TraceFile.forEach_eq_ok hblocks
  obtain ⟨edges, hedgesFile, hedges⟩ := TraceFile.forEach_eq_ok hedges
  obtain ⟨crosses, hcrossesFile, hcrosses⟩ := TraceFile.forEach_eq_ok hcrosses
  refine ⟨blocks, edges, crosses, hblocksFile, hedgesFile, hcrossesFile, fun i a b => ?_⟩
  have hgrow₁ := grows_loadNodes hempty hroot hblocks
  obtain ⟨hadds₂, hlasts₂⟩ := adds_loadEdges hgrow₁.coherent hedges
  obtain ⟨hadds₃, hlasts₃⟩ := adds_loadCrosses hadds₂.grows.coherent hcrosses
  -- what comes after the records only marks what was not reached
  have hkeep := keeps_validate hvalidate
  have hadds₅ := (adds_search (hkeep.clusters ▸ hadds₃.grows.coherent) hsearch).of_keeps hkeep
  have hlater : Adds s₃ s' _ := hadds₅.trans ((keeps_announce hannounce).adds hadds₅.grows.coherent)
  have hnone : ¬(s.clusters.get i).graph.Joins a b := by
    obtain ⟨id, name, hi⟩ := hempty i
    rw [hi]
    rintro ⟨e, z, hz, -⟩
    cases hz
  have hafter := (hadds₂.trans hadds₃).trans hlater
  rw [hlater.grows.joins_iff, hadds₃.grows.joins_iff, hadds₂.grows.joins_iff, hgrow₁.joins_iff,
    ← asksRoot_iff_of_sameBlocks hgrow₁.coherent hafter.grows.coherent hafter.sameBlocks,
    hafter.root_eq, or_self, or_false, or_iff_right hnone, or_assoc]
  exact or_congr_right (or_congr (hlasts₂ s' _ (hadds₃.trans hlater) i a b).symm
    (hlasts₃ s' _ hlater i a b).symm)

/-- **The edges of a load are what its records ask for.**  When a load succeeds, the three streams
have been read to their ends, and two nodes of a cluster are joined exactly when the first block
record, an edge record or a cross-module record asks for it. -/
theorem joins_iff_of_load (h : (t.load config).result = .ok g) :
    ∃ blocks edges crosses, t.blockStream.Holds blocks ∧ t.edgeStream.Holds edges ∧
      t.crossModuleStream.Holds crosses ∧
      t.moduleLog.readLog .initial = .ok (g.modules, g.units) ∧
      let r := Routing.ofConfig config g.units g.modules
      ∀ i a b, (g.clusters.get i).graph.Joins a b ↔
        r.AsksRoot g.clusters g.root blocks i a b ∨
        (∃ q ∈ edges, r.AsksWithin g.clusters .edge q.1 q.2 i a b) ∨
        ∃ q ∈ crosses, r.AsksWithin g.clusters .crossModuleEdge q.1 q.2.edge i a b ∨
          r.AsksAcross g.clusters q.1 q.2 i a b := by
  rw [load] at h
  cases hlog : t.moduleLog.readLog .initial with
  | error cause =>
    rw [hlog] at h
    cases h
  | ok log =>
    obtain ⟨modules, units⟩ := log
    rw [hlog] at h
    dsimp only at h
    cases hr : t.stages (.ofConfig config units modules) { clusters := config.emptyClusters } with
    | error cause s =>
      rw [hr] at h
      cases h
    | ok u s =>
      rw [hr] at h
      cases h
      obtain ⟨blocks, edges, crosses, hblocks, hedges, hcrosses, hjoins⟩ :=
        joins_iff_of_stages (get_emptyClusters config) rfl hr
      exact ⟨blocks, edges, crosses, hblocks, hedges, hcrosses, rfl, hjoins⟩

/-! ### A trace of one block -/

/-- The record of an ordinary block outside every module. -/
def soleBlock : NodeRecord := .new 16 0 .normal 5

/-- The files of the trace hold one block and nothing else. -/
structure HoldsOneBlock (t : TraceFiles) : Prop where
  log : t.moduleLog.contents = .ok []
  blocks : t.blockStream.contents = .ok (Record.toBytes [soleBlock])
  edges : t.edgeStream.contents = .ok []
  crosses : t.crossModuleStream.contents = .ok []

namespace HoldsOneBlock

variable {t : TraceFiles}

theorem readLog (h : t.HoldsOneBlock) : t.moduleLog.readLog .initial = .ok ({}, .initial) := by
  have hlines : Bytes.lines [] = [] := by rfl
  have hread : ModuleLog.read .initial [] = (.ok {}, .initial) := by
    rw [ModuleLog.read, hlines]
    simp [ModuleLog.readLines, ModuleHistory.freeze, ModuleHistory.toList, AddressMap.ofList,
      pure, EStateM.pure]
  have hopen : t.moduleLog.open .moduleLog = .ok (.ok []) := by
    rw [TraceFile.open, h.log]
  rw [TraceFile.readLog, hopen]
  dsimp only [bind, Except.bind]
  rw [hread]
  rfl

theorem blockStream (h : t.HoldsOneBlock) : t.blockStream.Holds [(0, soleBlock)] := by
  have hrecord : (⟨[.bytes (Record.toBytes [soleBlock])], 0, false⟩ :
      RecordReader NodeRecord).next? = (some (.ok (0, soleBlock)), ⟨[.bytes []], 1, false⟩) := by rfl
  refine ⟨_, h.blocks, ?_⟩
  rw [Record.ofBytes, RecordReader.readAll_of_record hrecord, RecordReader.readAll_of_end rfl]
  rfl

/-- The block and the process root go to the cluster of units that no cluster claims. -/
theorem exists_stages (h : t.HoldsOneBlock) : ∃ u s, t.stages ⟨{}, #[⟨1⟩], ⟨0⟩⟩
    { clusters := (ClusterConfig.empty "main").emptyClusters } = .ok u s ∧
      s.root = some ⟨⟨1⟩, ⟨1⟩⟩ ∧ (s.clusters.get ⟨1⟩).graph.hasNode ⟨0⟩ ∧
        ((s.clusters.get ⟨1⟩).graph.node ⟨0⟩).key = .block .unknown 16 0 ∧
          s.clusters.toList.map (fun c => (c.name, c.graph.nodeCount)) =
            [("main", 0), ("dynamic", 2)] := by
  have hedges : t.edgeStream.Holds ([] : List (Nat × EdgeRecord)) :=
    ⟨[], h.edges, by rw [Record.ofBytes, RecordReader.readAll_of_end rfl]; rfl⟩
  have hcrosses : t.crossModuleStream.Holds ([] : List (Nat × CrossRecord)) :=
    ⟨[], h.crosses, by rw [Record.ofBytes, RecordReader.readAll_of_end rfl]; rfl⟩
  have hclusters : (ClusterConfig.empty "main").emptyClusters =
      #[.empty ⟨0⟩ "main", .empty ⟨1⟩ "dynamic"] := by rfl
  have hlocate : AddressMap.locate {} soleBlock.tag .block 0 = (.unknown, 16) := by rfl
  rw [stages, TraceFile.forEach_of_holds h.blockStream, TraceFile.forEach_of_holds hedges,
    TraceFile.forEach_of_holds hcrosses, hclusters]
  -- the two nodes are looked up by key, which only lemmas on hash maps decide
  simp only [List.forM, loadNode, hlocate]
  simp [count, Routing.cluster, UnitId.unknown, place, onClusters, Clusters.onNode, Clusters.on,
    Clusters.get, Cluster.addNode, Cluster.addBlock, Cluster.empty, Graph.addNode, Graph.find?,
    announceNode, announce, addRoot, Cluster.addRoot, Node.processRoot, soleBlock, NodeRecord.new,
    NodeKind.isEntry, get_eq_ok, modify_eq_ok, bind, EStateM.bind, pure, EStateM.pure]
  apply Result.exists_ok_of_decide
  decide +kernel

end HoldsOneBlock

/-- A trace of one block and no edges. -/
def oneBlock : TraceFiles where
  process := "process"
  moduleLog := ⟨"log", .ok []⟩
  blockStream := ⟨"blocks", .ok (Record.toBytes [soleBlock])⟩
  edgeStream := ⟨"edges", .ok []⟩
  crossModuleStream := ⟨"cross-module edges", .ok []⟩

theorem holdsOneBlock_oneBlock : oneBlock.HoldsOneBlock := ⟨rfl, rfl, rfl, rfl⟩

theorem readLog_oneBlock : oneBlock.moduleLog.readLog .initial = .ok ({}, .initial) :=
  holdsOneBlock_oneBlock.readLog

theorem ofConfig_oneBlock : Routing.ofConfig (.empty "main") .initial {} = ⟨{}, #[⟨1⟩], ⟨0⟩⟩ := by
  have hunits : UnitTable.initial.units = #[.unknown] := by
    simp [UnitTable.initial, UnitTable.intern, UnitTable.lookup?, UnitTable.empty]
  have hunit : (ClusterConfig.empty "main").clusterOf .unknown = ⟨1⟩ := by rfl
  rw [Routing.ofConfig, hunits, List.map_toArray, List.map_singleton, hunit]
  rfl

theorem holds_oneBlock : oneBlock.blockStream.Holds [(0, soleBlock)] :=
  holdsOneBlock_oneBlock.blockStream

theorem exists_stages_oneBlock : ∃ u s, oneBlock.stages ⟨{}, #[⟨1⟩], ⟨0⟩⟩
    { clusters := (ClusterConfig.empty "main").emptyClusters } = .ok u s ∧
      s.root = some ⟨⟨1⟩, ⟨1⟩⟩ ∧ (s.clusters.get ⟨1⟩).graph.hasNode ⟨0⟩ ∧
        ((s.clusters.get ⟨1⟩).graph.node ⟨0⟩).key = .block .unknown 16 0 ∧
          (s.clusters.get ⟨1⟩).graph.nodeCount = 2 ∧ (s.clusters.get ⟨1⟩).name = "dynamic" := by
  obtain ⟨u, s, hs, hroot, hnode, hkey, hcounts⟩ := holdsOneBlock_oneBlock.exists_stages
  refine ⟨u, s, hs, hroot, hnode, hkey, ?_⟩
  have hsecond := congrArg (·[1]?) hcounts
  simp only [List.getElem?_map, Array.getElem?_toList] at hsecond
  obtain ⟨c, hc, hcounts⟩ := Option.map_eq_some_iff.1 hsecond
  obtain ⟨hname, hcount⟩ := Prod.mk.inj hcounts
  rw [Clusters.get, Array.getD_eq_getD_getElem?, hc, Option.getD_some]
  exact ⟨hcount, hname⟩

theorem load_oneBlock {u : Unit} {s : LoadState} (hs : oneBlock.stages ⟨{}, #[⟨1⟩], ⟨0⟩⟩
    { clusters := (ClusterConfig.empty "main").emptyClusters } = .ok u s) :
    (oneBlock.load (.empty "main")).result =
      .ok ⟨"process", .initial, {}, s.clusters, s.root, s.stats⟩ := by
  rw [load, readLog_oneBlock]
  dsimp only
  rw [ofConfig_oneBlock, hs]
  rfl

/-- A trace of one block is loaded into one cluster, whatever its process is called. -/
theorem HoldsOneBlock.exists_load {t : TraceFiles} (h : t.HoldsOneBlock) :
    ∃ g, (t.load (.empty "main")).result = .ok g ∧
      g.clusters.toList.map (fun c => (c.name, c.graph.nodeCount)) =
        [("main", 0), ("dynamic", 2)] := by
  obtain ⟨u, s, hs, -, -, -, hcounts⟩ := h.exists_stages
  refine ⟨⟨t.process, .initial, {}, s.clusters, s.root, s.stats⟩, ?_, hcounts⟩
  rw [load, h.readLog]
  dsimp only
  rw [ofConfig_oneBlock, hs]

end TraceFiles
end FlowAtlas
