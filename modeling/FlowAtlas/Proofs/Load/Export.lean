import FlowAtlas.Proofs.Cluster.Exported
import FlowAtlas.Proofs.Files.Writing
import FlowAtlas.Proofs.Load.Origin
import FlowAtlas.Proofs.Module.Units

/-!
# An exported cluster is read back

`Cluster.ReadsBack` says what the three files of an exported cluster are read as: the names of its
modules, one record for each node, and its edges.  Which unit a node belongs to is kept twice, by
the node and by its key, and the export goes by one in the list of modules and by the other in the
records.  `Cluster.Sourced` says that the two agree and that the units have numbers, which is so in
every cluster that was loaded (`TraceFiles.sourced_of_load`).

`TraceFiles.export_readsBack` is the main theorem: whatever a load has made, a cluster that is not
too large is exported where its files can be written, and is read back from there.
-/

set_option autoImplicit false

namespace FlowAtlas

/-! ## Files -/

/-- The file at the path is read as these records, and nothing else. -/
def Place.HoldsRecords {α : Type} [Record α] (w : Place) (path : String) (records : List α) :
    Prop :=
  ∃ bs, w.Holds path bs ∧ Record.ofBytes α bs = (Record.numbered 0 records).map .ok

/-- The three files of a cluster can be written. -/
structure ExportPaths.Writable (w : Place) (paths : ExportPaths) : Prop where
  nodes : w.Writable paths.nodes
  edges : w.Writable paths.edges
  modules : w.Writable paths.modules

/-- The files of a cluster lie at different locations, whatever the cluster is called. -/
theorem ExportPaths.Writable.exists_writeFiles {w : Place} {dir cluster : String}
    (h : ExportPaths.Writable w (.new dir cluster)) (nodes edges modules : Bytes) :
    let paths := ExportPaths.new dir cluster
    ∃ w', (writeFiles [(paths.nodes, nodes), (paths.edges, edges), (paths.modules, modules)] :
        StateM Place (Except ExportError Unit)) w = (.ok (), w') ∧
      w'.Holds paths.nodes nodes ∧ w'.Holds paths.edges edges ∧
        w'.Holds paths.modules modules := by
  have hnodes : Path.IsEnding ".nodes.dat" := ⟨by decide, by decide, by decide⟩
  have hedges : Path.IsEnding ".edges.dat" := ⟨by decide, by decide, by decide⟩
  have hmodules : Path.IsEnding ".modules.txt" := ⟨by decide, by decide, by decide⟩
  have hne := Place.locate_ne_of_endings hnodes hedges (by decide) h.nodes h.edges
  have hne' := Place.locate_ne_of_endings hnodes hmodules (by decide) h.nodes h.modules
  have hne'' := Place.locate_ne_of_endings hedges hmodules (by decide) h.edges h.modules
  intro paths
  have hwritable : ∀ f ∈ [(paths.nodes, nodes), (paths.edges, edges), (paths.modules, modules)],
      w.Writable f.1 := by simpa using ⟨h.nodes, h.edges, h.modules⟩
  obtain ⟨w', hwrite, hholds, -⟩ :=
    Place.exists_writeFiles hwritable (by simpa using ⟨⟨hne, hne'⟩, hne''⟩)
  exact ⟨w', hwrite, by simpa using hholds⟩

/-! ## Clusters -/

namespace Cluster

variable {units : UnitTable} {c : Cluster} {dir : String} {w : Place}

/-- A cluster whose files were written is exported. -/
theorem export_eq {x : ClusterExport} {w' : Place} (hx : ClusterExport.ofCluster units c = .ok x)
    (hwrite : (writeFiles [((ExportPaths.new dir c.name).nodes, x.nodeBytes),
        ((ExportPaths.new dir c.name).edges, x.edgeBytes),
        ((ExportPaths.new dir c.name).modules, Bytes.ofText x.moduleText)] :
      StateM Place (Except ExportError Unit)) w = (.ok (), w')) :
    (c.export units dir : StateM Place (Except ExportError ExportedCluster)) w = (.ok ⟨c.name,
      x.nodes.length, x.edges.length, x.modules, x.truncatedTags, .new dir c.name⟩, w') := by
  rw [Cluster.export, hx]
  exact StateM.bind_of_eq hwrite

/-- The units of the nodes have numbers, and the blocks are keyed by them. -/
structure Sourced (units : UnitTable) (c : Cluster) : Prop where
  graph : c.graph.Coherent
  keyed : ∀ x ∈ c.graph.nodes.toList, x.KeyedByUnit
  issued : ∀ u ∈ Node.units c.graph.nodes.toList, units.Issued u

/-- What the files of an exported cluster are read as. -/
structure ReadsBack (units : UnitTable) (dir : String) (c : Cluster) (x : ExportedCluster)
    (w : Place) (nodes : List ExportedNode) (edges : List ExportedEdge) : Prop where
  cluster_eq : x.cluster = c.name
  paths_eq : x.paths = .new dir c.name
  nodes_eq : x.nodes = c.graph.nodeCount
  edges_eq : x.edges = c.graph.edgeCount
  /-- The modules are those of the units, in the order of their first nodes. -/
  modules_eq : x.modules =
    ModuleList.boundaryName :: (Node.units c.graph.nodes.toList).map units.name
  /-- No name stands for two units. -/
  nodup_names : ((Node.units c.graph.nodes.toList).map units.name).Nodup
  modules_lines : ∃ bs, w.Holds x.paths.modules bs ∧ bs.lines = x.modules.map Bytes.ofText
  /-- There is one record for each node. -/
  nodes_records : w.HoldsRecords x.paths.nodes nodes
  describes : List.Forall₂ (fun r y => r.Describes units x.modules y) nodes c.graph.nodes.toList
  /-- The records of edges tell the edges. -/
  edges_records : w.HoldsRecords x.paths.edges edges
  map_edge : edges.map ExportedEdge.edge = c.graph.edges.toList
  truncatedTags_eq : x.truncatedTags = howMany c.graph.nodes.toList Node.IsWide
  /-- While no address lost bits, the record of a block tells it from all others. -/
  code_inj : x.truncatedTags = 0 → ∀ n n', c.graph.hasNode n → c.graph.hasNode n' →
    (c.graph.node n).IsCode → (c.graph.node n').IsCode →
    ∀ r r', nodes[n.index]? = some r → nodes[n'.index]? = some r' → r.place = r'.place → n = n'

namespace Sourced

theorem nodup_names (h : c.Sourced units) (hunits : units.WellFormed) :
    ((Node.units c.graph.nodes.toList).map units.name).Nodup :=
  (Node.nodup_units _).map_on fun u hu v hv hname =>
    hunits.name_inj (h.issued u hu) (h.issued v hv) hname

theorem modules_lines (h : c.Sourced units) (hunits : units.WellFormed) : ∀ name ∈
    ModuleList.boundaryName :: (Node.units c.graph.nodes.toList).map units.name,
      '\n' ∉ name.toList := by
  refine List.forall_mem_cons.2 ⟨by decide, fun name hname => ?_⟩
  obtain ⟨u, hu, rfl⟩ := List.mem_map.1 hname
  exact hunits.newline_not_mem_name (h.issued u hu)

theorem map_edge (h : c.Sourced units) (hnodes : c.graph.nodeCount ≤ 2 ^ 26) :
    (∀ r ∈ c.graph.edges.toList.map ClusterExport.ofEdge, r.Fits) ∧
      (c.graph.edges.toList.map ClusterExport.ofEdge).map ExportedEdge.edge =
        c.graph.edges.toList := by
  have hedge : ∀ e ∈ c.graph.edges.toList,
      (ClusterExport.ofEdge e).Fits ∧ (ClusterExport.ofEdge e).edge = e := by
    intro e he
    obtain ⟨i, hi⟩ := List.mem_iff_getElem?.1 he
    rw [Array.getElem?_toList] at hi
    obtain ⟨hsource, htarget⟩ := h.graph.ends ⟨i⟩ e hi
    exact ClusterExport.edge_ofEdge
      (Nat.lt_of_lt_of_le (Graph.hasNode_iff.1 hsource) hnodes)
      (Nat.lt_of_lt_of_le (Graph.hasNode_iff.1 htarget) hnodes)
  refine ⟨List.forall_mem_map.2 fun e he => (hedge e he).1, ?_⟩
  rw [List.map_map]
  exact (List.map_congr_left fun e he => (hedge e he).2).trans (List.map_id _)

/-- While no address lost bits, the record of a block tells it from all others. -/
theorem code_inj (h : c.Sourced units) {l : ModuleList}
    (hl : l.Lists units (Node.units c.graph.nodes.toList))
    (hroom : (Node.units c.graph.nodes.toList).length < ModuleList.limit)
    (hwide : ∀ x ∈ c.graph.nodes.toList, ¬x.IsWide) {n n' : NodeId} (hn : c.graph.hasNode n)
    (hn' : c.graph.hasNode n') (hcode : (c.graph.node n).IsCode)
    (hcode' : (c.graph.node n').IsCode)
    (hplace : (ClusterExport.ofNode l (c.graph.node n)).place =
      (ClusterExport.ofNode l (c.graph.node n')).place) : n = n' := by
  obtain ⟨hmodule, hrest⟩ := Prod.mk.inj hplace
  obtain ⟨htag, hversion⟩ := Prod.mk.inj hrest
  have hmem := Graph.mem_nodes_iff.2 ⟨n, hn, rfl⟩
  have hmem' := Graph.mem_nodes_iff.2 ⟨n', hn', rfl⟩
  obtain ⟨unit, hunit, hkey⟩ :=
    ClusterExport.exists_key_eq hl hroom h.keyed hmem hcode (hwide _ hmem)
  obtain ⟨unit', hunit', hkey'⟩ :=
    ClusterExport.exists_key_eq hl hroom h.keyed hmem' hcode' (hwide _ hmem')
  rw [hmodule, hunit'] at hunit
  rw [htag, hversion, ← Option.some.inj hunit, ← hkey'] at hkey
  have hfind := (h.graph.find?_eq_some_iff _ n).2 ⟨hn, hkey⟩
  have hfind' := (h.graph.find?_eq_some_iff _ n').2 ⟨hn', rfl⟩
  exact Option.some.inj (hfind.symm.trans hfind')

/-- **A cluster is read back from its files**, once they hold what it is exported as. -/
theorem readsBack (h : c.Sourced units) (hunits : units.WellFormed) {x : ClusterExport}
    (hx : ClusterExport.ofCluster units c = .ok x)
    (hnodefile : w.Holds (ExportPaths.new dir c.name).nodes x.nodeBytes)
    (hedgefile : w.Holds (ExportPaths.new dir c.name).edges x.edgeBytes)
    (hmodulefile : w.Holds (ExportPaths.new dir c.name).modules (Bytes.ofText x.moduleText)) :
    ∃ nodes edges, ReadsBack units dir c ⟨c.name, x.nodes.length, x.edges.length, x.modules,
      x.truncatedTags, .new dir c.name⟩ w nodes edges := by
  obtain ⟨hnodes, hroom⟩ := ClusterExport.of_ofCluster_eq hx
  obtain ⟨l, hl, hexport⟩ := ClusterExport.exists_ofCluster_eq units hnodes hroom
  obtain ⟨hfits, hedges⟩ := h.map_edge hnodes
  cases hx.symm.trans hexport
  refine ⟨_, _, {
    cluster_eq := rfl
    paths_eq := rfl
    nodes_eq := List.length_map _
    edges_eq := List.length_map _
    modules_eq := rfl
    nodup_names := h.nodup_names hunits
    modules_lines := ⟨_, hmodulefile, Bytes.lines_ofText_join (h.modules_lines hunits)⟩
    nodes_records := ⟨_, hnodefile, ExportedNode.lossless.ofBytes_toBytes fun _ _ => trivial⟩
    describes := ?_
    edges_records := ⟨_, hedgefile, ExportedEdge.lossless.ofBytes_toBytes hfits⟩
    map_edge := hedges
    truncatedTags_eq := ClusterExport.countP_isTruncated _
    code_inj := ?_ }⟩
  · rw [List.forall₂_map_left_iff, List.forall₂_same, ← hl.names_eq]
    exact fun x hx => ClusterExport.describes_ofNode hl hroom h.keyed hx
  · intro hnone n n' hn hn' hcode hcode' r r' hr hr'
    rw [List.getElem?_map, Graph.getElem?_nodes hn, Option.map_some, Option.some.injEq] at hr
    rw [List.getElem?_map, Graph.getElem?_nodes hn', Option.map_some, Option.some.injEq] at hr'
    rw [← hr, ← hr']
    refine h.code_inj hl hroom (fun x hx hwide => ?_) hn hn' hcode hcode'
    exact List.countP_eq_zero.1 hnone x hx (ClusterExport.isTruncated_iff.2 hwide)

/-- **A cluster is exported where its files can be written, and is read back from there.** -/
theorem exists_readsBack (h : c.Sourced units) (hunits : units.WellFormed)
    (hnodes : c.graph.nodeCount ≤ 2 ^ 26)
    (hroom : (Node.units c.graph.nodes.toList).length ≤ 65535)
    (hw : ExportPaths.Writable w (.new dir c.name)) :
    ∃ x w' nodes edges,
      (c.export units dir : StateM Place (Except ExportError ExportedCluster)) w = (.ok x, w') ∧
        ReadsBack units dir c x w' nodes edges := by
  obtain ⟨l, -, hexport⟩ :=
    ClusterExport.exists_ofCluster_eq units hnodes (Nat.lt_succ_of_le hroom)
  obtain ⟨w', hwrite, hnodefile, hedgefile, hmodulefile⟩ := hw.exists_writeFiles _ _ _
  obtain ⟨nodes, edges, hreads⟩ := h.readsBack hunits hexport hnodefile hedgefile hmodulefile
  exact ⟨_, w', nodes, edges, export_eq hexport hwrite, hreads⟩

end Sourced

end Cluster

/-! ## What was loaded -/

namespace TraceFiles

variable {config : ClusterConfig} {t : TraceFiles} {g : ProcessGraph} {c : Cluster}

theorem sourced_of_load (h : (t.load config).result = .ok g) (hc : c ∈ g.clusters.toList) :
    g.units.WellFormed ∧ c.Sourced g.units := by
  obtain ⟨hcoherent, hbrought⟩ := brought_of_load h
  obtain ⟨hlog, -⟩ := stages_of_load h
  obtain ⟨log, -, hread⟩ := TraceFile.readLog_eq_ok_iff.1 hlog
  obtain ⟨hunits, hissued⟩ :=
    ModuleLog.wellFormed_read UnitTable.wellFormed_initial UnitTable.issued_initial hread
  obtain ⟨i, rfl⟩ := Clusters.exists_get_eq hc
  have hkeyed : ∀ x ∈ (g.clusters.get i).graph.nodes.toList, ∀ unit tag version,
      x.key = .block unit tag version → x.unit = unit ∧ g.units.Issued unit := by
    intro x hx unit tag version hkey
    obtain ⟨n, hn, rfl⟩ := Graph.mem_nodes_iff.1 hx
    obtain ⟨hunit, q, -, hlocate⟩ := (hbrought i n hn).unit_eq hkey
    exact ⟨hunit, hlocate ▸ hissued _ _ _⟩
  refine ⟨hunits, (hcoherent i).graph, fun x hx unit tag version hkey =>
    (hkeyed x hx unit tag version hkey).1, fun u hu => ?_⟩
  obtain ⟨x, hx, hkind, rfl⟩ := Node.mem_units.1 hu
  obtain ⟨n, hn, rfl⟩ := Graph.mem_nodes_iff.1 hx
  obtain ⟨unit, tag, version, hkey⟩ := NodeKey.isBlock_iff.1 ((hbrought i n hn).isBlock hkind)
  obtain ⟨hunit, hissued⟩ := hkeyed _ hx unit tag version hkey
  exact hunit ▸ hissued

/-- **An export is read back.**  A cluster of a loaded graph that is not too large is exported
wherever its three files can be written, and they are read as its modules, its nodes and its
edges. -/
theorem export_readsBack (h : (t.load config).result = .ok g) (hc : c ∈ g.clusters.toList)
    (hnodes : c.graph.nodeCount ≤ 2 ^ 26)
    (hroom : (Node.units c.graph.nodes.toList).length ≤ 65535) {dir : String} {w : Place}
    (hw : ExportPaths.Writable w (.new dir c.name)) :
    ∃ x w' nodes edges,
      (c.export g.units dir : StateM Place (Except ExportError ExportedCluster)) w =
        (.ok x, w') ∧ c.ReadsBack g.units dir x w' nodes edges := by
  obtain ⟨hunits, hsourced⟩ := sourced_of_load h hc
  exact hsourced.exists_readsBack hunits hnodes hroom hw

/-! ### An export into an empty directory -/

/-- In a directory without entries a file can be written. -/
theorem writable_of_locate {path : String} (name : Bytes)
    (hl : ({} : Place).locate path = .ok [name]) : ({} : Place).Writable path :=
  Place.writable_iff.2 ⟨[name], hl, ⟨[], rfl⟩, by rintro ⟨entries, h⟩; cases h⟩

theorem writable_dynamic : ExportPaths.Writable {} (.new "" "dynamic") where
  nodes := writable_of_locate (.ofText "dynamic.nodes.dat") (by decide +kernel)
  edges := writable_of_locate (.ofText "dynamic.edges.dat") (by decide +kernel)
  modules := writable_of_locate (.ofText "dynamic.modules.txt") (by decide +kernel)

/-- A block, an entry and the edges that lead to the block are read back. -/
theorem export_readsBack_callingOut : ∃ g c,
    ((callingOut mixedEdges).load (.empty "main")).result = .ok g ∧ c ∈ g.clusters.toList ∧
      c.name = "dynamic" ∧ c.graph.nodeCount = 2 ∧ c.graph.edges.size = 2 ∧
        ∃ x w' nodes edges,
          (c.export g.units "" : StateM Place (Except ExportError ExportedCluster)) {} =
            (.ok x, w') ∧ c.ReadsBack g.units "" x w' nodes edges := by
  obtain ⟨g, hload, -, houtline⟩ := exists_load_callingOut mixedEdges List.mem_cons_self
  have hlast : callingOutline.getLast (by decide) ∈ g.clusters.toList.map outline := by
    rw [houtline]
    exact List.getLast_mem _
  obtain ⟨c, hc, hdynamic⟩ := List.mem_map.1 hlast
  have hname : c.name = "dynamic" := congrArg Prod.fst hdynamic
  have hnodes : c.graph.nodeCount = 2 := by
    simpa [outline, callingOutline, Graph.nodeCount] using
      congrArg (fun o => o.2.1.length) hdynamic
  have hedges : c.graph.edges.size = 2 := by
    simpa [outline, callingOutline] using congrArg (fun o => o.2.2.length) hdynamic
  have hunits : (Node.units c.graph.nodes.toList).length ≤ 2 :=
    (Node.length_units_le _).trans (Nat.le_of_eq hnodes)
  refine ⟨g, c, hload, hc, hname, hnodes, hedges, ?_⟩
  refine export_readsBack hload hc (by rw [hnodes]; decide) (hunits.trans (by decide)) ?_
  rw [hname]
  exact writable_dynamic

end TraceFiles
end FlowAtlas
