import FlowAtlas.Proofs.Command.Paths
import FlowAtlas.Proofs.Files.Altering
import FlowAtlas.Proofs.Load.Export

/-!
# The exports of a process

A process is exported cluster by cluster, and a cluster file by file, so that an export that succeeds
has written one list of files (`ProcessGraph.export_eq_ok`).  Clusters are called as they are in the
configuration (`TraceFiles.names_of_load`); when their names are different, the files lie apart.

* `TraceFiles.readsBack_of_export` says what an export that succeeds has done: it has touched its own
  files alone, and every cluster is read back from there.
* `ProcessGraph.exists_export` says when an export succeeds.
-/

set_option autoImplicit false

namespace FlowAtlas

open FileTree (goal)

/-! ## The names of clusters -/

theorem Cluster.name_apply (c : Cluster) (q : Cluster.Request) : (q.apply c).name = c.name := by
  have hentry : ∀ x, (c.addEntry x).2.name = c.name := by
    intro x
    rw [addEntry]
    split <;> rfl
  have hexit : ∀ x, (c.addExit x).2.name = c.name := by
    intro x
    rw [addExit]
    split <;> rfl
  have hroot : ∀ owner, (c.addRoot owner).2.name = c.name := by
    intro owner
    rw [addRoot]
    split <;> rfl
  have hblock : ∀ x, (c.addBlock x).2.name = c.name := by
    intro x
    rw [addBlock]
    dsimp only
    split <;> rfl
  cases q with
  | node x =>
    rw [Request.apply, addNode]
    split
    · exact hroot _
    · split
      · exact hentry x
      · exact hexit x
      · exact hblock x
  | entryFor => exact hentry _
  | exitFor => exact hexit _
  | root => exact hroot _
  | edge s t k o =>
    rw [Request.apply, addEdge, state_onGraph]

namespace Clusters

variable {cs cs' : Clusters}

/-- The names of the clusters, in order. -/
def names (cs : Clusters) : List String := cs.toList.map (·.name)

theorem names_eq (hsize : cs'.size = cs.size) (h : ∀ i, (cs'.get i).name = (cs.get i).name) :
    cs'.names = cs.names := by
  refine List.ext_getElem (by simpa [names] using hsize) fun i hi hi' => ?_
  rw [names, List.length_map, Array.length_toList] at hi hi'
  have hname := h ⟨i⟩
  rw [get, get, Array.getD_eq_getD_getElem?, Array.getD_eq_getD_getElem?,
    Array.getElem?_eq_getElem hi, Array.getElem?_eq_getElem hi'] at hname
  simpa [names] using hname

end Clusters

theorem TraceFiles.process_of_load {t : TraceFiles} {config : ClusterConfig} {g : ProcessGraph}
    (h : (t.load config).result = .ok g) : g.process = t.process := by
  obtain ⟨blocks, edges, crosses, s, cs, hmakes⟩ := load_eq_ok_iff.1 h
  exact hmakes.process

/-- The clusters of a load are called as they are in the configuration. -/
theorem TraceFiles.names_of_load {t : TraceFiles} {config : ClusterConfig} {g : ProcessGraph}
    (h : (t.load config).result = .ok g) :
    g.clusters.names = config.clusters.map (·.name) := by
  have hempty : config.emptyClusters.names = config.clusters.map (·.name) := by
    rw [Clusters.names, ClusterConfig.emptyClusters]
    refine List.ext_getElem (by simp) fun i _ _ => ?_
    simp [Cluster.empty]
  rw [← hempty]
  refine EStateM.preserved_of_reflTransGen (p := fun cs => cs.names = config.emptyClusters.names)
    (steps_of_load h) (fun cs cs' hstep hcs => Eq.trans ?_ hcs) rfl
  cases hstep with
  | ask =>
    exact Clusters.names_eq Clusters.size_ask <| Clusters.forall_get_ask
      (p := fun i c => c.name = (cs.get i).name) (fun _ => rfl) fun _ => Cluster.name_apply _ _
  | mark hsize hget =>
    refine Clusters.names_eq hsize fun i => ?_
    obtain ⟨found, hi⟩ := hget i
    rw [hi]

/-! ## Files one after another -/

namespace Place

variable {w w' : Place} {files files' : List (String × Bytes)}

theorem writeFiles_append {w₁ : Place}
    (h : (writeFiles files : StateM Place (Except ExportError Unit)) w = (.ok (), w₁))
    (h' : (writeFiles files' : StateM Place (Except ExportError Unit)) w₁ = (.ok (), w')) :
    (writeFiles (files ++ files') : StateM Place (Except ExportError Unit)) w = (.ok (), w') := by
  induction files generalizing w with
  | nil =>
    cases h
    exact h'
  | cons f files ih =>
    rw [List.cons_append, writeFiles]
    rw [writeFiles] at h
    cases hwrite : (FileSystem.write f.1 f.2 : StateM Place (Except FileError Unit)) w with
    | mk result w₂ =>
      rw [StateM.bind_of_eq hwrite] at h ⊢
      cases result with
      | error e => cases h
      | ok u => exact ih h

/-- Files that were written at different locations hold what was written into them. -/
theorem holds_of_writeFiles
    (h : (writeFiles files : StateM Place (Except ExportError Unit)) w = (.ok (), w'))
    (hapart : (files.map fun f => goal w.current f.1).Nodup) :
    w.Rewrites (· ∈ files.map fun f => goal w.current f.1) w' ∧
      ∀ f ∈ files, w'.Holds f.1 f.2 := by
  induction files generalizing w with
  | nil =>
    cases h
    exact ⟨.refl _ _, nofun⟩
  | cons f files ih =>
    rw [List.map_cons, List.nodup_cons] at hapart
    cases hwrite : (FileSystem.write f.1 f.2 : StateM Place (Except FileError Unit)) w with
    | mk result w₁ =>
      have hfirst := w.rewrites_write f.1 f.2
      rw [hwrite] at hfirst
      rw [writeFiles, StateM.bind_of_eq hwrite] at h
      cases result with
      | error e => cases h
      | ok u =>
        obtain ⟨hrest, hholds⟩ := ih h (by rw [hfirst.current_eq]; exact hapart.2)
        rw [hfirst.current_eq] at hrest
        refine ⟨(hfirst.mono ?_).trans (hrest.mono ?_), List.forall_mem_cons.2 ⟨?_, hholds⟩⟩
        · rintro l rfl
          exact List.mem_cons_self
        · exact fun l hl => List.mem_cons_of_mem _ hl
        · refine hrest.holds ?_ (holds_of_write hwrite)
          rw [hfirst.current_eq]
          exact hapart.1

end Place

/-! ## Clusters one after another -/

namespace ClusterExport

variable {units : UnitTable} {c : Cluster} {e : ClusterExport}

/-- The files of an exported cluster in a directory, with what they are to hold. -/
def filesIn (dir : String) (e : ClusterExport) : List (String × Bytes) :=
  let paths := ExportPaths.new dir e.cluster
  [(paths.nodes, e.nodeBytes), (paths.edges, e.edgeBytes),
    (paths.modules, Bytes.ofText e.moduleText)]

/-- What is told of a cluster that was exported into a directory. -/
def toldIn (dir : String) (e : ClusterExport) : ExportedCluster :=
  ⟨e.cluster, e.nodes.length, e.edges.length, e.modules, e.truncatedTags, .new dir e.cluster⟩

theorem cluster_eq (h : ofCluster units c = .ok e) : e.cluster = c.name := by
  rw [ofCluster] at h
  split at h
  · cases h
  · split at h
    · cases h
    · cases h
      rfl

end ClusterExport

section

variable {units : UnitTable} {dir : String} {c : Cluster} {cs : List Cluster} {w w' : Place}

theorem Cluster.export_eq_ok {x : ExportedCluster}
    (h : (c.export units dir : StateM Place (Except ExportError ExportedCluster)) w =
      (.ok x, w')) :
    ∃ e, ClusterExport.ofCluster units c = .ok e ∧ x = e.toldIn dir ∧
      (writeFiles (e.filesIn dir) : StateM Place (Except ExportError Unit)) w = (.ok (), w') := by
  rw [Cluster.export] at h
  cases he : ClusterExport.ofCluster units c with
  | error e =>
    rw [he] at h
    cases h
  | ok e =>
    have hname := ClusterExport.cluster_eq he
    rw [he, ← hname] at h
    dsimp only at h
    cases hwrite : (writeFiles (e.filesIn dir) : StateM Place (Except ExportError Unit)) w with
    | mk result w₁ =>
      have h := (StateM.bind_of_eq hwrite).symm.trans h
      cases result with
      | error e => cases h
      | ok u =>
        cases h
        exact ⟨e, rfl, rfl, hwrite⟩

/-- Clusters that were exported were written file by file. -/
theorem exportAll_eq_ok {xs : List ExportedCluster}
    (h : (exportAll units dir cs : StateM Place (Except ExportError (List ExportedCluster))) w =
      (.ok xs, w')) :
    ∃ es, List.Forall₂ (fun c e => ClusterExport.ofCluster units c = .ok e) cs es ∧
      xs = es.map (·.toldIn dir) ∧
      (writeFiles (es.flatMap (·.filesIn dir)) : StateM Place (Except ExportError Unit)) w =
        (.ok (), w') := by
  induction cs generalizing w xs with
  | nil =>
    cases h
    exact ⟨[], .nil, rfl, rfl⟩
  | cons c cs ih =>
    rw [exportAll] at h
    cases hc : (c.export units dir : StateM Place (Except ExportError ExportedCluster)) w with
    | mk result w₁ =>
      rw [StateM.bind_of_eq hc] at h
      cases result with
      | error e => cases h
      | ok x =>
        dsimp only at h
        cases hcs : (exportAll units dir cs :
            StateM Place (Except ExportError (List ExportedCluster))) w₁ with
        | mk result w₂ =>
          have h := (StateM.bind_of_eq hcs).symm.trans h
          cases result with
          | error e => cases h
          | ok rest =>
            cases h
            obtain ⟨es, hes, rfl, hwrite⟩ := ih hcs
            obtain ⟨e, he, rfl, hfirst⟩ := Cluster.export_eq_ok hc
            exact ⟨e :: es, .cons he hes, rfl, Place.writeFiles_append hfirst hwrite⟩

end

/-! ## Exports of a process -/

/-- The three files of a cluster. -/
def ExportPaths.all (paths : ExportPaths) : List String := [paths.nodes, paths.edges, paths.modules]

namespace Cluster.ReadsBack

variable {units : UnitTable} {dir : String} {c : Cluster} {x : ExportedCluster} {w w' : Place}
  {nodes : List ExportedNode} {edges : List ExportedEdge} {touched : Location → Prop}

/-- What is changed elsewhere does not matter to the files of a cluster. -/
theorem of_alters (h : c.ReadsBack units dir x w nodes edges) (ha : w.Alters touched w')
    (hpaths : ∀ path ∈ x.paths.all, ¬touched (goal w.current path)) :
    c.ReadsBack units dir x w' nodes edges := by
  have hkeeps : ∀ path ∈ x.paths.all, ∀ bs, w.Holds path bs → w'.Holds path bs :=
    fun path hpath bs => ha.holds (hpaths path hpath)
  obtain ⟨lines, hlines, hlines'⟩ := h.modules_lines
  obtain ⟨nodeBytes, hnodes, hnodes'⟩ := h.nodes_records
  obtain ⟨edgeBytes, hedges, hedges'⟩ := h.edges_records
  exact { h with
    modules_lines := ⟨lines, hkeeps _ (by simp [ExportPaths.all]) _ hlines, hlines'⟩
    nodes_records := ⟨nodeBytes, hkeeps _ (by simp [ExportPaths.all]) _ hnodes, hnodes'⟩
    edges_records := ⟨edgeBytes, hkeeps _ (by simp [ExportPaths.all]) _ hedges, hedges'⟩ }

end Cluster.ReadsBack

/-- The exported clusters are those of the graph that hold nodes, and all of them are read back. -/
def ProcessGraph.ReadsBack (g : ProcessGraph) (dir : String) (xs : List ExportedCluster)
    (w : Place) : Prop :=
  List.Forall₂ (fun c x => ∃ nodes edges, c.ReadsBack g.units dir x w nodes edges) g.populated xs

section

variable {config : ClusterConfig} {t : TraceFiles} {g : ProcessGraph} {layout : ProjectLayout}
  {w w' : Place} {xs : List ExportedCluster}

/-- The clusters of a configuration have names of their own, which hold no slashes. -/
structure ClusterConfig.Distinct (config : ClusterConfig) : Prop where
  nodup : (config.clusters.map (·.name)).Nodup
  no_slash : ∀ s ∈ config.clusters, '/' ∉ s.name.toList

theorem TraceFiles.names_populated (h : (t.load config).result = .ok g)
    (hconfig : config.Distinct) :
    (g.populated.map (·.name)).Nodup ∧ ∀ c ∈ g.populated.map (·.name), '/' ∉ c.toList := by
  have hsub : (g.populated.map (·.name)).Sublist (config.clusters.map (·.name)) := by
    rw [← names_of_load h]
    exact List.filter_sublist.map _
  refine ⟨hconfig.nodup.sublist hsub, fun c hc => ?_⟩
  obtain ⟨s, hs, rfl⟩ := List.mem_map.1 (hsub.subset hc)
  exact hconfig.no_slash s hs

/-- What the export of a process comes to, file by file. -/
theorem ProcessGraph.export_eq_ok {dir : String}
    (h : (g.export dir : StateM Place (Except ExportError (List ExportedCluster))) w =
      (.ok xs, w')) :
    ∃ es w₁, List.Forall₂ (fun c e => ClusterExport.ofCluster g.units c = .ok e) g.populated es ∧
      xs = es.map (·.toldIn dir) ∧ w.Alters (fun _ => False) w₁ ∧
      (writeFiles (es.flatMap (·.filesIn dir)) : StateM Place (Except ExportError Unit)) w₁ =
        (.ok (), w') := by
  rw [ProcessGraph.export] at h
  have halters := w.alters_makeDirs dir
  cases hmake : (FileSystem.makeDirs dir : StateM Place (Except FileError Unit)) w with
  | mk result w₁ =>
    rw [hmake] at halters
    rw [StateM.bind_of_eq hmake] at h
    cases result with
    | error e => cases h
    | ok u =>
      obtain ⟨es, hes, hxs, hwrite⟩ := exportAll_eq_ok h
      exact ⟨es, w₁, hes, hxs, halters, hwrite⟩

theorem ProcessGraph.flatMap_export {es : List ClusterExport}
    (hes : List.Forall₂ (fun c e => ClusterExport.ofCluster g.units c = .ok e) g.populated es)
    (process : String) :
    es.flatMap (fun e => (ExportPaths.new (layout.processExportDir process) e.cluster).all) =
      layout.exportPaths process (g.populated.map (·.name)) := by
  have hnames : es.map (·.cluster) = g.populated.map (·.name) := by
    generalize g.populated = cs at hes
    induction hes with
    | nil => rfl
    | cons he _ ih => rw [List.map_cons, List.map_cons, ClusterExport.cluster_eq he, ih]
  rw [← hnames, ProjectLayout.exportPaths, List.flatMap_map]
  rfl

theorem ProcessGraph.paths_of_export
    (h : (g.export (layout.processExportDir g.process) :
      StateM Place (Except ExportError (List ExportedCluster))) w = (.ok xs, w')) :
    xs.flatMap (·.paths.all) = layout.exportPaths g.process (g.populated.map (·.name)) := by
  obtain ⟨es, w₁, hes, rfl, -, -⟩ := g.export_eq_ok h
  rw [← g.flatMap_export hes, List.flatMap_map]
  rfl

/-- **A process is exported into its files alone, and read back from there.** -/
theorem TraceFiles.readsBack_of_export (hload : (t.load config).result = .ok g)
    (hconfig : config.Distinct) (hprocess : ProjectLayout.IsName g.process)
    (h : (g.export (layout.processExportDir g.process) :
      StateM Place (Except ExportError (List ExportedCluster))) w = (.ok xs, w')) :
    w.Alters (· ∈ (layout.exportPaths g.process (g.populated.map (·.name))).map (goal w.current))
        w' ∧
      g.ReadsBack (layout.processExportDir g.process) xs w' := by
  obtain ⟨hnodup, hslash⟩ := names_populated hload hconfig
  obtain ⟨es, w₁, hes, rfl, hmake, hwrite⟩ := g.export_eq_ok h
  have hpaths : (es.flatMap (·.filesIn (layout.processExportDir g.process))).map (·.1) =
      layout.exportPaths g.process (g.populated.map (·.name)) := by
    rw [← g.flatMap_export hes, List.map_flatMap]
    rfl
  have hgoals : (es.flatMap (·.filesIn (layout.processExportDir g.process))).map
        (fun f => goal w₁.current f.1) =
      (layout.exportPaths g.process (g.populated.map (·.name))).map (goal w.current) := by
    rw [← hpaths, List.map_map, hmake.current_eq]
    rfl
  obtain ⟨hrewrites, hholds⟩ := Place.holds_of_writeFiles hwrite <| by
    rw [hgoals]
    exact ProjectLayout.nodup_goal_exportPaths w.current hprocess hslash hnodup
  rw [hgoals] at hrewrites
  refine ⟨(hmake.mono fun _ h => h.elim).trans hrewrites.toAlters, ?_⟩
  obtain ⟨hlength, hes⟩ := List.forall₂_iff_zip.1 hes
  rw [ProcessGraph.ReadsBack, List.forall₂_map_right_iff, List.forall₂_iff_zip]
  refine ⟨hlength, fun {c e} hmem => ?_⟩
  obtain ⟨hc, he⟩ := List.of_mem_zip hmem
  have hfiles : ∀ f ∈ e.filesIn (layout.processExportDir g.process), w'.Holds f.1 f.2 :=
    fun f hf => hholds f (List.mem_flatMap.2 ⟨e, he, hf⟩)
  obtain ⟨hunits, hsourced⟩ := sourced_of_load hload (List.mem_of_mem_filter hc)
  have hx := hes hmem
  simp only [ClusterExport.filesIn, ClusterExport.cluster_eq hx, List.forall_mem_cons] at hfiles
  obtain ⟨hnodes, hedges, hmodules, -⟩ := hfiles
  rw [ClusterExport.toldIn, ClusterExport.cluster_eq hx]
  exact hsourced.readsBack hunits hx hnodes hedges hmodules

/-! ### Exports that succeed -/

theorem Place.writable_of_writeFiles {files : List (String × Bytes)} {path : String}
    (h : (writeFiles files : StateM Place (Except ExportError Unit)) w = (.ok (), w'))
    (hpath : w.Writable path) : w'.Writable path := by
  induction files generalizing w with
  | nil =>
    cases h
    exact hpath
  | cons f files ih =>
    rw [writeFiles] at h
    obtain ⟨e, hwrite⟩ | ⟨-, hroom, hwrite⟩ := w.write_cases f.1 f.2
    · rw [StateM.bind_of_eq hwrite] at h
      cases h
    · rw [StateM.bind_of_eq hwrite] at h
      exact ih h (hpath.withFile hroom)

variable {dir : String} {cs : List Cluster}

/-- Clusters that are not too large are exported where their files can be written, and what could be
written before can be written after it. -/
theorem exists_exportAll (units : UnitTable) (hsmall : ∀ c ∈ cs, c.graph.nodeCount ≤ 65535)
    (hw : ∀ c ∈ cs, ExportPaths.Writable w (.new dir c.name)) :
    ∃ xs w', (exportAll units dir cs :
        StateM Place (Except ExportError (List ExportedCluster))) w = (.ok xs, w') ∧
      ∀ path, w.Writable path → w'.Writable path := by
  induction cs generalizing w with
  | nil => exact ⟨[], w, rfl, fun _ h => h⟩
  | cons c cs ih =>
    obtain ⟨hc, hsmall⟩ := List.forall_mem_cons.1 hsmall
    obtain ⟨hwc, hw⟩ := List.forall_mem_cons.1 hw
    have hunits := (Node.length_units_le c.graph.nodes.toList).trans hc
    obtain ⟨e, hexport⟩ : ∃ e, ClusterExport.ofCluster units c = .ok e := by
      obtain ⟨l, -, hexport⟩ := ClusterExport.exists_ofCluster_eq units (hc.trans (by decide))
        (Nat.lt_succ_of_le hunits)
      exact ⟨_, hexport⟩
    obtain ⟨w₁, hwrite, -⟩ := hwc.exists_writeFiles e.nodeBytes e.edgeBytes (.ofText e.moduleText)
    have hkeeps : ∀ path, w.Writable path → w₁.Writable path :=
      fun path => Place.writable_of_writeFiles hwrite
    obtain ⟨xs, w', hrest, hkeeps'⟩ := ih hsmall fun c hc =>
      ⟨hkeeps _ (hw c hc).nodes, hkeeps _ (hw c hc).edges, hkeeps _ (hw c hc).modules⟩
    obtain ⟨x, hfirst⟩ : ∃ x, (c.export units dir :
        StateM Place (Except ExportError ExportedCluster)) w = (.ok x, w₁) :=
      ⟨_, Cluster.export_eq hexport hwrite⟩
    refine ⟨x :: xs, w', ?_, fun path h => hkeeps' path (hkeeps path h)⟩
    rw [exportAll, StateM.bind_of_eq hfirst]
    exact StateM.bind_of_eq hrest

/-- **A process is exported** into a directory where its files can be written. -/
theorem ProcessGraph.exists_export {w₁ : Place}
    (hmake : (FileSystem.makeDirs dir : StateM Place (Except FileError Unit)) w = (.ok (), w₁))
    (hsmall : ∀ c ∈ g.populated, c.graph.nodeCount ≤ 65535)
    (hw : ∀ c ∈ g.populated, ExportPaths.Writable w₁ (.new dir c.name)) :
    ∃ xs w', (g.export dir : StateM Place (Except ExportError (List ExportedCluster))) w =
        (.ok xs, w') ∧
      ∀ path, w₁.Writable path → w'.Writable path := by
  obtain ⟨xs, w', hexport, hkeeps⟩ := exists_exportAll g.units hsmall hw
  refine ⟨xs, w', ?_, hkeeps⟩
  rw [ProcessGraph.export, StateM.bind_of_eq hmake]
  exact hexport

end

end FlowAtlas
