import FlowAtlas.Proofs.Command.Process
import FlowAtlas.Proofs.Ledger.Frame

/-!
# The exports of one command

One command loads several traces, and then puts each load on record and exports its graph before it
goes on to the next.  What is settled for one trace must not spoil what was settled for those
before.

`Command.of_settleLoad` says what one such step touches: the files of the ledger, if loads are put
on record, and the exports of the process.  `Command.exports_apart` is the main theorem: the exports
of traces of different processes are told apart by their paths, and in the end all of them are read
back.  The directory of a trace does not count: traces of processes of the same name, wherever they
lie, are exported into the same files, one over the other.
-/

set_option autoImplicit false

namespace FlowAtlas

open FileTree (goal)

/-! ## One load after another -/

/-- The files that a report tells of. -/
def LoadReport.paths (r : LoadReport) : List String := r.exported.flatMap (·.paths.all)

/-- The trace of a report was loaded, and the clusters of its graph are read back from the files
that the report tells of. -/
def LoadReport.Stands (r : LoadReport) (layout : ProjectLayout) (t : TraceLayout)
    (result : Except LoadError ProcessGraph) (w : Place) : Prop :=
  ∃ g, result = .ok g ∧ r.traceDir = t.dir ∧ r.summary = some g.summary ∧
    g.ReadsBack (layout.processExportDir g.process) r.exported w

/-- What is changed elsewhere does not matter to the files of a report. -/
theorem LoadReport.Stands.of_alters {r : LoadReport} {layout : ProjectLayout} {t : TraceLayout}
    {result : Except LoadError ProcessGraph} {w w' : Place} {touched : Location → Prop}
    (h : r.Stands layout t result w) (ha : w.Alters touched w')
    (hpaths : ∀ path ∈ r.paths, ¬touched (goal w.current path)) :
    r.Stands layout t result w' := by
  obtain ⟨g, hg, hdir, hsummary, hreads⟩ := h
  refine ⟨g, hg, hdir, hsummary, ?_⟩
  obtain ⟨hlength, hreads⟩ := List.forall₂_iff_zip.1 hreads
  refine List.forall₂_iff_zip.2 ⟨hlength, fun {c x} hmem => ?_⟩
  obtain ⟨nodes, edges, hc⟩ := hreads hmem
  refine ⟨nodes, edges, hc.of_alters ha fun path hpath => hpaths path ?_⟩
  exact List.mem_flatMap.2 ⟨x, (List.of_mem_zip hmem).2, hpath⟩

namespace TraceLayout

/-- The trace was found among the names in a directory. -/
def Found (t : TraceLayout) : Prop :=
  ∃ dir entries, (∀ name ∈ entries, '/' ∉ name.toList) ∧ ofEntries dir entries = .ok t

/-- The process of a trace that was found has a name that can stand between slashes. -/
theorem Found.isName {t : TraceLayout} (h : t.Found) : ProjectLayout.IsName t.process := by
  obtain ⟨dir, entries, hslash, h⟩ := h
  rw [ofEntries] at h
  split at h
  · cases h
  · rename_i process hone
    cases h
    have hmem : process ∈ entries.filterMap processOf? :=
      List.mem_mergeSort.1 (hone ▸ List.mem_singleton_self process)
    obtain ⟨name, hname, hprocess⟩ := List.mem_filterMap.1 hmem
    rw [processOf?] at hprocess
    split at hprocess
    · rename_i hlong
      cases hprocess
      rw [Bool.and_eq_true, decide_eq_true_iff] at hlong
      refine ⟨fun hempty => ?_, fun hmem => ?_⟩
      · have hlength := congrArg (·.toList.length) hempty
        simp only [TraceLayout.new, String.toList_ofList, List.length_take] at hlength
        have hzero : "".toList.length = 0 := rfl
        omega
      · simp only [TraceLayout.new, String.toList_ofList] at hmem
        exact hslash name hname (List.mem_of_mem_take hmem)
    · cases hprocess
  · cases h

end TraceLayout

namespace Command

variable {p : OpenProject} {config : ClusterConfig} {isRecording : Bool} {startedAt file : String}
  {t : TraceLayout} {result : Except LoadError ProcessGraph} {l l' : LedgerFile} {w w' : Place}
  {r : LoadReport}

/-- What a command reaches that puts loads on record or not. -/
def Touches (isRecording : Bool) (current : Location) (file : String) (paths : List String)
    (k : Location) : Prop :=
  (isRecording = true ∧ LedgerFile.Around current file k) ∨ k ∈ paths.map (goal current)

theorem Touches.mono {current : Location} {paths paths' : List String} {k : Location}
    (hpaths : ∀ path ∈ paths, path ∈ paths') (h : Touches isRecording current file paths k) :
    Touches isRecording current file paths' k :=
  h.imp_right fun hk => by
    obtain ⟨path, hpath, hgoal⟩ := List.mem_map.1 hk
    exact List.mem_map.2 ⟨path, hpaths path hpath, hgoal⟩

/-- If loads are put on record, the ledger can be worked on, and none of the files is its own. -/
def LedgerApart (isRecording : Bool) (file : String) (paths : List String) (w : Place) : Prop :=
  isRecording = true → LedgerFile.Quiet file w ∧
    ∀ path ∈ paths, goal w.current path ≠ goal w.current file

theorem LedgerApart.mono {paths paths' : List String} (h : LedgerApart isRecording file paths' w)
    (hpaths : ∀ path ∈ paths, path ∈ paths') : LedgerApart isRecording file paths w :=
  fun hrecording => ⟨(h hrecording).1, fun path hpath => (h hrecording).2 path (hpaths path hpath)⟩

theorem settleLoad_eq (p : OpenProject) (isExporting isRecording : Bool) (startedAt : String)
    (t : TraceLayout) (result : Except LoadError ProcessGraph) :
    (settleLoad p isExporting isRecording startedAt t result :
        StateT LedgerFile (StateM Place) LoadReport) =
      (if isRecording then recordLoad startedAt t result else pure none) >>= fun runId =>
        liftM (reportLoad p isExporting runId t result : StateM Place LoadReport) := by
  cases isRecording <;> rfl

/-- A load is put on record, if that is asked for. -/
theorem exists_recorded (startedAt : String) (t : TraceLayout)
    (result : Except LoadError ProcessGraph) (hl : l.file = file)
    (hquiet : isRecording = true → LedgerFile.Quiet file w) :
    ∃ runId l₁ w₁, (if isRecording then recordLoad startedAt t result else pure none :
        StateT LedgerFile (StateM Place) (Option Int)).run l w = ((runId, l₁), w₁) ∧
      l₁.file = file ∧
      w.Rewrites (fun k => isRecording = true ∧ LedgerFile.Around w.current file k) w₁ ∧
      (isRecording = true → LedgerFile.Quiet file w₁) := by
  cases isRecording with
  | false => exact ⟨none, l, w, rfl, hl, .refl _ _, nofun⟩
  | true =>
    obtain ⟨hfile, hreaches⟩ :=
      LedgerFile.stays_recordLoad startedAt t result l hl w (.refl (hquiet rfl))
    exact ⟨_, _, _, rfl, hfile, hreaches.rewrites.mono fun k hk => ⟨rfl, hk⟩,
      fun _ => hreaches.quiet⟩

theorem export_of_exportProcess {layout : ProjectLayout} {g : ProcessGraph}
    {xs : List ExportedCluster}
    (h : (exportProcess layout g : StateM Place (Except String (List ExportedCluster))) w =
      (.ok xs, w')) :
    (g.export (layout.processExportDir g.process) :
      StateM Place (Except ExportError (List ExportedCluster))) w = (.ok xs, w') := by
  cases hexport : (g.export (layout.processExportDir g.process) :
      StateM Place (Except ExportError (List ExportedCluster))) w with
  | mk exported w₁ =>
    rw [exportProcess, StateM.bind_of_eq hexport] at h
    cases exported with
    | error e => cases h
    | ok found =>
      cases h
      rfl

/-- A report without a fault is on a trace that was loaded and exported. -/
theorem of_reportLoad {runId : Option Int}
    (h : (reportLoad p true runId t result : StateM Place LoadReport) w = (r, w'))
    (hok : r.isFailed = false) :
    ∃ g, result = .ok g ∧ r.traceDir = t.dir ∧ r.summary = some g.summary ∧
      (g.export (p.layout.processExportDir g.process) :
        StateM Place (Except ExportError (List ExportedCluster))) w = (.ok r.exported, w') := by
  cases result with
  | error e =>
    cases h
    cases hok
  | ok g =>
    cases hexport : (exportProcess p.layout g :
        StateM Place (Except String (List ExportedCluster))) w with
    | mk exported w₁ =>
      rw [reportLoad, if_pos rfl, StateM.bind_of_eq hexport] at h
      cases exported with
      | error e =>
        cases h
        cases hok
      | ok xs =>
        cases h
        exact ⟨g, rfl, rfl, rfl, export_of_exportProcess hexport⟩

/-- The paths are those of exports of a process. -/
def ExportsOf (layout : ProjectLayout) (process : String) (paths : List String) : Prop :=
  ∃ clusters : List String, clusters.Nodup ∧ (∀ c ∈ clusters, '/' ∉ c.toList) ∧
    paths = layout.exportPaths process clusters

theorem not_touches {current : Location} {paths paths' : List String} {path : String}
    {layout : ProjectLayout} {process : String} (hprocess : ProjectLayout.IsName process)
    (hexports : ExportsOf layout process paths) (hpath : path ∈ paths)
    (hledger : isRecording = true → goal current path ≠ goal current file)
    (hapart : goal current path ∉ paths'.map (goal current)) :
    ¬Touches isRecording current file paths' (goal current path) := by
  obtain ⟨clusters, -, hslash, rfl⟩ := hexports
  rintro (⟨hrecording, beside, hbeside, heq⟩ | hmem)
  · rcases List.mem_cons.1 hbeside with rfl | hbeside
    · exact hledger hrecording heq
    · have hends : ∃ ending ∈ ProjectLayout.ledgerEndings, beside = file ++ ending := by
        simpa [ProjectLayout.ledgerEndings, LedgerFile.journalPath, LedgerFile.logPath,
          LedgerFile.sharedPath] using hbeside
      obtain ⟨ending, hending, rfl⟩ := hends
      exact ProjectLayout.goal_ne_beside hprocess hslash hpath hending file heq
  · exact hapart hmem

/-- **A load that is settled touches the files of the ledger and of its exports alone**, and its
exports are read back. -/
theorem of_settleLoad {files : TraceFiles}
    (h : (settleLoad p true isRecording startedAt t (files.load config).result :
      StateT LedgerFile (StateM Place) LoadReport).run l w = ((r, l'), w'))
    (hok : r.isFailed = false) (hl : l.file = file) (hconfig : config.Distinct)
    (hprocess : ProjectLayout.IsName files.process)
    (hledger : LedgerApart isRecording file r.paths w) :
    l'.file = file ∧ w.Alters (Touches isRecording w.current file r.paths) w' ∧
      (isRecording = true → LedgerFile.Quiet file w') ∧
      r.Stands p.layout t (files.load config).result w' ∧
      ExportsOf p.layout files.process r.paths := by
  obtain ⟨runId, l₁, w₁, hrecord, hfile, hrecorded, hquiet⟩ :=
    exists_recorded startedAt t (files.load config).result hl
      fun hrecording => (hledger hrecording).1
  obtain ⟨r₁, w₂, hreport⟩ : ∃ r₁ w₂, (reportLoad p true runId t (files.load config).result :
      StateM Place LoadReport) w₁ = (r₁, w₂) := ⟨_, _, rfl⟩
  have hrun : (settleLoad p true isRecording startedAt t (files.load config).result :
      StateT LedgerFile (StateM Place) LoadReport).run l w = ((r₁, l₁), w₂) := by
    rw [settleLoad_eq, StateT.run_bind, StateM.bind_of_eq hrecord]
    exact StateM.bind_of_eq (f := fun r => Pure.pure (r, l₁)) hreport
  cases h.symm.trans hrun
  obtain ⟨g, hg, hdir, hsummary, hexport⟩ := of_reportLoad hreport hok
  have hsame := TraceFiles.process_of_load hg
  have hpaths : r.paths = p.layout.exportPaths g.process (g.populated.map (·.name)) :=
    g.paths_of_export hexport
  obtain ⟨hnodup, hslash⟩ := TraceFiles.names_populated hg hconfig
  obtain ⟨halters, hreads⟩ := TraceFiles.readsBack_of_export hg hconfig (hsame ▸ hprocess) hexport
  rw [← hpaths, hrecorded.current_eq] at halters
  have hexports : ExportsOf p.layout files.process r.paths :=
    ⟨_, hnodup, hslash, hsame ▸ hpaths⟩
  refine ⟨hfile, (hrecorded.toAlters.mono fun k hk => .inl hk).trans
    (halters.mono fun k hk => .inr hk), ?_, ⟨g, hg, hdir, hsummary, hreads⟩, hexports⟩
  intro hrecording
  have hne := (hledger hrecording).2
  refine (hquiet hrecording).of_alters halters (fun hmem => ?_) fun hmem => ?_
  · obtain ⟨path, hpath, heq⟩ := List.mem_map.1 hmem
    rw [hrecorded.current_eq] at heq
    exact hne path hpath heq
  · obtain ⟨path, hpath, heq⟩ := List.mem_map.1 hmem
    rw [hrecorded.current_eq] at heq
    rw [hpaths] at hpath
    exact ProjectLayout.goal_ne_beside (hsame ▸ hprocess) hslash hpath
      (by simp [ProjectLayout.ledgerEndings]) file heq

theorem exists_mem_of_forall₂ {α β : Type} {R : α → β → Prop} {xs : List α} {ys : List β} {y : β}
    (h : List.Forall₂ R xs ys) (hy : y ∈ ys) : ∃ x ∈ xs, R x y := by
  induction h with
  | nil => cases hy
  | cons hxy _ ih =>
    rcases List.mem_cons.1 hy with rfl | hy
    · exact ⟨_, List.mem_cons_self, hxy⟩
    · obtain ⟨x, hx, hxy⟩ := ih hy
      exact ⟨x, List.mem_cons_of_mem _ hx, hxy⟩

/-- Exports of different processes lie at different locations. -/
theorem nodup_goal_paths {layout : ProjectLayout} (current : Location) {ts : List TraceLayout}
    {reports : List LoadReport}
    (h : List.Forall₂ (fun t r => ExportsOf layout t.process r.paths) ts reports)
    (hnames : ∀ t ∈ ts, ProjectLayout.IsName t.process)
    (hprocesses : (ts.map (·.process)).Nodup) :
    ((reports.flatMap (·.paths)).map (goal current)).Nodup := by
  induction h with
  | nil => exact List.nodup_nil
  | @cons t r ts reports hr hreports ih =>
    obtain ⟨hname, hnames⟩ := List.forall_mem_cons.1 hnames
    rw [List.map_cons, List.nodup_cons] at hprocesses
    obtain ⟨clusters, hnodup, hslash, hpaths⟩ := hr
    rw [List.flatMap_cons, List.map_append]
    refine List.Nodup.append ?_ (ih hnames hprocesses.2) fun k hk hk' => hprocesses.1 ?_
    · rw [hpaths]
      exact ProjectLayout.nodup_goal_exportPaths current hname hslash hnodup
    · -- an export at the same location would be one of the same process
      obtain ⟨path, hpath, rfl⟩ := List.mem_map.1 hk
      obtain ⟨path', hpath', heq⟩ := List.mem_map.1 hk'
      obtain ⟨r', hr', hpath'⟩ := List.mem_flatMap.1 hpath'
      obtain ⟨t', ht', clusters', -, hslash', hpaths'⟩ :=
        exists_mem_of_forall₂ hreports hr'
      rw [hpaths] at hpath
      rw [hpaths'] at hpath'
      exact List.mem_map.2 ⟨t', ht', ProjectLayout.process_eq_of_goal (hnames t' ht') hname hslash'
        hslash hpath' hpath heq⟩

theorem mapM_cons_eq {α β : Type} {f : α → StateT LedgerFile (StateM Place) β} {a : α}
    {b : List α} {c : β} {d : List β} {l₁ : LedgerFile} {w₁ : Place}
    (hfirst : (f a).run l w = ((c, l₁), w₁)) (hrest : (b.mapM f).run l₁ w₁ = ((d, l'), w')) :
    ((a :: b).mapM f).run l w = ((c :: d, l'), w') := by
  rw [List.mapM_cons, StateT.run_bind, StateM.bind_of_eq hfirst, StateT.run_bind,
    StateM.bind_of_eq hrest]
  rfl

/-- **Loads that are settled one after another leave each other's exports alone.** -/
theorem of_mapM_settleLoad (filesAt : TraceLayout → TraceFiles)
    (hfiles : ∀ t, (filesAt t).process = t.process) (hconfig : config.Distinct)
    {ts : List TraceLayout} {reports : List LoadReport}
    (h : ((ts.map fun t => (t, ((filesAt t).load config).result)).mapM fun (t, result) =>
        settleLoad p true isRecording startedAt t result :
      StateT LedgerFile (StateM Place) (List LoadReport)).run l w = ((reports, l'), w'))
    (hok : ∀ r ∈ reports, r.isFailed = false) (hl : l.file = file)
    (hnames : ∀ t ∈ ts, ProjectLayout.IsName t.process)
    (hprocesses : (ts.map (·.process)).Nodup)
    (hledger : LedgerApart isRecording file (reports.flatMap (·.paths)) w) :
    w.Alters (Touches isRecording w.current file (reports.flatMap (·.paths))) w' ∧
      List.Forall₂ (fun t r => ExportsOf p.layout t.process r.paths) ts reports ∧
      List.Forall₂ (fun t r => r.Stands p.layout t ((filesAt t).load config).result w') ts
        reports := by
  induction ts generalizing l w reports with
  | nil =>
    cases h
    exact ⟨.refl _ _, .nil, .nil⟩
  | cons t ts ih =>
    obtain ⟨r, l₁, w₁, hfirst⟩ : ∃ r l₁ w₁, (settleLoad p true isRecording startedAt t
        ((filesAt t).load config).result : StateT LedgerFile (StateM Place) LoadReport).run l w =
          ((r, l₁), w₁) := ⟨_, _, _, rfl⟩
    obtain ⟨rest, l₂, w₂, hrest⟩ : ∃ rest l₂ w₂, ((ts.map fun t =>
        (t, ((filesAt t).load config).result)).mapM fun (t, result) =>
          settleLoad p true isRecording startedAt t result :
        StateT LedgerFile (StateM Place) (List LoadReport)).run l₁ w₁ = ((rest, l₂), w₂) :=
      ⟨_, _, _, rfl⟩
    cases h.symm.trans (mapM_cons_eq (a := (t, ((filesAt t).load config).result)) hfirst hrest)
    rw [List.flatMap_cons] at hledger ⊢
    obtain ⟨hr, hok⟩ := List.forall_mem_cons.1 hok
    obtain ⟨hname, hnames⟩ := List.forall_mem_cons.1 hnames
    obtain ⟨hfile, halters, hquiet, hstands, hexports⟩ := of_settleLoad hfirst hr hl hconfig
      (by rw [hfiles]; exact hname) (hledger.mono fun path => List.mem_append_left _)
    rw [hfiles] at hexports
    obtain ⟨hrest, hall, hstand⟩ := ih hrest hok hfile hnames (List.nodup_cons.1 hprocesses).2
      fun hrecording => ⟨hquiet hrecording, fun path hpath => by
        rw [halters.current_eq]
        exact (hledger hrecording).2 path (List.mem_append_right _ hpath)⟩
    have hall : List.Forall₂ (fun t r => ExportsOf p.layout t.process r.paths) (t :: ts)
        (r :: rest) := .cons hexports hall
    have hnodup := nodup_goal_paths w.current hall (List.forall_mem_cons.2 ⟨hname, hnames⟩)
      hprocesses
    rw [List.flatMap_cons, List.map_append, List.nodup_append] at hnodup
    rw [halters.current_eq] at hrest
    refine ⟨(halters.mono ?_).trans (hrest.mono ?_), hall, .cons ?_ hstand⟩
    · exact fun k => Touches.mono fun path hpath => List.mem_append_left _ hpath
    · exact fun k => Touches.mono fun path hpath => List.mem_append_right _ hpath
    · refine hstands.of_alters hrest fun path hpath => ?_
      rw [halters.current_eq]
      refine not_touches hname hexports hpath (fun hrecording =>
        (hledger hrecording).2 path (List.mem_append_left _ hpath)) fun hmem => ?_
      exact hnodup.2.2 _ (List.mem_map_of_mem hpath) _ hmem rfl

theorem mapM_load (config : ClusterConfig) (ts : List TraceLayout) (w : Place) :
    (ts.mapM fun t => return (t, (← t.load config).result) :
        StateM Place (List (TraceLayout × Except LoadError ProcessGraph))) w =
      (ts.map fun t => (t, ((t.load config : StateM Place LoadOutcome) w).1.result), w) := by
  induction ts with
  | nil => rfl
  | cons t ts ih =>
    rw [List.mapM_cons, List.map_cons]
    have hfirst : (do return (t, (← t.load config).result) :
        StateM Place (TraceLayout × Except LoadError ProcessGraph)) w =
        ((t, ((t.load config : StateM Place LoadOutcome) w).1.result), w) := rfl
    rw [StateM.bind_of_eq hfirst, StateM.bind_of_eq ih]
    rfl

/-- What one command comes to: the traces are loaded as they are found, and settled one after
another. -/
theorem loadAll_eq (p : OpenProject) (config : ClusterConfig) (ts : List TraceLayout)
    (isExporting isRecording : Bool) (w : Place) :
    (loadAll p config ts isExporting isRecording : StateM Place (List LoadReport)) w =
      let settled := ((ts.map fun t =>
        (t, ((t.load config : StateM Place LoadOutcome) w).1.result)).mapM fun (t, result) =>
          settleLoad p isExporting isRecording w.time t result :
        StateT LedgerFile (StateM Place) (List LoadReport)).run p.ledger w
      (settled.1.1, settled.2) := by
  have hclock : (Clock.now : StateM Place String) w = (w.time, w) := rfl
  rw [loadAll, StateM.bind_of_eq hclock, StateM.bind_of_eq (mapM_load config ts w)]
  rfl

/-- **Exports of one command stay apart.**  If traces of different processes are loaded and exported
one after another and all of it succeeds, then no two files that are told of have the same path, and
in the end every one of them holds the graph of the trace that it is told of for. -/
theorem exports_apart {ts : List TraceLayout} {reports : List LoadReport}
    (h : (loadAll p config ts true isRecording : StateM Place (List LoadReport)) w = (reports, w'))
    (hok : ∀ r ∈ reports, r.isFailed = false) (hfound : ∀ t ∈ ts, t.Found)
    (hprocesses : (ts.map (·.process)).Nodup) (hconfig : config.Distinct)
    (hledger : LedgerApart isRecording p.ledger.file (reports.flatMap (·.paths)) w) :
    (reports.flatMap (·.paths)).Nodup ∧
      List.Forall₂ (fun t r => r.Stands p.layout t
        ((t.load config : StateM Place LoadOutcome) w).1.result w') ts reports := by
  have hnames : ∀ t ∈ ts, ProjectLayout.IsName t.process := fun t ht => (hfound t ht).isName
  obtain ⟨l', hrun⟩ : ∃ l', ((ts.map fun t =>
      (t, ((t.load config : StateM Place LoadOutcome) w).1.result)).mapM fun (t, result) =>
        settleLoad p true isRecording w.time t result :
      StateT LedgerFile (StateM Place) (List LoadReport)).run p.ledger w = ((reports, l'), w') := by
    rw [loadAll_eq] at h
    obtain ⟨hreports, hw⟩ := Prod.mk.inj h
    exact ⟨_, Prod.ext (Prod.ext hreports rfl) hw⟩
  obtain ⟨-, hexports, hstands⟩ := of_mapM_settleLoad
    (fun t => ((TraceFiles.ofLayout t : StateM Place TraceFiles) w).1) (fun _ => rfl) hconfig
    hrun hok rfl hnames hprocesses hledger
  exact ⟨(nodup_goal_paths w.current hexports hnames hprocesses).of_map _, hstands⟩

/-! ### Two traces of one block -/

/-- The directory is there, and the cluster of unclaimed units can be exported into it. -/
structure HasExportRoom (w : Place) (dir : String) : Prop where
  path : FileTree.checkPath dir = .ok ()
  plain : ∀ piece ∈ FileTree.pieces dir, FileTree.IsPlain piece
  directory : w.tree.IsDirectory (FileTree.start w.current dir ++ FileTree.pieces dir)
  writable : ExportPaths.Writable w (.new dir "dynamic")

/-- There is room as long as directories stay and what can be written can be written. -/
theorem HasExportRoom.of_writable {dir : String} (h : HasExportRoom w dir)
    (hcurrent : w'.current = w.current)
    (hdirectory : ∀ k, w.tree.IsDirectory k → w'.tree.IsDirectory k)
    (hwritable : ∀ path, w.Writable path → w'.Writable path) : HasExportRoom w' dir where
  path := h.path
  plain := h.plain
  directory := by
    rw [hcurrent]
    exact hdirectory _ h.directory
  writable :=
    ⟨hwritable _ h.writable.nodes, hwritable _ h.writable.edges, hwritable _ h.writable.modules⟩

theorem distinct_empty : (ClusterConfig.empty "main").Distinct := ⟨by decide, by decide⟩

/-- When a trace of one block is loaded, one cluster has nodes, that of unclaimed units. -/
theorem exists_populated {files : TraceFiles} (hfiles : files.HoldsOneBlock) :
    ∃ g, (files.load (.empty "main")).result = .ok g ∧
      g.populated.map (·.name) = ["dynamic"] ∧
      ∀ c ∈ g.populated, c.name = "dynamic" ∧ c.graph.nodeCount = 2 := by
  obtain ⟨g, hload, hcounts⟩ := hfiles.exists_load
  have hpopulated : g.populated.map (fun c => (c.name, c.graph.nodeCount)) = [("dynamic", 2)] := by
    have hfilter := congrArg (List.filter fun q => decide (q.2 > 0)) hcounts
    rw [List.filter_map] at hfilter
    exact hfilter
  refine ⟨g, hload, ?_, fun c hc => ?_⟩
  · have hnames := congrArg (List.map Prod.fst) hpopulated
    rw [List.map_map] at hnames
    exact hnames
  · have hmem := List.mem_map_of_mem (f := fun c => (c.name, c.graph.nodeCount)) hc
    rw [hpopulated, List.mem_singleton] at hmem
    exact Prod.mk.inj hmem

/-- A graph of one cluster is exported where there is room, and leaves room for others. -/
theorem exists_reportLoad {files : TraceFiles} (hfiles : files.HoldsOneBlock)
    (hprocess : ProjectLayout.IsName files.process)
    (hroom : HasExportRoom w (p.layout.processExportDir files.process)) (runId : Option Int)
    (t : TraceLayout) :
    ∃ r w', (reportLoad p true runId t (files.load (.empty "main")).result :
        StateM Place LoadReport) w = (r, w') ∧ r.isFailed = false ∧
      r.paths = (ExportPaths.new (p.layout.processExportDir files.process) "dynamic").all ∧
      ∀ dir, HasExportRoom w dir → HasExportRoom w' dir := by
  obtain ⟨g, hload, hnames, hcluster⟩ := exists_populated hfiles
  have hsame := TraceFiles.process_of_load hload
  rw [← hsame] at hroom hprocess
  obtain ⟨xs, w', hexport, hkeeps⟩ := g.exists_export
    (Place.makeDirs_of_isDirectory hroom.path hroom.plain hroom.directory)
    (fun c hc => by rw [(hcluster c hc).2]; decide) fun c hc => by
      rw [(hcluster c hc).1]
      exact hroom.writable
  obtain ⟨halters, -⟩ := TraceFiles.readsBack_of_export hload distinct_empty hprocess hexport
  have hdone : (exportProcess p.layout g :
      StateM Place (Except String (List ExportedCluster))) w = (.ok xs, w') := by
    rw [exportProcess]
    exact StateM.bind_of_eq hexport
  refine ⟨⟨t.dir, some g.summary, none, runId, xs⟩, w', ?_, rfl, ?_, fun dir h =>
    h.of_writable halters.current_eq halters.isDirectory hkeeps⟩
  · rw [hload, reportLoad, if_pos rfl, StateM.bind_of_eq hdone]
    rfl
  · rw [← hsame]
    refine (g.paths_of_export hexport).trans ?_
    rw [hnames]
    rfl

/-- A trace of one block is settled where its export has room, and leaves room for others. -/
theorem exists_settleLoad {files : TraceFiles} (hfiles : files.HoldsOneBlock)
    (hprocess : ProjectLayout.IsName files.process)
    (hroom : HasExportRoom w (p.layout.processExportDir files.process)) (hl : l.file = file)
    (hquiet : isRecording = true → LedgerFile.Quiet file w) (startedAt : String)
    (t : TraceLayout) :
    ∃ r l' w', (settleLoad p true isRecording startedAt t (files.load (.empty "main")).result :
        StateT LedgerFile (StateM Place) LoadReport).run l w = ((r, l'), w') ∧
      r.isFailed = false ∧
      r.paths = (ExportPaths.new (p.layout.processExportDir files.process) "dynamic").all ∧
      ∀ dir, HasExportRoom w dir → HasExportRoom w' dir := by
  obtain ⟨runId, l₁, w₁, hrecord, -, hrecorded, -⟩ :=
    exists_recorded startedAt t (files.load (.empty "main")).result hl hquiet
  have hkept : ∀ dir, HasExportRoom w dir → HasExportRoom w₁ dir := fun dir h =>
    h.of_writable hrecorded.current_eq hrecorded.isDirectory fun _ => hrecorded.writable
  obtain ⟨r, w', hreport, hok, hpaths, hrooms⟩ :=
    exists_reportLoad hfiles hprocess (hkept _ hroom) runId t
  refine ⟨r, l₁, w', ?_, hok, hpaths, fun dir h => hrooms dir (hkept dir h)⟩
  rw [settleLoad_eq, StateT.run_bind, StateM.bind_of_eq hrecord]
  exact StateM.bind_of_eq (f := fun r => Pure.pure (r, l₁)) hreport

/-- Two traces of one block each are loaded and exported, whatever their processes are called. -/
theorem exists_loadAll {t t' : TraceLayout} (hname : ProjectLayout.IsName t.process)
    (hname' : ProjectLayout.IsName t'.process)
    (hfiles : ((TraceFiles.ofLayout t : StateM Place TraceFiles) w).1.HoldsOneBlock)
    (hfiles' : ((TraceFiles.ofLayout t' : StateM Place TraceFiles) w).1.HoldsOneBlock)
    (hroom : HasExportRoom w (p.layout.processExportDir t.process))
    (hroom' : HasExportRoom w (p.layout.processExportDir t'.process))
    (hledger : LedgerApart isRecording p.ledger.file
      ((ExportPaths.new (p.layout.processExportDir t.process) "dynamic").all ++
        (ExportPaths.new (p.layout.processExportDir t'.process) "dynamic").all) w) :
    ∃ r r' w', (loadAll p (.empty "main") [t, t'] true isRecording :
        StateM Place (List LoadReport)) w = ([r, r'], w') ∧
      (∀ x ∈ [r, r'], x.isFailed = false) ∧
      [r, r'].flatMap (·.paths) =
        (ExportPaths.new (p.layout.processExportDir t.process) "dynamic").all ++
          (ExportPaths.new (p.layout.processExportDir t'.process) "dynamic").all := by
  obtain ⟨r, l₁, w₁, hr, hok, hpaths, hrooms⟩ := exists_settleLoad hfiles hname hroom rfl
    (fun hrecording => (hledger hrecording).1) w.time t
  obtain ⟨hfile, -, hquiet, -, -⟩ := of_settleLoad hr hok rfl distinct_empty hname
    (hledger.mono fun path hpath => List.mem_append_left _ (hpaths ▸ hpath))
  obtain ⟨r', l', w', hr', hok', hpaths', -⟩ :=
    exists_settleLoad hfiles' hname' (hrooms _ hroom') hfile hquiet w.time t'
  have hrun : (([t, t'].map fun t =>
      (t, ((t.load (.empty "main") : StateM Place LoadOutcome) w).1.result)).mapM fun (t, result) =>
        settleLoad p true isRecording w.time t result :
      StateT LedgerFile (StateM Place) (List LoadReport)).run p.ledger w =
        (([r, r'], l'), w') := mapM_cons_eq hr (mapM_cons_eq hr' rfl)
  refine ⟨r, r', w', ?_, by simp [hok, hok'], ?_⟩
  · rw [loadAll_eq, hrun]
  · rw [List.flatMap_cons, List.flatMap_singleton, hpaths, hpaths']
    rfl

/-- A directory with a trace of one block. -/
def traceDir (process : String) : FileTree :=
  .directory [(.ofText (process ++ ".module.log"), .file []),
    (.ofText (process ++ ".block.dat"), .file (Record.toBytes [TraceFiles.soleBlock])),
    (.ofText (process ++ ".edge.dat"), .file []),
    (.ofText (process ++ ".cross-module.dat"), .file [])]

/-- Two traces in different directories, and a project with directories for the exports of
processes and an empty ledger. -/
def twoTraces (first second : String) (exports : List String) : Place where
  tree := .directory [(.ofText "a", traceDir first), (.ofText "b", traceDir second),
    (.ofText "p", .directory [
      (.ofText "exports", .directory (exports.map fun name => (.ofText name, .empty))),
      (.ofText ".stitch", .directory [(.ofText "graphs.db", .file [])])])]

/-- A project at a root. -/
def projectAt (root : String) : OpenProject where
  layout := ⟨root⟩
  config := .new "project" ".stitch/graphs.db"
  ledger := { file := root ++ "/.stitch/graphs.db" }

theorem HasExportRoom.of_decide {dir : String}
    (hdir : FileTree.checkPath dir = .ok () ∧
      (∀ piece ∈ FileTree.pieces dir, piece ≠ FileTree.here ∧ piece ≠ FileTree.above ∧
        piece.length ≤ FileTree.nameLimit) ∧
      w.tree.sight? (FileTree.start w.current dir ++ FileTree.pieces dir) = some .directory)
    (hfiles : ∀ path ∈ (ExportPaths.new dir "dynamic").all,
      w.locate path = .ok (goal w.current path) ∧
        w.tree.sight? (goal w.current path).dropLast = some .directory ∧
        w.tree.sight? (goal w.current path) ≠ some .directory) : HasExportRoom w dir := by
  obtain ⟨hpath, hplain, hdirectory⟩ := hdir
  have hwritable : ∀ path ∈ (ExportPaths.new dir "dynamic").all, w.Writable path := by
    intro path hmem
    obtain ⟨hl, habove, hfree⟩ := hfiles path hmem
    exact Place.writable_iff.2 ⟨_, hl, FileTree.isDirectory_iff.2 habove,
      fun hdirectory => hfree (FileTree.isDirectory_iff.1 hdirectory)⟩
  exact {
    path := hpath
    plain := fun piece hpiece =>
      ⟨(hplain piece hpiece).1, (hplain piece hpiece).2.1, (hplain piece hpiece).2.2⟩
    directory := FileTree.isDirectory_iff.2 hdirectory
    writable := ⟨hwritable _ (by simp [ExportPaths.all]), hwritable _ (by simp [ExportPaths.all]),
      hwritable _ (by simp [ExportPaths.all])⟩ }

theorem LedgerApart.of_decide {paths : List String}
    (hfile : w.locate file = .ok (goal w.current file) ∧
      w.tree.sight? (goal w.current file) = some (.file []))
    (hjournal : w.tree.sight? (goal w.current (LedgerFile.journalPath file)) = none)
    (hpaths : ∀ path ∈ paths, goal w.current path ≠ goal w.current file) :
    LedgerApart isRecording file paths w := by
  obtain ⟨hl, hsight⟩ := hfile
  refine fun _ => ⟨⟨⟨[], Place.holds_iff_goal.2 ⟨hl, ?_⟩⟩, fun journal hfind => ?_⟩, hpaths⟩
  · exact FileTree.find?_eq_file_iff.2 hsight
  · rw [FileTree.find?_eq_file_iff, hjournal] at hfind
    cases hfind

/-- The traces of two processes leave six files behind, and are put on record. -/
theorem exports_apart_twoProcesses : ∃ reports w',
    (loadAll (projectAt "/p") (.empty "main") [.new "/a" "first", .new "/b" "second"] true true :
      StateM Place (List LoadReport)) (twoTraces "first" "second" ["first", "second"]) =
        (reports, w') ∧
    (reports.flatMap (·.paths)).length = 6 ∧ (reports.flatMap (·.paths)).Nodup ∧
    List.Forall₂ (fun t r => r.Stands (projectAt "/p").layout t
        ((t.load (.empty "main") : StateM Place LoadOutcome)
          (twoTraces "first" "second" ["first", "second"])).1.result w')
      [.new "/a" "first", .new "/b" "second"] reports := by
  have hfound : (TraceLayout.new "/a" "first").Found :=
    ⟨"/a", ["first.module.log"], by decide, by decide +kernel⟩
  have hfound' : (TraceLayout.new "/b" "second").Found :=
    ⟨"/b", ["second.module.log"], by decide, by decide +kernel⟩
  have hledger : LedgerApart true (projectAt "/p").ledger.file
      ((ExportPaths.new "/p/exports/first" "dynamic").all ++
        (ExportPaths.new "/p/exports/second" "dynamic").all)
      (twoTraces "first" "second" ["first", "second"]) :=
    .of_decide (by decide +kernel) (by decide +kernel) (by decide +kernel)
  obtain ⟨r, r', w', hrun, hok, hpaths⟩ := exists_loadAll hfound.isName hfound'.isName
    ⟨by decide +kernel, by decide +kernel, by decide +kernel, by decide +kernel⟩
    ⟨by decide +kernel, by decide +kernel, by decide +kernel, by decide +kernel⟩
    (.of_decide (by decide +kernel) (by decide +kernel))
    (.of_decide (by decide +kernel) (by decide +kernel)) hledger
  have hall := exports_apart hrun hok
    (List.forall_mem_cons.2 ⟨hfound, List.forall_mem_cons.2 ⟨hfound', nofun⟩⟩) (by decide +kernel)
    distinct_empty (hledger.mono fun path hpath => hpaths ▸ hpath)
  refine ⟨[r, r'], w', hrun, ?_, hall⟩
  rw [hpaths]
  rfl

/-- The name of the process is all that keeps exports apart: two traces in different directories are
exported into the same files when their processes have the same name. -/
theorem not_exports_apart_sameProcess :
    ((TraceLayout.discover "/a" : StateM Place (Except TraceLayoutError TraceLayout))
      (twoTraces "app" "app" ["app"])).1 = .ok (.new "/a" "app") ∧
    ((TraceLayout.discover "/b" : StateM Place (Except TraceLayoutError TraceLayout))
      (twoTraces "app" "app" ["app"])).1 = .ok (.new "/b" "app") ∧
    ((ClusterConfig.empty "main").clusters.map (·.name)).Nodup ∧ ∃ reports w',
      (loadAll (projectAt "/p") (.empty "main") [.new "/a" "app", .new "/b" "app"] true false :
        StateM Place (List LoadReport)) (twoTraces "app" "app" ["app"]) = (reports, w') ∧
      (∀ r ∈ reports, r.isFailed = false) ∧ ¬(reports.flatMap (·.paths)).Nodup := by
  have hname : ProjectLayout.IsName "app" := ⟨by decide, by decide⟩
  have hprocess : ∀ dir, ProjectLayout.IsName (TraceLayout.new dir "app").process :=
    fun _ => hname
  have hledger : ∀ paths, LedgerApart false (projectAt "/p").ledger.file paths
      (twoTraces "app" "app" ["app"]) := fun _ => nofun
  obtain ⟨r, r', w', hrun, hok, hpaths⟩ := exists_loadAll (hprocess "/a") (hprocess "/b")
    ⟨by decide +kernel, by decide +kernel, by decide +kernel, by decide +kernel⟩
    ⟨by decide +kernel, by decide +kernel, by decide +kernel, by decide +kernel⟩
    (.of_decide (by decide +kernel) (by decide +kernel))
    (.of_decide (by decide +kernel) (by decide +kernel)) (hledger _)
  refine ⟨by decide +kernel, by decide +kernel, distinct_empty.nodup, [r, r'], w', hrun, hok, ?_⟩
  rw [hpaths]
  decide +kernel

/-- Nor are exports apart if a cluster is called after an absolute path, which the settings may give
as the name of the default cluster: two processes have the same files then. -/
theorem not_exports_apart_absoluteName :
    ((ClusterConfig.empty "/main").clusters.map (·.name)).Nodup ∧
    (∃ s ∈ (ClusterConfig.empty "/main").clusters, s.name = "/main") ∧
    (ExportPaths.new ((projectAt "/p").layout.processExportDir "first") "/main").all =
      (ExportPaths.new ((projectAt "/p").layout.processExportDir "second") "/main").all :=
  ⟨by decide, by decide, by rw [ExportPaths.new_of_isAbsolute (by decide)]⟩

/-- A file without contents among the exports of a process. -/
def emptyExport (process name : String) : Place where
  tree := .directory [(.ofText "p", .directory [(.ofText "exports", .directory [(.ofText process,
    .directory [(.ofText name, .file [])])])])]

/-- One page of zeros, just long enough for the number for the user. -/
def zeroPage : Database := { pageSize := 64, usable := 64, pages := #[.replicate 64 0], count := 1 }

/-- Nor are exports apart from a ledger that lies among them: one with a log is written over what
was exported into its file, here the edges of a graph without edges. -/
theorem not_exports_apart_loggedLedger :
    let l : LedgerFile := { file := "/p/exports/app/dynamic.edges.dat", logged := some zeroPage }
    let w := emptyExport "app" "dynamic.edges.dat"
    l.file ∈ (ExportPaths.new ((projectAt "/p").layout.processExportDir "app") "dynamic").all ∧
    w.Holds l.file [] ∧
    ¬((LedgerFile.setVersion 1 : LedgerWork (StateM Place) Unit).run.run l w).2.Holds
      l.file [] := by
  intro l w
  have hstands : w.Holds l.file [] := by
    refine Place.holds_iff_goal.2 ⟨by decide +kernel, FileTree.find?_eq_file_iff.2 ?_⟩
    decide +kernel
  have hwritten : (LedgerPages.setVersion 1 {} zeroPage).database.toBytes [] ≠ [] := by
    decide +kernel
  refine ⟨by decide, hstands, fun hkept => hwritten (Place.Holds.unique ?_ hkept)⟩
  exact LedgerFile.holds_of_update hstands (by decide +kernel)

end Command
end FlowAtlas
