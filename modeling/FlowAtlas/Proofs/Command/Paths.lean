import FlowAtlas.Cluster.Export
import FlowAtlas.Ledger.File
import FlowAtlas.Project.Layout
import FlowAtlas.Proofs.Files.Goals
import Mathlib.Data.List.Nodup

/-!
# Where exports lie

Exports are named after a process, a cluster and what they hold, and `exportGoal_inj` says that none
of the three is lost: exports that differ in any of them lie apart, provided that the names hold no
slashes.  So the exports of a process do not meet those of another process, nor what stands beside a
ledger.
-/

set_option autoImplicit false

namespace FlowAtlas

/-! ## Names between slashes -/

namespace Path

theorem isAbsolute_of_no_slash {name : String} (h : '/' ∉ name.toList) :
    isAbsolute name = false := by
  rw [isAbsolute, beq_eq_false_iff_ne]
  exact fun hhead => h (List.mem_of_mem_head? hhead)

/-- An absolute path takes the place of what it should continue. -/
theorem join_of_isAbsolute {name : String} (h : isAbsolute name = true) (dir : String) :
    join dir name = name := if_pos h

theorem isAbsolute_append {name : String} (h : isAbsolute name = true) (ending : String) :
    isAbsolute (name ++ ending) = true := by
  rw [isAbsolute, beq_iff_eq] at h ⊢
  rw [String.toList_append, List.head?_append, h]
  rfl

/-- A name is put behind a directory and a slash. -/
theorem join_eq {dir name : String} (hdir : dir.toList.getLast? ≠ some '/') (hne : dir ≠ "")
    (hname : '/' ∉ name.toList) : join dir name = dir ++ "/" ++ name := by
  have hempty : dir.isEmpty = false := by
    rw [← Bool.not_eq_true, String.isEmpty_iff]
    exact hne
  rw [join, isAbsolute_of_no_slash hname, if_neg Bool.false_ne_true, hempty,
    beq_eq_false_iff_ne.2 hdir]
  rfl

end Path

/-- A cluster whose name is an absolute path has its files there, whatever the directory is. -/
theorem ExportPaths.new_of_isAbsolute {cluster : String} (h : Path.isAbsolute cluster = true)
    (dir dir' : String) : ExportPaths.new dir cluster = ExportPaths.new dir' cluster := by
  simp only [ExportPaths.new, Path.join_of_isAbsolute (Path.isAbsolute_append h _)]

namespace ProjectLayout

variable {layout : ProjectLayout} {process process' name : String} {current : Location}

/-- A name that stands alone between slashes. -/
structure IsName (name : String) : Prop where
  ne_empty : name ≠ ""
  no_slash : '/' ∉ name.toList

theorem IsName.getLast?_ne (h : IsName name) : name.toList.getLast? ≠ some '/' :=
  fun hlast => h.no_slash (List.mem_of_getLast? hlast)

theorem getLast?_append {p q : String} (hq : q ≠ "") :
    (p ++ q).toList.getLast? = q.toList.getLast? := by
  have hne : q.toList ≠ [] := fun hnil => hq (String.toList_eq_nil_iff.1 hnil)
  rw [String.toList_append, List.getLast?_append, List.getLast?_eq_some_getLast hne]
  rfl

theorem exists_exportsDir_eq (layout : ProjectLayout) :
    ∃ stem, layout.exportsDir = stem ++ "exports" := by
  rw [exportsDir, Path.join, Path.isAbsolute_of_no_slash (by decide), if_neg Bool.false_ne_true]
  split
  · exact ⟨_, rfl⟩
  · exact ⟨_, rfl⟩

theorem exportsDir_ne (layout : ProjectLayout) :
    layout.exportsDir.toList.getLast? ≠ some '/' ∧ layout.exportsDir ≠ "" := by
  obtain ⟨stem, hstem⟩ := layout.exists_exportsDir_eq
  have hlast : layout.exportsDir.toList.getLast? = some 's' := by
    rw [hstem, getLast?_append (by decide)]
    rfl
  refine ⟨by rw [hlast]; decide, fun hempty => ?_⟩
  rw [hempty] at hlast
  cases hlast

theorem join_processExportDir (hprocess : IsName process) (hname : IsName name) :
    Path.join (layout.processExportDir process) name =
      layout.exportsDir ++ "/" ++ process ++ "/" ++ name := by
  obtain ⟨hlast, hne⟩ := layout.exportsDir_ne
  have hdir : layout.processExportDir process = layout.exportsDir ++ "/" ++ process :=
    Path.join_eq hlast hne hprocess.no_slash
  rw [hdir]
  refine Path.join_eq ?_ (fun hempty => ?_) hname.no_slash
  · rw [getLast?_append hprocess.ne_empty]
    exact hprocess.getLast?_ne
  · exact hprocess.ne_empty (String.append_eq_empty_iff.1 hempty).2

/-- The exports do not lie at the root. -/
theorem goal_exportsDir_ne (layout : ProjectLayout) (current : Location) :
    FileTree.goal current layout.exportsDir ≠ [] := by
  obtain ⟨stem, hstem⟩ := layout.exists_exportsDir_eq
  obtain ⟨l, last, hgoal, -⟩ := FileTree.exists_goal_append current stem
  rw [hstem, hgoal _ (by decide) (by decide)]
  exact List.concat_ne_nil _ _

/-- Where an export lies. -/
theorem goal_join_processExportDir (hprocess : IsName process) (hname : IsName name) :
    FileTree.goal current (Path.join (layout.processExportDir process) name) =
      FileTree.enter (FileTree.enter (FileTree.goal current layout.exportsDir)
        (Bytes.ofText process)) (Bytes.ofText name) := by
  have hstart : FileTree.start current (layout.exportsDir ++ "/" ++ process ++ "/" ++ name) =
      FileTree.start current layout.exportsDir := by
    simp only [String.append_assoc]
    exact FileTree.start_append layout.exportsDir_ne.2 _
  rw [join_processExportDir hprocess hname, FileTree.goal, FileTree.goal, hstart,
    FileTree.pieces_append_slash, FileTree.pieces_append_slash, List.foldl_append,
    List.foldl_append, FileTree.pieces_of_no_slash hprocess.no_slash hprocess.ne_empty,
    FileTree.pieces_of_no_slash hname.no_slash hname.ne_empty]
  rfl

/-! ## The files of a cluster -/

/-- The endings of the files of a cluster. -/
def exportEndings : List String := [".nodes.dat", ".edges.dat", ".modules.txt"]

theorem isName_export {cluster ending : String} (hcluster : '/' ∉ cluster.toList)
    (hending : ending ∈ exportEndings) :
    IsName (cluster ++ ending) ∧ 2 < (Bytes.ofText (cluster ++ ending)).length := by
  have hendings : ∀ ending ∈ exportEndings, '/' ∉ ending.toList ∧ 2 < ending.toList.length := by
    decide
  obtain ⟨hslash, hlong⟩ := hendings ending hending
  have hlength := Bytes.length_le_length_ofText (cluster ++ ending)
  have htext : (cluster ++ ending).toList.length =
      cluster.toList.length + ending.toList.length := by
    rw [String.toList_append, List.length_append]
  refine ⟨⟨fun hempty => ?_, fun hmem => ?_⟩, by omega⟩
  · rw [hempty] at htext
    have hzero : "".toList.length = 0 := rfl
    omega
  · rw [String.toList_append, List.mem_append] at hmem
    exact hmem.elim hcluster hslash

theorem eq_of_append_ending {cluster cluster' ending ending' : String}
    (hending : ending ∈ exportEndings) (hending' : ending' ∈ exportEndings)
    (h : cluster ++ ending = cluster' ++ ending') : ending = ending' := by
  have hsuffix : ∀ ending ∈ exportEndings, ∀ ending' ∈ exportEndings,
      ending.toList <:+ ending'.toList → ending = ending' := by decide
  have htext := congrArg String.toList h
  rw [String.toList_append, String.toList_append] at htext
  rcases List.suffix_or_suffix_of_suffix ⟨_, htext⟩ ⟨_, rfl⟩ with hle | hle
  · exact hsuffix _ hending _ hending' hle
  · exact (hsuffix _ hending' _ hending hle).symm

/-- **No two exports lie at the same location**, unless process, cluster and ending are the
same. -/
theorem exportGoal_inj {cluster cluster' ending ending' : String} (hprocess : IsName process)
    (hprocess' : IsName process') (hcluster : '/' ∉ cluster.toList)
    (hcluster' : '/' ∉ cluster'.toList) (hending : ending ∈ exportEndings)
    (hending' : ending' ∈ exportEndings)
    (h : FileTree.goal current (Path.join (layout.processExportDir process) (cluster ++ ending)) =
      FileTree.goal current
        (Path.join (layout.processExportDir process') (cluster' ++ ending'))) :
    process = process' ∧ cluster = cluster' ∧ ending = ending' := by
  obtain ⟨hname, hlong⟩ := isName_export hcluster hending
  obtain ⟨hname', hlong'⟩ := isName_export hcluster' hending'
  rw [goal_join_processExportDir hprocess hname, goal_join_processExportDir hprocess' hname',
    FileTree.enter_of_long hlong, FileTree.enter_of_long hlong'] at h
  obtain ⟨hdir, hfile⟩ := List.append_inj' h rfl
  have hfile := Bytes.ofText_inj (List.singleton_inj.1 hfile)
  have hsame := eq_of_append_ending hending hending' hfile
  rw [hsame] at hfile
  exact ⟨Bytes.ofText_inj (FileTree.enter_inj (layout.goal_exportsDir_ne current) hdir),
    (String.append_left_inj _).1 hfile, hsame⟩

/-- The files of a process, cluster by cluster. -/
def exportPaths (layout : ProjectLayout) (process : String) (clusters : List String) :
    List String :=
  clusters.flatMap fun c => exportEndings.map fun ending =>
    Path.join (layout.processExportDir process) (c ++ ending)

variable {clusters clusters' : List String} {path path' : String}

theorem mem_exportPaths : path ∈ layout.exportPaths process clusters ↔ ∃ c ∈ clusters,
    ∃ ending ∈ exportEndings,
      path = Path.join (layout.processExportDir process) (c ++ ending) := by
  simp only [exportPaths, List.mem_flatMap, List.mem_map, eq_comm]

/-- No two files of a process lie at the same location. -/
theorem nodup_goal_exportPaths (current : Location) (hprocess : IsName process)
    (hslash : ∀ c ∈ clusters, '/' ∉ c.toList) (hnodup : clusters.Nodup) :
    ((layout.exportPaths process clusters).map (FileTree.goal current)).Nodup := by
  have hendings : exportEndings.Nodup := by decide
  rw [exportPaths, List.map_flatMap, List.nodup_flatMap]
  constructor
  · intro c hc
    rw [List.map_map]
    exact hendings.map_on fun ending hending ending' hending' heq =>
      (exportGoal_inj hprocess hprocess (hslash c hc) (hslash c hc) hending hending' heq).2.2
  · refine hnodup.imp_of_mem fun {c c'} hc hc' hne l hl hl' => ?_
    dsimp only at hl hl'
    rw [List.map_map] at hl hl'
    obtain ⟨ending, hending, rfl⟩ := List.mem_map.1 hl
    obtain ⟨ending', hending', heq⟩ := List.mem_map.1 hl'
    exact hne (exportGoal_inj hprocess hprocess (hslash c hc) (hslash c' hc') hending hending'
      heq.symm).2.1

/-- Files at the same location are those of the same process. -/
theorem process_eq_of_goal (hprocess : IsName process) (hprocess' : IsName process')
    (hslash : ∀ c ∈ clusters, '/' ∉ c.toList) (hslash' : ∀ c ∈ clusters', '/' ∉ c.toList)
    (hpath : path ∈ layout.exportPaths process clusters)
    (hpath' : path' ∈ layout.exportPaths process' clusters')
    (h : FileTree.goal current path = FileTree.goal current path') : process = process' := by
  obtain ⟨c, hc, ending, hending, rfl⟩ := mem_exportPaths.1 hpath
  obtain ⟨c', hc', ending', hending', rfl⟩ := mem_exportPaths.1 hpath'
  exact (exportGoal_inj hprocess hprocess' (hslash c hc) (hslash' c' hc') hending hending' h).1

/-- What is put behind the name of a ledger. -/
def ledgerEndings : List String := ["-journal", "-wal", "-shm"]

/-- What stands beside a ledger is no export, as its name ends otherwise. -/
theorem goal_ne_beside (hprocess : IsName process) (hslash : ∀ c ∈ clusters, '/' ∉ c.toList)
    (hpath : path ∈ layout.exportPaths process clusters) {beside : String}
    (hbeside : beside ∈ ledgerEndings) (file : String) :
    FileTree.goal current path ≠ FileTree.goal current (file ++ beside) := by
  have hlast : ∀ ending ∈ exportEndings, ∀ beside ∈ ledgerEndings,
      (Bytes.ofText ending).getLast? ≠ (Bytes.ofText beside).getLast? := by decide +kernel
  have hsome : ∀ text ∈ exportEndings ++ ledgerEndings,
      (Bytes.ofText text).getLast?.isSome = true := by decide +kernel
  have hlong : ∀ beside ∈ ledgerEndings, '/' ∉ beside.toList ∧ 2 < beside.toList.length := by
    decide
  obtain ⟨c, hc, ending, hending, rfl⟩ := mem_exportPaths.1 hpath
  obtain ⟨hname, hlength⟩ := isName_export (hslash c hc) hending
  obtain ⟨l, last, hgoal, -⟩ := FileTree.exists_goal_append current file
  rw [goal_join_processExportDir hprocess hname, FileTree.enter_of_long hlength,
    hgoal _ (hlong _ hbeside).1 (hlong _ hbeside).2, Bytes.ofText_append]
  intro heq
  have hbytes := congrArg List.getLast? (List.singleton_inj.1 (List.append_inj' heq rfl).2)
  rw [List.getLast?_append, List.getLast?_append,
    Option.or_of_isSome (hsome _ (List.mem_append_left _ hending)),
    Option.or_of_isSome (hsome _ (List.mem_append_right _ hbeside))] at hbytes
  exact hlast ending hending beside hbeside hbytes

end ProjectLayout
end FlowAtlas
