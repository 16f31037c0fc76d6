import FlowAtlas.Cluster.Stored
import FlowAtlas.Ledger.Record
import FlowAtlas.Process.Stored
import FlowAtlas.Project.Config
import FlowAtlas.Proofs.Json.Record
import Mathlib.Algebra.Ring.Int.Defs

/-!
# Stored values survive their text

Values are read back from the text in which they are stored, in either of its forms
(`Stored.survives`).  A field that has a default may be left out of the text, and then it is read as
that default.  Numbers have to be in the range in which they are counted (`Fits`); anything else may
be as it is, texts of any characters among them.

For each type stands what its values are written as (`wellWritten_toJson`) and that they are read
from it (`ofJson?_toJson`).
-/

set_option autoImplicit false

namespace FlowAtlas

open JsonRecord (ofJson?_record ofJson?_without get_told)

variable {left : List String}

namespace Stored

variable {α : Type} [Stored α] {j : Json} {a : α}

/-- Both texts of the document are read as the value. -/
def Tells (j : Json) (a : α) : Prop := ofText? j.compact = some a ∧ ofText? j.pretty = some a

theorem tells_of_wellWritten (hj : j.WellWritten) (ha : ofJson? j = some a) : Tells j a := by
  rw [Tells, ofText?, ofText?, Json.ofText?_compact hj, Json.ofText?_pretty hj]
  exact ⟨ha, ha⟩

end Stored

/-! ## Nodes and units -/

theorem UnitId.ofJson?_toJson {u : UnitId} (h : u.index < 2 ^ 32) : ofJson? u.toJson = some u := by
  rw [toJson, ofJson?, Json.nat?_ofNat h]
  rfl

theorem NodeKind.ofJson?_toJson (k : NodeKind) : ofJson? k.toJson = some k :=
  Json.named?_ofString (by cases k <;> decide)

namespace NodeKey

/-- The number of the unit is one that units have. -/
def Fits : NodeKey → Prop
  | block unit _ _ => unit.index < 2 ^ 32
  | _ => True

theorem wellWritten_toJson (k : NodeKey) : k.toJson.WellWritten := by
  cases k <;> simp [toJson, Json.wellWritten_record, UnitId.toJson, NodeKind.toJson]

theorem ofJson?_toJson {k : NodeKey} (h : k.Fits) : ofJson? k.toJson = some k := by
  cases k with
  | block unit tag version =>
    have hunit := UnitId.ofJson?_toJson h
    rw [toJson, ofJson?, Json.variant?_record]
    -- written-out proofs spare the kernel from counting up to the limits of the numbers
    simp -implicitDefEqProofs [blockOfJson?, ofJson?_record, get_told, hunit]
  | boundary signature kind isCallback =>
    have hkind := NodeKind.ofJson?_toJson kind
    rw [toJson, ofJson?, Json.variant?_record]
    simp -implicitDefEqProofs [boundaryOfJson?, ofJson?_record, get_told, hkind]
  | processRoot =>
    rw [toJson, ofJson?, Json.variant?_ofString]
    rfl

end NodeKey

namespace SoftwareUnit

theorem wellWritten_toJson (u : SoftwareUnit) : u.toJson.WellWritten :=
  Json.wellWritten_record (by simp)

theorem ofJson?_toJson (u : SoftwareUnit) : ofJson? u.toJson = some u := by
  rw [toJson, ofJson?, ofJson?_record (by simp)]
  simp [get_told]

end SoftwareUnit

/-! ## Modules and clusters -/

namespace StreamWindow

theorem wellWritten_toJson (w : StreamWindow) : w.toJson.WellWritten :=
  Json.wellWritten_record (by simp)

theorem ofJson?_toJson (w : StreamWindow) : ofJson? w.toJson = some w := by
  rw [toJson, ofJson?, ofJson?_record (by simp)]
  simp -implicitDefEqProofs [get_told]

end StreamWindow

namespace ModuleInstance

/-- The number of the unit is one that units have. -/
def Fits (i : ModuleInstance) : Prop := i.unit.index < 2 ^ 32

theorem wellWritten_toJson (i : ModuleInstance) : i.toJson.WellWritten := by
  have hwindows := Json.wellWritten_array (l := i.windows.toList) fun w _ => w.wellWritten_toJson
  exact Json.wellWritten_record (by simp [hwindows, UnitId.toJson])

theorem windowsOfJson?_toJson (p : PerStream StreamWindow) :
    windowsOfJson? (.array (p.toList.map StreamWindow.toJson)) = some p := by
  rw [windowsOfJson?, Json.list?_array fun w _ => w.ofJson?_toJson]
  rfl

theorem ofJson?_toJson {i : ModuleInstance} (h : i.Fits) : ofJson? i.toJson = some i := by
  have hunit := UnitId.ofJson?_toJson h
  rw [toJson, ofJson?, ofJson?_record (by simp)]
  simp -implicitDefEqProofs [get_told, hunit, windowsOfJson?_toJson]

end ModuleInstance

namespace ClusterSpec

theorem wellWritten_toJson (s : ClusterSpec) : s.toJson.WellWritten := by
  have hunits := Json.wellWritten_array (l := s.units) fun u _ => u.wellWritten_toJson
  exact Json.wellWritten_record (by simp [hunits])

theorem ofJson?_toJson (s : ClusterSpec) : ofJson? s.toJson = some s := by
  have hunits := Json.list?_array (l := s.units) fun u _ => u.ofJson?_toJson
  rw [toJson, ofJson?, ofJson?_record (by simp)]
  simp [get_told, hunits]

end ClusterSpec

/-! ## Summaries -/

namespace LoadStats

/-- All the counts. -/
def counts (s : LoadStats) : List Nat :=
  [s.nodeRecords, s.edgeRecords, s.crossModuleRecords, s.skippedSentinels, s.discardedContinuations,
    s.unresolvedEndpoints, s.alternateVersionHits, s.clusterCrossings, s.misroutedEdges]

/-- Every count is less than the limit. -/
def Fits (s : LoadStats) : Prop := ∀ n ∈ s.counts, n < Numeral.wordLimit

theorem wellWritten_toJson (s : LoadStats) : s.toJson.WellWritten :=
  Json.wellWritten_record (by simp)

theorem ofJson?_toJson {s : LoadStats} (h : s.Fits) : ofJson? s.toJson = some s := by
  simp only [Fits, counts, List.forall_mem_cons] at h
  rw [toJson, ofJson?, ofJson?_record (by simp)]
  simp -implicitDefEqProofs [get_told, Json.nat?_ofNat_of_lt_wordLimit, h]

end LoadStats

namespace UnitSummary

theorem wellWritten_toJson (u : UnitSummary) : u.toJson.WellWritten :=
  Json.wellWritten_record (by simp)

theorem ofJson?_toJson {u : UnitSummary} (h : u.executableBlocks < Numeral.wordLimit) :
    ofJson? u.toJson = some u := by
  rw [toJson, ofJson?, ofJson?_record (by simp)]
  simp -implicitDefEqProofs [get_told, Json.nat?_ofNat_of_lt_wordLimit, h]

end UnitSummary

namespace ClusterSummary

/-- The counts of the cluster itself. -/
def counts (c : ClusterSummary) : List Nat :=
  [c.nodes, c.edges, c.executableBlocks, c.entryPoints, c.exitPoints, c.unreachable,
    c.missedEntries]

/-- Every count is less than the limit. -/
structure Fits (c : ClusterSummary) : Prop where
  counts : ∀ n ∈ c.counts, n < Numeral.wordLimit
  modules : ∀ u ∈ c.modules, u.executableBlocks < Numeral.wordLimit

theorem wellWritten_toJson (c : ClusterSummary) : c.toJson.WellWritten := by
  have hmodules := Json.wellWritten_array (l := c.modules) fun u _ => u.wellWritten_toJson
  exact Json.wellWritten_record (by simp [hmodules])

/-- The value with the defaults of what was left out. -/
def leaveOut (left : List String) (c : ClusterSummary) : ClusterSummary :=
  { c with modules := if "modules" ∈ left then [] else c.modules }

theorem ofJson?_without {c : ClusterSummary} (h : c.Fits) (hleft : left ⊆ ["modules"]) :
    ofJson? (c.toJson.without left) = some (c.leaveOut left) := by
  have hmodules := Json.list?_array fun u hu => UnitSummary.ofJson?_toJson (h.modules u hu)
  have hcounts := h.counts
  simp only [ClusterSummary.counts, List.forall_mem_cons] at hcounts
  have hkept : ∀ name, name ≠ "modules" → name ∉ left := fun name hname hmem =>
    hname (List.mem_singleton.1 (hleft hmem))
  rw [toJson, ofJson?, JsonRecord.ofJson?_without (by simp)]
  by_cases hmem : "modules" ∈ left <;>
    simp -implicitDefEqProofs [get_told, Json.nat?_ofNat_of_lt_wordLimit, hcounts, hmodules, hkept,
      hmem, leaveOut]

theorem ofJson?_toJson {c : ClusterSummary} (h : c.Fits) : ofJson? c.toJson = some c := by
  have hwithout := ofJson?_without h (List.nil_subset _)
  rwa [Json.without_nil] at hwithout

end ClusterSummary

namespace ProcessSummary

/-- Every count is less than the limit. -/
structure Fits (p : ProcessSummary) : Prop where
  moduleInstances : p.moduleInstances < Numeral.wordLimit
  clusters : ∀ c ∈ p.clusters, c.Fits
  stats : p.stats.Fits

theorem wellWritten_toJson (p : ProcessSummary) : p.toJson.WellWritten := by
  have hclusters := Json.wellWritten_array (l := p.clusters) fun c _ => c.wellWritten_toJson
  exact Json.wellWritten_record (by simp [hclusters, p.stats.wellWritten_toJson])

theorem ofJson?_toJson {p : ProcessSummary} (h : p.Fits) : ofJson? p.toJson = some p := by
  have hclusters := Json.list?_array fun c hc => ClusterSummary.ofJson?_toJson (h.clusters c hc)
  have hstats := LoadStats.ofJson?_toJson h.stats
  rw [toJson, ofJson?, ofJson?_record (by simp)]
  simp -implicitDefEqProofs [get_told, Json.nat?_ofNat_of_lt_wordLimit, h.moduleInstances,
    hclusters, hstats]

end ProcessSummary

/-! ## What the ledger keeps -/

theorem RunStatus.ofJson?_toJson (s : RunStatus) : ofJson? s.toJson = some s :=
  Json.named?_ofString (by cases s <;> decide)

namespace LoadRun

theorem wellWritten_toJson (r : LoadRun) : r.toJson.WellWritten := by
  have herror : ∀ m ∈ Json.optional "error" .ofString r.error, m.2.WellWritten := by
    cases r.error <;> simp [Json.optional]
  refine Json.wellWritten_record ?_
  simp only [members, List.forall_mem_append]
  exact ⟨⟨by simp [RunStatus.toJson], herror⟩, by simp⟩

/-- The value with the defaults of what was left out. -/
def leaveOut (left : List String) (r : LoadRun) : LoadRun :=
  { r with error := if "error" ∈ left then none else r.error }

theorem ofJson?_without (r : LoadRun) (hleft : left ⊆ ["error"]) :
    ofJson? (r.toJson.without left) = some (r.leaveOut left) := by
  have hstatus := RunStatus.ofJson?_toJson r.status
  have hkept : ∀ name, name ≠ "error" → name ∉ left := fun name hname hmem =>
    hname (List.mem_singleton.1 (hleft hmem))
  obtain ⟨process, traceDir, traceHash, status, error, startedAt, finishedAt⟩ := r
  rw [toJson, ofJson?]
  by_cases hmem : "error" ∈ left <;> cases error <;>
    rw [JsonRecord.ofJson?_without (by simp [members, Json.optional])] <;>
      simp [members, Json.optional, get_told, hstatus, hkept, hmem, leaveOut]

theorem ofJson?_toJson (r : LoadRun) : ofJson? r.toJson = some r := by
  have hwithout := ofJson?_without r (List.nil_subset _)
  rwa [Json.without_nil] at hwithout

end LoadRun

namespace ClusterTotals

/-- The number is one of 64 bits with sign. -/
def IsInt64 (n : Int) : Prop := -2 ^ 63 ≤ n ∧ n < 2 ^ 63

theorem int64?_integer {n : Int} (h : IsInt64 n) : int64? (.integer n) = some n :=
  Json.intIn?_integer h.1 h.2

/-- All the numbers. -/
def counts (t : ClusterTotals) : List Int :=
  [t.nodes, t.edges, t.executableBlocks, t.entryPoints, t.exitPoints, t.unreachable,
    t.missedEntries]

/-- Every number is one of 64 bits with sign. -/
def Fits (t : ClusterTotals) : Prop := ∀ n ∈ t.counts, IsInt64 n

theorem wellWritten_toJson (t : ClusterTotals) : t.toJson.WellWritten :=
  Json.wellWritten_record (by simp)

theorem ofJson?_toJson {t : ClusterTotals} (h : t.Fits) : ofJson? t.toJson = some t := by
  simp only [Fits, counts, List.forall_mem_cons] at h
  rw [toJson, ofJson?, ofJson?_record (by simp)]
  simp -implicitDefEqProofs [get_told, int64?_integer, h]

end ClusterTotals

/-! ## Settings -/

namespace LedgerConfig

theorem wellWritten_toJson (c : LedgerConfig) : c.toJson.WellWritten :=
  Json.wellWritten_record (by simp)

theorem ofJson?_toJson (c : LedgerConfig) : ofJson? c.toJson = some c := by
  rw [toJson, ofJson?, ofJson?_record (by simp)]
  simp [get_told]

end LedgerConfig

namespace ProjectConfig

theorem wellWritten_toJson (c : ProjectConfig) : c.toJson.WellWritten :=
  Json.wellWritten_record (by simp [c.ledger.wellWritten_toJson])

/-- The value with the defaults of what was left out. -/
def leaveOut (left : List String) (c : ProjectConfig) : ProjectConfig :=
  { c with
    clustersDir := if "clusters_dir" ∈ left then "clusters" else c.clustersDir
    defaultCluster := if "default_cluster" ∈ left then "main" else c.defaultCluster }

theorem ofJson?_without (c : ProjectConfig) (hleft : left ⊆ ["clusters_dir", "default_cluster"]) :
    ofJson? (c.toJson.without left) = some (c.leaveOut left) := by
  have hledger := c.ledger.ofJson?_toJson
  have hkept : ∀ name, name ∉ ["clusters_dir", "default_cluster"] → name ∉ left :=
    fun name hname hmem => hname (hleft hmem)
  rw [toJson, ofJson?, JsonRecord.ofJson?_without (by simp)]
  by_cases hdir : "clusters_dir" ∈ left <;> by_cases hdefault : "default_cluster" ∈ left <;>
    simp [get_told, hledger, hkept, hdir, hdefault, leaveOut, defaultClustersDir,
      ClusterConfig.defaultName]

theorem ofJson?_toJson (c : ProjectConfig) : ofJson? c.toJson = some c := by
  have hwithout := ofJson?_without c (List.nil_subset _)
  rwa [Json.without_nil] at hwithout

end ProjectConfig

/-! ## All stored values -/

namespace Stored

/-- **Stored values survive their text**, whole or with fields left out that have a default. -/
theorem survives :
    (∀ v : ProcessSummary, v.Fits → Tells (toJson v) v) ∧
    (∀ v : ModuleInstance, v.Fits → Tells (toJson v) v) ∧
    (∀ v : NodeKey, v.Fits → Tells (toJson v) v) ∧
    (∀ v : ClusterSpec, Tells (toJson v) v) ∧
    (∀ v : LoadRun, Tells (toJson v) v) ∧
    (∀ v : ClusterTotals, v.Fits → Tells (toJson v) v) ∧
    (∀ v : ProjectConfig, Tells (toJson v) v) ∧
    (∀ (v : LoadRun) (left : List String), left ⊆ ["error"] →
      Tells ((toJson v).without left) (v.leaveOut left)) ∧
    (∀ (v : ClusterSummary) (left : List String), v.Fits → left ⊆ ["modules"] →
      Tells ((toJson v).without left) (v.leaveOut left)) ∧
    (∀ (v : ProjectConfig) (left : List String), left ⊆ ["clusters_dir", "default_cluster"] →
      Tells ((toJson v).without left) (v.leaveOut left)) := by
  refine ⟨fun v h => ?_, fun v h => ?_, fun v h => ?_, fun v => ?_, fun v => ?_, fun v h => ?_,
    fun v => ?_, fun v left h => ?_, fun v left hfits h => ?_, fun v left h => ?_⟩
  · exact tells_of_wellWritten v.wellWritten_toJson (ProcessSummary.ofJson?_toJson h)
  · exact tells_of_wellWritten v.wellWritten_toJson (ModuleInstance.ofJson?_toJson h)
  · exact tells_of_wellWritten v.wellWritten_toJson (NodeKey.ofJson?_toJson h)
  · exact tells_of_wellWritten v.wellWritten_toJson v.ofJson?_toJson
  · exact tells_of_wellWritten v.wellWritten_toJson v.ofJson?_toJson
  · exact tells_of_wellWritten v.wellWritten_toJson (ClusterTotals.ofJson?_toJson h)
  · exact tells_of_wellWritten v.wellWritten_toJson v.ofJson?_toJson
  · exact tells_of_wellWritten (v.wellWritten_toJson.without left) (v.ofJson?_without h)
  · exact tells_of_wellWritten (v.wellWritten_toJson.without left)
      (ClusterSummary.ofJson?_without hfits h)
  · exact tells_of_wellWritten (v.wellWritten_toJson.without left) (v.ofJson?_without h)

/-- A summary with the largest counts, and a name that is full of characters with a form of their
own. -/
def crowded : ProcessSummary where
  process := "\"\\\n\x00/é\u2028😀"
  moduleInstances := 2 ^ 64 - 1
  clusters := [⟨"", 2 ^ 64 - 1, 0, 0, 0, 0, 0, 0, [⟨"\t", 2 ^ 64 - 1⟩]⟩]
  stats := { misroutedEdges := 2 ^ 64 - 1 }

/-- A load that failed, without a digest of its trace. -/
def failedRun : LoadRun :=
  ⟨"app", "/t", none, .failed, some "\x1f\x7f", "2024-01-01T00:00:00Z", ""⟩

theorem survives_crowded : Tells (toJson crowded) crowded ∧
    Tells ((toJson failedRun).without ["error"]) { failedRun with error := none } := by
  have hcrowded : crowded.Fits := by
    refine ⟨by decide, List.forall_mem_singleton.2 ⟨by decide, by decide⟩, ?_⟩
    rw [LoadStats.Fits]
    decide
  obtain ⟨hsummary, -, -, -, -, -, -, hrun, -⟩ := survives
  exact ⟨hsummary crowded hcrowded, hrun failedRun ["error"] (List.Subset.refl _)⟩

end Stored
end FlowAtlas
