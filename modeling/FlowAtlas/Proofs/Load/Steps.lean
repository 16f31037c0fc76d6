import FlowAtlas.Load.Basic
import FlowAtlas.Proofs.Cluster.Growth
import FlowAtlas.Proofs.Trace.Stream

/-!
# What the single steps of a load do to the clusters

The steps of a load also count and announce.  The lemmas here leave that aside: they say of each
step that succeeded which step it was for the clusters, and that it left the root alone.  Last comes
`TraceFile.forEach_eq_ok`, by which a stage over a file that succeeded has taken in every record of
the file.
-/

set_option autoImplicit false

namespace FlowAtlas
namespace Loading

open EStateM

variable {ε α : Type} {s s' : LoadState} {u : Unit} {c : ClusterId} {placed : NodeId × Bool}
  {source target n : NodeId} {x y : ClusterNode} {kind : EdgeKind} {ordinal : UInt8}

/-! ## Counting and announcing -/

/-- Clusters and root are the same. -/
structure Keeps (s s' : LoadState) : Prop where
  clusters : s'.clusters = s.clusters
  root : s'.root = s.root

theorem Keeps.refl (s : LoadState) : Keeps s s := ⟨rfl, rfl⟩

theorem Keeps.trans {s₁ s₂ s₃ : LoadState} (h : Keeps s₁ s₂) (h' : Keeps s₂ s₃) : Keeps s₁ s₃ :=
  ⟨h'.clusters.trans h.clusters, h'.root.trans h.root⟩

theorem keeps_count {f : LoadStats → LoadStats} (h : count f s = .ok u s') : Keeps s s' := by
  cases h
  exact ⟨rfl, rfl⟩

theorem keeps_announce {e : LoadEvent} (h : announce e s = .ok u s') : Keeps s s' := by
  cases h
  exact ⟨rfl, rfl⟩

theorem keeps_announceNode (h : announceNode c placed s = .ok u s') : Keeps s s' := by
  rw [announceNode] at h
  split at h
  · obtain ⟨_, _, hget, h⟩ := bind_eq_ok_iff.1 h
    cases hget
    exact keeps_announce h
  · cases h
    exact Keeps.refl s

theorem keeps_announceEdge {outcome : EdgeOutcome} (h : announceEdge c outcome s = .ok u s') :
    Keeps s s' := by
  rw [announceEdge] at h
  split at h
  · obtain ⟨_, _, hget, h⟩ := bind_eq_ok_iff.1 h
    cases hget
    exact keeps_announce h
  · cases h
    exact Keeps.refl s

/-! ## Changing the clusters -/

theorem onClusters_eq_ok {a : α} {asError : Clusters → ε → LoadError} {step : EStateM ε Clusters α}
    (h : onClusters asError step s = .ok a s') :
    step s.clusters = .ok a s'.clusters ∧ s'.root = s.root := by
  rw [onClusters] at h
  cases hs : step s.clusters with
  | ok b cs =>
    rw [hs] at h
    cases h
    exact ⟨rfl, rfl⟩
  | error cause cs =>
    rw [hs] at h
    cases h

theorem place_eq_ok {step : Cluster → (NodeId × Bool) × Cluster} (h : place c step s = .ok n s') :
    ∃ isNew, @Clusters.onNode LoadError c step s.clusters = .ok (n, isNew) s'.clusters ∧
      s'.root = s.root := by
  obtain ⟨placed, s₁, hon, h⟩ := bind_eq_ok_iff.1 h
  obtain ⟨_, s₂, hannounce, h⟩ := bind_eq_ok_iff.1 h
  cases h
  obtain ⟨hstep, hroot⟩ := onClusters_eq_ok hon
  have hkeep := keeps_announceNode hannounce
  exact ⟨placed.2, hkeep.clusters ▸ hstep, hkeep.root.trans hroot⟩

theorem join_eq_ok {stage : LoadStage} {isKnownNew : Bool}
    (h : join stage c source target kind ordinal isKnownNew s = .ok u s') :
    ∃ outcome, Clusters.on c (Cluster.addEdge source target kind ordinal) s.clusters =
      .ok outcome s'.clusters ∧ s'.root = s.root := by
  obtain ⟨outcome, s₁, hon, h⟩ := bind_eq_ok_iff.1 h
  obtain ⟨hstep, hroot⟩ := onClusters_eq_ok hon
  have hkeep := keeps_announceEdge h
  exact ⟨outcome, hkeep.clusters ▸ hstep, hkeep.root.trans hroot⟩

theorem cross_eq_ok {t : Transfer} (h : cross x y t s = .ok u s') :
    ∃ crossing, Crossing.split x y t s.clusters = .ok crossing s'.clusters ∧
      s'.root = s.root := by
  obtain ⟨crossing, s₁, hon, h⟩ := bind_eq_ok_iff.1 h
  obtain ⟨_, s₂, hcount, h⟩ := bind_eq_ok_iff.1 h
  obtain ⟨_, s₃, hexit, h⟩ := bind_eq_ok_iff.1 h
  obtain ⟨_, s₄, hexitEdge, h⟩ := bind_eq_ok_iff.1 h
  obtain ⟨_, s₅, hentry, hentryEdge⟩ := bind_eq_ok_iff.1 h
  obtain ⟨hstep, hroot⟩ := onClusters_eq_ok hon
  have hkeep : Keeps s₁ s' := (((keeps_count hcount).trans (keeps_announceNode hexit)).trans
    (keeps_announceEdge hexitEdge)).trans
      ((keeps_announceNode hentry).trans (keeps_announceEdge hentryEdge))
  exact ⟨crossing, hkeep.clusters ▸ hstep, hkeep.root.trans hroot⟩

/-- A record is resolved and goes on with its ends, or it is counted and nothing else. -/
theorem resolve_eq_ok {r : Routing} {e : EdgeRecord} {stream : StreamKind} {position : Nat}
    {found : ClusterNode → ClusterNode → Loading Unit}
    (h : resolve r e stream position found s = .ok u s') :
    (∃ x y s₁, (r.fate s.clusters e stream position).1 = .resolved x y ∧ Keeps s s₁ ∧
        found x y s₁ = .ok u s') ∨
      ((∀ x y, (r.fate s.clusters e stream position).1 ≠ .resolved x y) ∧ Keeps s s') := by
  rw [resolve] at h
  obtain ⟨_, _, hget, h⟩ := bind_eq_ok_iff.1 h
  cases hget
  cases hfate : r.fate s.clusters e stream position with
  | mk fate alternates =>
    rw [hfate] at h
    obtain ⟨_, s₁, hcount, h⟩ := bind_eq_ok_iff.1 h
    have hkeep := keeps_count hcount
    cases fate with
    | resolved x y => exact Or.inl ⟨x, y, s₁, rfl, hkeep, h⟩
    | skipped | discarded | unresolved =>
      exact Or.inr ⟨fun x y => nofun, hkeep.trans (keeps_count h)⟩

/-- The search touches what it has found and nothing else. -/
theorem get_searched (cs : Clusters) (i : ClusterId) :
    ∃ found, Clusters.get (cs.map fun c =>
      if c.graph.nodeCount > 0 then c.findUnreachable.2 else c) i =
        { cs.get i with reachability := found } := by
  rw [Clusters.get, Clusters.get, Array.getD_eq_getD_getElem?, Array.getD_eq_getD_getElem?,
    Array.getElem?_map]
  cases cs[i.index]? with
  | none => exact ⟨none, rfl⟩
  | some c =>
    rw [Option.map_some, Option.getD_some, Option.getD_some]
    split
    · exact ⟨_, rfl⟩
    · exact ⟨c.reachability, rfl⟩

end Loading

/-! ## The records of a file -/

namespace TraceFile

open EStateM

variable {α : Type} [Record α] {f : TraceFile} {stage : LoadStage} {step : Nat → α → Loading Unit}
  {s s' : LoadState} {u : Unit}

/-- The file can be read, and holds these records at these positions and nothing else. -/
def Holds (f : TraceFile) (records : List (Nat × α)) : Prop :=
  ∃ bs, f.contents = .ok bs ∧ Record.ofBytes α bs = records.map .ok

theorem Holds.eq {records records' : List (Nat × α)} (h : f.Holds records) (h' : f.Holds records') :
    records = records' := by
  obtain ⟨bs, hbs, hrecords⟩ := h
  obtain ⟨bs', hbs', hrecords'⟩ := h'
  cases hbs.symm.trans hbs'
  exact List.map_injective_iff.2 (fun _ _ => Except.ok.inj) (hrecords.symm.trans hrecords')

/-- **A file holds records exactly when it is their forms**, one after another from position
zero. -/
theorem holds_iff {records : List (Nat × α)} : f.Holds records ↔
    ∃ bs values, f.contents = .ok bs ∧ Record.Forms bs values ∧
      records = Record.numbered 0 values := by
  constructor
  · rintro ⟨bs, hbs, hread⟩
    obtain ⟨values, hforms, hrecords⟩ := RecordReader.forms_of_readAll hread
    exact ⟨bs, values, hbs, hforms, hrecords⟩
  · rintro ⟨bs, values, hbs, hforms, rfl⟩
    exact ⟨bs, hbs, RecordReader.readAll_of_forms hforms 0⟩

theorem open_eq_ok {contents : Except FileError Bytes} (h : f.open stage = .ok contents) :
    contents = f.contents := by
  rw [«open»] at h
  cases hf : f.contents with
  | ok bs =>
    rw [hf] at h
    cases h
    rfl
  | error e =>
    rw [hf] at h
    dsimp only at h
    split at h
    · cases h
      rfl
    · cases h

omit [Record α] in
/-- A log is read from what the file contains. -/
theorem readLog_eq_ok_iff {units units' : UnitTable} {modules : AddressMap} :
    f.readLog units = .ok (modules, units') ↔
      ∃ log, f.contents = .ok log ∧ ModuleLog.read units log = (.ok modules, units') := by
  constructor
  · intro h
    rw [readLog] at h
    cases hopen : f.open .moduleLog with
    | error e =>
      rw [hopen] at h
      cases h
    | ok contents =>
      rw [hopen] at h
      cases contents with
      | error e => cases h
      | ok log =>
        refine ⟨log, (open_eq_ok hopen).symm, ?_⟩
        dsimp only [bind, Except.bind] at h
        cases hread : ModuleLog.read units log with
        | mk result units₁ =>
          rw [hread] at h
          cases result with
          | ok modules₁ =>
            cases h
            rfl
          | error cause => cases h
  · rintro ⟨log, hlog, hread⟩
    rw [readLog, «open», hlog]
    dsimp only [bind, Except.bind]
    rw [hread]
    rfl

omit [Record α] in
/-- Records that are all in order are taken in one after another. -/
theorem forM_items (records : List (Nat × α)) :
    ((records.map .ok : List (Except TraceError (Nat × α))).forM fun item => (match item with
      | .ok (position, record) => step position record
      | .error cause => throw (.trace cause) : Loading Unit)) =
      records.forM fun q => step q.1 q.2 := by
  induction records with
  | nil => rfl
  | cons q records ih => exact congrArg (step q.1 q.2 >>= fun _ => ·) ih

omit [Record α] in
/-- The first item that is an error is the end, so there is none in a stage that succeeds. -/
theorem items_eq_of_forM_eq_ok {items : List (Except TraceError (Nat × α))}
    (h : (items.forM fun item => (match item with
      | .ok (position, record) => step position record
      | .error cause => throw (.trace cause) : Loading Unit)) s = .ok u s') :
    ∃ records : List (Nat × α), items = records.map .ok := by
  induction items generalizing s with
  | nil => exact ⟨[], rfl⟩
  | cons item items ih =>
    obtain ⟨s₁, hitem, hitems⟩ := forM_cons_eq_ok_iff.1 h
    cases item with
    | ok q =>
      obtain ⟨records, rfl⟩ := ih hitems
      exact ⟨q :: records, rfl⟩
    | error cause => cases hitem

/-- A stage over a file that can be read takes in its records one after another. -/
theorem forEach_of_holds {records : List (Nat × α)} (h : f.Holds records) :
    f.forEach stage step = records.forM fun q => step q.1 q.2 := by
  obtain ⟨bs, hbs, hrecords⟩ := h
  have hopen : f.open stage = .ok (.ok bs) := by rw [«open», hbs]
  rw [forEach, hopen]
  dsimp only
  rw [Record.ofBytes] at hrecords
  rw [hrecords]
  exact forM_items records

/-- **A stage that succeeds has taken in every record of its file.** -/
theorem forEach_eq_ok (h : f.forEach stage step s = .ok u s') :
    ∃ records : List (Nat × α), f.Holds records ∧
      (records.forM fun q => step q.1 q.2) s = .ok u s' := by
  have hrun := h
  rw [forEach] at h
  cases hopen : f.open stage with
  | error e =>
    rw [hopen] at h
    cases h
  | ok contents =>
    rw [hopen] at h
    obtain ⟨records, hitems⟩ := items_eq_of_forM_eq_ok h
    cases contents with
    | ok bs =>
      have hholds : f.Holds records := ⟨bs, (open_eq_ok hopen).symm, hitems⟩
      rw [forEach_of_holds hholds] at hrun
      exact ⟨records, hholds, hrun⟩
    | error e =>
      -- the source fails at once, and gives an error and nothing else
      dsimp only at hitems
      rw [RecordReader.readAll_of_error rfl] at hitems
      cases records with
      | nil => cases hitems
      | cons q records => cases (List.cons.inj hitems).1

end TraceFile
end FlowAtlas
