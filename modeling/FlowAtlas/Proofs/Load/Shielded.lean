import FlowAtlas.Proofs.Cluster.Guarded
import FlowAtlas.Proofs.Load.Edges
import FlowAtlas.Proofs.Load.Following

/-!
# What a load makes on its own keeps to the rule on entries and exits

A load makes nodes that no record describes: the process root, and an entry and an exit for each
signature that crosses between clusters.  `shielded_of_load` is the main theorem.  At every moment
of every load these nodes are as `Cluster.Shielded` says, whatever the records contain; hence a load
that fails in its check of entries and exits names a block, and it does not fail there at all unless
a block record claims the kind of an entry or exit.

The proof takes the invariant `Cluster.Guarded` through the requests of a load
(`Routing.Step.guarded`), and `Loading.exists_violation_of_validate` tells where the error comes from.
-/

set_option autoImplicit false

namespace FlowAtlas

open EStateM Relation

/-! ## The invariant along a load -/

namespace Routing

variable {r : Routing} {blocks : List (Nat × NodeRecord)} {crosses : List (Nat × CrossRecord)}
  {cs cs' : Clusters} {i : ClusterId} {q : Cluster.Request}

/-- The first block record belongs to cluster `i` and has this key. -/
def FirstKey (r : Routing) (blocks : List (Nat × NodeRecord)) (i : ClusterId) (key : NodeKey) :
    Prop :=
  ∃ q, blocks.head? = some q ∧ r.home q = i ∧ (r.nodeOf q).key = key

theorem FirstKey.eq {key key' : NodeKey} (h : r.FirstKey blocks i key)
    (h' : r.FirstKey blocks i key') : key = key' := by
  obtain ⟨q, hq, -, rfl⟩ := h
  obtain ⟨q', hq', -, rfl⟩ := h'
  rw [Option.some.inj (hq.symm.trans hq')]

/-- Every cluster keeps its edges where they may be. -/
def Guarded (r : Routing) (blocks : List (Nat × NodeRecord)) (cs : Clusters) : Prop :=
  ∀ i, (cs.get i).Guarded (fun kind => ∃ q ∈ blocks, q.2.kind = kind) (r.FirstKey blocks i)

theorem Requests.guarded (hq : r.Requests blocks crosses cs i q) (h : r.Guarded blocks cs) :
    (q.apply (cs.get i)).Guarded (fun kind => ∃ q ∈ blocks, q.2.kind = kind)
      (r.FirstKey blocks i) := by
  cases hq with
  | @block q hq =>
    have hx : (r.nodeOf q).Fits fun kind => ∃ q ∈ blocks, q.2.kind = kind := ⟨q, hq, rfl⟩
    exact (h _).nodeStep (Cluster.nodeStep_addNode _ (r.nodeOf q)) rfl hx
  | root => exact (h _).nodeStep (Cluster.nodeStep_addRoot _ _) rfl rfl
  | exit => exact (h _).nodeStep (Cluster.nodeStep_addExitFor _ _ _ _) rfl rfl
  | entry => exact (h _).nodeStep (Cluster.nodeStep_addEntryFor _ _ _ _) rfl rfl
  | @rootEdge q a b hq ha hb =>
    have hcoherent := (h (r.home q)).coherent
    obtain ⟨hbn, hbkey⟩ := (hcoherent.graph.find?_eq_some_iff _ _).1 hb
    rw [hcoherent.root_eq] at ha
    obtain ⟨han, hakey⟩ := (hcoherent.graph.find?_eq_some_iff _ _).1 ha
    refine (h _).addEdge han hbn ⟨?_, Or.inr ⟨hakey, rfl, rfl, q, hq, rfl, hbkey.symm⟩⟩
    dsimp only
    rw [hbkey]
    rfl
  | @edge x y k o hx hy hxy =>
    rw [Clusters.HasBlock, ← hxy] at hy
    exact (h _).addEdge hx.1 hy.1
      ⟨NodeKey.mayReceive_of_isBlock hy.2, Or.inl (NodeKey.maySend_of_isBlock hx.2)⟩
  | @exitEdge x signature n k o hx hn =>
    exact (h _).addEdge hx.1 ((h _).coherent.exits.issued _ _ hn).1
      ⟨(h _).exits _ _ hn, Or.inl (NodeKey.maySend_of_isBlock hx.2)⟩
  | @entryEdge y signature n hy hn =>
    exact (h _).addEdge ((h _).coherent.entries.issued _ _ hn).1 hy.1
      ⟨NodeKey.mayReceive_of_isBlock hy.2, Or.inl ((h _).entries _ _ hn)⟩

/-- **Each change in a load keeps the invariant.** -/
theorem Step.guarded (hs : r.Step blocks crosses cs cs') (h : r.Guarded blocks cs) :
    r.Guarded blocks cs' := by
  cases hs with
  | ask hq => exact Clusters.forall_get_ask h fun _ => hq.guarded h
  | mark _ hget =>
    intro i
    obtain ⟨found, hi⟩ := hget i
    rw [hi]
    exact (h i).mark found

theorem guarded_of_steps (hs : ReflTransGen (r.Step blocks crosses) cs cs')
    (h : ∀ i, ∃ id name, cs.get i = .empty id name) : r.Guarded blocks cs' := by
  refine preserved_of_reflTransGen hs (fun _ _ hstep => hstep.guarded) fun i => ?_
  obtain ⟨id, name, hi⟩ := h i
  exact hi ▸ Cluster.guarded_empty id name

end Routing

/-! ## Where errors come from -/

/-- The error is not that of the check of entries and exits. -/
def LoadError.BeforeValidate (e : LoadError) : Prop :=
  ∀ name cause, e ≠ .graph .validate name cause

namespace Loading

variable {r : Routing} {s : LoadState} {i : ClusterId} {source target : NodeId} {kind : EdgeKind}
  {ordinal : UInt8} {stage : LoadStage} {x y : ClusterNode}

theorem throws_onClusters {ε α : Type} {p : LoadError → Prop} {asError : Clusters → ε → LoadError}
    {step : EStateM ε Clusters α} (h : ∀ cs cause, p (asError cs cause)) :
    Throws p (onClusters asError step) := by
  intro s e s' hr
  rw [onClusters] at hr
  cases hs : step s.clusters with
  | ok a cs =>
    rw [hs] at hr
    cases hr
  | error cause cs =>
    rw [hs] at hr
    cases hr
    exact h cs cause

variable {p : LoadError → Prop}

theorem throws_announceNode (c : ClusterId) (placed : NodeId × Bool) :
    Throws p (announceNode c placed) := Throws.of_ok fun s => by
  obtain ⟨s', hr, -⟩ := exists_announceNode c placed s
  exact ⟨_, s', hr⟩

theorem throws_announceEdge (c : ClusterId) (outcome : EdgeOutcome) :
    Throws p (announceEdge c outcome) := Throws.of_ok fun s => by
  obtain ⟨s', hr, -⟩ := exists_announceEdge c outcome s
  exact ⟨_, s', hr⟩

theorem throws_count (f : LoadStats → LoadStats) : Throws p (count f) :=
  Throws.of_ok fun s => ⟨_, _, modify_eq_ok _ s⟩

theorem throws_get : Throws p (get : Loading LoadState) := Throws.of_ok fun s => ⟨s, s, rfl⟩

theorem throws_join {isKnownNew : Bool} (h : stage ≠ .validate) :
    Throws LoadError.BeforeValidate (join stage i source target kind ordinal isKnownNew) :=
  Throws.bind (throws_onClusters fun _ _ _ _ heq => by cases heq; exact h rfl) fun _ =>
    throws_announceEdge _ _

theorem throws_addRoot {first : ClusterNode} {kind : NodeKind} :
    Throws LoadError.BeforeValidate (addRoot first kind) := by
  have hend : ∀ (f : LoadState → LoadState), Throws LoadError.BeforeValidate
      (modify f : Loading PUnit) := fun f => Throws.of_ok fun s => ⟨_, _, modify_eq_ok f s⟩
  refine Throws.bind throws_get fun s => Throws.bind (Throws.of_ok fun s => ?_) fun root => ?_
  · obtain ⟨s', hr, -⟩ := exists_place (i := first.cluster) (s := s) _
    exact ⟨_, s', hr⟩
  · cases hkind : kind.isEntry with
    | true => exact hend _
    | false => exact Throws.bind (throws_join (by decide)) fun _ => hend _

theorem throws_loadNode (q : Nat × NodeRecord) :
    Throws LoadError.BeforeValidate (loadNode r q.1 q.2) := by
  intro s e s' hr
  obtain ⟨s₁, -, -, heq⟩ := loadNode_eq r q s
  rw [heq] at hr
  split at hr
  · exact throws_addRoot s₁ e s' hr
  · cases hr

theorem throws_resolve {e : EdgeRecord} {stream : StreamKind} {position : Nat}
    {found : ClusterNode → ClusterNode → Loading Unit} (h : ∀ x y, Throws p (found x y)) :
    Throws p (resolve r e stream position found) := by
  refine Throws.bind throws_get fun s => ?_
  cases r.fate s.clusters e stream position with
  | mk fate alternates =>
    refine Throws.bind (throws_count _) fun _ => ?_
    cases fate with
    | resolved x y => exact h x y
    | skipped | discarded | unresolved => exact throws_count _

theorem throws_loadEdge (q : Nat × EdgeRecord) :
    Throws LoadError.BeforeValidate (loadEdge r q.1 q.2) := by
  refine Throws.bind (throws_count _) fun _ => throws_resolve fun x y => ?_
  split
  · exact throws_join (by decide)
  · exact throws_count _

theorem throws_cross {t : Transfer} : Throws LoadError.BeforeValidate (cross x y t) := by
  refine Throws.bind (throws_onClusters fun _ _ _ _ heq => by cases heq) fun crossing => ?_
  refine Throws.bind (throws_count _) fun _ => Throws.bind (throws_announceNode _ _) fun _ => ?_
  refine Throws.bind (throws_announceEdge _ _) fun _ => ?_
  exact Throws.bind (throws_announceNode _ _) fun _ => throws_announceEdge _ _

theorem throws_loadCross (q : Nat × CrossRecord) :
    Throws LoadError.BeforeValidate (loadCross r q.1 q.2) := by
  refine Throws.bind (throws_count _) fun _ => throws_resolve fun x y => ?_
  split
  · exact throws_join (by decide)
  · exact throws_cross

theorem throws_forEach {α : Type} [Record α] {f : TraceFile} {step : Nat → α → Loading Unit}
    (h : ∀ q : Nat × α, Throws LoadError.BeforeValidate (step q.1 q.2)) :
    Throws LoadError.BeforeValidate (f.forEach stage step) := by
  rcases TraceFile.forEach_cases f stage step with ⟨cause, hthrow⟩ | ⟨items, -, hrun⟩
  · rw [hthrow]
    intro s e s' hr name cause heq
    cases hr
    cases heq
  · rw [hrun]
    refine Throws.forM fun item _ => ?_
    cases item with
    | ok q => exact h q
    | error cause =>
      intro s e s' hr name cause heq
      cases hr
      cases heq

/-- The check fails on the first node of a cluster that breaks the rule on entries and exits. -/
theorem exists_violation_of_validate {e : LoadError} {s' : LoadState}
    (hr : validate s = .error e s') :
    ∃ i n cause, (s.clusters.get i).graph.hasNode n ∧
      Graph.violation? ((s.clusters.get i).graph.node n) = some cause ∧
      e = .graph .validate (s.clusters.get i).name (.graph cause) := by
  rw [validate, bind_of_ok (get_eq_ok s)] at hr
  have hthrows := Throws.forM (p := fun e => ∃ c ∈ s.clusters.toList, ∃ cause,
    c.validate = .error cause ∧ e = .graph .validate c.name (.graph cause)) (fun c hc => ?_)
    s e s' hr
  swap
  · intro s₁ e s₂ hr
    cases hv : c.validate with
    | ok u =>
      rw [hv] at hr
      cases hr
    | error cause =>
      rw [hv] at hr
      cases hr
      exact ⟨c, hc, cause, hv, rfl⟩
  obtain ⟨c, hc, cause, hv, rfl⟩ := hthrows
  obtain ⟨i, rfl⟩ := Clusters.exists_get_eq hc
  rw [Cluster.validate, Graph.validate] at hv
  cases hf : (s.clusters.get i).graph.nodes.toList.findSome? Graph.violation? with
  | none =>
    rw [hf] at hv
    cases hv
  | some cause' =>
    rw [hf] at hv
    cases hv
    obtain ⟨x, hx, hviolation⟩ := List.exists_of_findSome?_eq_some hf
    obtain ⟨n, hn, rfl⟩ := Graph.mem_nodes_iff.1 hx
    exact ⟨i, n, _, hn, hviolation, rfl⟩

end Loading

/-! ## The whole load -/

namespace TraceFiles

open Loading Routing

variable {t : TraceFiles} {r : Routing} {s s' : LoadState} {name : String} {cause : CrossingError}

/-- When the check fails, it names a block, which a record describes as an entry or exit. -/
theorem exists_block_of_stages (hempty : ∀ i, ∃ id name, s.clusters.get i = .empty id name)
    (hr : t.stages r s = .error (.graph .validate name cause) s') :
    ∃ key kind count, key.isBlock ∧
      (∃ q ∈ t.blockStream.delivered NodeRecord, q.2.kind = kind) ∧
      ((kind.isEntry ∧ cause = .graph (.entryHasIncoming key kind count)) ∨
        (kind.isExit ∧ cause = .graph (.exitHasOutgoing key kind count))) := by
  have hguarded := guarded_of_steps (follows_stages (t := t) (r := r) hempty) hempty
  rw [hr] at hguarded
  rw [stages] at hr
  rcases bind_eq_error_iff.1 hr with hr | ⟨_, s₁, -, hr⟩
  · exact absurd rfl (throws_forEach throws_loadNode _ _ _ hr name cause)
  rcases bind_eq_error_iff.1 hr with hr | ⟨_, s₂, -, hr⟩
  · exact absurd rfl (throws_forEach throws_loadEdge _ _ _ hr name cause)
  rcases bind_eq_error_iff.1 hr with hr | ⟨_, s₃, -, hr⟩
  · exact absurd rfl (throws_forEach throws_loadCross _ _ _ hr name cause)
  rcases bind_eq_error_iff.1 hr with hr | ⟨_, s₄, -, hr⟩
  · -- the check has left the state as it was
    have hstate : s' = s₃ := by
      have hfollows : Follows (fun _ _ => False) id validate s₃ := follows_validate
      rw [Follows, hr, reflTransGen_iff_eq fun _ => not_false] at hfollows
      exact hfollows
    subst hstate
    obtain ⟨i, n, cause', hn, hviolation, heq⟩ := exists_violation_of_validate hr
    cases heq
    obtain ⟨key, kind, count, hblock, hkind, hcause⟩ := (hguarded i).violation hn hviolation
    refine ⟨key, kind, count, hblock, hkind, ?_⟩
    rcases hcause with ⟨hentry, rfl⟩ | ⟨hexit, rfl⟩
    · exact Or.inl ⟨hentry, rfl⟩
    · exact Or.inr ⟨hexit, rfl⟩
  · rcases bind_eq_error_iff.1 hr with hr | ⟨_, s₅, -, hr⟩
    · cases hr
    · cases hr

theorem beforeValidate_of_readLog {f : TraceFile} {units : UnitTable} {e : LoadError}
    (h : f.readLog units = .error e) : e.BeforeValidate := by
  intro name cause heq
  subst heq
  rw [TraceFile.readLog, TraceFile.open] at h
  cases hf : f.contents with
  | ok bs =>
    rw [hf] at h
    dsimp only [bind, Except.bind] at h
    split at h
    · cases h
    · cases h
  | error e =>
    rw [hf] at h
    dsimp only at h
    split at h
    · cases h
    · cases h

/-- An error of the check is an error of the stages. -/
theorem exists_stages_of_load {config : ClusterConfig}
    (h : (t.load config).result = .error (.graph .validate name cause)) :
    ∃ r s', t.stages r { clusters := config.emptyClusters } =
      .error (.graph .validate name cause) s' := by
  rw [load] at h
  cases hlog : t.moduleLog.readLog .initial with
  | error e =>
    rw [hlog] at h
    cases h
    exact absurd rfl (beforeValidate_of_readLog hlog name cause)
  | ok log =>
    obtain ⟨modules, units⟩ := log
    rw [hlog] at h
    dsimp only at h
    cases hr : t.stages (.ofConfig config units modules) { clusters := config.emptyClusters } with
    | ok u s =>
      rw [hr] at h
      cases h
    | error e s =>
      rw [hr] at h
      cases h
      exact ⟨_, s, hr⟩

/-- **The nodes that a load makes on its own keep to the rule on entries and exits.**  Every load
goes by single steps, and after each of them the nodes that no record describes are shielded.  So
when the check of entries and exits fails, it names a block, and it does not fail at all when no
block record claims the kind of an entry or exit. -/
theorem shielded_of_load (config : ClusterConfig) (t : TraceFiles) :
    (∀ modules units, t.moduleLog.readLog .initial = .ok (modules, units) →
      let r := Routing.ofConfig config units modules
      let blocks := t.blockStream.delivered NodeRecord
      let steps := ReflTransGen (r.Step blocks (t.crossModuleStream.delivered CrossRecord))
        config.emptyClusters
      steps (t.stages r { clusters := config.emptyClusters }).state.clusters ∧
        ∀ cs, steps cs → ∀ i, (cs.get i).Shielded (r.FirstKey blocks i)) ∧
    (∀ name cause, (t.load config).result = .error (.graph .validate name cause) →
      ∃ key kind count, key.isBlock ∧
        (cause = .graph (.entryHasIncoming key kind count) ∨
          cause = .graph (.exitHasOutgoing key kind count))) ∧
    ((∀ q ∈ t.blockStream.delivered NodeRecord,
        q.2.kind.isEntry = false ∧ q.2.kind.isExit = false) →
      ∀ name cause, (t.load config).result ≠ .error (.graph .validate name cause)) := by
  have hempty := get_emptyClusters config
  refine ⟨fun modules units _ => ⟨?_, fun cs hsteps i => ?_⟩, ?_, ?_⟩
  · exact follows_stages (s := { clusters := config.emptyClusters }) hempty
  · exact (guarded_of_steps hsteps hempty i).shielded fun _ _ => FirstKey.eq
  · intro name cause h
    obtain ⟨r, s', hr⟩ := exists_stages_of_load h
    obtain ⟨key, kind, count, hblock, -, hcause⟩ := exists_block_of_stages hempty hr
    exact ⟨key, kind, count, hblock, hcause.imp And.right And.right⟩
  · intro hkinds name cause h
    obtain ⟨r, s', hr⟩ := exists_stages_of_load h
    obtain ⟨key, kind, count, -, ⟨q, hq, rfl⟩, hcause⟩ := exists_block_of_stages hempty hr
    obtain ⟨hentry, hexit⟩ := hkinds q hq
    rcases hcause with ⟨hkind, -⟩ | ⟨hkind, -⟩
    · rw [hentry] at hkind
      cases hkind
    · rw [hexit] at hkind
      cases hkind

/-! ### A trace that fails the check -/

/-- A trace of one block that claims to be the entry of the process, and jumps to itself. -/
def loopingEntry : TraceFiles :=
  { oneBlock with
    blockStream := ⟨"blocks", .ok (Record.toBytes [NodeRecord.new 16 0 .processEntry 5])⟩
    edgeStream := ⟨"edges", .ok (Record.toBytes [(⟨⟨16, 0⟩, ⟨16, 0⟩, .direct, 0⟩ : EdgeRecord)])⟩ }

theorem holds_loopingEntry :
    loopingEntry.blockStream.Holds [(0, NodeRecord.new 16 0 .processEntry 5)] ∧
      loopingEntry.edgeStream.Holds [(0, (⟨⟨16, 0⟩, ⟨16, 0⟩, .direct, 0⟩ : EdgeRecord))] := by
  have hblock : (⟨[.bytes (Record.toBytes [NodeRecord.new 16 0 .processEntry 5])], 0, false⟩ :
      RecordReader NodeRecord).next? = (some (.ok (0, NodeRecord.new 16 0 .processEntry 5)),
        ⟨[.bytes []], 1, false⟩) := by rfl
  have hedge : (⟨[.bytes (Record.toBytes [(⟨⟨16, 0⟩, ⟨16, 0⟩, .direct, 0⟩ : EdgeRecord)])], 0,
      false⟩ : RecordReader EdgeRecord).next? =
        (some (.ok (0, ⟨⟨16, 0⟩, ⟨16, 0⟩, .direct, 0⟩)), ⟨[.bytes []], 1, false⟩) := by rfl
  constructor
  · refine ⟨_, rfl, ?_⟩
    rw [Record.ofBytes, RecordReader.readAll_of_record hblock, RecordReader.readAll_of_end rfl]
    rfl
  · refine ⟨_, rfl, ?_⟩
    rw [Record.ofBytes, RecordReader.readAll_of_record hedge, RecordReader.readAll_of_end rfl]
    rfl

theorem stages_loopingEntry : ∃ s, loopingEntry.stages ⟨{}, #[⟨1⟩], ⟨0⟩⟩
    { clusters := (ClusterConfig.empty "main").emptyClusters } = .error (.graph .validate "dynamic"
      (.graph (.entryHasIncoming (.block .unknown 16 0) .processEntry 1))) s := by
  have hcrosses : loopingEntry.crossModuleStream.Holds ([] : List (Nat × CrossRecord)) :=
    ⟨[], rfl, by rw [Record.ofBytes, RecordReader.readAll_of_end rfl]; rfl⟩
  have hclusters : (ClusterConfig.empty "main").emptyClusters =
      #[.empty ⟨0⟩ "main", .empty ⟨1⟩ "dynamic"] := by rfl
  have hlocate : AddressMap.locate {} (NodeRecord.new 16 0 .processEntry 5).tag .block 0 =
    (.unknown, 16) := by rfl
  have hlocate' : AddressMap.locate {} 16 .edge 0 = (.unknown, 16) := by rfl
  rw [stages, TraceFile.forEach_of_holds holds_loopingEntry.1,
    TraceFile.forEach_of_holds holds_loopingEntry.2, TraceFile.forEach_of_holds hcrosses, hclusters]
  simp only [List.forM, loadNode, loadEdge, hlocate, resolve, Routing.fate, Routing.find?, hlocate']
  simp [count, Routing.cluster, UnitId.unknown, place, onClusters, Clusters.onNode, Clusters.on,
    Clusters.get, Cluster.addNode, Cluster.addBlock, Cluster.empty, Graph.addNode, Graph.find?,
    announceNode, announce, addRoot, Cluster.addRoot, Node.processRoot, NodeRecord.new,
    NodeKind.isEntry, get_eq_ok, modify_eq_ok, bind, EStateM.bind, pure, EStateM.pure,
    EdgeRecord.isSkipped, EdgeRecord.skipOrdinal, Std.HashMap.getElem_insert]
  apply Result.exists_error_of_decide
  decide +kernel

/-- The looping entry is named by the check, and its cluster is shielded all the same.  An ordinary
block by itself passes the check. -/
theorem shielded_loopingEntry :
    let main := ClusterConfig.empty "main"
    let r := Routing.ofConfig main .initial {}
    (∃ name cause, (loopingEntry.load main).result = .error (.graph .validate name cause) ∧
      ∃ key kind count, key.isBlock ∧ (cause = .graph (.entryHasIncoming key kind count) ∨
        cause = .graph (.exitHasOutgoing key kind count))) ∧
    ((loopingEntry.stages r { clusters := main.emptyClusters }).state.clusters.get ⟨1⟩).Shielded
      (r.FirstKey (loopingEntry.blockStream.delivered NodeRecord) ⟨1⟩) ∧
    ∀ name cause, (oneBlock.load main).result ≠ .error (.graph .validate name cause) := by
  intro main r
  obtain ⟨s, hs⟩ := stages_loopingEntry
  have hload : (loopingEntry.load main).result = .error (.graph .validate "dynamic"
      (.graph (.entryHasIncoming (.block .unknown 16 0) .processEntry 1))) := by
    rw [load, show loopingEntry.moduleLog = oneBlock.moduleLog from rfl, readLog_oneBlock]
    dsimp only
    rw [ofConfig_oneBlock, hs]
  obtain ⟨hpoints, hnames, -⟩ := shielded_of_load main loopingEntry
  obtain ⟨hsteps, hshielded⟩ := hpoints {} .initial readLog_oneBlock
  refine ⟨⟨_, _, hload, hnames _ _ hload⟩, hshielded _ hsteps ⟨1⟩, ?_⟩
  refine (shielded_of_load main oneBlock).2.2 fun q hq => ?_
  rw [holds_oneBlock.delivered_eq, List.mem_singleton] at hq
  rw [hq]
  exact ⟨rfl, rfl⟩

end TraceFiles
end FlowAtlas
