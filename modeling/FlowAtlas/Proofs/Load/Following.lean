import FlowAtlas.Proofs.Load.Requests

/-!
# Every load goes by requests

The clusters change in a load by the requests that `Routing.Requests` lists and in no other way.
`follows_loadNode_rooted`, `follows_loadEdge` and `follows_loadCross` say so of a single record, and
`follows_stages` of all stages of a load: whether it succeeds or fails, and wherever it fails, its
clusters have come of the empty ones by the steps of `Routing.Step`.

What a block record does once there is a root is `exists_loadNode_of_rooted`, and the root itself is
`Clusters.withRoot`.
-/

set_option autoImplicit false

namespace FlowAtlas

open EStateM Relation

/-- The clusters with the process root beside the first block.  The root leads to the block unless
the block is an entry. -/
def Clusters.withRoot (cs : Clusters) (first : ClusterNode) (kind : NodeKind) : Clusters :=
  let owner := ((cs.get first.cluster).graph.node first.node).unit
  let rooted := cs.ask first.cluster (.root owner)
  if kind.isEntry then rooted
  else rooted.ask first.cluster
    (.edge ((cs.get first.cluster).addRoot owner).1.1 first.node .moduleEntry 0)

/-- What holds with the root is to be kept by the edge from it, which is asked for properly. -/
theorem Clusters.withRoot_induction {cs : Clusters} {first : ClusterNode} {kind : NodeKind}
    {p : Clusters → Prop} (h : cs.Coherent)
    (hfirst : (cs.get first.cluster).graph.hasNode first.node)
    (hroot : p (cs.ask first.cluster (.root ((cs.get first.cluster).graph.node first.node).unit)))
    (hedge : ∀ cs' root, p cs' →
      (Cluster.Request.edge root first.node .moduleEntry 0).Proper (cs'.get first.cluster) →
      p (cs'.ask first.cluster (.edge root first.node .moduleEntry 0))) :
    p (cs.withRoot first kind) := by
  rw [withRoot]
  split
  · exact hroot
  · refine hedge _ _ hroot ?_
    have hs := Cluster.nodeStep_addRoot (cs.get first.cluster)
      ((cs.get first.cluster).graph.node first.node).unit
    rw [get_ask_self (index_lt_of_hasNode hfirst)]
    exact ⟨hs.hasNode (h _), hs.extends_.graph.hasNode _ hfirst⟩

namespace Loading

open Routing

variable {ε α : Type} {r : Routing} {blocks : List (Nat × NodeRecord)}
  {crosses : List (Nat × CrossRecord)} {s s' : LoadState} {u : Unit} {i : ClusterId}
  {source target : NodeId} {kind : EdgeKind} {ordinal : UInt8} {stage : LoadStage}
  {first x y : ClusterNode} {q : Nat × NodeRecord}

/-! ## Single steps -/

theorem exists_announceNode (c : ClusterId) (placed : NodeId × Bool) (s : LoadState) :
    ∃ s', announceNode c placed s = .ok () s' ∧ Keeps s s' := by
  rw [announceNode]
  split
  · exact ⟨_, rfl, rfl, rfl⟩
  · exact ⟨s, rfl, Keeps.refl s⟩

theorem exists_announceEdge (c : ClusterId) (outcome : EdgeOutcome) (s : LoadState) :
    ∃ s', announceEdge c outcome s = .ok () s' ∧ Keeps s s' := by
  rw [announceEdge]
  split
  · exact ⟨_, rfl, rfl, rfl⟩
  · exact ⟨s, rfl, Keeps.refl s⟩

theorem state_onClusters {asError : Clusters → ε → LoadError} {step : EStateM ε Clusters α} :
    (onClusters asError step s).state.clusters = (step s.clusters).state ∧
      (onClusters asError step s).state.root = s.root := by
  rw [onClusters]
  cases step s.clusters with
  | ok a cs => exact ⟨rfl, rfl⟩
  | error cause cs => exact ⟨rfl, rfl⟩

/-- Placing a node never fails. -/
theorem exists_place (step : Cluster → (NodeId × Bool) × Cluster) :
    ∃ s', place i step s = .ok (step (s.clusters.get i)).1.1 s' ∧
      s'.clusters = s.clusters.setIfInBounds i.index (step (s.clusters.get i)).2 ∧
      s'.root = s.root := by
  have hon : onClusters (fun _ (e : LoadError) => e) (Clusters.onNode i step) s =
      .ok (step (s.clusters.get i)).1
        { s with clusters := s.clusters.setIfInBounds i.index (step (s.clusters.get i)).2 } := by
    rw [onClusters]
    dsimp only
    rw [Clusters.onNode_eq]
  obtain ⟨s', hannounce, hkeep⟩ := exists_announceNode i (step (s.clusters.get i)).1
    { s with clusters := s.clusters.setIfInBounds i.index (step (s.clusters.get i)).2 }
  refine ⟨s', ?_, hkeep.clusters, hkeep.root⟩
  rw [place, bind_of_ok hon, bind_of_ok hannounce]
  rfl

theorem state_join {isKnownNew : Bool} :
    (join stage i source target kind ordinal isKnownNew s).state.clusters =
        s.clusters.ask i (.edge source target kind ordinal) ∧
      (join stage i source target kind ordinal isKnownNew s).state.root = s.root := by
  have hannounce : ∀ outcome s₁, (announceEdge i outcome s₁).state.clusters = s₁.clusters ∧
      (announceEdge i outcome s₁).state.root = s₁.root := by
    intro outcome s₁
    obtain ⟨s₂, hr, hkeep⟩ := exists_announceEdge i outcome s₁
    rw [hr]
    exact ⟨hkeep.clusters, hkeep.root⟩
  rw [join, state_bind_eq LoadState.clusters fun a s₁ => (hannounce _ s₁).1,
    state_bind_eq LoadState.root fun a s₁ => (hannounce _ s₁).2]
  refine ⟨state_onClusters.1.trans Clusters.state_on_addEdge, state_onClusters.2⟩

/-! ## Block records -/

theorem state_addRoot (first : ClusterNode) (kind : NodeKind) (s : LoadState) :
    (addRoot first kind s).state.clusters = s.clusters.withRoot first kind := by
  obtain ⟨s₁, hplace, hclusters, -⟩ := exists_place (i := first.cluster) (s := s)
    (·.addRoot ((s.clusters.get first.cluster).graph.node first.node).unit)
  rw [addRoot, bind_of_ok (get_eq_ok s), bind_of_ok hplace, Clusters.withRoot]
  cases hkind : kind.isEntry with
  | true => exact hclusters
  | false =>
    refine (state_bind_eq LoadState.clusters fun _ _ => rfl).trans ?_
    rw [state_join.1, hclusters]
    rfl

theorem root_of_addRoot {kind : NodeKind} (hr : addRoot first kind s = .ok u s') :
    s'.root ≠ none := by
  obtain ⟨_, _, -, hr⟩ := bind_eq_ok_iff.1 hr
  obtain ⟨root, _, -, hr⟩ := bind_eq_ok_iff.1 hr
  cases hkind : kind.isEntry with
  | true =>
    rw [hkind] at hr
    cases hr
    exact nofun
  | false =>
    rw [hkind] at hr
    obtain ⟨_, _, -, hr⟩ := bind_eq_ok_iff.1 hr
    cases hr
    exact nofun

/-- A block record brings its node, and goes on to make the root beside it if there is none. -/
theorem loadNode_eq (r : Routing) (q : Nat × NodeRecord) (s : LoadState) :
    ∃ s₁, s₁.clusters = s.clusters.ask (r.home q) (.node (r.nodeOf q)) ∧ s₁.root = s.root ∧
      loadNode r q.1 q.2 s =
        (if s.root.isNone then addRoot
          ⟨r.home q, ((s.clusters.get (r.home q)).addNode (r.nodeOf q)).1.1⟩ q.2.kind
        else pure ()) s₁ := by
  obtain ⟨s₀, hkeep, hr⟩ : ∃ s₀, Keeps s s₀ ∧ loadNode r q.1 q.2 s =
      (place (r.home q) (·.addNode (r.nodeOf q)) >>= fun node => do
        if (← get).root.isNone then addRoot ⟨r.home q, node⟩ q.2.kind) s₀ :=
    ⟨{ s with stats := { s.stats with nodeRecords := s.stats.nodeRecords + 1 } }, ⟨rfl, rfl⟩, rfl⟩
  obtain ⟨s₁, hplace, hclusters, hroot⟩ := exists_place (i := r.home q) (s := s₀)
    (·.addNode (r.nodeOf q))
  rw [hkeep.clusters] at hplace hclusters
  rw [hkeep.root] at hroot
  refine ⟨s₁, hclusters, hroot, ?_⟩
  rw [hr, bind_of_ok hplace, bind_of_ok (get_eq_ok s₁), hroot]

/-- Once there is a root, a block record brings its node and nothing else. -/
theorem exists_loadNode_of_rooted (hroot : s.root ≠ none) :
    ∃ s', loadNode r q.1 q.2 s = .ok () s' ∧
      s'.clusters = s.clusters.ask (r.home q) (.node (r.nodeOf q)) ∧ s'.root = s.root := by
  obtain ⟨s₁, hclusters, hroot₁, hr⟩ := loadNode_eq r q s
  rw [if_neg fun hnone => hroot (Option.isNone_iff_eq_none.1 hnone)] at hr
  exact ⟨s₁, hr, hclusters, hroot₁⟩

theorem steps_withRoot {cs : Clusters} {n : NodeId} {kind : NodeKind}
    (hq : blocks.head? = some q) (hn : (r.home q).index < cs.size →
      (cs.get (r.home q)).graph.find? (r.nodeOf q).key = some n) :
    ReflTransGen (r.Step blocks crosses) cs (cs.withRoot ⟨r.home q, n⟩ kind) := by
  have hroot : ReflTransGen (r.Step blocks crosses) cs
      (cs.ask (r.home q) (.root ((cs.get (r.home q)).graph.node n).unit)) :=
    .single (.ask (.root hq))
  rw [Clusters.withRoot]
  cases kind.isEntry with
  | true => exact hroot
  | false =>
    by_cases hi : (r.home q).index < cs.size
    · refine hroot.tail (.ask (.rootEdge hq ?_ ?_))
      · rw [Clusters.get_ask_self hi]
        exact Cluster.root_addRoot _ _
      · rw [Clusters.get_ask_self hi]
        have hs := Cluster.nodeStep_addRoot (cs.get (r.home q))
          ((cs.get (r.home q)).graph.node n).unit
        exact (hs.find?_eq_of_ne fun hkey => by cases hkey).trans (hn hi)
    · -- a cluster that is not in use stays as it is
      rw [if_neg Bool.false_ne_true, Clusters.ask_of_size_le]
      · exact hroot
      · rw [Clusters.size_ask]
        exact Nat.le_of_not_lt hi

theorem follows_loadNode_first (hempty : ∀ i, ∃ id name, s.clusters.get i = .empty id name)
    (hroot : s.root = none) (hq : blocks.head? = some q) :
    Follows (r.Step blocks crosses) LoadState.clusters (loadNode r q.1 q.2) s := by
  obtain ⟨s₁, hclusters, -, hr⟩ := loadNode_eq r q s
  rw [if_pos (Option.isNone_iff_eq_none.2 hroot)] at hr
  rw [Follows, hr, state_addRoot, hclusters]
  refine .head (.ask (.block (List.mem_of_head? hq))) (steps_withRoot hq fun hi => ?_)
  rw [Clusters.size_ask] at hi
  rw [Clusters.get_ask_self hi]
  obtain ⟨id, name, hget⟩ := hempty (r.home q)
  have hs := Cluster.nodeStep_addNode (s.clusters.get (r.home q)) (r.nodeOf q)
  rw [hget] at hs ⊢
  exact hs.find?_of_empty fun hkey => by cases hkey

theorem follows_loadNode_rooted (hroot : s.root ≠ none) (hq : q ∈ blocks) :
    Follows (r.Step blocks crosses) LoadState.clusters (loadNode r q.1 q.2) s := by
  obtain ⟨s', hr, hclusters, -⟩ := exists_loadNode_of_rooted (r := r) (q := q) hroot
  refine Follows.single ?_
  rw [hr, Result.state_ok, hclusters]
  exact .ask (.block hq)

/-- Whoever has taken in a block record has a root. -/
theorem root_of_loadNode (hr : loadNode r q.1 q.2 s = .ok u s') : s'.root ≠ none := by
  obtain ⟨s₁, -, hroot₁, heq⟩ := loadNode_eq r q s
  rw [heq] at hr
  cases hroot : s.root with
  | none =>
    rw [hroot] at hr
    exact root_of_addRoot hr
  | some root =>
    rw [hroot] at hr
    cases hr
    rw [hroot₁, hroot]
    exact nofun

/-! ## Edge records -/

theorem follows_resolve {e : EdgeRecord} {stream : StreamKind} {position : Nat}
    {found : ClusterNode → ClusterNode → Loading Unit} (h : s.clusters.Coherent)
    (hfound : ∀ x y s₁, Keeps s s₁ → e.isSkipped = false →
      r.Resolves s.clusters stream position e.source x →
      r.Resolves s.clusters stream position e.target y →
      Follows (r.Step blocks crosses) LoadState.clusters (found x y) s₁) :
    Follows (r.Step blocks crosses) LoadState.clusters (resolve r e stream position found) s := by
  refine Follows.bind (Follows.of_eq rfl) fun _ _ hget => ?_
  cases hget
  cases hfate : r.fate s.clusters e stream position with
  | mk fate alternates =>
    refine Follows.bind (Follows.of_eq rfl) fun _ s₁ hcount => ?_
    have hkeep := keeps_count hcount
    cases fate with
    | resolved x y =>
      have hends := (fate_eq_resolved_iff (x := x) (y := y) h).1 (congrArg Prod.fst hfate)
      exact hfound x y s₁ hkeep hends.1 hends.2.1 hends.2.2
    | skipped | discarded | unresolved => exact Follows.of_eq rfl

theorem follows_join {k : EdgeKind} {o : UInt8} {isKnownNew : Bool} (hx : s.clusters.HasBlock x)
    (hy : s.clusters.HasBlock y) (hxy : x.cluster = y.cluster) :
    Follows (r.Step blocks crosses) LoadState.clusters
      (join stage x.cluster x.node y.node k o isKnownNew) s := by
  refine Follows.single ?_
  rw [state_join.1]
  exact .ask (.edge hx hy hxy)

/-- **An edge record makes requests that it calls for.** -/
theorem follows_loadEdge {q : Nat × EdgeRecord} (h : s.clusters.Coherent) :
    Follows (r.Step blocks crosses) LoadState.clusters (loadEdge r q.1 q.2) s := by
  refine Follows.bind (Follows.of_eq rfl) fun _ s₁ hcount => ?_
  have hk := keeps_count hcount
  have h₁ : s₁.clusters.Coherent := hk.clusters ▸ h
  refine follows_resolve h₁ fun x y s₂ hk₂ _ hx hy => ?_
  split
  · rename_i hxy
    rw [← hk₂.clusters] at hx hy
    exact follows_join hx.hasBlock hy.hasBlock hxy
  · exact Follows.of_eq rfl

theorem follows_cross {q : Nat × CrossRecord} {t : Transfer} (h : s.clusters.Coherent)
    (hq : q ∈ crosses) (hcross : r.Crosses s.clusters q.1 q.2 x y)
    (hsignature : t.signature = q.2.signatureHash) (hcallback : t.isCallback = q.2.isCallback) :
    Follows (r.Step blocks crosses) LoadState.clusters (cross x y t) s := by
  have hnode : ∀ c placed s, Follows (r.Step blocks crosses) LoadState.clusters
      (announceNode c placed) s := fun c placed s => by
    obtain ⟨s', hr, hkeep⟩ := exists_announceNode c placed s
    exact Follows.of_eq (by rw [hr, Result.state_ok, hkeep.clusters])
  have hedge : ∀ c outcome s, Follows (r.Step blocks crosses) LoadState.clusters
      (announceEdge c outcome) s := fun c outcome s => by
    obtain ⟨s', hr, hkeep⟩ := exists_announceEdge c outcome s
    exact Follows.of_eq (by rw [hr, Result.state_ok, hkeep.clusters])
  refine Follows.bind ?_ fun crossing _ _ => ?_
  · rw [Follows, state_onClusters.1]
    exact Crossing.follows_split h hq hcross hsignature hcallback
  · -- what comes after the split only counts and announces
    refine Follows.bind (Follows.of_eq rfl) fun _ _ _ => ?_
    refine Follows.bind (hnode _ _ _) fun _ _ _ => Follows.bind (hedge _ _ _) fun _ _ _ => ?_
    exact Follows.bind (hnode _ _ _) fun _ _ _ => hedge _ _ _

/-- **A cross-module record makes requests that it calls for.** -/
theorem follows_loadCross {q : Nat × CrossRecord} (h : s.clusters.Coherent) (hq : q ∈ crosses) :
    Follows (r.Step blocks crosses) LoadState.clusters (loadCross r q.1 q.2) s := by
  refine Follows.bind (Follows.of_eq rfl) fun _ s₁ hcount => ?_
  have hk := keeps_count hcount
  have h₁ : s₁.clusters.Coherent := hk.clusters ▸ h
  refine follows_resolve h₁ fun x y s₂ hk₂ hskip hx hy => ?_
  rw [← hk₂.clusters] at hx hy
  split
  · rename_i hxy
    exact follows_join hx.hasBlock hy.hasBlock hxy
  · rename_i hxy
    exact follows_cross (hk₂.clusters ▸ h₁) hq ⟨hskip, hx, hy, hxy⟩ rfl rfl

/-! ## The last stages -/

/-- The check changes nothing. -/
theorem follows_validate {τ : Type} {R : τ → τ → Prop} {view : LoadState → τ} :
    Follows R view validate s := by
  refine Follows.bind (Follows.of_eq rfl) fun cs s₁ _ => ?_
  refine Follows.forM (p := fun _ _ => True) (fun _ c _ s₂ _ _ =>
    ⟨Follows.of_eq ?_, fun _ _ => trivial⟩) trivial
  cases c.validate with
  | ok v => rfl
  | error cause => rfl

theorem follows_search : Follows (r.Step blocks crosses) LoadState.clusters search s :=
  Follows.single (.mark (Array.size_map ..) (get_searched s.clusters))

end Loading

/-! ## The records of a file -/

namespace TraceFile

variable {α τ : Type} [Record α] {f : TraceFile} {stage : LoadStage}
  {step : Nat → α → Loading Unit} {s : LoadState}

/-- The records that a file gives until it ends or fails. -/
def delivered (α : Type) [Record α] (f : TraceFile) : List (Nat × α) :=
  match f.contents with
  | .ok bs => (Record.ofBytes α bs).filterMap Except.toOption
  | .error _ => []

theorem Holds.delivered_eq {records : List (Nat × α)} (h : f.Holds records) :
    f.delivered α = records := by
  obtain ⟨bs, hbs, hrecords⟩ := h
  rw [delivered, hbs]
  dsimp only
  rw [hrecords, List.filterMap_map]
  exact List.filterMap_some

/-- A stage over a file is over at once, or takes in what the file gives item by item. -/
theorem forEach_cases (f : TraceFile) (stage : LoadStage) (step : Nat → α → Loading Unit) :
    (∃ cause, f.forEach stage step = throw (.io stage f.path cause)) ∨
      ∃ items : List (Except TraceError (Nat × α)),
        items.filterMap Except.toOption = f.delivered α ∧
          f.forEach stage step = items.forM fun
            | .ok (position, record) => step position record
            | .error cause => throw (.trace cause) := by
  rw [forEach, delivered, «open»]
  cases f.contents with
  | ok bs => exact Or.inr ⟨_, rfl, rfl⟩
  | error e =>
    dsimp only
    cases failsLate e with
    | true =>
      -- the source fails at once, and gives an error and nothing else
      have hread : ∃ cause, (⟨[.failed e.message], 0, false⟩ : RecordReader α).readAll.1 =
          [.error cause] := ⟨_, congrArg Prod.fst (RecordReader.readAll_of_error rfl)⟩
      obtain ⟨cause, hread⟩ := hread
      exact Or.inr ⟨_, congrArg (List.filterMap Except.toOption) hread, rfl⟩
    | false => exact Or.inl ⟨e, rfl⟩

/-- A stage over a file goes along a relation when each of its records does. -/
theorem follows_forEach {R : τ → τ → Prop} {view : LoadState → τ}
    {p : List (Nat × α) → LoadState → Prop}
    (hstep : ∀ done q rest s, f.delivered α = done ++ q :: rest → p done s →
      Follows R view (step q.1 q.2) s ∧ ∀ s', step q.1 q.2 s = .ok () s' → p (done ++ [q]) s')
    (hnil : p [] s) : Follows R view (f.forEach stage step) s := by
  rcases forEach_cases f stage step with ⟨cause, hthrow⟩ | ⟨items, hitems, hrun⟩
  · rw [hthrow]
    exact Follows.of_eq rfl
  · rw [hrun]
    refine Follows.forM (p := fun done => p (done.filterMap Except.toOption)) ?_ hnil
    intro done item rest s hsplit hp
    cases item with
    | error cause => exact ⟨Follows.of_eq rfl, fun s' hr => by cases hr⟩
    | ok q =>
      rw [hsplit, List.filterMap_append] at hitems
      obtain ⟨hfollows, hkeeps⟩ := hstep _ q (rest.filterMap Except.toOption) s hitems.symm hp
      refine ⟨hfollows, fun s' hr => ?_⟩
      rw [List.filterMap_append]
      exact hkeeps s' hr

end TraceFile

/-! ## All stages -/

namespace TraceFiles

open Loading Routing

variable {t : TraceFiles} {r : Routing} {s : LoadState} {blocks : List (Nat × NodeRecord)}
  {crosses : List (Nat × CrossRecord)}

theorem coherent_of_follows {x : Loading Unit} {s' : LoadState}
    (hx : Follows (r.Step blocks crosses) LoadState.clusters x s) (h : s.clusters.Coherent)
    (hr : x s = .ok () s') : s'.clusters.Coherent := by
  have hs := preserved_of_reflTransGen (p := Clusters.Coherent) hx (fun _ _ hs => hs.coherent) h
  rw [hr] at hs
  exact hs

/-- Records one after another make requests that they call for, given that each of them does. -/
theorem follows_forM_of_coherent {α : Type} {records : List (Nat × α)}
    {step : Nat → α → Loading Unit} (h : s.clusters.Coherent)
    (hstep : ∀ q ∈ records, ∀ s, s.clusters.Coherent →
      Follows (r.Step blocks crosses) LoadState.clusters (step q.1 q.2) s) :
    Follows (r.Step blocks crosses) LoadState.clusters (records.forM fun q => step q.1 q.2) s := by
  refine Follows.forM (p := fun _ s => s.clusters.Coherent) ?_ h
  intro done q rest s hsplit hs
  have hq : q ∈ records := by
    rw [hsplit]
    exact List.mem_append_right _ List.mem_cons_self
  exact ⟨hstep q hq s hs, fun s' hr => coherent_of_follows (hstep q hq s hs) hs hr⟩

/-- A stage makes requests that its records call for, given that each record does. -/
theorem follows_forEach_of_coherent {α : Type} [Record α] {f : TraceFile} {stage : LoadStage}
    {step : Nat → α → Loading Unit} (h : s.clusters.Coherent)
    (hstep : ∀ q ∈ f.delivered α, ∀ s, s.clusters.Coherent →
      Follows (r.Step blocks crosses) LoadState.clusters (step q.1 q.2) s) :
    Follows (r.Step blocks crosses) LoadState.clusters (f.forEach stage step) s := by
  refine TraceFile.follows_forEach (p := fun _ s => s.clusters.Coherent) ?_ h
  intro done q rest s hsplit hs
  have hq : q ∈ f.delivered α := by
    rw [hsplit]
    exact List.mem_append_right _ List.mem_cons_self
  exact ⟨hstep q hq s hs, fun s' hr => coherent_of_follows (hstep q hq s hs) hs hr⟩

/-- A load that succeeds has gone through all its stages. -/
theorem stages_of_load {config : ClusterConfig} {g : ProcessGraph}
    (h : (t.load config).result = .ok g) :
    t.moduleLog.readLog .initial = .ok (g.modules, g.units) ∧
      ∃ s, t.stages (.ofConfig config g.units g.modules) { clusters := config.emptyClusters } =
        .ok () s ∧ g.clusters = s.clusters ∧ g.root = s.root := by
  rw [load] at h
  cases hlog : t.moduleLog.readLog .initial with
  | error cause =>
    rw [hlog] at h
    cases h
  | ok log =>
    obtain ⟨modules, units⟩ := log
    rw [hlog] at h
    dsimp only at h
    cases hr : t.stages (.ofConfig config units modules) { clusters := config.emptyClusters } with
    | error cause s =>
      rw [hr] at h
      cases h
    | ok u s =>
      rw [hr] at h
      cases h
      exact ⟨rfl, s, hr, rfl, rfl⟩

/-- The stages after the blocks go by requests. -/
theorem follows_laterStages (blocks : List (Nat × NodeRecord)) (h : s.clusters.Coherent) :
    Follows (r.Step blocks (t.crossModuleStream.delivered CrossRecord)) LoadState.clusters (do
      t.edgeStream.forEach .edges (loadEdge r)
      t.crossModuleStream.forEach .crossModuleEdges (loadCross r)
      validate
      search
      announce .graphLoaded) s := by
  have hedges : Follows (r.Step blocks (t.crossModuleStream.delivered CrossRecord))
      LoadState.clusters (t.edgeStream.forEach .edges (loadEdge r)) s :=
    follows_forEach_of_coherent h fun q _ s hs => follows_loadEdge hs
  refine Follows.bind hedges fun _ s₁ hr => ?_
  have h₁ := coherent_of_follows hedges h hr
  refine Follows.bind (follows_forEach_of_coherent h₁ fun q hq s hs => follows_loadCross hs hq)
    fun _ s₂ _ => ?_
  exact Follows.bind follows_validate fun _ s₃ _ => Follows.bind follows_search fun _ s₄ _ =>
    Follows.of_eq rfl

section

variable (hempty : ∀ i, ∃ id name, s.clusters.get i = .empty id name)

include hempty

theorem follows_blocks : Follows (r.Step (t.blockStream.delivered NodeRecord) crosses)
    LoadState.clusters (t.blockStream.forEach .nodes (loadNode r)) s := by
  refine TraceFile.follows_forEach (p := fun done s => s.root = none →
    done = [] ∧ ∀ i, ∃ id name, s.clusters.get i = .empty id name) ?_ fun _ => ⟨rfl, hempty⟩
  intro done q rest s hsplit hs
  refine ⟨?_, fun s' hr hnone => absurd hnone (root_of_loadNode hr)⟩
  by_cases hnone : s.root = none
  · obtain ⟨rfl, hempty⟩ := hs hnone
    exact follows_loadNode_first hempty hnone (by rw [hsplit]; rfl)
  · refine follows_loadNode_rooted hnone ?_
    rw [hsplit]
    exact List.mem_append_right _ List.mem_cons_self

/-- **Every load goes by requests**, as far as it goes. -/
theorem follows_stages : Follows (r.Step (t.blockStream.delivered NodeRecord)
    (t.crossModuleStream.delivered CrossRecord)) LoadState.clusters (t.stages r) s := by
  have h : s.clusters.Coherent := fun i => by
    obtain ⟨id, name, hi⟩ := hempty i
    exact hi ▸ Cluster.coherent_empty id name
  have hblocks : Follows (r.Step (t.blockStream.delivered NodeRecord)
      (t.crossModuleStream.delivered CrossRecord)) LoadState.clusters
      (t.blockStream.forEach .nodes (loadNode r)) s := follows_blocks hempty
  exact Follows.bind hblocks fun _ s₁ hr =>
    follows_laterStages _ (coherent_of_follows hblocks h hr)

end

end TraceFiles
end FlowAtlas
