import FlowAtlas.Proofs.Load.Following

/-!
# Block records are all taken in

Block records contradict nothing, so the stage over them succeeds whenever its file can be read.
The first record brings its node and the process root, every other one its node
(`exists_loadNode_first`, `exists_loadNode_of_rooted`).  `exists_ok_loadNodes` is the rule by which
something is proved about the clusters after the stage: it holds before, and each record keeps it.
-/

set_option autoImplicit false

namespace FlowAtlas

open EStateM

/-! ## The first record -/

/-- Where there are no edges, the first one is granted. -/
theorem Graph.exists_addEdge_of_edgeless {g : Graph} (h : g.Coherent) (hno : ∀ e, g.edge? e = none)
    (s t : NodeId) (k : EdgeKind) (o : UInt8) :
    ∃ outcome g', Graph.addEdge s t k o g = .ok outcome g' := by
  have hstep := edgeStep_addEdge h s t k o
  cases hr : Graph.addEdge s t k o g with
  | ok outcome g' => exact ⟨outcome, g', rfl⟩
  | error cause g' =>
    rw [hr] at hstep
    cases hstep with
    | refused _ hacc =>
      refine absurd (fun e z hz => ?_) hacc
      cases (hno e).symm.trans hz.1
    | notUpgraded hz => cases (hno _).symm.trans hz
    | multiple hz => cases (hno _).symm.trans hz

namespace Cluster

/-- The first node of a cluster is new, whatever its kind. -/
theorem addNode_empty (id : ClusterId) (name : String) (x : Node) (hkey : x.key ≠ .processRoot) :
    ∃ c, (empty id name).addNode x = ((⟨0⟩, true), c) ∧ c.graph = Graph.empty.withNode x ∧
      c.root = none := by
  have hnew : (empty id name).graph.addNode x = ((⟨0⟩, true), Graph.empty.withNode x) :=
    Graph.addNode_of_new (by simp [Graph.find?, empty])
  have hplaced := congrArg Prod.fst hnew
  have hs := nodeStep_addNode (empty id name) x
  generalize (empty id name).addNode x = result at hs
  cases hs with
  | knownEntry _ _ hm => simp [empty] at hm
  | knownExit _ _ hm => simp [empty] at hm
  | knownRoot hroot => exact absurd hroot hkey
  | root hroot => exact absurd hroot hkey
  | entry | exit | block =>
    exact ⟨_, Prod.ext hplaced rfl, congrArg Prod.snd hnew, rfl⟩

end Cluster

namespace Loading

variable {r : Routing} {s : LoadState} {i : ClusterId} {source target : NodeId} {k : EdgeKind}
  {o : UInt8} {q : Nat × NodeRecord} {blocks : List (Nat × NodeRecord)}

theorem exists_join (stage : LoadStage) (isKnownNew : Bool) {outcome : EdgeOutcome} {g : Graph}
    (h : Graph.addEdge source target k o (s.clusters.get i).graph = .ok outcome g) :
    ∃ s', join stage i source target k o isKnownNew s = .ok () s' := by
  have hon : Clusters.on i (Cluster.addEdge source target k o) s.clusters = .ok outcome
      (s.clusters.setIfInBounds i.index { s.clusters.get i with graph := g }) := by
    rw [Clusters.on, Cluster.addEdge, Cluster.onGraph]
    dsimp only
    rw [h]
    exact congrArg (Result.ok outcome) (Array.setIfInBounds_setIfInBounds _)
  obtain ⟨s₁, hclusters⟩ : ∃ s₁, onClusters (fun cs cause => .graph stage (nameOf cs i)
      (.graph cause)) (Clusters.on i (Cluster.addEdge source target k o)) s = .ok outcome s₁ := by
    rw [onClusters]
    dsimp only
    rw [hon]
    exact ⟨_, rfl⟩
  obtain ⟨s', hr, -⟩ := exists_announceEdge i _ s₁
  exact ⟨s', (bind_of_ok hclusters).trans hr⟩

/-- The root stands next to the first block. -/
theorem exists_addRoot (first : ClusterNode) (kind : NodeKind) {c : Cluster} {x : Node}
    (hc : s.clusters.get first.cluster = c) (hi : first.cluster.index < s.clusters.size)
    (hgraph : c.graph = Graph.empty.withNode x) (hedges : x.edges = {})
    (hkey : x.key ≠ .processRoot) (hroot : c.root = none) :
    ∃ s', addRoot first kind s = .ok () s' ∧ s'.root = some ⟨first.cluster, ⟨1⟩⟩ := by
  subst hc
  have hfree : (Graph.empty.withNode x).find? .processRoot = none := by
    rw [Graph.find?_withNode, if_neg hkey]
    simp [Graph.find?, Graph.empty]
  have hplaced : ∀ owner, ((s.clusters.get first.cluster).addRoot owner).1 = (⟨1⟩, true) ∧
      ((s.clusters.get first.cluster).addRoot owner).2.graph =
        (Graph.empty.withNode x).withNode (.processRoot owner) := by
    intro owner
    rw [Cluster.addRoot, hroot, hgraph]
    dsimp only
    rw [Graph.addNode_of_new hfree]
    exact ⟨rfl, rfl⟩
  obtain ⟨s₁, hplace, hclusters, -⟩ := exists_place (i := first.cluster) (s := s)
    (·.addRoot ((s.clusters.get first.cluster).graph.node first.node).unit)
  rw [(hplaced _).1] at hplace
  rw [addRoot, bind_of_ok (get_eq_ok s), bind_of_ok hplace]
  cases kind.isEntry with
  | true => exact ⟨_, rfl, rfl⟩
  | false =>
    have hgraph₁ : (s₁.clusters.get first.cluster).graph = (Graph.empty.withNode x).withNode
        (.processRoot ((s.clusters.get first.cluster).graph.node first.node).unit) := by
      rw [hclusters, Clusters.get_setIfInBounds, if_pos ⟨rfl, hi⟩, (hplaced _).2]
    have hcoherent : (s₁.clusters.get first.cluster).graph.Coherent := by
      have hfirst : (Graph.empty.withNode x).Coherent :=
        Graph.coherent_empty.withNode hedges (by simp [Graph.find?, Graph.empty])
      rw [hgraph₁]
      exact hfirst.withNode rfl hfree
    have hno : ∀ e, (s₁.clusters.get first.cluster).graph.edge? e = none := by
      rw [hgraph₁]
      exact fun e => rfl
    obtain ⟨outcome, g, hg⟩ :=
      Graph.exists_addEdge_of_edgeless hcoherent hno ⟨1⟩ first.node .moduleEntry 0
    obtain ⟨s₂, hjoin⟩ := exists_join .nodes true hg
    refine ⟨_, bind_of_ok hjoin, rfl⟩

/-- The first block record brings its node and, next to it, the process root. -/
theorem exists_loadNode_first (hempty : ∀ i, ∃ id name, s.clusters.get i = .empty id name)
    (hroot : s.root = none) (hi : (r.home q).index < s.clusters.size) :
    ∃ s', loadNode r q.1 q.2 s = .ok () s' ∧ s'.root = some ⟨r.home q, ⟨1⟩⟩ ∧
      s'.clusters = (s.clusters.ask (r.home q) (.node (r.nodeOf q))).withRoot ⟨r.home q, ⟨0⟩⟩
        q.2.kind := by
  obtain ⟨id, name, hget⟩ := hempty (r.home q)
  have hkey : (r.nodeOf q).key ≠ .processRoot := nofun
  obtain ⟨c, hc, hgraph, hnone⟩ := Cluster.addNode_empty id name _ hkey
  obtain ⟨s₁, hclusters, -, hr⟩ := loadNode_eq r q s
  rw [if_pos (Option.isNone_iff_eq_none.2 hroot), hget, hc] at hr
  have hget₁ : s₁.clusters.get (r.home q) = c := by
    rw [hclusters, Clusters.get_ask_self hi, hget]
    exact congrArg Prod.snd hc
  have hi₁ : (r.home q).index < s₁.clusters.size := by rw [hclusters, Clusters.size_ask]; exact hi
  obtain ⟨s', haddRoot, hroot'⟩ :=
    exists_addRoot ⟨r.home q, ⟨0⟩⟩ q.2.kind hget₁ hi₁ hgraph rfl hkey hnone
  refine ⟨s', hr.trans haddRoot, hroot', ?_⟩
  have hstate := state_addRoot ⟨r.home q, ⟨0⟩⟩ q.2.kind s₁
  rw [haddRoot, hclusters] at hstate
  exact hstate

/-! ## All records -/

/-- **Block records are all taken in**, and what each of them keeps holds at the end. -/
theorem exists_ok_loadNodes {p : List (Nat × NodeRecord) → Clusters → Prop}
    (hempty : ∀ i, ∃ id name, s.clusters.get i = .empty id name) (hroot : s.root = none)
    (hin : ∀ q ∈ blocks, (r.home q).index < s.clusters.size) (hnil : p [] s.clusters)
    (hfirst : ∀ q ∈ blocks, p [q] ((s.clusters.ask (r.home q) (.node (r.nodeOf q))).withRoot
      ⟨r.home q, ⟨0⟩⟩ q.2.kind))
    (hnext : ∀ done, ∀ q ∈ blocks, ∀ cs, done ≠ [] → (r.home q).index < cs.size → p done cs →
      p (done ++ [q]) (cs.ask (r.home q) (.node (r.nodeOf q)))) :
    ∃ s', (blocks.forM fun q => loadNode r q.1 q.2) s = .ok () s' ∧ p blocks s'.clusters ∧
      s'.root = blocks.head?.map fun q => ⟨r.home q, ⟨1⟩⟩ := by
  have hwithRoot : ∀ (cs : Clusters) first kind, (cs.withRoot first kind).size = cs.size := by
    intro cs first kind
    rw [Clusters.withRoot]
    split
    · exact Clusters.size_ask
    · rw [Clusters.size_ask, Clusters.size_ask]
  have hstep : ∀ done q rest s₁, blocks = done ++ q :: rest →
      (p done s₁.clusters ∧ s₁.clusters.size = s.clusters.size ∧
        s₁.root = (done.head?.map fun q => ⟨r.home q, ⟨1⟩⟩) ∧
        (done = [] → s₁.clusters = s.clusters)) →
      ∃ s', loadNode r q.1 q.2 s₁ = .ok ⟨⟩ s' ∧ p (done ++ [q]) s'.clusters ∧
        s'.clusters.size = s.clusters.size ∧
        s'.root = ((done ++ [q]).head?.map fun q => ⟨r.home q, ⟨1⟩⟩) ∧
        (done ++ [q] = [] → s'.clusters = s.clusters) := by
    rintro done q rest s₁ hl ⟨hp, hsize, hroot₁, hclusters⟩
    have hq : q ∈ blocks := hl ▸ List.mem_append_right _ List.mem_cons_self
    cases done with
    | nil =>
      have hclusters := hclusters rfl
      obtain ⟨s₂, hr, hroot₂, hclusters₂⟩ := exists_loadNode_first (r := r) (q := q) (s := s₁)
        (hclusters ▸ hempty) hroot₁ (hclusters ▸ hin q hq)
      refine ⟨s₂, hr, ?_, ?_, hroot₂, fun h => absurd h (List.cons_ne_nil _ _)⟩
      · rw [hclusters₂, hclusters]
        exact hfirst q hq
      · rw [hclusters₂, hwithRoot, Clusters.size_ask, hsize]
    | cons q₀ done =>
      have hsome : s₁.root ≠ none := by
        rw [hroot₁]
        exact Option.some_ne_none _
      obtain ⟨s₂, hr, hclusters₂, hroot₂⟩ := exists_loadNode_of_rooted (r := r) (q := q) hsome
      refine ⟨s₂, hr, ?_, ?_, hroot₂.trans hroot₁, fun h => absurd h (List.cons_ne_nil _ _)⟩
      · rw [hclusters₂]
        exact hnext _ q hq _ (List.cons_ne_nil _ _) (hsize ▸ hin q hq) hp
      · rw [hclusters₂, Clusters.size_ask, hsize]
  obtain ⟨s', hr, hp, -, hroot', -⟩ :=
    exists_ok_forM ⟨hnil, rfl, hroot, fun _ => rfl⟩ hstep
  exact ⟨s', hr, hp, hroot'⟩

end Loading
end FlowAtlas
