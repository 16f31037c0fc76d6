import Mathlib.Algebra.Ring.Nat
import FlowAtlas.Proofs.Load.Work
import FlowAtlas.Proofs.Trace.Stream

/-!
# Every record is accounted for

What becomes of an edge record can be told without running the load: it is to be passed over, it
`Discards` a call continuation, it `Misses` an end, it `Stays` in one cluster, or it `Parts` its
ends between two.  `Routing.Accounts` says of the counts of a load that each of them is the number
of records of its kind, so that every record is counted once, and that the clusters together have no
more edges than the records call for.

* `fate_cases` and `ticks_eq` judge a single record, `tally_edgeWork` and `tally_crossWork` say what
  it counts and how many tasks it brings.
* `Clusters.edgeTotal_perform_le` and `Loading.edgeTotal_loadNodes_le` bound the edges that tasks
  and block records bring.
* `TraceFiles.accounts_of_load` is the main theorem.
-/

set_option autoImplicit false

namespace FlowAtlas

open EStateM

/-! ## Counting -/

open Classical in
/-- One if the proposition holds. -/
noncomputable def tick (p : Prop) : Nat := if p then 1 else 0

open Classical in
/-- How many members of a list have a property. -/
noncomputable def howMany {α : Type} (l : List α) (p : α → Prop) : Nat :=
  l.countP fun a => decide (p a)

section

variable {α : Type} {p : Prop}

theorem tick_of (h : p) : tick p = 1 := if_pos h

theorem tick_of_not (h : ¬p) : tick p = 0 := if_neg h

@[simp] theorem tick_true : tick True = 1 := tick_of trivial

@[simp] theorem tick_false : tick False = 0 := tick_of_not id

theorem howMany_eq_sum (l : List α) (p : α → Prop) :
    howMany l p = (l.map fun a => tick (p a)).sum := by
  induction l with
  | nil => rfl
  | cons a l ih =>
    rw [List.map_cons, List.sum_cons, ← ih, howMany, howMany, List.countP_cons, Nat.add_comm, tick]
    by_cases hp : p a
    · simp [hp]
    · simp [hp]

theorem howMany_cons (a : α) (l : List α) (p : α → Prop) :
    howMany (a :: l) p = tick (p a) + howMany l p := by
  rw [howMany_eq_sum, howMany_eq_sum, List.map_cons, List.sum_cons]

theorem howMany_of_forall {l : List α} {p : α → Prop} (h : ∀ a ∈ l, p a) :
    howMany l p = l.length := List.countP_eq_length.2 (by simpa using h)

theorem howMany_of_forall_not {l : List α} {p : α → Prop} (h : ∀ a ∈ l, ¬p a) :
    howMany l p = 0 := List.countP_eq_zero.2 (by simpa using h)

theorem sum_tick_add_mul_tick (l : List α) (p p' : α → Prop) (n : Nat) :
    (l.map fun a => tick (p a) + n * tick (p' a)).sum = howMany l p + n * howMany l p' := by
  induction l with
  | nil => rfl
  | cons a l ih =>
    rw [List.map_cons, List.sum_cons, ih, howMany_cons, howMany_cons, Nat.mul_add]
    omega

end

/-! ## What becomes of a record -/

namespace Routing

variable {r : Routing} {cs cs' : Clusters} {stream : StreamKind} {position : Nat} {e : EdgeRecord}
  {found : ClusterNode → ClusterNode → Work}

/-- The record is a call continuation whose source stands for a node and whose target does not. -/
def Discards (r : Routing) (cs : Clusters) (stream : StreamKind) (position : Nat)
    (e : EdgeRecord) : Prop :=
  e.isSkipped = false ∧ (∃ x, r.Resolves cs stream position e.source x) ∧
    (¬∃ y, r.Resolves cs stream position e.target y) ∧ e.kind = .callContinuation

/-- An end of the record stands for no node, and the record is not of the kind to be discarded. -/
def Misses (r : Routing) (cs : Clusters) (stream : StreamKind) (position : Nat)
    (e : EdgeRecord) : Prop :=
  e.isSkipped = false ∧ ((¬∃ x, r.Resolves cs stream position e.source x) ∨
    ¬∃ y, r.Resolves cs stream position e.target y) ∧ ¬r.Discards cs stream position e

/-- The ends of the record stand for nodes of one cluster. -/
def Stays (r : Routing) (cs : Clusters) (stream : StreamKind) (position : Nat)
    (e : EdgeRecord) : Prop :=
  ∃ i a b, r.AsksWithin cs stream position e i a b

/-- The ends of the record stand for nodes of different clusters. -/
def Parts (r : Routing) (cs : Clusters) (stream : StreamKind) (position : Nat)
    (e : EdgeRecord) : Prop :=
  e.isSkipped = false ∧ ∃ x y, r.Resolves cs stream position e.source x ∧
    r.Resolves cs stream position e.target y ∧ x.cluster ≠ y.cluster

/-- What a record counts, judged by the clusters. -/
noncomputable def tally (r : Routing) (cs : Clusters) (stream : StreamKind) (position : Nat)
    (e : EdgeRecord) : LoadStats where
  edgeRecords := tick (stream = .edge)
  crossModuleRecords := tick (stream = .crossModuleEdge)
  skippedSentinels := tick (e.isSkipped = true)
  discardedContinuations := tick (r.Discards cs stream position e)
  unresolvedEndpoints := tick (r.Misses cs stream position e)
  alternateVersionHits := (r.fate cs e stream position).2
  misroutedEdges := tick (stream = .edge ∧ r.Parts cs stream position e)
  clusterCrossings := tick (stream = .crossModuleEdge ∧ r.Parts cs stream position e)

theorem not_discards_of_target {y : ClusterNode}
    (hy : r.Resolves cs stream position e.target y) : ¬r.Discards cs stream position e :=
  fun hd => hd.2.2.1 ⟨y, hy⟩

theorem not_misses_of_ends {x y : ClusterNode} (hx : r.Resolves cs stream position e.source x)
    (hy : r.Resolves cs stream position e.target y) : ¬r.Misses cs stream position e := by
  rintro ⟨-, hnone | hnone, -⟩
  · exact hnone ⟨x, hx⟩
  · exact hnone ⟨y, hy⟩

theorem stays_iff (h : cs.Coherent) (hskip : e.isSkipped = false) {x y : ClusterNode}
    (hx : r.Resolves cs stream position e.source x)
    (hy : r.Resolves cs stream position e.target y) :
    r.Stays cs stream position e ↔ x.cluster = y.cluster := by
  constructor
  · rintro ⟨i, a, b, -, ha, hb⟩
    rw [hx.eq h ha, hy.eq h hb]
  · intro hxy
    obtain ⟨i, a⟩ := x
    obtain ⟨j, b⟩ := y
    cases hxy
    exact ⟨i, a, b, hskip, hx, hy⟩

theorem parts_iff (h : cs.Coherent) (hskip : e.isSkipped = false) {x y : ClusterNode}
    (hx : r.Resolves cs stream position e.source x)
    (hy : r.Resolves cs stream position e.target y) :
    r.Parts cs stream position e ↔ x.cluster ≠ y.cluster := by
  constructor
  · rintro ⟨-, x', y', hx', hy', hne⟩
    rw [hx.eq h hx', hy.eq h hy']
    exact hne
  · exact fun hne => ⟨hskip, x, y, hx, hy, hne⟩

/-- What becomes of a record is what can be told beforehand. -/
theorem fate_cases (h : cs.Coherent) (r : Routing) (stream : StreamKind) (position : Nat)
    (e : EdgeRecord) :
    match (r.fate cs e stream position).1 with
    | .skipped => e.isSkipped = true
    | .discarded => r.Discards cs stream position e
    | .unresolved => r.Misses cs stream position e
    | .resolved x y => e.isSkipped = false ∧ r.Resolves cs stream position e.source x ∧
        r.Resolves cs stream position e.target y := by
  have hends : ∀ e : Endpoint, (∃ x, r.Resolves cs stream position e x) ↔
      (r.find? cs e stream position).isSome := by
    intro e
    rw [← Option.isSome_map, Option.isSome_iff_exists]
    exact exists_congr fun x => (find?_eq_some_iff h).symm
  have hresolved : ∀ x y, (r.fate cs e stream position).1 = .resolved x y →
      e.isSkipped = false ∧ r.Resolves cs stream position e.source x ∧
        r.Resolves cs stream position e.target y := fun x y => (fate_eq_resolved_iff h).1
  rw [fate] at hresolved ⊢
  cases hskip : e.isSkipped with
  | true => rw [if_pos rfl]
  | false =>
    rw [hskip, if_neg Bool.false_ne_true] at hresolved
    rw [if_neg Bool.false_ne_true]
    cases hs : r.find? cs e.source stream position with
    | none =>
      have hnone : ¬∃ x, r.Resolves cs stream position e.source x := by simp [hends, hs]
      exact ⟨hskip, Or.inl hnone, fun hd => hnone hd.2.1⟩
    | some x =>
      have hx : ∃ x, r.Resolves cs stream position e.source x := by simp [hends, hs]
      cases ht : r.find? cs e.target stream position with
      | none =>
        have hnone : ¬∃ y, r.Resolves cs stream position e.target y := by simp [hends, ht]
        by_cases hk : e.kind = .callContinuation
        · simp only [if_pos hk]
          exact ⟨hskip, hx, hnone, hk⟩
        · simp only [if_neg hk]
          exact ⟨hskip, Or.inr hnone, fun hd => hk hd.2.2.2⟩
      | some y =>
        rw [hs, ht] at hresolved
        exact hresolved x.1 y.1 rfl

/-- **Exactly one of the five can be told of a record**, and it is what the record comes to. -/
theorem ticks_eq (h : cs.Coherent) (r : Routing) (stream : StreamKind) (position : Nat)
    (e : EdgeRecord) :
    (tick (e.isSkipped = true), tick (r.Discards cs stream position e),
      tick (r.Misses cs stream position e), tick (r.Stays cs stream position e),
      tick (r.Parts cs stream position e)) =
      match (r.fate cs e stream position).1 with
      | .skipped => (1, 0, 0, 0, 0)
      | .discarded => (0, 1, 0, 0, 0)
      | .unresolved => (0, 0, 1, 0, 0)
      | .resolved x y => if x.cluster = y.cluster then (0, 0, 0, 1, 0) else (0, 0, 0, 0, 1) := by
  have hcases := fate_cases h r stream position e
  cases hfate : (r.fate cs e stream position).1 with
  | skipped =>
    rw [hfate] at hcases
    have hskip : ¬e.isSkipped = false := by simp [hcases]
    have hstays : ¬r.Stays cs stream position e := fun ⟨_, _, _, hs, _⟩ => hskip hs
    rw [tick_of hcases, tick_of_not fun hd => hskip hd.1, tick_of_not fun hm => hskip hm.1,
      tick_of_not hstays, tick_of_not fun hp => hskip hp.1]
  | discarded =>
    rw [hfate] at hcases
    obtain ⟨hskip, hx, hy, hk⟩ := hcases
    have hdiscards : r.Discards cs stream position e := ⟨hskip, hx, hy, hk⟩
    have hstays : ¬r.Stays cs stream position e := fun ⟨i, _, b, _, _, hb⟩ => hy ⟨⟨i, b⟩, hb⟩
    have hparts : ¬r.Parts cs stream position e := fun ⟨_, _, y, _, hb, _⟩ => hy ⟨y, hb⟩
    rw [tick_of_not (by simp [hskip]), tick_of hdiscards, tick_of_not fun hm => hm.2.2 hdiscards,
      tick_of_not hstays, tick_of_not hparts]
  | unresolved =>
    rw [hfate] at hcases
    obtain ⟨hskip, hnone, hdiscards⟩ := hcases
    have hstays : ¬r.Stays cs stream position e := by
      rintro ⟨i, a, b, -, ha, hb⟩
      exact hnone.elim (fun hx => hx ⟨_, ha⟩) fun hy => hy ⟨_, hb⟩
    have hparts : ¬r.Parts cs stream position e := by
      rintro ⟨-, x, y, hx, hy, -⟩
      exact hnone.elim (fun hx' => hx' ⟨_, hx⟩) fun hy' => hy' ⟨_, hy⟩
    rw [tick_of_not (by simp [hskip]), tick_of_not hdiscards, tick_of ⟨hskip, hnone, hdiscards⟩,
      tick_of_not hstays, tick_of_not hparts]
  | resolved x y =>
    rw [hfate] at hcases
    obtain ⟨hskip, hx, hy⟩ := hcases
    rw [tick_of_not (by simp [hskip]), tick_of_not (not_discards_of_target hy),
      tick_of_not (not_misses_of_ends hx hy)]
    by_cases hxy : x.cluster = y.cluster
    · rw [tick_of ((stays_iff h hskip hx hy).2 hxy),
        tick_of_not fun hp => (parts_iff h hskip hx hy).1 hp hxy]
      simp only [if_pos hxy]
    · rw [tick_of_not fun hs => hxy ((stays_iff h hskip hx hy).1 hs),
        tick_of ((parts_iff h hskip hx hy).2 hxy)]
      simp only [if_neg hxy]

/-! ## What a record counts -/

/-- What a record counts and how many tasks it brings, given that where both ends are found, lying
in different clusters is counted by `apart` and brings `n` tasks, and lying in one brings one. -/
theorem tally_work (h : cs.Coherent) (r : Routing) (stream : StreamKind) (position : Nat)
    (e : EdgeRecord) (found : ClusterNode → ClusterNode → Work) (apart : Nat → LoadStats) (n : Nat)
    (hzero : apart 0 = 0)
    (hfound : ∀ x y, (found x y).tally = apart (if x.cluster = y.cluster then 0 else 1) ∧
      (found x y).tasks.length = if x.cluster = y.cluster then 1 else n) :
    (r.work cs e stream position found).tally =
      { skippedSentinels := tick (e.isSkipped = true)
        discardedContinuations := tick (r.Discards cs stream position e)
        unresolvedEndpoints := tick (r.Misses cs stream position e)
        alternateVersionHits := (r.fate cs e stream position).2 } +
      apart (tick (r.Parts cs stream position e)) ∧
    (r.work cs e stream position found).tasks.length =
      tick (r.Stays cs stream position e) + n * tick (r.Parts cs stream position e) := by
  have hticks := ticks_eq h r stream position e
  rw [work]
  cases hfate : (r.fate cs e stream position).1 with
  | resolved x y =>
    rw [hfate] at hticks
    obtain ⟨htally, htasks⟩ := hfound x y
    by_cases hxy : x.cluster = y.cluster
    · simp only [if_pos hxy, Prod.mk.injEq] at hticks htally htasks
      obtain ⟨h₁, h₂, h₃, h₄, h₅⟩ := hticks
      simp [h₁, h₂, h₃, h₄, h₅, htally, htasks]
    · simp only [if_neg hxy, Prod.mk.injEq] at hticks htally htasks
      obtain ⟨h₁, h₂, h₃, h₄, h₅⟩ := hticks
      simp [h₁, h₂, h₃, h₄, h₅, htally, htasks]
  | skipped | discarded | unresolved =>
    rw [hfate] at hticks
    simp only [Prod.mk.injEq] at hticks
    obtain ⟨h₁, h₂, h₃, h₄, h₅⟩ := hticks
    rw [h₁, h₂, h₃, h₄, h₅, hzero, add_zero]
    exact ⟨rfl, rfl⟩

theorem tally_edgeWork (h : cs.Coherent) (r : Routing) (q : Nat × EdgeRecord) :
    (r.edgeWork cs q).tally = r.tally cs .edge q.1 q.2 ∧
      (r.edgeWork cs q).tasks.length = tick (r.Stays cs .edge q.1 q.2) := by
  obtain ⟨htally, htasks⟩ := tally_work h r .edge q.1 q.2
    (fun x y => if x.cluster = y.cluster then
      ⟨[(x.cluster, .join x.node y.node q.2.kind q.2.ordinal)], {}⟩
      else .count { misroutedEdges := 1 })
    (fun n => { misroutedEdges := n }) 0 rfl fun x y => by
      by_cases hxy : x.cluster = y.cluster
      · simp [hxy]
      · simp [hxy]
  rw [edgeWork, Work.tally_append, Work.tasks_append, htally, Work.tasks_count, List.nil_append,
    htasks]
  simp [tally]

theorem tally_crossWork (h : cs.Coherent) (r : Routing) (q : Nat × CrossRecord) :
    (r.crossWork cs q).tally = r.tally cs .crossModuleEdge q.1 q.2.edge ∧
      (r.crossWork cs q).tasks.length = tick (r.Stays cs .crossModuleEdge q.1 q.2.edge) +
        2 * tick (r.Parts cs .crossModuleEdge q.1 q.2.edge) := by
  rw [crossWork, Work.tally_append, Work.tasks_append, Work.tasks_count, List.nil_append]
  have hwork := tally_work h r .crossModuleEdge q.1 q.2.edge
    (fun x y => if x.cluster = y.cluster then
      ⟨[(x.cluster, .join x.node y.node q.2.edge.kind q.2.edge.ordinal)], {}⟩
      else ⟨[(x.cluster, .leave x.node q.2.transfer), (y.cluster, .enter y.node q.2.transfer)],
        { clusterCrossings := 1 }⟩)
    (fun n => { clusterCrossings := n }) 2 rfl fun x y => by
      by_cases hxy : x.cluster = y.cluster
      · simp [hxy]
      · simp [hxy]
  rw [hwork.1, hwork.2]
  simp [tally]

end Routing

/-! ## How many edges there are -/

/-- Some measure of work adds up over the parts of the work. -/
theorem Work.measure_all {α : Type} (measure : Work → Nat) {work : α → Work} {m : α → Nat}
    (hcount : measure (.count 0) = 0) (happend : ∀ v w, measure (v ++ w) = measure v + measure w)
    (hm : ∀ q, measure (work q) = m q) (records : List α) :
    measure (.all (records.map work)) = (records.map m).sum := by
  induction records with
  | nil => exact hcount
  | cons q records ih =>
    rw [List.map_cons, all_cons, happend, hm, ih, List.map_cons, List.sum_cons]

namespace Clusters

variable {cs cs' : Clusters} {c : Cluster} {i : ClusterId} {n : Nat}
  {tasks : List (ClusterId × Cluster.Task)}

/-- How many edges the clusters have together. -/
def edgeTotal (cs : Clusters) : Nat := (cs.toList.map fun c => c.graph.edgeCount).sum

theorem edgeTotal_emptyClusters (config : ClusterConfig) : config.emptyClusters.edgeTotal = 0 := by
  refine List.sum_eq_zero fun n hn => ?_
  obtain ⟨c, hc, rfl⟩ := List.mem_map.1 hn
  obtain ⟨i, hi, rfl⟩ := List.mem_mapIdx.1 hc
  rfl

/-- A cluster with at most `n` more edges makes at most `n` more in all. -/
theorem edgeTotal_set_le (hc : c.graph.edgeCount ≤ (cs.get i).graph.edgeCount + n) :
    edgeTotal (cs.setIfInBounds i.index c) ≤ cs.edgeTotal + n := by
  have hlist : ∀ (l : List Cluster) (k : Nat),
      c.graph.edgeCount ≤ (l.getD k default).graph.edgeCount + n →
      ((l.set k c).map fun c => c.graph.edgeCount).sum ≤
        (l.map fun c => c.graph.edgeCount).sum + n := by
    intro l
    induction l with
    | nil => exact fun k _ => Nat.zero_le _
    | cons d l ih =>
      intro k hk
      cases k with
      | zero =>
        simp only [List.set_cons_zero, List.map_cons, List.sum_cons]
        have hd : c.graph.edgeCount ≤ d.graph.edgeCount + n := hk
        omega
      | succ k =>
        simp only [List.set_cons_succ, List.map_cons, List.sum_cons]
        have hrest := ih k hk
        omega
  rw [edgeTotal, edgeTotal, Array.toList_setIfInBounds]
  refine hlist cs.toList i.index ?_
  rw [get, Array.getD_eq_getD_getElem?] at hc
  rwa [List.getD_eq_getElem?_getD, Array.getElem?_toList]

/-- Each task adds an edge at most. -/
theorem edgeTotal_perform_le (h : cs.Coherent) (hready : cs.Ready tasks)
    (hr : perform tasks cs = .ok () cs') : cs'.edgeTotal ≤ cs.edgeTotal + tasks.length := by
  induction tasks generalizing cs with
  | nil =>
    cases hr
    exact Nat.le_refl _
  | cons q tasks ih =>
    obtain ⟨c, hc, hrest⟩ := perform_cons_eq_ok_iff.1 hr
    obtain ⟨hw, -⟩ := Cluster.widens_run (h q.1) (hready q List.mem_cons_self) hc
    have hgrown : ∀ j, ∃ n, (cs.get j).Widens (get (cs.setIfInBounds q.1.index c) j) n := by
      intro j
      rw [get_setIfInBounds]
      split
      · rename_i hj
        exact ⟨1, hj.1 ▸ hw⟩
      · exact ⟨0, .refl (h j)⟩
    have hrest' := ih (fun j => (hgrown j).choose_spec.coherent)
      (fun p hp => (hready p (List.mem_cons_of_mem q hp)).of_widens (hgrown p.1).choose_spec) hrest
    have hset := edgeTotal_set_le hw.edgeCount_le
    rw [List.length_cons]
    omega

theorem edgeTotal_searched (cs : Clusters) : cs.searched.edgeTotal = cs.edgeTotal := by
  rw [edgeTotal, edgeTotal, searched, Array.toList_map, List.map_map]
  congr 1
  refine List.map_congr_left fun c _ => ?_
  rw [Function.comp_apply]
  split
  · rfl
  · rfl

/-- A node brings no edges. -/
theorem edgeTotal_ask_le (cs : Clusters) (i : ClusterId) {q : Cluster.Request} {x : Node}
    (hx : q.asked? = some x) :
    (cs.ask i q).edgeTotal ≤ cs.edgeTotal := by
  obtain ⟨placed, hs⟩ := Cluster.Request.nodeStep (cs.get i) hx
  refine edgeTotal_set_le (n := 0) ?_
  rw [Graph.edgeCount, hs.edges_eq]
  exact Nat.le_refl _

/-- The root brings the edge to the first block. -/
theorem edgeTotal_withRoot_le (h : cs.Coherent) (first : ClusterNode) (kind : NodeKind) :
    (cs.withRoot first kind).edgeTotal ≤ cs.edgeTotal + 1 := by
  have hroot := edgeTotal_ask_le cs first.cluster
    (q := .root ((cs.get first.cluster).graph.node first.node).unit) rfl
  have hrooted : (cs.ask first.cluster
      (.root ((cs.get first.cluster).graph.node first.node).unit)).Coherent :=
    h.ask fun _ => trivial
  rw [withRoot]
  split
  · omega
  · refine Nat.le_trans (edgeTotal_set_le (n := 1) ?_) (Nat.add_le_add_right hroot 1)
    rw [Cluster.Request.apply, Cluster.addEdge, Cluster.state_onGraph]
    dsimp only
    exact (hrooted first.cluster).graph.edgeCount_addEdge_le

end Clusters

namespace Loading

open Clusters

variable {r : Routing} {s s' : LoadState} {u : Unit} {q : Nat × NodeRecord}
  {blocks : List (Nat × NodeRecord)}

theorem edgeTotal_loadNode_le (h : s.clusters.Coherent) (hr : loadNode r q.1 q.2 s = .ok u s') :
    s'.clusters.edgeTotal ≤ s.clusters.edgeTotal + if s.root.isNone then 1 else 0 := by
  obtain ⟨s₁, hclusters, -, heq⟩ := loadNode_eq r q s
  have hnode := edgeTotal_ask_le s.clusters (r.home q) (q := .node (r.nodeOf q)) rfl
  have h₁ : s₁.clusters.Coherent := hclusters ▸ h.ask fun _ => rfl
  rw [← hclusters] at hnode
  rw [heq] at hr
  cases hroot : s.root.isNone with
  | true =>
    rw [hroot, if_pos rfl] at hr
    have hstate := state_addRoot ⟨r.home q, ((s.clusters.get (r.home q)).addNode (r.nodeOf q)).1.1⟩
      q.2.kind s₁
    rw [hr] at hstate
    have hwith := edgeTotal_withRoot_le h₁
      ⟨r.home q, ((s.clusters.get (r.home q)).addNode (r.nodeOf q)).1.1⟩ q.2.kind
    rw [← hstate] at hwith
    simp only [if_pos]
    exact Nat.le_trans hwith (Nat.add_le_add_right hnode 1)
  | false =>
    rw [hroot] at hr
    cases hr
    exact hnode

theorem edgeTotal_loadNodes_rooted_le {root : ClusterNode} (h : s.clusters.Coherent)
    (hroot : s.root = some root) (hr : (blocks.forM fun q => loadNode r q.1 q.2) s = .ok u s') :
    s'.clusters.edgeTotal ≤ s.clusters.edgeTotal := by
  induction blocks generalizing s with
  | nil =>
    cases hr
    exact Nat.le_refl _
  | cons q blocks ih =>
    obtain ⟨s₁, hq, hblocks⟩ := forM_cons_eq_ok_iff.1 hr
    obtain ⟨hgrow, hroot₁⟩ := grows_loadNode h hroot hq
    have hfirst := edgeTotal_loadNode_le h hq
    rw [hroot] at hfirst
    exact Nat.le_trans (ih hgrow.coherent (hroot₁.trans hroot) hblocks) hfirst

/-- Block records bring one edge at most, from the process root to the first block. -/
theorem edgeTotal_loadNodes_le (hempty : ∀ i, ∃ id name, s.clusters.get i = .empty id name)
    (hroot : s.root = none) (hr : (blocks.forM fun q => loadNode r q.1 q.2) s = .ok u s') :
    s'.clusters.edgeTotal ≤ s.clusters.edgeTotal + 1 := by
  have h : s.clusters.Coherent := fun i => by
    obtain ⟨id, name, hi⟩ := hempty i
    exact hi ▸ Cluster.coherent_empty id name
  cases blocks with
  | nil =>
    cases hr
    exact Nat.le_succ _
  | cons q blocks =>
    obtain ⟨s₁, hq, hblocks⟩ := forM_cons_eq_ok_iff.1 hr
    obtain ⟨first, root, hroot₁, -, hgrow⟩ := grows_loadNode_first hempty hroot hq
    have hfirst := edgeTotal_loadNode_le h hq
    rw [hroot] at hfirst
    exact Nat.le_trans (edgeTotal_loadNodes_rooted_le hgrow.coherent hroot₁ hblocks) hfirst

end Loading

/-! ## The account of a load -/

/-- How many records of the edge stream and of the cross-module stream have a property, which may
depend on the stream and on the position. -/
noncomputable def howManyOf (edges : List (Nat × EdgeRecord)) (crosses : List (Nat × CrossRecord))
    (p : StreamKind → Nat → EdgeRecord → Prop) : Nat :=
  (howMany edges fun q => p .edge q.1 q.2) +
    howMany crosses fun q => p .crossModuleEdge q.1 q.2.edge

section

variable {edges : List (Nat × EdgeRecord)} {crosses : List (Nat × CrossRecord)}
  {p : StreamKind → Nat → EdgeRecord → Prop}

theorem howManyOf_edge : (howManyOf edges crosses fun stream position e =>
    stream = .edge ∧ p stream position e) = howMany edges fun q => p .edge q.1 q.2 := by
  rw [howManyOf, howMany_of_forall_not (l := crosses) fun _ _ => by simp]
  simp

theorem howManyOf_cross : (howManyOf edges crosses fun stream position e =>
    stream = .crossModuleEdge ∧ p stream position e) =
      howMany crosses fun q => p .crossModuleEdge q.1 q.2.edge := by
  rw [howManyOf, howMany_of_forall_not (l := edges) fun _ _ => by simp]
  simp

end

/-- The counts of a load say what became of its records, judged by the clusters that it made. -/
structure Routing.Accounts (r : Routing) (cs : Clusters) (stats : LoadStats)
    (blocks : List (Nat × NodeRecord)) (edges : List (Nat × EdgeRecord))
    (crosses : List (Nat × CrossRecord)) : Prop where
  nodeRecords : stats.nodeRecords = blocks.length
  edgeRecords : stats.edgeRecords = edges.length
  crossModuleRecords : stats.crossModuleRecords = crosses.length
  skippedSentinels : stats.skippedSentinels =
    howManyOf edges crosses fun _ _ e => e.isSkipped = true
  discardedContinuations : stats.discardedContinuations = howManyOf edges crosses (r.Discards cs)
  unresolvedEndpoints : stats.unresolvedEndpoints = howManyOf edges crosses (r.Misses cs)
  /-- Only records of the edge stream are misrouted, -/
  misroutedEdges : stats.misroutedEdges = howManyOf edges crosses fun stream position e =>
    stream = .edge ∧ r.Parts cs stream position e
  /-- and only cross-module records cross between clusters. -/
  clusterCrossings : stats.clusterCrossings = howManyOf edges crosses fun stream position e =>
    stream = .crossModuleEdge ∧ r.Parts cs stream position e
  /-- Every record is counted once: as one of these, or else its ends lie in one cluster. -/
  total : stats.edgeRecords + stats.crossModuleRecords =
    stats.skippedSentinels + stats.discardedContinuations + stats.unresolvedEndpoints +
      stats.misroutedEdges + stats.clusterCrossings + howManyOf edges crosses (r.Stays cs)
  /-- A record whose ends lie in one cluster has an edge there. -/
  edgeAdded : ∀ q ∈ edges, ∀ i a b, r.AsksWithin cs .edge q.1 q.2 i a b →
    (cs.get i).graph.Serves ⟨a, b, q.2.kind, q.2.ordinal⟩
  /-- So has a cross-module record. -/
  crossAdded : ∀ q ∈ crosses, ∀ i a b, r.AsksWithin cs .crossModuleEdge q.1 q.2.edge i a b →
    (cs.get i).graph.Serves ⟨a, b, q.2.edge.kind, q.2.edge.ordinal⟩
  /-- Such a record brings one edge at most and one that crosses brings two, besides the edge from
  the process root. -/
  edgeTotal_le : cs.edgeTotal ≤ 1 + howManyOf edges crosses (r.Stays cs) +
    2 * stats.clusterCrossings

namespace Routing

variable {r : Routing} {cs : Clusters} {edges : List (Nat × EdgeRecord)}
  {crosses : List (Nat × CrossRecord)} {i : ClusterId} {a b : NodeId}

/-- Each record is of one of the five kinds. -/
theorem ticks_add (h : cs.Coherent) (stream : StreamKind) (position : Nat) (e : EdgeRecord) :
    tick (e.isSkipped = true) + tick (r.Discards cs stream position e) +
      tick (r.Misses cs stream position e) + tick (r.Stays cs stream position e) +
        tick (r.Parts cs stream position e) = 1 := by
  have hticks := ticks_eq h r stream position e
  cases hfate : (r.fate cs e stream position).1 with
  | resolved x y =>
    rw [hfate] at hticks
    by_cases hxy : x.cluster = y.cluster
    · simp only [if_pos hxy, Prod.mk.injEq] at hticks
      omega
    · simp only [if_neg hxy, Prod.mk.injEq] at hticks
      omega
  | skipped | discarded | unresolved =>
    simp only [hfate, Prod.mk.injEq] at hticks
    omega

/-- So the records of each kind are all records. -/
theorem howMany_add {α : Type} (h : cs.Coherent) (stream : StreamKind) (position : α → Nat)
    (e : α → EdgeRecord) (l : List α) :
    (howMany l fun q => (e q).isSkipped = true) +
      (howMany l fun q => r.Discards cs stream (position q) (e q)) +
      (howMany l fun q => r.Misses cs stream (position q) (e q)) +
      (howMany l fun q => r.Stays cs stream (position q) (e q)) +
      (howMany l fun q => r.Parts cs stream (position q) (e q)) = l.length := by
  induction l with
  | nil => rfl
  | cons q l ih =>
    have hq := ticks_add (r := r) h stream (position q) (e q)
    simp only [howMany_cons, List.length_cons]
    omega

/-- A measure of the work of all records, from the measure of each. -/
theorem measure_allWork (measure : Work → Nat) {m : Nat × EdgeRecord → Nat}
    {m' : Nat × CrossRecord → Nat} (hcount : measure (.count 0) = 0)
    (happend : ∀ v w, measure (v ++ w) = measure v + measure w)
    (hm : ∀ q, measure (r.edgeWork cs q) = m q) (hm' : ∀ q, measure (r.crossWork cs q) = m' q) :
    measure (r.allWork cs edges crosses) = (edges.map m).sum + (crosses.map m').sum := by
  rw [allWork, happend, Work.measure_all measure hcount happend hm,
    Work.measure_all measure hcount happend hm']

theorem tasks_work_of_asksWithin (h : cs.Coherent) {stream : StreamKind} {position : Nat}
    {e : EdgeRecord} {found : ClusterNode → ClusterNode → Work}
    (hasks : r.AsksWithin cs stream position e i a b) :
    (r.work cs e stream position found).tasks = (found ⟨i, a⟩ ⟨i, b⟩).tasks := by
  have hfate := (fate_eq_resolved_iff h).2 hasks
  rw [work, hfate]
  rfl

/-- A record whose ends lie in one cluster asks to join them. -/
theorem mem_tasks_of_edge (h : cs.Coherent) {q : Nat × EdgeRecord} (hq : q ∈ edges)
    (hasks : r.AsksWithin cs .edge q.1 q.2 i a b) :
    (i, .join a b q.2.kind q.2.ordinal) ∈ (r.allWork cs edges crosses).tasks := by
  refine List.mem_append_left _ (List.mem_flatMap.2 ⟨_, List.mem_map_of_mem hq, ?_⟩)
  rw [edgeWork, Work.tasks_append, tasks_work_of_asksWithin h hasks]
  simp

/-- So does a cross-module record. -/
theorem mem_tasks_of_cross (h : cs.Coherent) {q : Nat × CrossRecord} (hq : q ∈ crosses)
    (hasks : r.AsksWithin cs .crossModuleEdge q.1 q.2.edge i a b) :
    (i, .join a b q.2.edge.kind q.2.edge.ordinal) ∈ (r.allWork cs edges crosses).tasks := by
  refine List.mem_append_right _ (List.mem_flatMap.2 ⟨_, List.mem_map_of_mem hq, ?_⟩)
  rw [crossWork, Work.tasks_append, tasks_work_of_asksWithin h hasks]
  simp

end Routing

namespace TraceFiles

open Loading Routing

variable {t : TraceFiles} {config : ClusterConfig} {g : ProcessGraph} {s : LoadState}
  {blocks : List (Nat × NodeRecord)} {edges : List (Nat × EdgeRecord)}
  {crosses : List (Nat × CrossRecord)} {cs : Clusters} {r : Routing}

section

variable (h : t.Makes config g blocks edges crosses s cs)
  (hrouting : Routing.ofConfig config g.units g.modules = r)

include h hrouting

/-- What is counted once for each record of a kind is the number of these records, with what the
block records count. -/
theorem Makes.field_eq (field : LoadStats → Nat) {p : StreamKind → Nat → EdgeRecord → Prop}
    (hzero : field 0 = 0) (hadd : ∀ a b, field (a + b) = field a + field b)
    (hp : ∀ stream position e,
      field (r.tally g.clusters stream position e) = tick (p stream position e)) :
    field g.stats = field { nodeRecords := blocks.length } + howManyOf edges crosses p := by
  have hg := h.sameBlocks.1
  have hblocks : s.stats = { nodeRecords := blocks.length } :=
    (stats_loadNodes h.runs.placed).trans (zero_add _)
  have hwork : field (r.allWork g.clusters edges crosses).tally = _ :=
    measure_allWork (fun w => field w.tally) hzero (fun v w => hadd v.tally w.tally)
      (fun q => (congrArg field (tally_edgeWork hg r q).1).trans (hp ..))
      fun q => (congrArg field (tally_crossWork hg r q).1).trans (hp ..)
  rw [h.stats, hrouting, h.allWork_eq, hadd, hblocks, hwork, howManyOf, howMany_eq_sum,
    howMany_eq_sum]

/-- The records of each of the three streams are counted. -/
theorem Makes.records_eq : g.stats.nodeRecords = blocks.length ∧
    g.stats.edgeRecords = edges.length ∧ g.stats.crossModuleRecords = crosses.length := by
  have hnodes := h.field_eq hrouting LoadStats.nodeRecords (p := fun _ _ _ => False) rfl
    (fun _ _ => rfl) fun _ _ _ => tick_false.symm
  have hedges := h.field_eq hrouting LoadStats.edgeRecords (p := fun stream _ _ => stream = .edge)
    rfl (fun _ _ => rfl) fun _ _ _ => rfl
  have hcrosses := h.field_eq hrouting LoadStats.crossModuleRecords
    (p := fun stream _ _ => stream = .crossModuleEdge) rfl (fun _ _ => rfl) fun _ _ _ => rfl
  rw [howManyOf, howMany_of_forall_not fun _ _ => id, howMany_of_forall_not fun _ _ => id] at hnodes
  rw [howManyOf, howMany_of_forall fun _ _ => rfl, howMany_of_forall_not fun _ _ => by simp]
    at hedges
  rw [howManyOf, howMany_of_forall_not fun _ _ => by simp, howMany_of_forall fun _ _ => rfl]
    at hcrosses
  exact ⟨hnodes, hedges.trans (Nat.zero_add _), hcrosses.trans (by simp)⟩

/-- The edges in all are one for the process root at most, one for each record that stays in a
cluster and two for each that crosses. -/
theorem Makes.edgeTotal_le :
    g.clusters.edgeTotal ≤ 1 + howManyOf edges crosses (r.Stays g.clusters) +
      2 * howMany crosses fun q => r.Parts g.clusters .crossModuleEdge q.1 q.2.edge := by
  have hg := h.sameBlocks.1
  have hblocks := edgeTotal_loadNodes_le (get_emptyClusters config) rfl h.runs.placed
  have hrecords := Clusters.edgeTotal_perform_le h.coherent h.ready h.runs.performed
  have htasks : (r.allWork g.clusters edges crosses).tasks.length = _ :=
    measure_allWork (fun w => w.tasks.length) rfl (fun _ _ => List.length_append)
      (fun q => (tally_edgeWork hg r q).2) fun q => (tally_crossWork hg r q).2
  rw [← howMany_eq_sum, sum_tick_add_mul_tick, ← Nat.add_assoc] at htasks
  rw [hrouting, h.allWork_eq, htasks] at hrecords
  dsimp only at hblocks
  rw [Clusters.edgeTotal_emptyClusters] at hblocks
  rw [h.clusters, Clusters.edgeTotal_searched, ← h.clusters, howManyOf]
  omega

/-- What a record asks for in a cluster is there in the end. -/
theorem Makes.done {i : ClusterId} {task : Cluster.Task}
    (htask : (i, task) ∈ (r.allWork g.clusters edges crosses).tasks) :
    (g.clusters.get i).Done task := by
  rw [← h.allWork_eq, ← hrouting] at htask
  have hdone := (Clusters.widens_perform h.coherent h.ready h.runs.performed i).2 task
    (Clusters.mem_tasksAt.2 htask)
  obtain ⟨found, hi⟩ := get_searched cs i
  rw [h.clusters, Clusters.searched, hi]
  cases task with
  | join | leave | enter => exact hdone

end

/-- **Every record of a load is accounted for exactly once.** -/
theorem accounts_of_load (hload : (t.load config).result = .ok g) :
    ∃ blocks edges crosses, t.HoldsAll blocks edges crosses ∧
      (Routing.ofConfig config g.units g.modules).Accounts g.clusters g.stats blocks edges
        crosses := by
  obtain ⟨blocks, edges, crosses, s, cs, h⟩ := load_eq_ok_iff.1 hload
  refine ⟨blocks, edges, crosses, h.files, ?_⟩
  generalize hrouting : Routing.ofConfig config g.units g.modules = r
  have hg := h.sameBlocks.1
  obtain ⟨hnodes, hedges, hcrosses⟩ := h.records_eq hrouting
  have hmisrouted := h.field_eq hrouting LoadStats.misroutedEdges rfl (fun _ _ => rfl)
    fun _ _ _ => rfl
  have hcrossings := h.field_eq hrouting LoadStats.clusterCrossings rfl (fun _ _ => rfl)
    fun _ _ _ => rfl
  have hskipped := h.field_eq hrouting LoadStats.skippedSentinels rfl (fun _ _ => rfl)
    fun _ _ _ => rfl
  have hdiscarded := h.field_eq hrouting LoadStats.discardedContinuations rfl (fun _ _ => rfl)
    fun _ _ _ => rfl
  have hunresolved := h.field_eq hrouting LoadStats.unresolvedEndpoints rfl (fun _ _ => rfl)
    fun _ _ _ => rfl
  have hall := howMany_add (r := r) hg .edge Prod.fst Prod.snd edges
  have hallCross := howMany_add (r := r) hg .crossModuleEdge Prod.fst (fun q => q.2.edge) crosses
  have hcrossed := (hcrossings.trans (Nat.zero_add _)).trans howManyOf_cross
  exact {
    nodeRecords := hnodes
    edgeRecords := hedges
    crossModuleRecords := hcrosses
    skippedSentinels := hskipped.trans (Nat.zero_add _)
    discardedContinuations := hdiscarded.trans (Nat.zero_add _)
    unresolvedEndpoints := hunresolved.trans (Nat.zero_add _)
    misroutedEdges := hmisrouted.trans (Nat.zero_add _)
    clusterCrossings := hcrossings.trans (Nat.zero_add _)
    total := by
      rw [howManyOf_edge] at hmisrouted
      simp only [howManyOf, Nat.zero_add] at *
      omega
    edgeAdded := fun q hq i a b hasks => h.done hrouting (mem_tasks_of_edge hg hq hasks)
    crossAdded := fun q hq i a b hasks => h.done hrouting (mem_tasks_of_cross hg hq hasks)
    edgeTotal_le := hcrossed ▸ h.edgeTotal_le hrouting }

/-! ### A trace with records of every kind -/

/-- The event of a unit that is there from the very beginning. -/
def unitLoaded : ModuleEvent := ⟨⟨0, 0, 0⟩, true, "unit", 0x1000, 0x1fff⟩

/-- The stay of that unit. -/
def unitStay : ModuleInstance := .loadedAt ⟨1⟩ 0x1000 0x1fff ⟨0, 0, 0⟩

/-- Addresses in the unit belong to the default cluster, all others to that of dynamic code. -/
def unitRouting : Routing := ⟨⟨[unitStay], 0xfff⟩, #[⟨1⟩, ⟨0⟩], ⟨0⟩⟩

def inUnit : Endpoint := ⟨0x1010, 0⟩

def outside : Endpoint := ⟨0x10, 0⟩

def nowhere : Endpoint := ⟨0x20, 0⟩

/-- A block in the unit and a block outside. -/
def twoBlocks : List NodeRecord := [⟨inUnit.tag, 0, .normal, 5⟩, ⟨outside.tag, 0, .normal, 7⟩]

/-- A jump of the outer block to itself. -/
def jumpBack : EdgeRecord := ⟨outside, outside, .direct, 0⟩

/-- Records of which only the first makes an edge. -/
def mixedEdges : List EdgeRecord :=
  [jumpBack, ⟨inUnit, outside, .direct, 0⟩, ⟨nowhere, outside, .direct, 0⟩,
    ⟨inUnit, nowhere, .callContinuation, 0⟩, ⟨inUnit, outside, .direct, EdgeRecord.skipOrdinal⟩]

/-- A call out of the unit. -/
def callOut : CrossRecord := ⟨⟨inUnit, outside, .direct, 0⟩, 9⟩

/-- A trace of the two blocks and the call, with these edge records. -/
def callingOut (edges : List EdgeRecord) : TraceFiles where
  process := "process"
  moduleLog := ⟨"log", .ok (Bytes.ofText unitLoaded.line)⟩
  blockStream := ⟨"blocks", .ok (Record.toBytes twoBlocks)⟩
  edgeStream := ⟨"edges", .ok (Record.toBytes edges)⟩
  crossModuleStream := ⟨"cross-module edges", .ok (Record.toBytes [callOut])⟩

/-- The log has one line, which tells of the unit. -/
theorem event_callingOut :
    Bytes.lines (Bytes.ofText unitLoaded.line) = [Bytes.ofText unitLoaded.line] ∧
      (Bytes.ofText unitLoaded.line).text? = some unitLoaded.line ∧
      ∃ l, LogLine.ofText? (Text.trim unitLoaded.line.toList) = some l ∧
        ∀ line, ModuleLog.eventOfLine line l = .ok unitLoaded := by
  have hlines : Bytes.lines (Bytes.ofText unitLoaded.line) = [Bytes.ofText unitLoaded.line] := by
    decide +kernel
  have htext : (Bytes.ofText unitLoaded.line).text? = some unitLoaded.line := by decide +kernel
  have hparts : LogLine.ofText? (Text.trim unitLoaded.line.toList) = some ⟨['0'], ['0'], ['0'],
      true, "unit".toList, "1000".toList, "1fff".toList⟩ := by decide
  exact ⟨hlines, htext, _, hparts, fun line => rfl⟩

theorem readLog_callingOut (edges : List EdgeRecord) : ∃ units : UnitTable,
    (callingOut edges).moduleLog.readLog .initial = .ok (unitRouting.modules, units) ∧
      Routing.ofConfig (.empty "main") units unitRouting.modules = unitRouting := by
  obtain ⟨hlines, htext, l, hparts, hevent⟩ := event_callingOut
  have hinitial : UnitTable.initial =
      ⟨#[.unknown], Std.HashMap.insert ∅ SoftwareUnit.unknownName ⟨0⟩⟩ := by
    simp [UnitTable.initial, UnitTable.intern, UnitTable.lookup?, UnitTable.empty]
    rfl
  have hparse : SoftwareUnit.parse unitLoaded.name = ⟨"unit", "unit", "", false⟩ := by
    decide
  have hintern : UnitTable.initial.intern (.parse unitLoaded.name) =
      (⟨1⟩, ⟨#[.unknown, ⟨"unit", "unit", "", false⟩],
        UnitTable.initial.ids.insert "unit" ⟨1⟩⟩) := by
    have hnew : UnitTable.initial.lookup? "unit" = none := by
      rw [hinitial]
      simp [UnitTable.lookup?, SoftwareUnit.unknownName]
    rw [hparse, UnitTable.intern, hnew, hinitial]
    rfl
  have hfreeze : ModuleHistory.freeze ⟨[unitStay]⟩ = unitRouting.modules := by
    rw [ModuleHistory.freeze, ModuleHistory.toList, AddressMap.ofList, List.reverse_singleton,
      List.mergeSort_singleton]
    rfl
  have hread : ModuleLog.read .initial (Bytes.ofText unitLoaded.line) =
      (.ok (ModuleHistory.freeze ⟨[unitStay]⟩), ⟨#[.unknown, ⟨"unit", "unit", "", false⟩],
        UnitTable.initial.ids.insert "unit" ⟨1⟩⟩) := by
    rw [ModuleLog.read, hlines, ModuleLog.readLines, ModuleLog.readLine, htext]
    dsimp only
    rw [hparts]
    dsimp only
    rw [hevent]
    simp only [ModuleLog.apply, hintern, bind, EStateM.bind, ModuleLog.readLines, pure,
      EStateM.pure]
    rfl
  refine ⟨⟨#[.unknown, ⟨"unit", "unit", "", false⟩], UnitTable.initial.ids.insert "unit" ⟨1⟩⟩,
    ?_, ?_⟩
  · rw [hfreeze] at hread
    exact TraceFile.readLog_eq_ok_iff.2 ⟨_, rfl, hread⟩
  · have hunknown : (ClusterConfig.empty "main").clusterOf .unknown = ⟨1⟩ := by decide
    have hunit : (ClusterConfig.empty "main").clusterOf ⟨"unit", "unit", "", false⟩ = ⟨0⟩ := by
      simp [ClusterConfig.clusterOf, ClusterConfig.empty, SoftwareUnit.isUnknown,
        SoftwareUnit.unknownName]
    rw [Routing.ofConfig, List.map_toArray, List.map_cons, List.map_singleton, hunknown, hunit]
    rfl

theorem holds_callingOut {edges : List EdgeRecord} (h : ∀ e ∈ edges,
    e.encode.length = Record.size EdgeRecord ∧ EdgeRecord.decode e.encode = .ok e) :
    (callingOut edges).HoldsAll (Record.numbered 0 twoBlocks) (Record.numbered 0 edges)
      (Record.numbered 0 [callOut]) where
  blocks := TraceFile.holds_iff.2 ⟨_, _, rfl, Record.forms_toBytes (by decide), rfl⟩
  edges := TraceFile.holds_iff.2 ⟨_, _, rfl, Record.forms_toBytes h, rfl⟩
  crosses := TraceFile.holds_iff.2 ⟨_, _, rfl, Record.forms_toBytes (by decide), rfl⟩

/-- The nodes of the two blocks. -/
def unitNode : Node := { key := .block ⟨1⟩ 0x10 0, hash := 5, kind := .normal, unit := ⟨1⟩ }

def outerNode : Node := { key := .block ⟨0⟩ 0x10 0, hash := 7, kind := .normal, unit := ⟨0⟩ }

/-- A cluster of one ordinary block. -/
def soleCluster (id : ClusterId) (name : String) (x : Node) : Cluster :=
  { Cluster.empty id name with
    graph := Graph.empty.withNode x
    blocks := (∅ : Std.HashMap UnitId Nat).alter x.unit fun n => some (n.getD 0 + 1)
    blockCount := 1 }

theorem addNode_soleCluster (id : ClusterId) (name : String) {x : Node}
    (hkey : x.key ≠ .processRoot) (hkind : x.kind = .normal) :
    (Cluster.empty id name).addNode x = ((⟨0⟩, true), soleCluster id name x) := by
  have hnew : (Cluster.empty id name).graph.addNode x = ((⟨0⟩, true), Graph.empty.withNode x) :=
    Graph.addNode_of_new (by simp [Graph.find?, Cluster.empty])
  rw [Cluster.addNode, if_neg hkey, hkind]
  dsimp only
  rw [Cluster.addBlock, hnew, hkind]
  rfl

/-- The nodes of the unit's cluster: its block and the process root. -/
def rootedGraph : Graph := (Graph.empty.withNode unitNode).withNode (.processRoot ⟨1⟩)

/-- The root leads to the block. -/
def unitGraph : Graph := (Graph.addEdge ⟨1⟩ ⟨0⟩ .moduleEntry 0 rootedGraph).state

theorem find?_unitGraph (key : NodeKey) : unitGraph.find? key =
    if NodeKey.processRoot = key then some ⟨1⟩
    else if unitNode.key = key then some ⟨0⟩ else none := by
  rw [unitGraph, (rootedGraph.sameNodes_addEdge ⟨1⟩ ⟨0⟩ .moduleEntry 0).find?_eq,
    rootedGraph, Graph.find?_withNode, Graph.find?_withNode]
  simp [Graph.find?, Graph.empty, Graph.withNode, Node.processRoot]

/-- The clusters with the blocks in place. -/
def unitCluster : Cluster :=
  { soleCluster ⟨0⟩ "main" unitNode with graph := unitGraph, root := some ⟨1⟩ }

def outerCluster : Cluster := soleCluster ⟨1⟩ "dynamic" outerNode

theorem placed_callingOut : ∃ s, ((Record.numbered 0 twoBlocks).forM fun q =>
    loadNode unitRouting q.1 q.2) { clusters := (ClusterConfig.empty "main").emptyClusters } =
      .ok () s ∧ s.clusters = #[unitCluster, outerCluster] := by
  have hclusters : (ClusterConfig.empty "main").emptyClusters =
      #[.empty ⟨0⟩ "main", .empty ⟨1⟩ "dynamic"] := by rfl
  have hunit := addNode_soleCluster ⟨0⟩ "main" (x := unitNode) (by decide) rfl
  have houter := addNode_soleCluster ⟨1⟩ "dynamic" (x := outerNode) (by decide) rfl
  have hroot : (soleCluster ⟨0⟩ "main" unitNode).addRoot ⟨1⟩ = ((⟨1⟩, true),
      { soleCluster ⟨0⟩ "main" unitNode with graph := rootedGraph, root := some ⟨1⟩ }) := by
    have hnew : (soleCluster ⟨0⟩ "main" unitNode).graph.addNode (.processRoot ⟨1⟩) =
        ((⟨1⟩, true), rootedGraph) := by
      refine Graph.addNode_of_new (Graph.find?_withNode.trans ?_)
      rw [if_neg (by decide)]
      simp [Graph.find?, Graph.empty]
    have hnone : (soleCluster ⟨0⟩ "main" unitNode).root = none := rfl
    rw [Cluster.addRoot, hnone]
    dsimp only
    rw [hnew]
  obtain ⟨s₁, h₁, hroot₁, hclusters₁⟩ := exists_loadNode_first (r := unitRouting)
    (q := (0, ⟨inUnit.tag, 0, .normal, 5⟩))
    (s := { clusters := (ClusterConfig.empty "main").emptyClusters })
    (get_emptyClusters (.empty "main")) rfl (by decide)
  obtain ⟨s₂, h₂, hclusters₂, -⟩ := exists_loadNode_of_rooted (r := unitRouting)
    (q := (1, ⟨outside.tag, 0, .normal, 7⟩)) (s := s₁) (by simp [hroot₁])
  have hhome₁ : unitRouting.home (0, ⟨inUnit.tag, 0, .normal, 5⟩) = ⟨0⟩ := by decide
  have hhome₂ : unitRouting.home (1, ⟨outside.tag, 0, .normal, 7⟩) = ⟨1⟩ := by decide
  have hnode₁ : unitRouting.nodeOf (0, ⟨inUnit.tag, 0, .normal, 5⟩) = unitNode := by rfl
  have hnode₂ : unitRouting.nodeOf (1, ⟨outside.tag, 0, .normal, 7⟩) = outerNode := by rfl
  have howner : ((soleCluster ⟨0⟩ "main" unitNode).graph.node ⟨0⟩).unit = ⟨1⟩ := by rfl
  refine ⟨s₂, forM_cons_eq_ok_iff.2 ⟨s₁, h₁, forM_cons_eq_ok_iff.2 ⟨s₂, h₂, rfl⟩⟩, ?_⟩
  rw [hclusters₂, hclusters₁, hhome₁, hhome₂, hnode₁, hnode₂, hclusters]
  simp [Clusters.ask, Clusters.withRoot, Cluster.Request.apply, Clusters.get, hunit, houter,
    howner, hroot, NodeKind.isEntry, Cluster.addEdge, Cluster.state_onGraph]
  constructor
  · rfl
  · rfl

theorem find?_callingOut (stream : StreamKind) {position : Nat} (h : position < 8) :
    unitRouting.find? #[unitCluster, outerCluster] inUnit stream position =
      some (⟨⟨0⟩, ⟨0⟩⟩, false) ∧
    unitRouting.find? #[unitCluster, outerCluster] outside stream position =
      some (⟨⟨1⟩, ⟨0⟩⟩, false) ∧
    unitRouting.find? #[unitCluster, outerCluster] nowhere stream position = none := by
  have hlocate : ∀ position < 8,
      unitRouting.modules.locate inUnit.tag stream position = (⟨1⟩, 0x10) ∧
      unitRouting.modules.locate outside.tag stream position = (⟨0⟩, 0x10) ∧
      unitRouting.modules.locate nowhere.tag stream position = (⟨0⟩, 0x20) := by
    cases stream with
    | block | edge | crossModuleEdge => decide
  obtain ⟨hin, hout, hno⟩ := hlocate position h
  have hcluster : unitRouting.cluster ⟨1⟩ = ⟨0⟩ ∧ unitRouting.cluster ⟨0⟩ = ⟨1⟩ := by
    decide
  have hunit : ∀ key, (Clusters.get #[unitCluster, outerCluster] ⟨0⟩).graph.find? key =
      unitGraph.find? key := fun key => rfl
  have houter : ∀ key, (Clusters.get #[unitCluster, outerCluster] ⟨1⟩).graph.find? key =
      (Graph.empty.withNode outerNode).find? key := fun key => rfl
  simp only [Routing.find?, hin, hout, hno, hcluster, hunit, houter, find?_unitGraph,
    Graph.find?_withNode]
  simp [Graph.find?, Graph.empty, unitNode, outerNode, inUnit, outside, nowhere,
    Routing.neighbours]

/-- What the call transfers. -/
def callTransfer : Transfer := ⟨.direct, 0, 9, false⟩

theorem tasks_callingOut : ∀ edges ∈ [mixedEdges, [jumpBack]],
    (unitRouting.allWork #[unitCluster, outerCluster] (Record.numbered 0 edges)
      (Record.numbered 0 [callOut])).tasks = [(⟨1⟩, .join ⟨0⟩ ⟨0⟩ .direct 0),
        (⟨0⟩, .leave ⟨0⟩ callTransfer), (⟨1⟩, .enter ⟨0⟩ callTransfer)] := by
  have hcall : callOut.transfer = callTransfer := by decide
  simp [allWork, Work.all, edgeWork, crossWork, work, fate, find?_callingOut, mixedEdges, jumpBack,
    callOut, Record.numbered, EdgeRecord.isSkipped, EdgeRecord.skipOrdinal] at hcall ⊢
  simp [hcall]

/-- The outer block leads to itself. -/
def jumpedGraph : Graph := (Graph.addEdge ⟨0⟩ ⟨0⟩ .direct 0 outerCluster.graph).state

theorem find?_jumpedGraph (key : NodeKey) :
    jumpedGraph.find? key = if outerNode.key = key then some ⟨0⟩ else none := by
  refine (outerCluster.graph.sameNodes_addEdge ⟨0⟩ ⟨0⟩ .direct 0).find?_eq.trans ?_
  refine Graph.find?_withNode.trans ?_
  simp [Graph.find?, Graph.empty]

/-- The name of a cluster, the keys of its nodes, and the ends of its edges. -/
def outline (c : Cluster) : String × List NodeKey × List (NodeId × NodeId) :=
  (c.name, c.graph.nodes.toList.map Node.key,
    c.graph.edges.toList.map fun e => (e.source, e.target))

/-- What the clusters come to in the end. The root leads to the unit's block and that to the exit,
the outer block to itself and the entry to the outer block. -/
def callingOutline : List (String × List NodeKey × List (NodeId × NodeId)) :=
  [("main", [unitNode.key, .processRoot, .boundary 9 .clusterExit false],
      [(⟨1⟩, ⟨0⟩), (⟨0⟩, ⟨2⟩)]),
    ("dynamic", [outerNode.key, .boundary 9 .clusterEntry false], [(⟨0⟩, ⟨0⟩), (⟨1⟩, ⟨0⟩)])]

/-- The outer block jumps back, the unit's block leads to a new exit, and a new entry to the outer
block. -/
theorem perform_callingOut : ∃ cs, Clusters.perform [(⟨1⟩, .join ⟨0⟩ ⟨0⟩ .direct 0),
    (⟨0⟩, .leave ⟨0⟩ callTransfer), (⟨1⟩, .enter ⟨0⟩ callTransfer)] #[unitCluster, outerCluster] =
      .ok () cs ∧ (∀ c ∈ cs.toList, c.validate = .ok ()) ∧
        cs.toList.map outline = callingOutline := by
  obtain ⟨outcome, jumped, hjump, -⟩ := Result.exists_ok_of_decide
    (Graph.addEdge ⟨0⟩ ⟨0⟩ .direct 0 outerCluster.graph) (fun _ => True) (by decide +kernel)
  have hjumped : jumpedGraph = jumped := congrArg Result.state hjump
  have hjoin : (Cluster.Task.join ⟨0⟩ ⟨0⟩ .direct 0).run outerCluster =
      .ok () { outerCluster with graph := jumpedGraph } :=
    bind_of_ok (hjumped ▸ Cluster.addEdge_of_graph hjump)
  obtain ⟨_, exited, hexit, hvalidExit, hkeysExit, hedgesExit⟩ := Result.exists_ok_of_decide
    (Graph.addEdge ⟨0⟩ ⟨unitCluster.graph.nodeCount⟩ .direct 0
      (unitCluster.graph.withNode (.boundary 9 .clusterExit false ⟨1⟩)))
    (fun g => g.validate = .ok () ∧
      g.nodes.toList.map Node.key = [unitNode.key, .processRoot, .boundary 9 .clusterExit false] ∧
        g.edges.toList.map (fun e => (e.source, e.target)) = [(⟨1⟩, ⟨0⟩), (⟨0⟩, ⟨2⟩)])
    (by decide +kernel)
  obtain ⟨c, hleave, hc, hcname⟩ := Cluster.exists_run_leave (c := unitCluster) (a := ⟨0⟩)
    (t := callTransfer) (x := .boundary 9 .clusterExit false ⟨1⟩) Std.HashMap.getElem?_empty
    (by decide +kernel) ((find?_unitGraph _).trans (by decide)) hexit
  obtain ⟨_, entered, hentry, hvalidEntry, hkeysEntry, hedgesEntry⟩ := Result.exists_ok_of_decide
    (Graph.addEdge ⟨jumpedGraph.nodeCount⟩ ⟨0⟩ .crossCustomModule 0
      (jumpedGraph.withNode (.boundary 9 .clusterEntry false ⟨0⟩)))
    (fun g => g.validate = .ok () ∧
      g.nodes.toList.map Node.key = [outerNode.key, .boundary 9 .clusterEntry false] ∧
        g.edges.toList.map (fun e => (e.source, e.target)) = [(⟨0⟩, ⟨0⟩), (⟨1⟩, ⟨0⟩)])
    (by decide +kernel)
  obtain ⟨d, henter, hd, hdname⟩ := Cluster.exists_run_enter
    (c := { outerCluster with graph := jumpedGraph }) (b := ⟨0⟩) (t := callTransfer)
    (x := .boundary 9 .clusterEntry false ⟨0⟩) Std.HashMap.getElem?_empty (by decide +kernel)
    ((find?_jumpedGraph _).trans (by decide)) hentry
  refine ⟨#[c, d], Clusters.perform_cons_eq_ok_iff.2 ⟨_, hjoin,
    Clusters.perform_cons_eq_ok_iff.2 ⟨c, hleave, Clusters.perform_cons_eq_ok_iff.2
      ⟨d, henter, rfl⟩⟩⟩, ?_, ?_⟩
  · simp [Cluster.validate, hc, hd, hvalidExit, hvalidEntry]
  · have hfirst : c.name = "main" := hcname
    have hsecond : d.name = "dynamic" := hdname
    simp [outline, callingOutline, hc, hd, hfirst, hsecond, hkeysExit, hedgesExit, hkeysEntry,
      hedgesEntry]

/-- What a load of the trace makes, with all the edge records or with the jump alone. -/
theorem makes_callingOut : ∀ edges ∈ [mixedEdges, [jumpBack]], ∃ g s cs,
    (callingOut edges).Makes (.empty "main") g (Record.numbered 0 twoBlocks)
      (Record.numbered 0 edges) (Record.numbered 0 [callOut]) s cs ∧
      s.clusters = #[unitCluster, outerCluster] ∧
      Routing.ofConfig (.empty "main") g.units g.modules = unitRouting ∧
      cs.toList.map outline = callingOutline := by
  intro edges hedges
  obtain ⟨units, hlog, hrouting⟩ := readLog_callingOut edges
  obtain ⟨s, hplaced, hclusters⟩ := placed_callingOut
  obtain ⟨cs, hperform, hvalid, houtline⟩ := perform_callingOut
  have hforms : ∀ edges ∈ [mixedEdges, [jumpBack]], ∀ e ∈ edges,
      e.encode.length = Record.size EdgeRecord ∧ EdgeRecord.decode e.encode = .ok e := by
    decide
  have htasks := tasks_callingOut edges hedges
  refine ⟨⟨"process", units, unitRouting.modules, cs.searched, s.root, s.stats +
    (unitRouting.allWork s.clusters (Record.numbered 0 edges) (Record.numbered 0 [callOut])).tally⟩,
    s, cs, ⟨rfl, hlog, holds_callingOut (hforms edges hedges), ⟨?_, ?_, hvalid⟩, rfl, rfl, ?_⟩,
    hclusters, hrouting, houtline⟩
  · rw [hrouting]
    exact hplaced
  · rw [hrouting, hclusters, htasks]
    exact hperform
  · rw [hrouting]

/-- The search at the end changes no outline. -/
theorem map_outline_searched (cs : Clusters) :
    cs.searched.toList.map outline = cs.toList.map outline := by
  rw [Clusters.searched, Array.toList_map, List.map_map]
  refine List.map_congr_left fun c _ => ?_
  rw [Function.comp_apply]
  split
  · rfl
  · rfl

/-- The trace loads, with all the edge records or with the jump alone, and its files hold what they
were made from. -/
theorem exists_load_callingOut : ∀ edges ∈ [mixedEdges, [jumpBack]],
    ∃ g, ((callingOut edges).load (.empty "main")).result = .ok g ∧
      (callingOut edges).HoldsAll (Record.numbered 0 twoBlocks) (Record.numbered 0 edges)
        (Record.numbered 0 [callOut]) ∧ g.clusters.toList.map outline = callingOutline := by
  intro edges hedges
  obtain ⟨g, s, cs, h, -, -, houtline⟩ := makes_callingOut edges hedges
  refine ⟨g, load_eq_ok_iff.2 ⟨_, _, _, s, cs, h⟩, h.files, ?_⟩
  rw [h.clusters, map_outline_searched, houtline]

theorem load_callingOut : ∀ edges ∈ [mixedEdges, [jumpBack]],
    ∃ g, ((callingOut edges).load (.empty "main")).result = .ok g := fun edges hedges =>
  (exists_load_callingOut edges hedges).imp fun _ h => h.1

/-- The account of a load in which records come to everything that they can come to. -/
theorem accounts_callingOut : ∃ g,
    ((callingOut mixedEdges).load (.empty "main")).result = .ok g ∧
      ∃ blocks edges crosses, (callingOut mixedEdges).HoldsAll blocks edges crosses ∧
        (Routing.ofConfig (.empty "main") g.units g.modules).Accounts g.clusters g.stats blocks
          edges crosses := by
  obtain ⟨g, hload⟩ := load_callingOut mixedEdges List.mem_cons_self
  exact ⟨g, hload, accounts_of_load hload⟩

/-- A cluster of the trace is known by its number. -/
theorem outline_get {cs : Clusters} (h : cs.toList.map outline = callingOutline) :
    callingOutline = [outline (cs.get ⟨0⟩), outline (cs.get ⟨1⟩)] := by
  obtain ⟨l⟩ := cs
  have hlength : l.length = 2 := by simpa [callingOutline] using congrArg List.length h
  obtain ⟨c, d, rfl⟩ := List.length_eq_two.1 hlength
  exact h.symm

theorem joins_of_mem_outline {c : Cluster} {a b : NodeId} (h : (a, b) ∈ (outline c).2.2) :
    c.graph.Joins a b := by
  obtain ⟨z, hz, heq⟩ := List.mem_map.1 h
  obtain ⟨e, he, hget⟩ := List.getElem_of_mem hz
  obtain ⟨rfl, rfl⟩ := Prod.mk.inj heq
  have hedge : c.graph.edge? ⟨e⟩ = some c.graph.edges.toList[e] := Array.getElem?_eq_getElem he
  exact hget ▸ Graph.joins_of_edge? hedge

/-- In the unit's cluster the root leads to the block and the block to the exit, in the other
cluster the outer block to itself and the entry to the outer block.  Records ask for all of it. -/
theorem joins_callingOut : ∃ g, ((callingOut mixedEdges).load (.empty "main")).result = .ok g ∧
    ((g.clusters.get ⟨0⟩).graph.Joins ⟨1⟩ ⟨0⟩ ∧ (g.clusters.get ⟨0⟩).graph.Joins ⟨0⟩ ⟨2⟩) ∧
    ((g.clusters.get ⟨1⟩).graph.Joins ⟨0⟩ ⟨0⟩ ∧ (g.clusters.get ⟨1⟩).graph.Joins ⟨1⟩ ⟨0⟩) ∧
    let r := Routing.ofConfig (.empty "main") g.units g.modules
    ∀ i a b, (g.clusters.get i).graph.Joins a b ↔
      r.AsksRoot g.clusters g.root (Record.numbered 0 twoBlocks) i a b ∨
      (∃ q ∈ Record.numbered 0 mixedEdges, r.AsksWithin g.clusters .edge q.1 q.2 i a b) ∨
      ∃ q ∈ Record.numbered 0 [callOut],
        r.AsksWithin g.clusters .crossModuleEdge q.1 q.2.edge i a b ∨
          r.AsksAcross g.clusters q.1 q.2 i a b := by
  obtain ⟨g, hload, hfiles, houtline⟩ := exists_load_callingOut mixedEdges List.mem_cons_self
  obtain ⟨blocks, edges, crosses, hblocks, hedges, hcrosses, -, hjoins⟩ := joins_iff_of_load hload
  rw [hblocks.eq hfiles.blocks, hedges.eq hfiles.edges, hcrosses.eq hfiles.crosses] at hjoins
  obtain ⟨hunit, hrest⟩ := List.cons.inj (outline_get houtline)
  obtain ⟨houter, -⟩ := List.cons.inj hrest
  refine ⟨g, hload, ⟨?_, ?_⟩, ⟨?_, ?_⟩, hjoins⟩
  all_goals
    refine joins_of_mem_outline ?_
    simp [← hunit, ← houter]

end TraceFiles
end FlowAtlas
