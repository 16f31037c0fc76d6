import FlowAtlas.Proofs.Load.Resolution
import FlowAtlas.Proofs.Load.Steps

/-!
# What an edge record asks for

`Routing.AsksWithin` and `Routing.AsksAcross` say which pairs of nodes a record asks to be joined,
judged by given clusters.  `adds_loadEdge` and `addsCross_loadCross` say that taking in a record
joins exactly these.

A record may be judged by the clusters of any later time, since blocks and signatures keep their
nodes (`asksWithin_iff`, `asksAcross_iff`).  `Loading.Lasts` names this, and so `adds_forM` can judge
all records of a file by the clusters at the end.
-/

set_option autoImplicit false

namespace FlowAtlas

/-! ## Pairs that records ask for -/

namespace Routing

variable {r : Routing} {cs cs' : Clusters} {stream : StreamKind} {position : Nat}
  {e : EdgeRecord} {record : CrossRecord} {x y : ClusterNode} {i : ClusterId} {a b : NodeId}

/-- The record is not to be passed over, and its ends stand for `a` and `b` of cluster `i`. -/
def AsksWithin (r : Routing) (cs : Clusters) (stream : StreamKind) (position : Nat) (e : EdgeRecord)
    (i : ClusterId) (a b : NodeId) : Prop :=
  e.isSkipped = false ∧ r.Resolves cs stream position e.source ⟨i, a⟩ ∧
    r.Resolves cs stream position e.target ⟨i, b⟩

/-- The record is not to be passed over, and its ends stand for nodes of different clusters. -/
def Crosses (r : Routing) (cs : Clusters) (position : Nat) (record : CrossRecord)
    (x y : ClusterNode) : Prop :=
  record.edge.isSkipped = false ∧ r.Resolves cs .crossModuleEdge position record.edge.source x ∧
    r.Resolves cs .crossModuleEdge position record.edge.target y ∧ x.cluster ≠ y.cluster

/-- The ends of the record lie in different clusters, and either `a` is its source and `b` the exit
of its signature, or `a` is the entry of its signature and `b` its target. -/
def AsksAcross (r : Routing) (cs : Clusters) (position : Nat) (record : CrossRecord)
    (i : ClusterId) (a b : NodeId) : Prop :=
  ∃ x y, r.Crosses cs position record x y ∧
    ((x = ⟨i, a⟩ ∧ (cs.get i).exitPoint? record.signatureHash = some b) ∨
      (y = ⟨i, b⟩ ∧ (cs.get i).entryPoint? record.signatureHash = some a))

/-- Where the record crosses between clusters, its signature has an exit and an entry. -/
def Registered (r : Routing) (cs : Clusters) (position : Nat) (record : CrossRecord) : Prop :=
  ∀ x y, r.Crosses cs position record x y →
    (∃ n, (cs.get x.cluster).exitPoint? record.signatureHash = some n) ∧
      ∃ n, (cs.get y.cluster).entryPoint? record.signatureHash = some n

theorem asksWithin_iff_of_resolves (h : cs.Coherent) (hskip : e.isSkipped = false)
    (hx : r.Resolves cs stream position e.source x) (hy : r.Resolves cs stream position e.target y) :
    r.AsksWithin cs stream position e i a b ↔ x = ⟨i, a⟩ ∧ y = ⟨i, b⟩ := by
  constructor
  · rintro ⟨-, ha, hb⟩
    exact ⟨hx.eq h ha, hy.eq h hb⟩
  · rintro ⟨rfl, rfl⟩
    exact ⟨hskip, hx, hy⟩

theorem crosses_iff_of_resolves (h : cs.Coherent) {x' y' : ClusterNode}
    (hcross : r.Crosses cs position record x y) :
    r.Crosses cs position record x' y' ↔ x' = x ∧ y' = y := by
  constructor
  · rintro ⟨-, hx, hy, -⟩
    exact ⟨hx.eq h hcross.2.1, hy.eq h hcross.2.2.1⟩
  · rintro ⟨rfl, rfl⟩
    exact hcross

theorem asksAcross_iff_of_crosses (h : cs.Coherent) (hcross : r.Crosses cs position record x y) :
    r.AsksAcross cs position record i a b ↔
      (x = ⟨i, a⟩ ∧ (cs.get i).exitPoint? record.signatureHash = some b) ∨
        (y = ⟨i, b⟩ ∧ (cs.get i).entryPoint? record.signatureHash = some a) := by
  constructor
  · rintro ⟨x', y', hcross', hends⟩
    obtain ⟨rfl, rfl⟩ := (crosses_iff_of_resolves h hcross).1 hcross'
    exact hends
  · exact fun hends => ⟨x, y, hcross, hends⟩

section

variable {new : ClusterId → NodeId → NodeId → Prop} (h : cs.Coherent)
  (hg : Clusters.Grows cs cs' new) (hsame : Clusters.SameBlocks cs cs')

include h hg hsame

theorem asksWithin_iff :
    r.AsksWithin cs' stream position e i a b ↔ r.AsksWithin cs stream position e i a b := by
  rw [AsksWithin, AsksWithin, resolves_iff_of_sameBlocks h hg.coherent hsame,
    resolves_iff_of_sameBlocks h hg.coherent hsame]

theorem crosses_iff :
    r.Crosses cs' position record x y ↔ r.Crosses cs position record x y := by
  rw [Crosses, Crosses, resolves_iff_of_sameBlocks h hg.coherent hsame,
    resolves_iff_of_sameBlocks h hg.coherent hsame]

theorem asksAcross_iff (hreg : r.Registered cs position record) :
    r.AsksAcross cs' position record i a b ↔ r.AsksAcross cs position record i a b := by
  refine exists_congr fun x => exists_congr fun y => ?_
  rw [crosses_iff h hg hsame]
  refine and_congr_right fun hcross => ?_
  obtain ⟨⟨exit, hexit⟩, ⟨entry, hentry⟩⟩ := hreg x y hcross
  have hexit' := (hg.extends_ _).exitPoint?_eq_some _ _ hexit
  have hentry' := (hg.extends_ _).entryPoint?_eq_some _ _ hentry
  refine or_congr (and_congr_right fun hx => ?_) (and_congr_right fun hy => ?_)
  · subst hx
    rw [hexit, hexit']
  · subst hy
    rw [hentry, hentry']

theorem Registered.of_grows (hreg : r.Registered cs position record) :
    r.Registered cs' position record := by
  intro x y hcross
  rw [crosses_iff h hg hsame] at hcross
  obtain ⟨⟨exit, hexit⟩, ⟨entry, hentry⟩⟩ := hreg x y hcross
  exact ⟨⟨exit, (hg.extends_ _).exitPoint?_eq_some _ _ hexit⟩,
    ⟨entry, (hg.extends_ _).entryPoint?_eq_some _ _ hentry⟩⟩

end

end Routing

/-! ## Taking in a record -/

namespace Loading

open EStateM Routing

variable {r : Routing} {s s' s₁ s₂ s₃ : LoadState} {u : Unit} {position : Nat} {stream : StreamKind}
  {e : EdgeRecord} {record : CrossRecord} {x y : ClusterNode}
  {new new' : ClusterId → NodeId → NodeId → Prop}

/-- The state `s'` has come of `s` by adding edges and boundary nodes alone.  It joins the pairs
`new` as well. -/
structure Adds (s s' : LoadState) (new : ClusterId → NodeId → NodeId → Prop) : Prop where
  grows : Clusters.Grows s.clusters s'.clusters new
  sameBlocks : Clusters.SameBlocks s.clusters s'.clusters
  root_eq : s'.root = s.root

theorem Keeps.adds (hk : Keeps s s') (h : s.clusters.Coherent) :
    Adds s s' fun _ _ _ => False where
  grows := by rw [hk.clusters]; exact Clusters.Grows.refl h
  sameBlocks := by rw [hk.clusters]; exact Clusters.SameBlocks.refl _
  root_eq := hk.root

theorem Adds.trans (h : Adds s₁ s₂ new) (h' : Adds s₂ s₃ new') :
    Adds s₁ s₃ fun i a b => new i a b ∨ new' i a b where
  grows := h.grows.trans h'.grows
  sameBlocks := h.sameBlocks.trans h'.sameBlocks
  root_eq := h'.root_eq.trans h.root_eq

theorem Adds.congr (h : Adds s s' new) (hnew : ∀ i a b, new i a b ↔ new' i a b) :
    Adds s s' new' where
  grows := h.grows.congr hnew
  sameBlocks := h.sameBlocks
  root_eq := h.root_eq

theorem Adds.of_keeps (h : Adds s₂ s₃ new) (hk : Keeps s₁ s₂) : Adds s₁ s₃ new where
  grows := hk.clusters ▸ h.grows
  sameBlocks := hk.clusters ▸ h.sameBlocks
  root_eq := h.root_eq.trans hk.root

/-- Joining the ends of a record within a cluster is what the record asks for. -/
theorem adds_join {stage : LoadStage} {isKnownNew : Bool} (h : s.clusters.Coherent) (hskip : e.isSkipped = false)
    (hx : r.Resolves s.clusters stream position e.source x)
    (hy : r.Resolves s.clusters stream position e.target y) (hxy : x.cluster = y.cluster)
    (hr : join stage x.cluster x.node y.node e.kind e.ordinal isKnownNew s = .ok u s') :
    Adds s s' (r.AsksWithin s'.clusters stream position e) := by
  obtain ⟨outcome, hon, hroot⟩ := join_eq_ok hr
  have hi := Clusters.index_lt_of_hasNode hx.hasNode
  obtain ⟨hgrow, hsame⟩ := Clusters.grows_addEdge h (fun _ => hx.hasNode)
    (fun _ => hxy ▸ hy.hasNode) hon
  refine ⟨hgrow.congr fun i a b => ?_, hsame, hroot⟩
  rw [asksWithin_iff h hgrow hsame, asksWithin_iff_of_resolves h hskip hx hy, and_iff_left hi]
  constructor
  · rintro ⟨rfl, rfl, rfl⟩
    exact ⟨rfl, by rw [hxy]⟩
  · rintro ⟨rfl, rfl⟩
    exact ⟨rfl, rfl, rfl⟩

/-- **An edge record joins the pair that it asks for.** -/
theorem adds_loadEdge (h : s.clusters.Coherent) (hr : loadEdge r position e s = .ok u s') :
    Adds s s' (r.AsksWithin s'.clusters .edge position e) := by
  obtain ⟨_, s₁, hcount, hr⟩ := bind_eq_ok_iff.1 hr
  have hk := keeps_count hcount
  have h₁ : s₁.clusters.Coherent := hk.clusters ▸ h
  rcases resolve_eq_ok hr with ⟨x, y, s₂, hfate, hk₂, hr⟩ | ⟨hfate, hk₂⟩
  · have h₂ : s₂.clusters.Coherent := hk₂.clusters ▸ h₁
    rw [← hk₂.clusters, fate_eq_resolved_iff h₂] at hfate
    obtain ⟨hskip, hx, hy⟩ := hfate
    refine Adds.of_keeps ?_ (hk.trans hk₂)
    split at hr
    · rename_i hxy
      exact adds_join h₂ hskip hx hy hxy hr
    · rename_i hxy
      have hk₃ := keeps_count hr
      refine (hk₃.adds h₂).congr fun i a b => ?_
      rw [hk₃.clusters, asksWithin_iff_of_resolves h₂ hskip hx hy, false_iff]
      rintro ⟨rfl, rfl⟩
      exact hxy rfl
  · refine ((hk.trans hk₂).adds h).congr fun i a b => ?_
    rw [hk₂.clusters, false_iff]
    rintro ⟨hskip, hx, hy⟩
    exact hfate _ _ ((fate_eq_resolved_iff h₁).2 ⟨hskip, hx, hy⟩)

/-- The step from `s` to `s'` joins the pairs that a cross-module record asks for, and its signature
has an exit and an entry where it crosses between clusters. -/
structure AddsCross (r : Routing) (position : Nat) (record : CrossRecord) (s s' : LoadState) :
    Prop where
  adds : Adds s s' fun i a b =>
    r.AsksWithin s'.clusters .crossModuleEdge position record.edge i a b ∨
      r.AsksAcross s'.clusters position record i a b
  registered : r.Registered s'.clusters position record

/-- A record whose ends lie in one cluster crosses nowhere. -/
theorem addsCross_join {stage : LoadStage} {isKnownNew : Bool} (h : s.clusters.Coherent)
    (hskip : record.edge.isSkipped = false)
    (hx : r.Resolves s.clusters .crossModuleEdge position record.edge.source x)
    (hy : r.Resolves s.clusters .crossModuleEdge position record.edge.target y)
    (hxy : x.cluster = y.cluster)
    (hr : join stage x.cluster x.node y.node record.edge.kind record.edge.ordinal isKnownNew s =
      .ok u s') :
    AddsCross r position record s s' := by
  have hadds := adds_join h hskip hx hy hxy hr
  have hnot : ∀ x' y', ¬r.Crosses s'.clusters position record x' y' := by
    intro x' y' hcross
    rw [crosses_iff h hadds.grows hadds.sameBlocks] at hcross
    obtain ⟨-, hx', hy', hne⟩ := hcross
    exact hne (hx'.eq h hx ▸ hy'.eq h hy ▸ hxy)
  constructor
  · refine hadds.congr fun i a b => (or_iff_left ?_).symm
    rintro ⟨x', y', hcross, -⟩
    exact hnot x' y' hcross
  · exact fun x' y' hcross => absurd hcross (hnot x' y')

/-- A record that crosses between clusters joins its ends to the boundary nodes of its signature. -/
theorem addsCross_cross (h : s.clusters.Coherent) (hskip : record.edge.isSkipped = false)
    (hx : r.Resolves s.clusters .crossModuleEdge position record.edge.source x)
    (hy : r.Resolves s.clusters .crossModuleEdge position record.edge.target y)
    (hxy : x.cluster ≠ y.cluster)
    (hr : cross x y ⟨record.edge.kind, record.edge.ordinal, record.signatureHash,
      record.isCallback⟩ s = .ok u s') :
    AddsCross r position record s s' := by
  obtain ⟨crossing, hsplit, hroot⟩ := cross_eq_ok hr
  obtain ⟨exit, entry, hexit, hentry, hsame, hgrow⟩ :=
    Crossing.grows_split h hx.hasNode hy.hasNode hsplit
  have hcross : r.Crosses s'.clusters position record x y :=
    (crosses_iff h hgrow hsame).2 ⟨hskip, hx, hy, hxy⟩
  have hadds : Adds s s' _ := ⟨hgrow, hsame, hroot⟩
  constructor
  · refine hadds.congr fun i a b => ?_
    have hwithin : ¬r.AsksWithin s'.clusters .crossModuleEdge position record.edge i a b := by
      rw [asksWithin_iff_of_resolves hgrow.coherent hskip hcross.2.1 hcross.2.2.1]
      rintro ⟨rfl, rfl⟩
      exact hxy rfl
    rw [or_iff_right hwithin, asksAcross_iff_of_crosses hgrow.coherent hcross]
    refine or_congr ?_ ?_
    · rw [eq_comm]
      refine and_congr_right fun hi => ?_
      subst hi
      rw [hexit, Option.some.injEq, eq_comm]
    · rw [eq_comm]
      refine and_congr_right fun hi => ?_
      subst hi
      rw [hentry, Option.some.injEq, eq_comm]
  · intro x' y' hcross'
    obtain ⟨rfl, rfl⟩ := (crosses_iff_of_resolves hgrow.coherent hcross).1 hcross'
    exact ⟨⟨exit, hexit⟩, ⟨entry, hentry⟩⟩

/-- A record that is passed over or whose ends are not both found asks for nothing. -/
theorem addsCross_of_keeps (h : s.clusters.Coherent)
    (hfate : ∀ x y, (r.fate s.clusters record.edge .crossModuleEdge position).1 ≠ .resolved x y)
    (hk : Keeps s s') : AddsCross r position record s s' := by
  have hnot : ¬∃ x y, record.edge.isSkipped = false ∧
      r.Resolves s'.clusters .crossModuleEdge position record.edge.source x ∧
        r.Resolves s'.clusters .crossModuleEdge position record.edge.target y := by
    rw [hk.clusters]
    rintro ⟨x, y, hends⟩
    exact hfate x y ((fate_eq_resolved_iff h).2 hends)
  constructor
  · refine (hk.adds h).congr fun i a b => ?_
    rw [false_iff]
    rintro (hends | ⟨x, y, ⟨hskip, hx, hy, -⟩, -⟩)
    · exact hnot ⟨_, _, hends⟩
    · exact hnot ⟨x, y, hskip, hx, hy⟩
  · rintro x y ⟨hskip, hx, hy, -⟩
    exact absurd ⟨x, y, hskip, hx, hy⟩ hnot

/-- **A cross-module record joins the pairs that it asks for**, and where it crosses between clusters
its signature has an exit and an entry. -/
theorem addsCross_loadCross (h : s.clusters.Coherent)
    (hr : loadCross r position record s = .ok u s') : AddsCross r position record s s' := by
  obtain ⟨_, s₁, hcount, hr⟩ := bind_eq_ok_iff.1 hr
  have hk := keeps_count hcount
  have h₁ : s₁.clusters.Coherent := hk.clusters ▸ h
  rcases resolve_eq_ok hr with ⟨x, y, s₂, hfate, hk₂, hr⟩ | ⟨hfate, hk₂⟩
  · have h₂ : s₂.clusters.Coherent := hk₂.clusters ▸ h₁
    rw [← hk₂.clusters, fate_eq_resolved_iff h₂] at hfate
    obtain ⟨hskip, hx, hy⟩ := hfate
    have hadds : AddsCross r position record s₂ s' := by
      split at hr
      · rename_i hxy
        exact addsCross_join h₂ hskip hx hy hxy hr
      · rename_i hxy
        exact addsCross_cross h₂ hskip hx hy hxy hr
    exact ⟨hadds.adds.of_keeps (hk.trans hk₂), hadds.registered⟩
  · have hadds := addsCross_of_keeps h₁ hfate hk₂
    exact ⟨hadds.adds.of_keeps hk, hadds.registered⟩

/-! ## Taking in a file -/

/-- What is asked for by the clusters of `s` is the same by the clusters of any later time. -/
def Lasts (s : LoadState) (ask : Clusters → ClusterId → NodeId → NodeId → Prop) : Prop :=
  ∀ s' new, Adds s s' new → ∀ i a b, ask s'.clusters i a b ↔ ask s.clusters i a b

theorem Lasts.of_adds {ask : Clusters → ClusterId → NodeId → NodeId → Prop} (hl : Lasts s ask)
    (h : Adds s s' new) : Lasts s' ask := fun s'' _ h' i a b =>
  (hl s'' _ (h.trans h') i a b).trans (hl s' new h i a b).symm

theorem lasts_asksWithin (h : s.clusters.Coherent) :
    Lasts s fun cs => r.AsksWithin cs stream position e := fun _ _ h' _ _ _ =>
  asksWithin_iff h h'.grows h'.sameBlocks

theorem lasts_asksAcross (h : s.clusters.Coherent) (hreg : r.Registered s.clusters position record) :
    Lasts s fun cs => r.AsksAcross cs position record := fun _ _ h' _ _ _ =>
  asksAcross_iff h h'.grows h'.sameBlocks hreg

/-- Where each step joins what it asks for, and that lasts, a run joins what its steps ask for by the
clusters at the end. -/
theorem adds_forM {α : Type} {step : Nat → α → Loading Unit}
    (ask : Nat × α → Clusters → ClusterId → NodeId → NodeId → Prop)
    (hstep : ∀ q s s', s.clusters.Coherent → step q.1 q.2 s = .ok () s' →
      Adds s s' (ask q s'.clusters) ∧ Lasts s' (ask q))
    {records : List (Nat × α)} (h : s.clusters.Coherent)
    (hr : (records.forM fun q => step q.1 q.2) s = .ok u s') :
    Adds s s' (fun i a b => ∃ q ∈ records, ask q s'.clusters i a b) ∧
      Lasts s' fun cs i a b => ∃ q ∈ records, ask q cs i a b := by
  induction records generalizing s with
  | nil =>
    cases hr
    constructor
    · refine ((Keeps.refl _).adds h).congr fun i a b => ?_
      rw [false_iff]
      rintro ⟨q, hq, -⟩
      cases hq
    · exact fun _ _ _ _ _ _ => exists_congr fun q => and_congr_right fun hq => by cases hq
  | cons q records ih =>
    obtain ⟨s₁, hq, hrecords⟩ := forM_cons_eq_ok_iff.1 hr
    obtain ⟨hadds, hlasts⟩ := hstep q s s₁ h hq
    obtain ⟨hrest, hlastsRest⟩ := ih hadds.grows.coherent hrecords
    constructor
    · refine (hadds.trans hrest).congr fun i a b => ?_
      rw [List.exists_mem_cons_iff, hlasts s' _ hrest]
    · intro s'' new h' i a b
      dsimp only
      rw [List.exists_mem_cons_iff, List.exists_mem_cons_iff]
      exact or_congr (hlasts.of_adds hrest s'' new h' i a b) (hlastsRest s'' new h' i a b)

theorem adds_loadEdges {edges : List (Nat × EdgeRecord)} (h : s.clusters.Coherent)
    (hr : (edges.forM fun q => loadEdge r q.1 q.2) s = .ok u s') :
    Adds s s' (fun i a b => ∃ q ∈ edges, r.AsksWithin s'.clusters .edge q.1 q.2 i a b) ∧
      Lasts s' fun cs i a b => ∃ q ∈ edges, r.AsksWithin cs .edge q.1 q.2 i a b := by
  refine adds_forM (fun q cs => r.AsksWithin cs .edge q.1 q.2) (fun q s s' h hq => ?_) h hr
  have hadds := adds_loadEdge h hq
  exact ⟨hadds, lasts_asksWithin hadds.grows.coherent⟩

theorem adds_loadCrosses {crosses : List (Nat × CrossRecord)} (h : s.clusters.Coherent)
    (hr : (crosses.forM fun q => loadCross r q.1 q.2) s = .ok u s') :
    Adds s s' (fun i a b => ∃ q ∈ crosses,
        r.AsksWithin s'.clusters .crossModuleEdge q.1 q.2.edge i a b ∨
          r.AsksAcross s'.clusters q.1 q.2 i a b) ∧
      Lasts s' fun cs i a b => ∃ q ∈ crosses,
        r.AsksWithin cs .crossModuleEdge q.1 q.2.edge i a b ∨ r.AsksAcross cs q.1 q.2 i a b := by
  refine adds_forM (fun q cs i a b => r.AsksWithin cs .crossModuleEdge q.1 q.2.edge i a b ∨
    r.AsksAcross cs q.1 q.2 i a b) (fun q s s' h hq => ?_) h hr
  obtain ⟨hadds, hreg⟩ := addsCross_loadCross h hq
  have h' := hadds.grows.coherent
  exact ⟨hadds, fun s'' new hlater i a b => or_congr
    (lasts_asksWithin h' s'' new hlater i a b) (lasts_asksAcross h' hreg s'' new hlater i a b)⟩

end Loading
end FlowAtlas
