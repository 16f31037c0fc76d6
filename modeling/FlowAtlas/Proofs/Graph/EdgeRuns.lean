import FlowAtlas.Proofs.Graph.EdgeTable

/-!
# Runs of requests for edges

`Graph.addEdges` asks for edges one after another.  What is stored after such a run does not depend
on the order of the requests: an edge that is no call continuation is stored exactly when it was
stored before or was asked for (`mem_table_addEdges_iff`), a pair is joined exactly when it was
joined before or an edge between the two was asked for (`joins_addEdges_iff`), and a pair that is
joined by nothing else is joined by a call continuation.  `sameEdges_of_perm` draws the conclusion.

`Graph.Serves` says that an edge stands for a request.  A request that was granted is served from
then on, whatever is asked for afterwards, and a request that is served changes nothing: so a run
can be repeated without effect (`addEdges_again`).
-/

set_option autoImplicit false

namespace FlowAtlas

/-- The request found an edge that stands for it. -/
def EdgeOutcome.IsRepeat : EdgeOutcome → Prop
  | duplicate _ | mergedIntoDirect _ => True
  | added _ | upgraded _ => False

/-- The first edge stands for a request of the second: it is the same, or a direct edge in place of
a call continuation.  The ordinal of a call continuation is no part of it. -/
def Edge.StandsFor (y z : Edge) : Prop :=
  y.source = z.source ∧ y.target = z.target ∧
    (y.kind = z.kind ∧ (z.kind = .callContinuation ∨ y.ordinal = z.ordinal) ∨
      y.kind = .direct ∧ z.kind = .callContinuation)

theorem Edge.StandsFor.refl (z : Edge) : z.StandsFor z :=
  ⟨rfl, rfl, Or.inl ⟨rfl, Or.inr rfl⟩⟩

theorem Edge.StandsFor.trans {x y z : Edge} (hxy : x.StandsFor y) (hyz : y.StandsFor z) :
    x.StandsFor z := by
  obtain ⟨hs, ht, hx⟩ := hxy
  obtain ⟨hs', ht', hy⟩ := hyz
  refine ⟨hs.trans hs', ht.trans ht', ?_⟩
  rcases hy with ⟨hk, ho⟩ | ⟨hk, hcc⟩
  · rw [hk] at hx
    rcases hx with ⟨hk', ho'⟩ | ⟨hdirect, hcc⟩
    · refine Or.inl ⟨hk', ?_⟩
      rcases ho with hcc | ho
      · exact Or.inl hcc
      · exact ho'.imp_right fun ho' => ho'.trans ho
    · exact Or.inr ⟨hdirect, hcc⟩
  · rcases hx with ⟨hk', -⟩ | ⟨-, hk'⟩
    · exact Or.inr ⟨hk'.trans hk, hcc⟩
    · cases hk.symm.trans hk'

/-- Only call continuations have other edges that stand for them. -/
theorem Edge.StandsFor.eq_of_ne {y z : Edge} (h : y.StandsFor z)
    (hz : z.kind ≠ .callContinuation) : y = z := by
  obtain ⟨ys, yt, yk, yo⟩ := y
  obtain ⟨rfl, rfl, ⟨rfl, hcc | rfl⟩ | ⟨-, hcc⟩⟩ := h
  · exact absurd hcc hz
  · rfl
  · exact absurd hcc hz

namespace Graph

open EdgeMap

variable {g g' g₁ g₂ : Graph} {s t n : NodeId} {k : EdgeKind} {o : UInt8} {y z : Edge} {id : EdgeId}
  {zs zs' : List Edge} {outcome : EdgeOutcome} {outcomes outcomes' : List EdgeOutcome}

/-- Ask for edges one after another, up to the first refusal. -/
def addEdges (zs : List Edge) : Update (List EdgeOutcome) :=
  zs.mapM fun z => addEdge z.source z.target z.kind z.ordinal

/-- Both ends of an edge are nodes of the graph. -/
def HasEnds (g : Graph) (z : Edge) : Prop := g.hasNode z.source ∧ g.hasNode z.target

instance (g : Graph) (z : Edge) : Decidable (g.HasEnds z) :=
  inferInstanceAs (Decidable (_ ∧ _))

/-! ## One request after another -/

theorem addEdges_cons_eq_ok_iff :
    addEdges (z :: zs) g = .ok outcomes g' ↔ ∃ outcome rest g₁,
      addEdge z.source z.target z.kind z.ordinal g = .ok outcome g₁ ∧
        addEdges zs g₁ = .ok rest g' ∧ outcomes = outcome :: rest := by
  rw [addEdges, List.mapM_cons, EStateM.bind_eq_ok_iff]
  constructor
  · rintro ⟨outcome, g₁, hfirst, hrest⟩
    obtain ⟨rest, g₂, hrest, hpure⟩ := EStateM.bind_eq_ok_iff.1 hrest
    cases hpure
    exact ⟨outcome, rest, g₁, hfirst, hrest, rfl⟩
  · rintro ⟨outcome, rest, g₁, hfirst, hrest, rfl⟩
    exact ⟨outcome, g₁, hfirst, EStateM.bind_eq_ok_iff.2 ⟨rest, g', hrest, rfl⟩⟩

theorem hasEnds_addEdge (hr : Graph.addEdge s t k o g = .ok outcome g') (hz : g.HasEnds z) :
    g'.HasEnds z := by
  have hsame := sameNodes_addEdge g s t k o
  rw [hr] at hsame
  exact ⟨hsame.hasNode_iff.2 hz.1, hsame.hasNode_iff.2 hz.2⟩

/-- The rule for runs that succeed, with an invariant that may speak of the requests so far. -/
theorem Coherent.addEdges_induction {p : List Edge → Graph → Prop} (h : Coherent g)
    (hends : ∀ z ∈ zs, g.HasEnds z) (hr : Graph.addEdges zs g = .ok outcomes g') (hnil : p [] g)
    (hstep : ∀ done z outcome g₁ g₂, Coherent g₁ → p done g₁ →
      Graph.addEdge z.source z.target z.kind z.ordinal g₁ = .ok outcome g₂ → p (done ++ [z]) g₂) :
    Coherent g' ∧ p zs g' := by
  -- the induction is on what is left of the list, from a graph that has taken in the rest
  suffices hgo : ∀ rest done g₁ outcomes, zs = done ++ rest → Coherent g₁ →
      (∀ z ∈ rest, g₁.HasEnds z) → p done g₁ → Graph.addEdges rest g₁ = .ok outcomes g' →
      Coherent g' ∧ p zs g' from hgo zs [] g outcomes rfl h hends hnil hr
  intro rest
  induction rest with
  | nil =>
    intro done g₁ outcomes hsplit h₁ _ hp hr
    cases hr
    rw [hsplit, List.append_nil]
    exact ⟨h₁, hp⟩
  | cons z rest ih =>
    intro done g₁ outcomes hsplit h₁ hends hp hr
    obtain ⟨outcome, others, g₂, hfirst, hrest, -⟩ := addEdges_cons_eq_ok_iff.1 hr
    have hz := hends z List.mem_cons_self
    have h₂ : Coherent g₂ := by
      have hstate := h₁.addEdge (k := z.kind) (o := z.ordinal) hz.1 hz.2
      rwa [hfirst] at hstate
    have hends₂ : ∀ y ∈ rest, g₂.HasEnds y := fun y hy =>
      hasEnds_addEdge hfirst (hends y (List.mem_cons_of_mem z hy))
    exact ih (done ++ [z]) g₂ others (by simp [hsplit]) h₂ hends₂
      (hstep done z outcome g₁ g₂ h₁ hp hfirst) hrest

theorem Coherent.addEdges (h : Coherent g) (hends : ∀ z ∈ zs, g.HasEnds z)
    (hr : Graph.addEdges zs g = .ok outcomes g') : Coherent g' :=
  (h.addEdges_induction (p := fun _ _ => True) hends hr trivial
    fun _ _ _ _ _ _ _ _ => trivial).1

/-! ## What a run stores -/

/-- When an edge takes a free place, or that of a call continuation, nothing else changes about the
edges that are no call continuations. -/
theorem mem_table_of_edge?_eq_update (hE : g'.edge? = Function.update g.edge? id (some y))
    (hid : ∀ x, g.edge? id = some x → x.kind = .callContinuation)
    (hz : z.kind ≠ .callContinuation) : z ∈ g'.table ↔ z ∈ g.table ∨ z = y := by
  simp only [mem_table, hE]
  constructor
  · rintro ⟨e, he⟩
    by_cases heq : e = id
    · rw [heq, Function.update_self] at he
      exact Or.inr (Option.some.inj he).symm
    · rw [Function.update_of_ne heq] at he
      exact Or.inl ⟨e, he⟩
  · rintro (⟨e, he⟩ | rfl)
    · have hne : e ≠ id := by
        rintro rfl
        exact hz (hid z he)
      exact ⟨e, by rw [Function.update_of_ne hne, he]⟩
    · exact ⟨id, Function.update_self _ _ _⟩

/-- A request that is granted stores its edge, and no other, call continuations apart. -/
theorem Coherent.mem_table_addEdge_iff (h : Coherent g)
    (hr : Graph.addEdge s t k o g = .ok outcome g') (hz : z.kind ≠ .callContinuation) :
    z ∈ g'.table ↔ z ∈ g.table ∨ z = ⟨s, t, k, o⟩ := by
  have hstep := edgeStep_addEdge h s t k o
  rw [hr] at hstep
  cases hstep with
  | added =>
    refine mem_table_of_edge?_eq_update edge?_withEdge (fun x hx => ?_) hz
    cases (edge?_next g).symm.trans hx
  | @duplicate id o₀ hid ho =>
    refine (or_iff_left_of_imp ?_).symm
    rintro rfl
    rcases ho with hk | rfl
    · exact absurd hk hz
    · exact mem_table.2 ⟨id, hid⟩
  | merged _ hk =>
    refine (or_iff_left_of_imp ?_).symm
    rintro rfl
    exact absurd hk hz
  | upgraded hid hk =>
    subst hk
    refine mem_table_of_edge?_eq_update (edge?_withDirect hid) (fun x hx => ?_) hz
    rw [hid] at hx
    cases hx
    rfl

/-- An edge that is no call continuation is stored after a run exactly when it was stored before or
was asked for. -/
theorem Coherent.mem_table_addEdges_iff (h : Coherent g) (hends : ∀ z ∈ zs, g.HasEnds z)
    (hr : Graph.addEdges zs g = .ok outcomes g') (hz : z.kind ≠ .callContinuation) :
    z ∈ g'.table ↔ z ∈ g.table ∨ z ∈ zs := by
  refine (h.addEdges_induction (p := fun done g₁ => z ∈ g₁.table ↔ z ∈ g.table ∨ z ∈ done)
    hends hr (by simp) fun done y outcome g₁ g₂ h₁ ih hstep => ?_).2
  rw [h₁.mem_table_addEdge_iff hstep hz, ih, List.mem_append, List.mem_singleton, or_assoc]

/-- A pair is joined after a run exactly when it was joined before or an edge between the two was
asked for. -/
theorem Coherent.joins_addEdges_iff (h : Coherent g) (hends : ∀ z ∈ zs, g.HasEnds z)
    (hr : Graph.addEdges zs g = .ok outcomes g') :
    g'.Joins s t ↔ g.Joins s t ∨ ∃ z ∈ zs, s = z.source ∧ t = z.target := by
  refine (h.addEdges_induction
    (p := fun done g₁ => g₁.Joins s t ↔ g.Joins s t ∨ ∃ z ∈ done, s = z.source ∧ t = z.target)
    hends hr (by simp) fun done y outcome g₁ g₂ h₁ ih hstep => ?_).2
  rw [h₁.joins_addEdge_iff hstep, ih, or_assoc]
  simp [or_and_right, exists_or]

/-- A request appends an edge, or none. -/
theorem Coherent.edgeCount_addEdge_le (h : Coherent g) :
    (Graph.addEdge s t k o g).state.edgeCount ≤ g.edgeCount + 1 := by
  have hstep := edgeStep_addEdge h s t k o
  cases hr : Graph.addEdge s t k o g with
  | ok outcome g' =>
    rw [hr] at hstep
    cases hstep with
    | added => simp [edgeCount, Graph.withEdge, attachIncoming, setAdjacency]
    | duplicate | merged => exact Nat.le_succ _
    | upgraded => simp [edgeCount, Graph.withDirect]
  | error cause g' =>
    rw [hr] at hstep
    cases hstep <;> exact Nat.le_succ _

/-! ## The order of requests -/

/-- The nodes that the edges in the bucket of an ordinal lead to. -/
def targetsAt (g : Graph) (n : NodeId) (o : UInt8) : Array NodeId :=
  ((g.node n).edges.buckets.edgesAt o).map fun e => (g.edge e).target

/-- Two graphs keep the same edges, whatever their numbers.  Only the ordinals of call continuations
may differ. -/
structure SameEdges (g g' : Graph) : Prop where
  /-- The same pairs are joined, by edges of the same kinds. -/
  kind : ∀ s t, (g.table.lookup s t).map Prod.fst = (g'.table.lookup s t).map Prod.fst
  /-- An edge that is no call continuation has the same ordinal in both. -/
  entry : ∀ s t k o, k ≠ .callContinuation →
    (g.table.lookup s t = some (k, o) ↔ g'.table.lookup s t = some (k, o))
  /-- The buckets lead to the same nodes. -/
  target : ∀ n o t, t ∈ g.targetsAt n o ↔ t ∈ g'.targetsAt n o

theorem Coherent.lookup_eq_some_iff_mem (h : Coherent g) :
    g.table.lookup s t = some (k, o) ↔ (⟨s, t, k, o⟩ : Edge) ∈ g.table := by
  rw [lookup_table_eq_some_iff h, mem_table]

theorem Coherent.kind_lookup_eq_some_iff (h : Coherent g) :
    (g.table.lookup s t).map Prod.fst = some k ↔ ∃ o, (⟨s, t, k, o⟩ : Edge) ∈ g.table := by
  rw [Option.map_eq_some_iff]
  constructor
  · rintro ⟨⟨k, o⟩, hlookup, rfl⟩
    exact ⟨o, h.lookup_eq_some_iff_mem.1 hlookup⟩
  · rintro ⟨o, hmem⟩
    exact ⟨(k, o), h.lookup_eq_some_iff_mem.2 hmem, rfl⟩

/-- A call continuation joins two nodes exactly when they are joined, and by nothing else. -/
theorem Coherent.exists_continuation_iff (h : Coherent g) :
    (∃ o, (⟨s, t, .callContinuation, o⟩ : Edge) ∈ g.table) ↔
      g.Joins s t ∧ ∀ z ∈ g.table, z.source = s → z.target = t → z.kind = .callContinuation := by
  constructor
  · rintro ⟨o, hmem⟩
    obtain ⟨e, he⟩ := mem_table.1 hmem
    refine ⟨joins_of_edge? he, fun z hz hs ht => ?_⟩
    obtain ⟨e', he'⟩ := mem_table.1 hz
    have heq := h.joined_once e e' _ z he he' hs.symm ht.symm
    rw [heq, he'] at he
    rw [Option.some.inj he]
  · rintro ⟨⟨e, ⟨s, t, k, o⟩, he, rfl, rfl⟩, hall⟩
    have hmem := mem_table.2 ⟨e, he⟩
    have hk := hall _ hmem rfl rfl
    dsimp only at hk hmem
    exact ⟨o, hk ▸ hmem⟩

theorem Coherent.mem_targetsAt_iff (h : Coherent g) :
    t ∈ g.targetsAt n o ↔ ∃ k, k ≠ .callContinuation ∧ (⟨n, t, k, o⟩ : Edge) ∈ g.table := by
  rw [targetsAt, Array.mem_map]
  constructor
  · rintro ⟨e, he, rfl⟩
    obtain ⟨z, ⟨hz, hs⟩, hk, ho⟩ := ((h.outgoingAt n).mem_edgesAt o e).1 he
    have hmem := mem_table.2 ⟨e, hz⟩
    subst hs ho
    rw [edge_eq hz]
    exact ⟨z.kind, hk, hmem⟩
  · rintro ⟨k, hk, hmem⟩
    obtain ⟨e, he⟩ := mem_table.1 hmem
    refine ⟨e, ((h.outgoingAt n).mem_edgesAt o e).2 ⟨_, ⟨he, rfl⟩, hk, rfl⟩, ?_⟩
    rw [edge_eq he]

/-- Graphs that join the same pairs and agree on all edges but call continuations keep the same
edges. -/
theorem Coherent.sameEdges (h₁ : Coherent g₁) (h₂ : Coherent g₂)
    (hjoins : ∀ s t, g₁.Joins s t ↔ g₂.Joins s t)
    (hmem : ∀ z : Edge, z.kind ≠ .callContinuation → (z ∈ g₁.table ↔ z ∈ g₂.table)) :
    SameEdges g₁ g₂ where
  kind s t := by
    refine Option.ext fun k => ?_
    rw [h₁.kind_lookup_eq_some_iff, h₂.kind_lookup_eq_some_iff]
    by_cases hk : k = .callContinuation
    · subst hk
      rw [h₁.exists_continuation_iff, h₂.exists_continuation_iff, hjoins]
      -- an edge that is no call continuation cannot be in one table only
      refine and_congr_right fun _ => forall_congr' fun z => ?_
      by_cases hz : z.kind = .callContinuation
      · simp [hz]
      · rw [hmem z hz]
    · exact exists_congr fun o => hmem ⟨s, t, k, o⟩ hk
  entry s t k o hk := by
    rw [h₁.lookup_eq_some_iff_mem, h₂.lookup_eq_some_iff_mem]
    exact hmem ⟨s, t, k, o⟩ hk
  target n o t := by
    rw [h₁.mem_targetsAt_iff, h₂.mem_targetsAt_iff]
    exact exists_congr fun k => and_congr_right fun hk => hmem ⟨n, t, k, o⟩ hk

/-- **The order of requests does not change what is stored.**  When all requests of a list are
granted in two orders, the two graphs keep the same edges. -/
theorem sameEdges_of_perm (h : Reachable g) (hends : ∀ z ∈ zs, g.HasEnds z) (hperm : zs.Perm zs')
    (hr₁ : addEdges zs g = .ok outcomes g₁) (hr₂ : addEdges zs' g = .ok outcomes' g₂) :
    SameEdges g₁ g₂ := by
  have hc := coherent_of_reachable h
  have hends' : ∀ z ∈ zs', g.HasEnds z := fun z hz => hends z (hperm.mem_iff.2 hz)
  refine (hc.addEdges hends hr₁).sameEdges (hc.addEdges hends' hr₂) (fun s t => ?_) fun z hz => ?_
  · rw [hc.joins_addEdges_iff hends hr₁, hc.joins_addEdges_iff hends' hr₂]
    simp only [hperm.mem_iff]
  · rw [hc.mem_table_addEdges_iff hends hr₁ hz, hc.mem_table_addEdges_iff hends' hr₂ hz,
      hperm.mem_iff]

/-- A block takes a call continuation and a direct edge to itself in either order. -/
theorem sameEdges_continuation_and_direct :
    let g := empty.withNode { key := .block ⟨1⟩ 16 0, hash := 5, kind := .normal, unit := ⟨1⟩ }
    let zs : List Edge := [⟨⟨0⟩, ⟨0⟩, .callContinuation, 0⟩, ⟨⟨0⟩, ⟨0⟩, .direct, 1⟩]
    ∃ outcomes outcomes' g₁ g₂, addEdges zs g = .ok outcomes g₁ ∧
      addEdges zs.reverse g = .ok outcomes' g₂ ∧ SameEdges g₁ g₂ := by
  intro g zs
  obtain ⟨outcomes, g₁, hr₁, -⟩ := EStateM.Result.exists_ok_of_decide
    (addEdges zs g) (fun _ => True) (by decide +kernel)
  obtain ⟨outcomes', g₂, hr₂, -⟩ := EStateM.Result.exists_ok_of_decide
    (addEdges zs.reverse g) (fun _ => True) (by decide +kernel)
  have h : Reachable g := reachable_withNode rfl
  have hends : ∀ z ∈ zs, g.HasEnds z := by decide
  exact ⟨outcomes, outcomes', g₁, g₂, hr₁, hr₂,
    sameEdges_of_perm h hends (List.reverse_perm zs).symm hr₁ hr₂⟩

/-! ## Requests again -/

/-- An edge of the graph stands for the request. -/
def Serves (g : Graph) (z : Edge) : Prop := ∃ y ∈ g.table, y.StandsFor z

theorem serves_of_edge? (hy : g.edge? id = some y) (hyz : y.StandsFor z) : g.Serves z :=
  ⟨y, mem_table.2 ⟨id, hy⟩, hyz⟩

/-- When an edge takes a free place, or that of an edge it stands for, requests are served as
before. -/
theorem Serves.of_edge?_eq_update (hE : g'.edge? = Function.update g.edge? id (some y))
    (hid : ∀ x, g.edge? id = some x → y.StandsFor x) (h : g.Serves z) : g'.Serves z := by
  obtain ⟨x, hx, hxz⟩ := h
  obtain ⟨e, he⟩ := mem_table.1 hx
  by_cases heq : e = id
  · have hnew : g'.edge? id = some y := by rw [hE, Function.update_self]
    exact serves_of_edge? hnew ((hid x (heq ▸ he)).trans hxz)
  · have hold : g'.edge? e = some x := by rw [hE, Function.update_of_ne heq, he]
    exact serves_of_edge? hold hxz

/-- A request that is served is served whatever is asked for, granted or not. -/
theorem Serves.addEdge (h : Coherent g) (hz : g.Serves z) :
    (Graph.addEdge s t k o g).state.Serves z := by
  have hstep := edgeStep_addEdge h s t k o
  cases hr : Graph.addEdge s t k o g with
  | ok outcome g' =>
    rw [hr] at hstep
    cases hstep with
    | added =>
      refine hz.of_edge?_eq_update edge?_withEdge fun x hx => ?_
      cases (edge?_next g).symm.trans hx
    | duplicate => exact hz
    | merged => exact hz
    | @upgraded id o₀ hid =>
      refine hz.of_edge?_eq_update (edge?_withDirect hid) fun x hx => ?_
      rw [hid] at hx
      cases hx
      exact ⟨rfl, rfl, Or.inr ⟨rfl, rfl⟩⟩
  | error cause g' =>
    rw [hr] at hstep
    cases hstep <;> exact hz

/-- What stands for requests depends on the edges alone. -/
theorem Serves.of_edges_eq (hE : g'.edges = g.edges) (hz : g.Serves z) : g'.Serves z := by
  rw [Serves, table, hE]
  exact hz

/-- A request that is granted is served. -/
theorem Coherent.serves_addEdge (h : Coherent g) (hr : Graph.addEdge s t k o g = .ok outcome g') :
    g'.Serves ⟨s, t, k, o⟩ := by
  have hstep := edgeStep_addEdge h s t k o
  rw [hr] at hstep
  cases hstep with
  | added =>
    have hnew := (congrFun (edge?_withEdge (g := g) (z := ⟨s, t, k, o⟩)) ⟨g.edges.size⟩).trans
      (Function.update_self _ _ _)
    exact serves_of_edge? hnew (.refl _)
  | duplicate hid ho => exact serves_of_edge? hid ⟨rfl, rfl, Or.inl ⟨rfl, ho⟩⟩
  | merged hid hk => exact serves_of_edge? hid ⟨rfl, rfl, Or.inr ⟨rfl, hk⟩⟩
  | @upgraded id o₀ hid hk =>
    subst hk
    have hnew := (congrFun (edge?_withDirect (s := s) (o := o) hid) id).trans
      (Function.update_self _ _ _)
    exact serves_of_edge? hnew (.refl _)

/-- The answer to a request that was granted: the edge that it names joins the two nodes and stands
for the request, it is new if nothing joined them, and all other edges are as they were. -/
structure Granted (g g' : Graph) (z : Edge) (outcome : EdgeOutcome) : Prop where
  found : g'.findEdge? z.source z.target = some outcome.edge
  edge : ∃ y, g'.edge? outcome.edge = some y ∧ y.StandsFor z
  isNew_iff : outcome.isNew = true ↔ ¬g.Joins z.source z.target
  others : ∀ e, e ≠ outcome.edge → g'.edge? e = g.edge? e

/-- Only the edges count in this. -/
theorem Granted.of_edge?_eq (h : g₁.Granted g' z outcome) (hE : g₁.edge? = g.edge?) :
    g.Granted g' z outcome where
  found := h.found
  edge := h.edge
  isNew_iff := by rw [h.isNew_iff, Joins, Joins, hE]
  others e he := by rw [h.others e he, hE]

theorem Granted.edge?_eq_some (h : g.Granted g' z outcome) {e : EdgeId} {y : Edge}
    (hy : g'.edge? e = some y) : g.edge? e = some y ∨ y.StandsFor z := by
  by_cases he : e = outcome.edge
  · obtain ⟨x, hx, hstands⟩ := h.edge
    rw [he, hx] at hy
    cases hy
    exact .inr hstands
  · exact .inl ((h.others e he).symm.trans hy)

theorem Coherent.findEdge?_eq_some_of_edge? (h : Coherent g) (hz : g.edge? id = some z) :
    g.findEdge? z.source z.target = some id := by
  cases hf : g.findEdge? z.source z.target with
  | none => exact absurd ⟨rfl, rfl⟩ (h.findEdge?_eq_none hf id z hz)
  | some e =>
    obtain ⟨k, o, he⟩ := h.findEdge?_eq_some hf
    rw [h.joined_once e id _ z he hz rfl rfl]

theorem Coherent.granted_addEdge (h : Coherent g) (hs : g.hasNode s) (ht : g.hasNode t)
    (hr : Graph.addEdge s t k o g = .ok outcome g') : g.Granted g' ⟨s, t, k, o⟩ outcome := by
  have hstep := edgeStep_addEdge h s t k o
  have h' := h.addEdge (k := k) (o := o) hs ht
  rw [hr] at hstep h'
  have hfound : ∀ {id y}, g'.edge? id = some y → y.StandsFor ⟨s, t, k, o⟩ →
      g'.findEdge? s t = some id := by
    rintro id y hy ⟨rfl, rfl, -⟩
    exact h'.findEdge?_eq_some_of_edge? hy
  have hothers : ∀ {id y}, g'.edge? = Function.update g.edge? id (some y) →
      ∀ e, e ≠ id → g'.edge? e = g.edge? e := fun hE e he => by
    rw [hE, Function.update_of_ne he]
  have hjoined : ∀ {id k₀ o₀}, g.edge? id = some ⟨s, t, k₀, o₀⟩ → ¬¬g.Joins s t := fun hid hnot =>
    hnot (joins_of_edge? hid)
  cases hstep with
  | added hnone =>
    have hE := edge?_withEdge (g := g) (z := ⟨s, t, k, o⟩)
    have hnew := (congrFun hE ⟨g.edges.size⟩).trans (Function.update_self _ _ _)
    refine ⟨hfound hnew (.refl _), ⟨_, hnew, .refl _⟩, iff_of_true rfl ?_, hothers hE⟩
    rintro ⟨e, y, hy, hends⟩
    exact hnone e y hy hends
  | @duplicate id o₀ hid ho =>
    have hstands : Edge.StandsFor ⟨s, t, k, o₀⟩ ⟨s, t, k, o⟩ := ⟨rfl, rfl, Or.inl ⟨rfl, ho⟩⟩
    exact ⟨hfound hid hstands, ⟨_, hid, hstands⟩, iff_of_false nofun (hjoined hid), fun _ _ => rfl⟩
  | @merged id o₀ hid hk =>
    have hstands : Edge.StandsFor ⟨s, t, .direct, o₀⟩ ⟨s, t, k, o⟩ :=
      ⟨rfl, rfl, Or.inr ⟨rfl, hk⟩⟩
    exact ⟨hfound hid hstands, ⟨_, hid, hstands⟩, iff_of_false nofun (hjoined hid), fun _ _ => rfl⟩
  | @upgraded id o₀ hid hk =>
    subst hk
    have hE := edge?_withDirect (s := s) (o := o) hid
    have hnew := (congrFun hE id).trans (Function.update_self _ _ _)
    exact ⟨hfound hnew (.refl _), ⟨_, hnew, .refl _⟩, iff_of_false nofun (hjoined hid), hothers hE⟩

/-- A request that is served changes nothing. -/
theorem Coherent.addEdge_of_serves (h : Coherent g) (hz : g.Serves ⟨s, t, k, o⟩) :
    ∃ outcome, Graph.addEdge s t k o g = .ok outcome g ∧ outcome.IsRepeat := by
  obtain ⟨⟨s, t, k₀, o₀⟩, hmem, rfl, rfl, hstands⟩ := hz
  obtain ⟨id, hid⟩ := mem_table.1 hmem
  dsimp only at hstands hid
  have hstep := edgeStep_addEdge h s t k o
  -- the edge between the two is the one that stands for the request
  have honly : ∀ {e k₁ o₁}, g.edge? e = some ⟨s, t, k₁, o₁⟩ → k₁ = k₀ ∧ o₁ = o₀ := by
    intro e k₁ o₁ he
    rw [h.joined_once e id _ _ he hid rfl rfl, hid] at he
    cases he
    exact ⟨rfl, rfl⟩
  cases hr : Graph.addEdge s t k o g with
  | ok outcome g' =>
    rw [hr] at hstep
    cases hstep with
    | added hnone => exact absurd ⟨rfl, rfl⟩ (hnone id _ hid)
    | duplicate => exact ⟨_, rfl, trivial⟩
    | merged => exact ⟨_, rfl, trivial⟩
    | upgraded he hk =>
      obtain ⟨rfl, -⟩ := honly he
      rcases hstands with ⟨hk', -⟩ | ⟨hk', -⟩
      · cases hk'.trans hk
      · cases hk'
  | error cause g' =>
    rw [hr] at hstep
    cases hstep with
    | refused hnone => exact absurd ⟨rfl, rfl⟩ (hnone id _ hid)
    | notUpgraded he hk =>
      obtain ⟨rfl, -⟩ := honly he
      rcases hstands with ⟨hk', -⟩ | ⟨hk', -⟩
      · cases hk'.trans hk
      · cases hk'
    | multiple he hsame hmerge =>
      obtain ⟨rfl, rfl⟩ := honly he
      rcases hstands with hsame' | hmerge'
      · exact absurd hsame' hsame
      · exact absurd hmerge' hmerge

/-- All requests of a run that succeeded are served at its end. -/
theorem Coherent.serves_addEdges (h : Coherent g) (hends : ∀ z ∈ zs, g.HasEnds z)
    (hr : Graph.addEdges zs g = .ok outcomes g') : ∀ z ∈ zs, g'.Serves z := by
  refine (h.addEdges_induction (p := fun done g₁ => ∀ z ∈ done, g₁.Serves z) hends hr (by simp)
    fun done y outcome g₁ g₂ h₁ ih hstep z hz => ?_).2
  rcases List.mem_append.1 hz with hz | hz
  · have hkept := (ih z hz).addEdge (s := y.source) (t := y.target) (k := y.kind) (o := y.ordinal)
      h₁
    rwa [hstep] at hkept
  · rw [List.mem_singleton.1 hz]
    exact h₁.serves_addEdge hstep

/-- Requests that are served change nothing. -/
theorem Coherent.addEdges_of_serves (h : Coherent g) (hz : ∀ z ∈ zs, g.Serves z) :
    ∃ outcomes, Graph.addEdges zs g = .ok outcomes g ∧ ∀ outcome ∈ outcomes, outcome.IsRepeat := by
  induction zs with
  | nil => exact ⟨[], rfl, by simp⟩
  | cons z zs ih =>
    obtain ⟨outcome, hfirst, hrepeat⟩ := h.addEdge_of_serves (hz z List.mem_cons_self)
    obtain ⟨rest, hrest, hrepeats⟩ := ih fun y hy => hz y (List.mem_cons_of_mem z hy)
    refine ⟨outcome :: rest, addEdges_cons_eq_ok_iff.2 ⟨outcome, rest, g, hfirst, hrest, rfl⟩, ?_⟩
    intro y hy
    rcases List.mem_cons.1 hy with rfl | hy
    · exact hrepeat
    · exact hrepeats y hy

/-- A run of requests that succeeded can be repeated on the graph it produced, without effect. -/
theorem Coherent.addEdges_again (h : Coherent g) (hends : ∀ z ∈ zs, g.HasEnds z)
    (hr : Graph.addEdges zs g = .ok outcomes g') :
    ∃ outcomes', Graph.addEdges zs g' = .ok outcomes' g' ∧
      ∀ outcome ∈ outcomes', outcome.IsRepeat :=
  (h.addEdges hends hr).addEdges_of_serves (h.serves_addEdges hends hr)

end Graph
end FlowAtlas
