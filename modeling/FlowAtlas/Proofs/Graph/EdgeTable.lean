import FlowAtlas.Proofs.Graph.AddEdge

/-!
# The graph as a table of edges

Seen from outside, the edges of a graph are a table: which pairs of nodes are joined, and by an edge
of which kind and ordinal.  `EdgeTable` is that table as a list of rows, and `EdgeTable.answer` says
from the rows alone what becomes of a request for an edge.

`addEdge_refines_edgeTable` is the main theorem: `Graph.addEdge` gives that answer, changes the entry
of the requested pair as the answer says and no other, and leaves the graph as it was whenever it
refuses.
-/

set_option autoImplicit false

namespace FlowAtlas

/-- Edges as rows of a table. -/
abbrev EdgeTable := List Edge

/-- What becomes of a request for an edge. -/
inductive EdgeAnswer
  | added
  | duplicate
  | mergedIntoDirect
  | upgraded
  | illegalEdgeState
  | multipleEdge
  deriving DecidableEq, Repr

namespace EdgeTable

/-- Kind and ordinal of the edge from `s` to `t`. -/
def lookup (T : EdgeTable) (s t : NodeId) : Option (EdgeKind × UInt8) :=
  (T.find? fun z => z.source = s ∧ z.target = t).map fun z => (z.kind, z.ordinal)

/-- An edge of kind `k` and ordinal `o` may leave `s`: a call continuation when none leaves it, any
other edge when all edges of that ordinal, call continuations apart, have its kind. -/
def Admits (T : EdgeTable) (s : NodeId) (k : EdgeKind) (o : UInt8) : Prop :=
  ∀ z ∈ T, z.source = s →
    if k = .callContinuation then z.kind ≠ .callContinuation
    else z.kind ≠ .callContinuation → z.ordinal = o → z.kind = k

instance (T : EdgeTable) (s : NodeId) (k : EdgeKind) (o : UInt8) : Decidable (T.Admits s k o) :=
  inferInstanceAs (Decidable (∀ z ∈ T, _))

/-- What becomes of a request, by the rows alone. -/
def answer (T : EdgeTable) (s t : NodeId) (k : EdgeKind) (o : UInt8) : EdgeAnswer :=
  match T.lookup s t with
  | none => if T.Admits s k o then .added else .illegalEdgeState
  | some (k₀, o₀) =>
    if k₀ = k ∧ (k = .callContinuation ∨ o₀ = o) then .duplicate
    else if k₀ = .direct ∧ k = .callContinuation then .mergedIntoDirect
    else if k₀ = .callContinuation ∧ k = .direct then
      if T.Admits s .direct o then .upgraded else .illegalEdgeState
    else .multipleEdge

/-- The table `T'` is `T` with another entry for the pair of `s` and `t`. -/
def Sets (T T' : EdgeTable) (s t : NodeId) (entry : EdgeKind × UInt8) : Prop :=
  ∀ s' t', T'.lookup s' t' = if s' = s ∧ t' = t then some entry else T.lookup s' t'

end EdgeTable

namespace Graph

open EdgeMap

/-- The edges of a graph as a table. -/
def table (g : Graph) : EdgeTable := g.edges.toList

variable {g g' : Graph} {s t : NodeId} {k : EdgeKind} {o : UInt8} {z : Edge} {id : EdgeId}

theorem mem_table : z ∈ g.table ↔ ∃ e, g.edge? e = some z := by
  rw [table, List.mem_iff_getElem?]
  constructor
  · rintro ⟨i, hi⟩
    exact ⟨⟨i⟩, by rw [edge?, ← Array.getElem?_toList]; exact hi⟩
  · rintro ⟨e, he⟩
    exact ⟨e.index, by rw [Array.getElem?_toList]; exact he⟩

theorem admits_table_iff : g.table.Admits s k o ↔ Accepts g.edge? s k o := by
  constructor
  · exact fun h e z hz => h z (mem_table.2 ⟨e, hz.1⟩) hz.2
  · intro h z hz hs
    obtain ⟨e, he⟩ := mem_table.1 hz
    exact h e z ⟨he, hs⟩

/-- The table has an entry for a pair exactly when an edge joins it. -/
theorem lookup_table_eq_some_iff (h : Coherent g) :
    g.table.lookup s t = some (k, o) ↔ ∃ e, g.edge? e = some ⟨s, t, k, o⟩ := by
  rw [EdgeTable.lookup, Option.map_eq_some_iff]
  constructor
  · rintro ⟨z, hf, hz⟩
    have hst := List.find?_some hf
    obtain ⟨e, he⟩ := mem_table.1 (List.mem_of_find?_eq_some hf)
    rw [decide_eq_true_iff] at hst
    obtain ⟨zs, zt, zk, zo⟩ := z
    obtain ⟨rfl, rfl⟩ := hst
    cases hz
    exact ⟨e, he⟩
  · rintro ⟨e, he⟩
    cases hf : g.table.find? fun z => z.source = s ∧ z.target = t with
    | none =>
      rw [List.find?_eq_none] at hf
      exact absurd (decide_eq_true ⟨rfl, rfl⟩) (hf _ (mem_table.2 ⟨e, he⟩))
    | some z =>
      have hst := List.find?_some hf
      rw [decide_eq_true_iff] at hst
      obtain ⟨e', he'⟩ := mem_table.1 (List.mem_of_find?_eq_some hf)
      have heq := h.joined_once e e' _ z he he' hst.1.symm hst.2.symm
      subst heq
      rw [he] at he'
      exact ⟨z, rfl, by cases he'; rfl⟩

theorem lookup_table_eq_none_iff :
    g.table.lookup s t = none ↔ ∀ e z, g.edge? e = some z → ¬(z.source = s ∧ z.target = t) := by
  rw [EdgeTable.lookup, Option.map_eq_none_iff, List.find?_eq_none]
  constructor
  · exact fun h e z hz hst => h z (mem_table.2 ⟨e, hz⟩) (decide_eq_true hst)
  · intro h z hz hst
    obtain ⟨e, he⟩ := mem_table.1 hz
    exact h e z he (of_decide_eq_true hst)

theorem answer_table_of_none (hnone : ∀ e z, g.edge? e = some z → ¬(z.source = s ∧ z.target = t)) :
    g.table.answer s t k o = if g.table.Admits s k o then .added else .illegalEdgeState := by
  rw [EdgeTable.answer, lookup_table_eq_none_iff.2 hnone]

theorem answer_table_of_edge (h : Coherent g) {k₀ : EdgeKind} {o₀ : UInt8}
    (hz : g.edge? id = some ⟨s, t, k₀, o₀⟩) :
    g.table.answer s t k o =
      if k₀ = k ∧ (k = .callContinuation ∨ o₀ = o) then .duplicate
      else if k₀ = .direct ∧ k = .callContinuation then .mergedIntoDirect
      else if k₀ = .callContinuation ∧ k = .direct then
        if g.table.Admits s .direct o then .upgraded else .illegalEdgeState
      else .multipleEdge := by
  rw [EdgeTable.answer, (lookup_table_eq_some_iff h).2 ⟨id, hz⟩]

/-- Two graphs whose edges agree but for one that joins `s` and `t` have tables that agree but for
that entry. -/
theorem sets_of_edge?_eq_update (h : Coherent g) (h' : Coherent g')
    (hE : g'.edge? = Function.update g.edge? id (some ⟨s, t, k, o⟩))
    (hid : ∀ z, g.edge? id = some z → z.source = s ∧ z.target = t) :
    g.table.Sets g'.table s t (k, o) := by
  intro s' t'
  refine Option.ext fun ⟨k', o'⟩ => ?_
  rw [lookup_table_eq_some_iff h', hE]
  split
  · rename_i hst
    obtain ⟨rfl, rfl⟩ := hst
    have hnew : g'.edge? id = some ⟨s', t', k, o⟩ := by rw [hE, Function.update_self]
    constructor
    · rintro ⟨e, he⟩
      rw [← hE] at he
      have heq := h'.joined_once e id _ _ he hnew rfl rfl
      rw [heq, hnew] at he
      cases he
      rfl
    · intro heq
      cases heq
      exact ⟨id, Function.update_self _ _ _⟩
  · rename_i hst
    rw [lookup_table_eq_some_iff h]
    refine exists_congr fun e => ?_
    by_cases he : e = id
    · rw [he, Function.update_self]
      refine iff_of_false (fun heq => hst ?_) fun heq => hst (hid _ heq)
      cases heq
      exact ⟨rfl, rfl⟩
    · rw [Function.update_of_ne he]

/-- **Requests for edges refine the table.**  The rows decide what becomes of a request.  A new edge
gets the next number, an upgraded one keeps its number, no entry but that of the pair changes, and a
refusal changes nothing at all. -/
theorem addEdge_refines_edgeTable (h : Reachable g) (hs : g.hasNode s) (ht : g.hasNode t)
    (k : EdgeKind) (o : UInt8) :
    match g.table.answer s t k o with
    | .added => ∃ g', addEdge s t k o g = .ok (.added ⟨g.edgeCount⟩) g' ∧
        g'.edge? ⟨g.edgeCount⟩ = some ⟨s, t, k, o⟩ ∧ g.table.Sets g'.table s t (k, o)
    | .duplicate => ∃ id z, g.edge? id = some z ∧ z.source = s ∧ z.target = t ∧
        addEdge s t k o g = .ok (.duplicate id) g
    | .mergedIntoDirect => ∃ id z, g.edge? id = some z ∧ z.source = s ∧ z.target = t ∧
        addEdge s t k o g = .ok (.mergedIntoDirect id) g
    | .upgraded => ∃ id z g', g.edge? id = some z ∧ z.source = s ∧ z.target = t ∧
        addEdge s t k o g = .ok (.upgraded id) g' ∧
        g'.edge? id = some ⟨s, t, .direct, o⟩ ∧ g.table.Sets g'.table s t (.direct, o)
    | .illegalEdgeState => ∃ cause,
        addEdge s t k o g = .error (.illegalEdgeState (g.node s).key cause) g
    | .multipleEdge => ∃ k₀ o₀, g.table.lookup s t = some (k₀, o₀) ∧
        addEdge s t k o g =
          .error (.multipleEdge (g.node s).key (g.node t).key k₀ o₀ k o) g := by
  have hc := coherent_of_reachable h
  have hc' := hc.addEdge (k := k) (o := o) hs ht
  have hstep := edgeStep_addEdge hc s t k o
  cases hr : addEdge s t k o g with
  | ok outcome g' =>
    rw [hr] at hstep hc'
    cases hstep with
    | added hnone hacc =>
      rw [answer_table_of_none hnone, if_pos (admits_table_iff.2 hacc)]
      refine ⟨_, rfl, ?_, sets_of_edge?_eq_update hc hc' edge?_withEdge fun z hz => ?_⟩
      · exact (congrFun edge?_withEdge _).trans (Function.update_self _ _ _)
      · cases (edge?_next g).symm.trans hz
    | @duplicate id o₀ hz ho =>
      rw [answer_table_of_edge hc hz, if_pos ⟨rfl, ho⟩]
      exact ⟨id, _, hz, rfl, rfl, rfl⟩
    | @merged id o₀ hz hk =>
      have hdiff : ¬(EdgeKind.direct = k ∧ (k = .callContinuation ∨ o₀ = o)) := by
        rintro ⟨rfl, -⟩
        cases hk
      rw [answer_table_of_edge hc hz, if_neg hdiff, if_pos ⟨rfl, hk⟩]
      exact ⟨id, _, hz, rfl, rfl, rfl⟩
    | @upgraded id o₀ hz hk hacc =>
      subst hk
      have hE := edge?_withDirect (s := s) (o := o) hz
      have hne : EdgeKind.callContinuation ≠ .direct := by decide
      rw [answer_table_of_edge hc hz, if_neg (not_and_of_not_left _ hne),
        if_neg (not_and_of_not_left _ hne), if_pos ⟨rfl, rfl⟩,
        if_pos (admits_table_iff.2 hacc)]
      refine ⟨id, _, _, hz, rfl, rfl, rfl, ?_, sets_of_edge?_eq_update hc hc' hE fun z hz' => ?_⟩
      · rw [hE, Function.update_self]
      · rw [hz] at hz'
        cases hz'
        exact ⟨rfl, rfl⟩
  | error cause g' =>
    rw [hr] at hstep
    cases hstep with
    | @refused cause hnone hacc =>
      rw [answer_table_of_none hnone, if_neg fun hadm => hacc (admits_table_iff.1 hadm)]
      exact ⟨cause, rfl⟩
    | @notUpgraded id o₀ cause hz hk hacc =>
      subst hk
      have hne : EdgeKind.callContinuation ≠ .direct := by decide
      rw [answer_table_of_edge hc hz, if_neg (not_and_of_not_left _ hne),
        if_neg (not_and_of_not_left _ hne), if_pos ⟨rfl, rfl⟩,
        if_neg fun hadm => hacc (admits_table_iff.1 hadm)]
      exact ⟨cause, rfl⟩
    | @multiple id k₀ o₀ hz hsame hmerge hup =>
      rw [answer_table_of_edge hc hz, if_neg hsame, if_neg hmerge, if_neg hup]
      exact ⟨k₀, o₀, (lookup_table_eq_some_iff hc).2 ⟨id, hz⟩, rfl⟩

/-- A block takes a call continuation to itself. -/
theorem addEdge_block_to_itself :
    let g := empty.withNode { key := .block ⟨1⟩ 16 0, hash := 5, kind := .normal, unit := ⟨1⟩ }
    ∃ g', addEdge ⟨0⟩ ⟨0⟩ .callContinuation 0 g = .ok (.added ⟨0⟩) g' ∧
      g'.edge? ⟨0⟩ = some ⟨⟨0⟩, ⟨0⟩, .callContinuation, 0⟩ ∧
      g.table.Sets g'.table ⟨0⟩ ⟨0⟩ (.callContinuation, 0) := by
  intro g
  have h : Reachable g := reachable_withNode rfl
  exact addEdge_refines_edgeTable h rfl rfl .callContinuation 0

end Graph
end FlowAtlas
