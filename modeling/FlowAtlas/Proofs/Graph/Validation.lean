import FlowAtlas.Proofs.Graph.EdgeTable

/-!
# The rule on entries and exits

`Graph.validate` goes through the nodes and looks at the numbers of edges that each of them keeps.
The rule itself is about the edges: `Graph.KeepsRule` says of the arena alone that no edge ends at
an entry and none starts at an exit, and `Graph.Breaks` says how a node breaks it.

What a node keeps is counted right after any history of requests, as each edge of the arena stands
once at each of its ends (`Coherent.size_incoming`, `Coherent.outgoingSize_eq`).  So the check of a
node sees what the arena says (`Coherent.violation?_eq_some_iff`), and `validate_decides_rule` is
the check of a whole graph: it passes exactly when the rule is kept, and else names the node of
smallest number that breaks it.
-/

set_option autoImplicit false

namespace FlowAtlas

namespace NodeKind

variable {k : NodeKind}

theorem isEntry_iff : k.isEntry ↔ k = .processEntry ∨ k = .clusterEntry := by
  simp [isEntry]

theorem isExit_iff : k.isExit ↔ k = .processExit ∨ k = .clusterExit := by
  simp [isExit]

end NodeKind

namespace Graph

open Adjacency EdgeMap

variable {g : Graph} {n : NodeId} {cause : GraphError}

/-! ## Edges at a node, counted in the arena -/

/-- How many edges of the graph end at a node. -/
def arrivals (g : Graph) (n : NodeId) : Nat := g.table.countP (·.target = n)

/-- How many edges of the graph start at a node. -/
def departures (g : Graph) (n : NodeId) : Nat := g.table.countP (·.source = n)

theorem arrivals_pos_iff : 0 < g.arrivals n ↔ ∃ z ∈ g.table, z.target = n := by
  simp [arrivals, List.countP_pos_iff]

theorem departures_pos_iff : 0 < g.departures n ↔ ∃ z ∈ g.table, z.source = n := by
  simp [departures, List.countP_pos_iff]

/-- The rows of the table are the edges of all numbers. -/
theorem table_eq_map (g : Graph) :
    g.table = ((List.range g.edges.size).map EdgeId.mk).map g.edge := by
  refine List.ext_getElem (by simp [table]) fun i hi _ => ?_
  have hi : i < g.edges.size := by simpa [table] using hi
  simp [table, edge, hi]

/-- The numbers of the edges with a property, listed without repetition, are as many as the rows
with the property. -/
theorem length_eq_countP_table {l : List EdgeId} {p : Edge → Bool} (hl : l.Nodup)
    (hmem : ∀ e, e ∈ l ↔ ∃ z, g.edge? e = some z ∧ p z) : l.length = g.table.countP p := by
  have hnodup : ((List.range g.edges.size).map EdgeId.mk).Nodup :=
    List.nodup_range.map fun i j hij => congrArg EdgeId.index hij
  have hissued : ∀ e, e ∈ (List.range g.edges.size).map EdgeId.mk ↔ e.index < g.edges.size := by
    intro e
    constructor
    · simp only [List.mem_map, List.mem_range]
      rintro ⟨i, hi, rfl⟩
      exact hi
    · exact fun he => List.mem_map.2 ⟨e.index, List.mem_range.2 he, rfl⟩
  rw [table_eq_map, List.countP_map, List.countP_eq_length_filter]
  refine ((List.perm_ext_iff_of_nodup hl (hnodup.filter _)).2 fun e => ?_).length_eq
  rw [hmem, List.mem_filter, hissued, Function.comp_apply]
  constructor
  · rintro ⟨z, hz, hp⟩
    exact ⟨(Array.getElem?_eq_some_iff.1 hz).1, by rwa [edge_eq hz]⟩
  · rintro ⟨he, hp⟩
    have hz : g.edge? e = some g.edges[e.index] := Array.getElem?_eq_getElem he
    exact ⟨_, hz, by rwa [edge_eq hz] at hp⟩

/-- A node keeps as many arriving edges as end at it. -/
theorem Coherent.size_incoming (h : Coherent g) (n : NodeId) :
    (g.node n).edges.incoming.size = g.arrivals n := by
  rw [← Array.length_toList]
  refine length_eq_countP_table (h.incomingAt n).nodup fun e => ?_
  simp only [Array.mem_toList_iff, h.mem_incoming, decide_eq_true_eq]

/-- A node keeps as many leaving edges as start at it, its call continuation among them. -/
theorem Coherent.outgoingSize_eq (h : Coherent g) (n : NodeId) :
    (g.node n).edges.outgoingSize = g.departures n := by
  rw [Adjacency.outgoingSize_eq]
  refine length_eq_countP_table (h.outgoingAt n).nodup fun e => ?_
  simp only [decide_eq_true_eq]
  exact h.mem_outgoing

/-! ## The first node with a property -/

/-- A search through the nodes finds the one of smallest number. -/
theorem findSome?_nodes_eq_some_iff {α : Type} {f : Node → Option α} {a : α} :
    g.nodes.toList.findSome? f = some a ↔
      ∃ n, g.hasNode n ∧ f (g.node n) = some a ∧
        ∀ m, m.index < n.index → f (g.node m) = none := by
  rw [nodes_eq_map, List.findSome?_map, List.findSome?_eq_some_iff]
  have hsorted := g.pairwise_nodeIds
  constructor
  · rintro ⟨before, n, after, hids, hn, hbefore⟩
    rw [hids, List.pairwise_append, List.pairwise_cons] at hsorted
    have hn' : g.hasNode n := mem_nodeIds.1 (by simp [hids])
    refine ⟨n, hn', hn, fun m hm => hbefore m ?_⟩
    have hm' : m ∈ g.nodeIds :=
      mem_nodeIds.2 (hasNode_iff.2 (Nat.lt_trans hm (hasNode_iff.1 hn')))
    rw [hids, List.mem_append, List.mem_cons] at hm'
    rcases hm' with hm' | rfl | hm'
    · exact hm'
    · exact absurd hm (Nat.lt_irrefl _)
    · exact absurd (hsorted.2.1.1 m hm') (Nat.lt_asymm hm)
  · rintro ⟨n, hn, ha, hfirst⟩
    obtain ⟨before, after, hids⟩ := List.mem_iff_append.1 (mem_nodeIds.2 hn)
    rw [hids, List.pairwise_append] at hsorted
    exact ⟨before, n, after, hids, ha,
      fun m hm => hfirst m (hsorted.2.2 m hm n List.mem_cons_self)⟩

/-! ## The rule -/

/-- No edge ends at an entry, and none starts at an exit. -/
def KeepsRule (g : Graph) : Prop :=
  ∀ z ∈ g.table,
    ¬((g.node z.target).kind = .processEntry ∨ (g.node z.target).kind = .clusterEntry) ∧
      ¬((g.node z.source).kind = .processExit ∨ (g.node z.source).kind = .clusterExit)

/-- How a node breaks the rule: it is an entry at which edges end, or an exit at which edges start,
and the fault tells how many. -/
inductive Breaks (g : Graph) (n : NodeId) : GraphError → Prop
  | entry : (g.node n).kind = .processEntry ∨ (g.node n).kind = .clusterEntry →
      (∃ z ∈ g.table, z.target = n) →
      Breaks g n (.entryHasIncoming (g.node n).key (g.node n).kind (g.arrivals n))
  | exit : (g.node n).kind = .processExit ∨ (g.node n).kind = .clusterExit →
      (∃ z ∈ g.table, z.source = n) →
      Breaks g n (.exitHasOutgoing (g.node n).key (g.node n).kind (g.departures n))

/-- The check of a single node sees what the arena says. -/
theorem Coherent.violation?_eq_some_iff (h : Coherent g) :
    violation? (g.node n) = some cause ↔ g.Breaks n cause := by
  have hentry : ((g.node n).kind.isEntry && g.arrivals n > 0) = true ↔
      ((g.node n).kind = .processEntry ∨ (g.node n).kind = .clusterEntry) ∧
        ∃ z ∈ g.table, z.target = n := by
    rw [Bool.and_eq_true, NodeKind.isEntry_iff, decide_eq_true_iff, ← arrivals_pos_iff]
  have hexit : ((g.node n).kind.isExit && g.departures n > 0) = true ↔
      ((g.node n).kind = .processExit ∨ (g.node n).kind = .clusterExit) ∧
        ∃ z ∈ g.table, z.source = n := by
    rw [Bool.and_eq_true, NodeKind.isExit_iff, decide_eq_true_iff, ← departures_pos_iff]
  rw [violation?, h.size_incoming, h.outgoingSize_eq]
  constructor
  · intro hv
    split at hv
    · rename_i hbreaks
      cases hv
      exact .entry (hentry.1 hbreaks).1 (hentry.1 hbreaks).2
    · split at hv
      · rename_i hbreaks
        cases hv
        exact .exit (hexit.1 hbreaks).1 (hexit.1 hbreaks).2
      · cases hv
  · rintro (⟨hkind, hedge⟩ | ⟨hkind, hedge⟩)
    · rw [if_pos (hentry.2 ⟨hkind, hedge⟩)]
    · -- no kind is both that of an entry and that of an exit
      rw [if_neg, if_pos (hexit.2 ⟨hkind, hedge⟩)]
      rw [hentry]
      rintro ⟨hkind' | hkind', -⟩ <;> simp [hkind'] at hkind

/-- A graph keeps the rule exactly when none of its nodes breaks it. -/
theorem Coherent.keepsRule_iff (h : Coherent g) :
    g.KeepsRule ↔ ∀ n, g.hasNode n → ∀ cause, ¬g.Breaks n cause := by
  constructor
  · rintro hrule n - cause (⟨hkind, z, hz, rfl⟩ | ⟨hkind, z, hz, rfl⟩)
    · exact (hrule z hz).1 hkind
    · exact (hrule z hz).2 hkind
  · intro hnone z hz
    obtain ⟨e, he⟩ := mem_table.1 hz
    obtain ⟨hs, ht⟩ := h.ends e z he
    exact ⟨fun hkind => hnone _ ht _ (.entry hkind ⟨z, hz, rfl⟩),
      fun hkind => hnone _ hs _ (.exit hkind ⟨z, hz, rfl⟩)⟩

/-! ## The check of a graph -/

theorem validate_eq_ok_iff :
    g.validate = .ok () ↔ g.nodes.toList.findSome? violation? = none := by
  rw [validate]
  cases g.nodes.toList.findSome? violation? <;> simp

theorem validate_eq_error_iff :
    g.validate = .error cause ↔ g.nodes.toList.findSome? violation? = some cause := by
  rw [validate]
  cases g.nodes.toList.findSome? violation? <;> simp

/-- **The check decides the rule on entries and exits by the edges of the graph**, and names the
node of smallest number that breaks it. -/
theorem validate_decides_rule (h : Reachable g) :
    (g.validate = .ok () ↔ g.KeepsRule) ∧
      ∀ cause, g.validate = .error cause ↔ ∃ n, g.hasNode n ∧ g.Breaks n cause ∧
        ∀ m, m.index < n.index → ∀ cause', ¬g.Breaks m cause' := by
  have hg := coherent_of_reachable h
  have hnone : ∀ n, violation? (g.node n) = none ↔ ∀ cause, ¬g.Breaks n cause := fun n => by
    simp only [Option.eq_none_iff_forall_ne_some, Ne, hg.violation?_eq_some_iff]
  constructor
  · rw [validate_eq_ok_iff, hg.keepsRule_iff, List.findSome?_eq_none_iff]
    simp only [← hnone, mem_nodes_iff, forall_exists_index, and_imp]
    exact ⟨fun hall n hn => hall _ n hn rfl, fun hall _ n hn hx => hx ▸ hall n hn⟩
  · intro cause
    rw [validate_eq_error_iff, findSome?_nodes_eq_some_iff]
    simp only [hnone, hg.violation?_eq_some_iff]

/-- A block of the graph below. -/
def ruleBlock (tag : UInt64) (kind : NodeKind) : Node :=
  { key := .block ⟨1⟩ tag 0, hash := 5, kind, unit := ⟨1⟩ }

/-- Block 1 is an exit and leads to the other two blocks, to the first one by a call continuation
that has become direct.  Block 2 is an entry, and both other blocks lead to it. -/
def leavingExit : Graph :=
  let g₀ := empty.withNode (ruleBlock 0 .normal)
  let blocks := (g₀.withNode (ruleBlock 1 .clusterExit)).withNode (ruleBlock 2 .processEntry)
  let g₁ := (Request.edge ⟨1⟩ ⟨0⟩ .callContinuation 0).apply blocks
  let g₂ := (Request.edge ⟨1⟩ ⟨2⟩ .direct 0).apply g₁
  let g₃ := (Request.edge ⟨1⟩ ⟨0⟩ .direct 0).apply g₂
  (Request.edge ⟨0⟩ ⟨2⟩ .direct 0).apply g₃

theorem reachable_leavingExit : Reachable leavingExit := by
  have h₁ : Reachable (empty.withNode (ruleBlock 0 .normal)) := reachable_withNode rfl
  have h₂ := h₁.withNode (x := ruleBlock 1 .clusterExit) rfl
    (by simp [find?_withNode, find?_empty, ruleBlock])
  have h₃ := h₂.withNode (x := ruleBlock 2 .processEntry) rfl
    (by simp [find?_withNode, find?_empty, ruleBlock])
  have h₄ := h₃.step (r := .edge ⟨1⟩ ⟨0⟩ .callContinuation 0) (by decide +kernel)
  have h₅ := h₄.step (r := .edge ⟨1⟩ ⟨2⟩ .direct 0) (by decide +kernel)
  have h₆ := h₅.step (r := .edge ⟨1⟩ ⟨0⟩ .direct 0) (by decide +kernel)
  exact h₆.step (r := .edge ⟨0⟩ ⟨2⟩ .direct 0) (by decide +kernel)

/-- The exit is named, with both of its edges, although the entry breaks the rule as well. -/
theorem validate_decides_rule_leavingExit :
    Reachable leavingExit ∧ ¬leavingExit.KeepsRule ∧
      leavingExit.validate = .error (.exitHasOutgoing (.block ⟨1⟩ 1 0) .clusterExit 2) ∧
      ∃ n, leavingExit.hasNode n ∧
        leavingExit.Breaks n (.exitHasOutgoing (.block ⟨1⟩ 1 0) .clusterExit 2) ∧
        ∀ m, m.index < n.index → ∀ cause, ¬leavingExit.Breaks m cause := by
  have h := reachable_leavingExit
  have herror : leavingExit.validate =
      .error (.exitHasOutgoing (.block ⟨1⟩ 1 0) .clusterExit 2) := by decide +kernel
  refine ⟨h, fun hrule => ?_, herror, ((validate_decides_rule h).2 _).1 herror⟩
  cases herror.symm.trans ((validate_decides_rule h).1.2 hrule)

end Graph
end FlowAtlas
