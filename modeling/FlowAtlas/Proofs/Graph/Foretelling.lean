import Mathlib.Data.List.Induction
import FlowAtlas.Proofs.Graph.Adjacency
import FlowAtlas.Proofs.Graph.OrdinalTable

/-!
# What the check of a new edge foretells

`Graph.addEdge` stores an edge before it records it at its ends, and relies on
`Adjacency.checkOutgoing` to foretell whether its source will take it.  Here the edges at one node
grow by calls of their own, with no graph around them.

`addOutgoing_of_new` is why the check can be relied on: recording an edge that does not leave the
node yet gives the answer of the check.  An edge that leaves already is another matter, as recording
it again may succeed where the check refuses; when calls do not contradict each other
(`Unambiguous`), recording it again changes nothing (`Told.after_of_mem`).

* `Adjacency.Tidy` is the invariant of such calls: buckets ascend, and the call continuation is in
  none of them.  `Adjacency.Arranged` is what is seen of it.
* `checkOutgoing_foretells` is the main theorem, on every node that such calls lead to.
-/

set_option autoImplicit false

namespace FlowAtlas

/-! ## Calls -/

/-- A call that records an edge at a node. -/
inductive AdjacencyCall
  | incoming (id : EdgeId)
  | outgoing (id : EdgeId) (kind : EdgeKind) (ordinal : UInt8)
  deriving DecidableEq, Repr

/-- If both calls record the same leaving edge, they give it the same kind and ordinal. -/
def AdjacencyCall.Agrees : AdjacencyCall → AdjacencyCall → Prop
  | outgoing id k o, outgoing id' k' o' => id = id' → k = k' ∧ o = o'
  | _, _ => True

instance : DecidableRel AdjacencyCall.Agrees
  | .outgoing id k o, .outgoing id' k' o' =>
    inferInstanceAs (Decidable (id = id' → k = k' ∧ o = o'))
  | .outgoing .., .incoming _ => .isTrue trivial
  | .incoming _, .outgoing .. => .isTrue trivial
  | .incoming _, .incoming _ => .isTrue trivial

/-- No leaving edge is given two kinds or two ordinals. -/
def Unambiguous (cs : List AdjacencyCall) : Prop :=
  ∀ c ∈ cs, ∀ d ∈ cs, c.Agrees d

instance (cs : List AdjacencyCall) : Decidable (Unambiguous cs) :=
  inferInstanceAs (Decidable (∀ c ∈ cs, ∀ d ∈ cs, c.Agrees d))

namespace Adjacency

variable {a a' : Adjacency} {cs : List AdjacencyCall} {id e : EdgeId} {k : EdgeKind} {o : UInt8}

/-- The edges at the node after a call, which leaves them alone when it fails. -/
def after (a : Adjacency) : AdjacencyCall → Adjacency
  | .incoming id => a.addIncoming id
  | .outgoing id k o =>
    match a.addOutgoing id k o with
    | .ok a' => a'
    | .error _ => a

/-- The edges at the node after calls, one after the other. -/
def addAll (a : Adjacency) (cs : List AdjacencyCall) : Adjacency := cs.foldl after a

/-- What is told of the edges that leave. -/
structure Arranged (a : Adjacency) : Prop where
  ascending : a.buckets.partitions.Pairwise fun p q => p.1 < q.1
  /-- All edges are those of the ordinals in use, one ordinal after the other, and at the end the
  call continuation. -/
  outgoing_eq : a.outgoing =
    (a.buckets.partitions.flatMap fun p => (a.buckets.edgesAt p.1).toList) ++
      a.continuation.toList
  outgoingSize_eq : a.outgoingSize = a.outgoing.length
  /-- The call continuation is told at no ordinal. -/
  continuation_not_mem : ∀ e, a.continuation = some e → ∀ o, e ∉ a.buckets.edgesAt o

/-- The edges that leave are those of before, in their order, and one more among them. -/
def Gains (a a' : Adjacency) (id : EdgeId) : Prop :=
  ∃ front back, a.outgoing = front ++ back ∧ a'.outgoing = front ++ id :: back

/-- What becomes of further edges at the node. -/
structure Foretells (a : Adjacency) : Prop where
  /-- An edge that does not leave yet is taken just when the check passes. -/
  ok_iff : ∀ id k o, id ∉ a.outgoing →
    (a.checkOutgoing k o = .ok () ↔ ∃ a', a.addOutgoing id k o = .ok a')
  /-- Otherwise it is refused for the cause that the check gives. -/
  error_iff : ∀ id k o cause, id ∉ a.outgoing →
    (a.checkOutgoing k o = .error cause ↔ a.addOutgoing id k o = .error cause)
  gains : ∀ id k o a', id ∉ a.outgoing → a.addOutgoing id k o = .ok a' →
    Gains a a' id ∧ Arranged a'
  after_of_error : ∀ id k o cause, a.addOutgoing id k o = .error cause →
    a.after (.outgoing id k o) = a
  /-- What leaves does not show in what arrives. -/
  incoming_after : ∀ id k o, (a.after (.outgoing id k o)).incoming = a.incoming
  /-- What arrives does not show in what leaves. -/
  outgoing_after : ∀ id, (a.after (.incoming id)).buckets = a.buckets ∧
    (a.after (.incoming id)).continuation = a.continuation

/-! ## The check and the record -/

/-- Buckets ascend, and the call continuation is in none of them. -/
structure Tidy (a : Adjacency) : Prop where
  ordered : a.buckets.Ordered
  apart : ∀ e, a.continuation = some e → ∀ o, e ∉ a.buckets.edgesAt o

theorem tidy_empty : Tidy {} where
  ordered := OrdinalBuckets.ordered_empty
  apart := nofun

theorem Tidy.arranged (h : Tidy a) : Arranged a where
  ascending := h.ordered.shows.ascending
  outgoing_eq := by
    rw [outgoing, h.ordered.shows.toList_eq]
    simp only [h.ordered.shows.edgesAt_eq]
  outgoingSize_eq := outgoingSize_eq a
  continuation_not_mem := h.apart

theorem Tidy.mem_outgoing (h : Tidy a) :
    e ∈ a.outgoing ↔ (∃ o, e ∈ a.buckets.edgesAt o) ∨ a.continuation = some e := by
  rw [outgoing, List.mem_append, OrdinalBuckets.mem_toList h.ordered, Option.mem_toList]

/-- **An edge that does not leave the node yet is taken just when the check passes**, and refused
for the same cause. -/
theorem Tidy.addOutgoing_of_new (h : Tidy a) (hid : id ∉ a.outgoing) (k : EdgeKind) (o : UInt8) :
    a.addOutgoing id k o = (a.checkOutgoing k o).map fun _ => a.withOutgoing id k o := by
  rw [h.mem_outgoing, not_or, not_exists] at hid
  obtain ⟨hbuckets, hcontinuation⟩ := hid
  cases hc : a.checkOutgoing k o with
  | ok _ => exact addOutgoing_eq_ok hc (hbuckets o)
  | error cause =>
    rw [checkOutgoing] at hc
    rw [addOutgoing]
    by_cases hk : k = .callContinuation
    · rw [if_pos hk] at hc ⊢
      cases ha : a.continuation with
      | none => simp [ha] at hc
      | some existing =>
        have hne : existing ≠ id := fun heq => hcontinuation (heq ▸ ha)
        rw [ha] at hc
        show (if existing = id then _ else _) = _
        rw [if_neg hne]
        cases hc
        rfl
    · rw [if_neg hk] at hc ⊢
      rw [OrdinalBuckets.insert, hc]
      rfl

/-- An edge that the check lets through comes to stand in one place among the others. -/
theorem Tidy.gains_withOutgoing (h : Tidy a) (hc : a.checkOutgoing k o = .ok ()) (id : EdgeId) :
    Gains a (a.withOutgoing id k o) id := by
  rw [Adjacency.withOutgoing]
  by_cases hk : k = .callContinuation
  · rw [checkOutgoing, if_pos hk] at hc
    rw [if_pos hk]
    cases ha : a.continuation with
    | none => exact ⟨a.buckets.toList, [], by simp [outgoing, ha], by simp [outgoing]⟩
    | some existing => simp [ha] at hc
  · obtain ⟨front, back, hold, hnew⟩ := OrdinalBuckets.exists_toList_place h.ordered o k id
    rw [if_neg hk]
    refine ⟨front, back ++ a.continuation.toList, ?_, ?_⟩
    · rw [outgoing, ← List.append_assoc, ← hold]
    · rw [outgoing, hnew, List.append_assoc, List.cons_append]

theorem Tidy.withOutgoing (h : Tidy a) (hid : id ∉ a.outgoing) (k : EdgeKind) (o : UInt8) :
    Tidy (a.withOutgoing id k o) := by
  rw [h.mem_outgoing, not_or, not_exists] at hid
  obtain ⟨hbuckets, hcontinuation⟩ := hid
  rw [Adjacency.withOutgoing]
  split
  · exact ⟨h.ordered, fun e he o' => Option.some.inj he ▸ hbuckets o'⟩
  · refine ⟨OrdinalBuckets.ordered_place h.ordered, fun e he o' => ?_⟩
    rw [OrdinalBuckets.edgesAt_place h.ordered]
    split
    · rw [Array.mem_push, not_or]
      exact ⟨h.apart e he o, fun heq => hcontinuation (heq ▸ he)⟩
    · exact h.apart e he o'

/-- What a call to record a new leaving edge does. -/
theorem Tidy.after_of_new (h : Tidy a) (hid : id ∉ a.outgoing) (k : EdgeKind) (o : UInt8) :
    a.after (.outgoing id k o) = a ∨ a.after (.outgoing id k o) = a.withOutgoing id k o := by
  rw [after, h.addOutgoing_of_new hid]
  cases a.checkOutgoing k o with
  | ok _ => exact Or.inr rfl
  | error _ => exact Or.inl rfl

theorem incoming_after_outgoing (a : Adjacency) (id : EdgeId) (k : EdgeKind) (o : UInt8) :
    (a.after (.outgoing id k o)).incoming = a.incoming := by
  rw [after, addOutgoing]
  by_cases hk : k = .callContinuation
  · rw [if_pos hk]
    cases a.continuation with
    | none => rfl
    | some existing => by_cases hid : existing = id <;> simp [hid]
  · rw [if_neg hk]
    cases a.buckets.insert o k id with
    | ok _ => rfl
    | error _ => rfl

/-! ## Runs of calls -/

/-- Every edge that leaves was told by a call, with the kind and ordinal under which it is kept. -/
structure Told (a : Adjacency) (cs : List AdjacencyCall) : Prop where
  edgesAt : ∀ o e, e ∈ a.buckets.edgesAt o →
    ∃ k, k ≠ .callContinuation ∧ .outgoing e k o ∈ cs
  continuation : ∀ e, a.continuation = some e → ∃ o, .outgoing e .callContinuation o ∈ cs

theorem told_empty : Told {} [] where
  edgesAt o e he := by
    rw [OrdinalBuckets.edgesAt_empty] at he
    exact absurd he (Array.not_mem_empty e)
  continuation := nofun

namespace Told

theorem append (h : Told a cs) (ds : List AdjacencyCall) : Told a (cs ++ ds) where
  edgesAt o e he :=
    let ⟨k, hk, hmem⟩ := h.edgesAt o e he
    ⟨k, hk, List.mem_append_left ds hmem⟩
  continuation e he :=
    let ⟨o, hmem⟩ := h.continuation e he
    ⟨o, List.mem_append_left ds hmem⟩

theorem withOutgoing (h : Told a cs) (ha : Tidy a) (id : EdgeId) (k : EdgeKind) (o : UInt8) :
    Told (a.withOutgoing id k o) (cs ++ [.outgoing id k o]) := by
  have hcs := h.append [.outgoing id k o]
  have hlast : .outgoing id k o ∈ cs ++ [.outgoing id k o] := by simp
  rw [Adjacency.withOutgoing]
  split
  · rename_i hk
    exact ⟨hcs.edgesAt, fun e he => ⟨o, Option.some.inj he ▸ hk ▸ hlast⟩⟩
  · rename_i hk
    refine ⟨fun o' e he => ?_, hcs.continuation⟩
    rw [OrdinalBuckets.edgesAt_place ha.ordered] at he
    split at he
    · rename_i ho
      subst ho
      rcases Array.mem_push.1 he with he | rfl
      · exact hcs.edgesAt o e he
      · exact ⟨k, hk, hlast⟩
    · exact hcs.edgesAt o' e he

/-- Recording an edge again changes nothing if it is told as before. -/
theorem after_of_mem (h : Told a cs) (ha : Tidy a)
    (hagree : ∀ c ∈ cs, c.Agrees (.outgoing id k o)) (hid : id ∈ a.outgoing) :
    a.after (.outgoing id k o) = a := by
  rw [after, addOutgoing]
  rcases ha.mem_outgoing.1 hid with ⟨o', hbucket⟩ | hcontinuation
  · obtain ⟨k', hk', hcall⟩ := h.edgesAt o' id hbucket
    obtain ⟨rfl, rfl⟩ := hagree _ hcall rfl
    rw [if_neg hk']
    cases hc : a.buckets.check o' k' with
    | ok _ =>
      rw [OrdinalBuckets.insert_of_mem hc hbucket]
      rfl
    | error _ =>
      rw [OrdinalBuckets.insert, hc]
      rfl
  · obtain ⟨o', hcall⟩ := h.continuation id hcontinuation
    obtain ⟨rfl, rfl⟩ := hagree _ hcall rfl
    simp [hcontinuation]

/-- A call that agrees with all calls before it keeps the edges tidy. -/
theorem after (h : Told a cs) (ha : Tidy a) {c : AdjacencyCall} (hagree : ∀ d ∈ cs, d.Agrees c) :
    Tidy (a.after c) ∧ Told (a.after c) (cs ++ [c]) := by
  cases c with
  | incoming id => exact ⟨⟨ha.ordered, ha.apart⟩, ⟨(h.append _).edgesAt, (h.append _).continuation⟩⟩
  | outgoing id k o =>
    by_cases hid : id ∈ a.outgoing
    · rw [h.after_of_mem ha hagree hid]
      exact ⟨ha, h.append _⟩
    · rcases ha.after_of_new hid k o with hsame | hnew
      · rw [hsame]
        exact ⟨ha, h.append _⟩
      · rw [hnew]
        exact ⟨ha.withOutgoing hid k o, h.withOutgoing ha id k o⟩

end Told

/-- The run lemma: the calls so far tell all that is kept. -/
theorem tidy_addAll (hcs : Unambiguous cs) :
    Tidy (addAll {} cs) ∧ Told (addAll {} cs) cs := by
  induction cs using List.reverseRecOn with
  | nil => exact ⟨tidy_empty, told_empty⟩
  | append_singleton cs c ih =>
    have hbefore : Unambiguous cs := fun d hd e he =>
      hcs d (List.mem_append_left _ hd) e (List.mem_append_left _ he)
    obtain ⟨htidy, htold⟩ := ih hbefore
    rw [addAll, List.foldl_append]
    exact htold.after htidy fun d hd => hcs d (List.mem_append_left _ hd) c (by simp)

theorem Tidy.foretells (h : Tidy a) : Foretells a where
  ok_iff id k o hid := by
    rw [h.addOutgoing_of_new hid]
    cases a.checkOutgoing k o with
    | ok _ => exact iff_of_true rfl ⟨_, rfl⟩
    | error _ => exact iff_of_false nofun nofun
  error_iff id k o cause hid := by
    rw [h.addOutgoing_of_new hid]
    cases a.checkOutgoing k o with
    | ok _ => exact iff_of_false nofun nofun
    | error _ => rw [Except.map, Except.error.injEq, Except.error.injEq]
  gains id k o a' hid ha' := by
    rw [h.addOutgoing_of_new hid] at ha'
    cases hc : a.checkOutgoing k o with
    | ok _ =>
      rw [hc] at ha'
      cases ha'
      exact ⟨h.gains_withOutgoing hc id, (h.withOutgoing hid k o).arranged⟩
    | error _ =>
      rw [hc] at ha'
      cases ha'
  after_of_error id k o cause herror := by rw [after, herror]
  incoming_after := incoming_after_outgoing a
  outgoing_after _ := ⟨rfl, rfl⟩

/-- **The check foretells what becomes of a new edge**, at every node that calls without
contradictions lead to. -/
theorem checkOutgoing_foretells (hcs : Unambiguous cs) :
    Arranged (addAll {} cs) ∧ Foretells (addAll {} cs) :=
  have h := (tidy_addAll hcs).1
  ⟨h.arranged, h.foretells⟩

/-- Two ordinals and a call continuation, two calls that are refused, and one that is repeated. -/
def crowdedCalls : List AdjacencyCall :=
  [.outgoing ⟨2⟩ .direct 7, .outgoing ⟨0⟩ .direct 0, .outgoing ⟨1⟩ .callContinuation 3,
    .incoming ⟨4⟩, .outgoing ⟨3⟩ .indirect 7, .outgoing ⟨5⟩ .callContinuation 0,
    .outgoing ⟨0⟩ .direct 0]

theorem checkOutgoing_foretells_crowded :
    Unambiguous crowdedCalls ∧ (addAll {} crowdedCalls).outgoing = [⟨0⟩, ⟨2⟩, ⟨1⟩] ∧
      Arranged (addAll {} crowdedCalls) ∧ Foretells (addAll {} crowdedCalls) :=
  have hcs : Unambiguous crowdedCalls := by decide
  ⟨hcs, by decide +kernel, checkOutgoing_foretells hcs⟩

end Adjacency
end FlowAtlas
