import Mathlib.Logic.Function.Basic
import Mathlib.Data.List.Nodup
import FlowAtlas.Proofs.Graph.Buckets

/-!
# What a node keeps of the edges at it

A node's `Adjacency` repeats what the list of all edges says already.  Here the edges are a table
`E : EdgeMap`, and

* `OutgoingAt E n a` says that `a` keeps the edges of `E` that leave the node `n`, each where it
  belongs: a call continuation in its own place, every other edge in the bucket of its ordinal;
* `IncomingAt E n a` says that `a` keeps the edges of `E` that arrive at `n`.

`Accepts E n k o` is the rule by which an edge of kind `k` and ordinal `o` may join those that
leave `n`, in terms of the table alone.  `checkOutgoing_eq_ok_iff` says that the node decides by
that rule.  `OutgoingAt.add` and `OutgoingAt.erase` are the two ways in which the edges that leave a
node change; turning a call continuation into a direct edge is one after the other.
-/

set_option autoImplicit false

namespace FlowAtlas

/-! ## Edges by number -/

/-- Edges by number. -/
abbrev EdgeMap := EdgeId → Option Edge

namespace EdgeMap

variable {E : EdgeMap} {n a b : NodeId} {id e : EdgeId} {x y z : Edge}

/-- Edge number `e` is `x`, and it leaves `n`. -/
def Leaves (E : EdgeMap) (n : NodeId) (e : EdgeId) (x : Edge) : Prop :=
  E e = some x ∧ x.source = n

/-- Edge number `e` is `x`, and it arrives at `n`. -/
def Arrives (E : EdgeMap) (n : NodeId) (e : EdgeId) (x : Edge) : Prop :=
  E e = some x ∧ x.target = n

theorem update_eq_some_iff (hid : E id = none) :
    Function.update E id (some x) e = some y ↔ (e = id ∧ y = x) ∨ E e = some y := by
  by_cases he : e = id
  · rw [he, Function.update_self, hid, Option.some.injEq]
    exact ⟨fun h => Or.inl ⟨rfl, h.symm⟩, fun h => h.elim (fun h => h.2.symm) fun h => by cases h⟩
  · rw [Function.update_of_ne he]
    exact (or_iff_right fun h => he h.1).symm

theorem leaves_update (hid : E id = none) :
    Leaves (Function.update E id (some x)) n e y ↔
      (e = id ∧ y = x ∧ x.source = n) ∨ Leaves E n e y := by
  rw [Leaves, update_eq_some_iff hid, or_and_right, Leaves, and_assoc]
  exact or_congr_left (and_congr_right fun _ => and_congr_right fun h => by rw [h])

theorem arrives_update (hid : E id = none) :
    Arrives (Function.update E id (some x)) n e y ↔
      (e = id ∧ y = x ∧ x.target = n) ∨ Arrives E n e y := by
  rw [Arrives, update_eq_some_iff hid, or_and_right, Arrives, and_assoc]
  exact or_congr_left (and_congr_right fun _ => and_congr_right fun h => by rw [h])

theorem leaves_erase : Leaves (Function.update E id none) n e y ↔ Leaves E n e y ∧ e ≠ id := by
  rw [Leaves]
  by_cases he : e = id
  · rw [he, Function.update_self]
    exact iff_of_false (fun h => by cases h.1) fun h => h.2 rfl
  · rw [Function.update_of_ne he]
    exact (and_iff_left he).symm

/-- An edge in the place of another one that has the same ends changes no ends. -/
theorem ends_update (hid : E id = some z) (hs : x.source = z.source) (ht : x.target = z.target) :
    (∃ y, Function.update E id (some x) e = some y ∧ y.source = a ∧ y.target = b) ↔
      ∃ y, E e = some y ∧ y.source = a ∧ y.target = b := by
  by_cases he : e = id
  · rw [he, Function.update_self, hid]
    constructor
    · rintro ⟨y, hy, rfl, rfl⟩
      cases hy
      exact ⟨z, rfl, hs.symm, ht.symm⟩
    · rintro ⟨y, hy, rfl, rfl⟩
      cases hy
      exact ⟨x, rfl, hs, ht⟩
  · rw [Function.update_of_ne he]

end EdgeMap

open EdgeMap

/-- An edge of kind `k` and ordinal `o` may leave `n`: a call continuation when there is none yet,
any other edge when those of its ordinal have its kind. -/
def Accepts (E : EdgeMap) (n : NodeId) (k : EdgeKind) (o : UInt8) : Prop :=
  ∀ e x, E.Leaves n e x →
    if k = .callContinuation then x.kind ≠ .callContinuation
    else x.kind ≠ .callContinuation → x.ordinal = o → x.kind = k

namespace Adjacency

variable {E E' : EdgeMap} {n : NodeId} {a a' : Adjacency} {id e : EdgeId} {x : Edge}
  {k : EdgeKind} {o : UInt8}

/-- The edges of `E` that leave `n` are those that `a` keeps as leaving. -/
structure OutgoingAt (E : EdgeMap) (n : NodeId) (a : Adjacency) : Prop where
  ordered : a.buckets.Ordered
  /-- The bucket of an ordinal holds the edges of that ordinal, call continuations apart. -/
  mem_edgesAt : ∀ o e, e ∈ a.buckets.edgesAt o ↔
    ∃ x, E.Leaves n e x ∧ x.kind ≠ .callContinuation ∧ x.ordinal = o
  /-- A bucket is in use exactly when it holds an edge, and has the kind of all its edges. -/
  kindAt : ∀ o k, a.buckets.kindAt? o = some k ↔
    ∃ e x, E.Leaves n e x ∧ x.kind ≠ .callContinuation ∧ x.ordinal = o ∧ x.kind = k
  continuation : ∀ e, a.continuation = some e ↔
    ∃ x, E.Leaves n e x ∧ x.kind = .callContinuation
  nodup : a.outgoing.Nodup

/-- The edges of `E` that arrive at `n` are those that `a` keeps as arriving. -/
structure IncomingAt (E : EdgeMap) (n : NodeId) (a : Adjacency) : Prop where
  mem_incoming : ∀ e, e ∈ a.incoming ↔ ∃ x, E.Arrives n e x
  nodup : a.incoming.toList.Nodup

/-- The call continuation is counted like the other edges that leave. -/
theorem outgoingSize_eq (a : Adjacency) : a.outgoingSize = a.outgoing.length := by
  rw [outgoingSize, outgoing, List.length_append, OrdinalBuckets.size_eq_length]
  cases a.continuation with
  | none => rfl
  | some e => rfl

/-! ## Nodes without edges -/

theorem outgoingAt_empty (h : ∀ e x, ¬E.Leaves n e x) : OutgoingAt E n {} where
  ordered := OrdinalBuckets.ordered_empty
  mem_edgesAt o e := by
    rw [OrdinalBuckets.edgesAt_empty]
    exact iff_of_false (Array.not_mem_empty e) fun ⟨x, hx, _⟩ => h e x hx
  kindAt o k := by
    rw [OrdinalBuckets.kindAt?_empty]
    exact iff_of_false nofun fun ⟨e, x, hx, _⟩ => h e x hx
  continuation e := iff_of_false (fun he => by cases he) fun ⟨x, hx, _⟩ => h e x hx
  nodup := List.nodup_nil

theorem incomingAt_empty (h : ∀ e x, ¬E.Arrives n e x) : IncomingAt E n {} where
  mem_incoming e := iff_of_false (Array.not_mem_empty e) fun ⟨x, hx⟩ => h e x hx
  nodup := List.nodup_nil

/-! ## Only the edges at the node matter -/

theorem OutgoingAt.congr (h : OutgoingAt E n a) (hE : ∀ e x, E'.Leaves n e x ↔ E.Leaves n e x) :
    OutgoingAt E' n a where
  ordered := h.ordered
  mem_edgesAt o e := by simp only [hE]; exact h.mem_edgesAt o e
  kindAt o k := by simp only [hE]; exact h.kindAt o k
  continuation e := by simp only [hE]; exact h.continuation e
  nodup := h.nodup

theorem IncomingAt.congr (h : IncomingAt E n a)
    (hE : ∀ e, (∃ x, E'.Arrives n e x) ↔ ∃ x, E.Arrives n e x) : IncomingAt E' n a where
  mem_incoming e := (h.mem_incoming e).trans (hE e).symm
  nodup := h.nodup

/-- The edges that leave a node do not show in what is kept of those that arrive. -/
theorem IncomingAt.of_incoming_eq (h : IncomingAt E n a) (ha : a'.incoming = a.incoming) :
    IncomingAt E n a' where
  mem_incoming e := by rw [ha]; exact h.mem_incoming e
  nodup := by rw [ha]; exact h.nodup

/-- The edges that arrive at a node do not show in what is kept of those that leave. -/
theorem OutgoingAt.addIncoming (h : OutgoingAt E n a) : OutgoingAt E n (a.addIncoming id) where
  ordered := h.ordered
  mem_edgesAt := h.mem_edgesAt
  kindAt := h.kindAt
  continuation := h.continuation
  nodup := h.nodup

/-! ## Arriving edges -/

theorem IncomingAt.add (h : IncomingAt E n a) (hid : E id = none) (hx : x.target = n) :
    IncomingAt (Function.update E id (some x)) n (a.addIncoming id) where
  mem_incoming e := by
    show e ∈ a.incoming.push id ↔ _
    rw [Array.mem_push, h.mem_incoming e, or_comm]
    simp only [arrives_update hid, exists_or]
    exact or_congr_left ⟨fun he => ⟨x, he, rfl, hx⟩, fun ⟨_, he, _⟩ => he⟩
  nodup := by
    show (a.incoming.push id).toList.Nodup
    rw [Array.toList_push, ← List.concat_eq_append]
    refine List.Nodup.concat (fun hmem => ?_) h.nodup
    obtain ⟨y, hy, -⟩ := (h.mem_incoming id).1 (Array.mem_toList_iff.1 hmem)
    rw [hid] at hy
    cases hy

/-! ## Leaving edges -/

/-- An edge is kept as leaving exactly when it leaves. -/
theorem OutgoingAt.mem_outgoing (h : OutgoingAt E n a) :
    e ∈ a.outgoing ↔ ∃ x, E.Leaves n e x := by
  rw [outgoing, List.mem_append, OrdinalBuckets.mem_toList h.ordered, Option.mem_toList,
    h.continuation e]
  constructor
  · rintro (⟨o, he⟩ | ⟨x, hx, -⟩)
    · obtain ⟨x, hx, -⟩ := (h.mem_edgesAt o e).1 he
      exact ⟨x, hx⟩
    · exact ⟨x, hx⟩
  · rintro ⟨x, hx⟩
    by_cases hk : x.kind = .callContinuation
    · exact Or.inr ⟨x, hx, hk⟩
    · exact Or.inl ⟨x.ordinal, (h.mem_edgesAt x.ordinal e).2 ⟨x, hx, hk, rfl⟩⟩

/-- The node takes an edge exactly when the rule admits it. -/
theorem OutgoingAt.checkOutgoing_eq_ok_iff (h : OutgoingAt E n a) :
    a.checkOutgoing k o = .ok () ↔ Accepts E n k o := by
  rw [checkOutgoing, Accepts]
  by_cases hk : k = .callContinuation
  · simp only [if_pos hk]
    cases hc : a.continuation with
    | none =>
      refine iff_of_true rfl fun e x hx hcc => ?_
      rw [(h.continuation e).2 ⟨x, hx, hcc⟩] at hc
      cases hc
    | some e =>
      obtain ⟨x, hx, hcc⟩ := (h.continuation e).1 hc
      exact iff_of_false (fun heq => by cases heq) fun hall => hall e x hx hcc
  · simp only [if_neg hk]
    rw [OrdinalBuckets.check_eq_ok_iff]
    constructor
    · intro hall e x hx hcc ho
      exact hall x.kind ((h.kindAt o x.kind).2 ⟨e, x, hx, hcc, ho, rfl⟩)
    · intro hall k' hk'
      obtain ⟨e, x, hx, hcc, ho, hxk⟩ := (h.kindAt o k').1 hk'
      exact hxk ▸ hall e x hx hcc ho

/-- The edges at a node after one more leaves it. -/
def withOutgoing (a : Adjacency) (id : EdgeId) (k : EdgeKind) (o : UInt8) : Adjacency :=
  if k = .callContinuation then { a with continuation := some id }
  else { a with buckets := a.buckets.place o k id }

@[simp] theorem withOutgoing_incoming : (a.withOutgoing id k o).incoming = a.incoming := by
  rw [withOutgoing]
  split <;> rfl

/-- Recording an edge that is new to the node succeeds once the check has passed. -/
theorem addOutgoing_eq_ok (hc : a.checkOutgoing k o = .ok ()) (hid : id ∉ a.buckets.edgesAt o) :
    a.addOutgoing id k o = .ok (a.withOutgoing id k o) := by
  rw [checkOutgoing] at hc
  rw [addOutgoing, withOutgoing]
  by_cases hk : k = .callContinuation
  · rw [if_pos hk] at hc
    rw [if_pos hk, if_pos hk]
    cases ha : a.continuation with
    | none => rfl
    | some e => simp [ha] at hc
  · rw [if_neg hk] at hc
    rw [if_neg hk, if_neg hk, OrdinalBuckets.insert_eq_ok hc hid]
    rfl

/-- An edge that is not in the table yet is not kept at any node. -/
theorem OutgoingAt.not_mem_outgoing (h : OutgoingAt E n a) (hid : E id = none) :
    id ∉ a.outgoing := by
  rw [h.mem_outgoing]
  rintro ⟨y, hy, -⟩
  cases hid.symm.trans hy

/-- A new call continuation is no edge of a bucket, and it is the only call continuation. -/
theorem OutgoingAt.addContinuation (h : OutgoingAt E n a) (hid : E id = none) (hx : x.source = n)
    (hk : x.kind = .callContinuation) (hnone : a.continuation = none) :
    OutgoingAt (Function.update E id (some x)) n { a with continuation := some id } := by
  have hb : ∀ e y, Leaves (Function.update E id (some x)) n e y ∧ y.kind ≠ .callContinuation ↔
      E.Leaves n e y ∧ y.kind ≠ .callContinuation := by
    intro e y
    rw [leaves_update hid, or_and_right]
    exact or_iff_right fun ⟨⟨_, hy, _⟩, hcc⟩ => hcc (hy ▸ hk)
  have hno : ∀ e y, ¬(E.Leaves n e y ∧ y.kind = .callContinuation) := by
    intro e y hy
    cases hnone.symm.trans ((h.continuation e).2 ⟨y, hy⟩)
  refine ⟨h.ordered, fun o e => ?_, fun o k => ?_, fun e => ?_, ?_⟩
  · refine (h.mem_edgesAt o e).trans ?_
    simp only [← and_assoc, hb]
  · refine (h.kindAt o k).trans ?_
    simp only [← and_assoc, hb]
  · simp only [leaves_update hid, or_and_right, hno, or_false]
    exact ⟨fun he => ⟨x, ⟨(Option.some.inj he).symm, rfl, hx⟩, hk⟩,
      fun ⟨_, ⟨he, _⟩, _⟩ => congrArg some he.symm⟩
  · have hnodup : (a.outgoing ++ [id]).Nodup :=
      List.nodup_append_comm.1 (List.nodup_cons.2 ⟨h.not_mem_outgoing hid, h.nodup⟩)
    rw [outgoing, hnone, Option.toList_none, List.append_nil] at hnodup
    exact hnodup

/-- A new edge of another kind joins the bucket of its ordinal, if it has the kind of the bucket. -/
theorem OutgoingAt.addToBucket (h : OutgoingAt E n a) (hid : E id = none) (hx : x.source = n)
    (hk : x.kind ≠ .callContinuation)
    (hkind : ∀ k, a.buckets.kindAt? x.ordinal = some k → k = x.kind) :
    OutgoingAt (Function.update E id (some x)) n
      { a with buckets := a.buckets.place x.ordinal x.kind id } := by
  refine ⟨OrdinalBuckets.ordered_place h.ordered, fun o e => ?_, fun o k => ?_, fun e => ?_, ?_⟩
  · rw [OrdinalBuckets.edgesAt_place h.ordered]
    simp only [leaves_update hid, or_and_right, exists_or]
    by_cases ho : x.ordinal = o
    · rw [if_pos ho, Array.mem_push, h.mem_edgesAt, ho, or_comm]
      exact or_congr_left ⟨fun he => ⟨x, ⟨he, rfl, hx⟩, hk, ho⟩, fun ⟨_, he, _⟩ => he.1⟩
    · rw [if_neg ho, h.mem_edgesAt]
      exact (or_iff_right fun ⟨_, he, _, ho'⟩ => ho (he.2.1 ▸ ho')).symm
  · rw [OrdinalBuckets.kindAt?_place h.ordered]
    simp only [leaves_update hid, or_and_right, exists_or]
    by_cases ho : x.ordinal = o
    · have hkept : (a.buckets.kindAt? x.ordinal).getD x.kind = x.kind := by
        cases ha : a.buckets.kindAt? x.ordinal with
        | none => rfl
        | some k' => exact hkind k' ha
      rw [if_pos ho, hkept, Option.some.injEq, ← h.kindAt, ← ho]
      constructor
      · exact fun hk' => Or.inl ⟨id, x, ⟨rfl, rfl, hx⟩, hk, rfl, hk'⟩
      · rintro (⟨e, y, ⟨-, hy, -⟩, -, -, hyk⟩ | hk')
        · exact hy ▸ hyk
        · exact (hkind k hk').symm
    · rw [if_neg ho, h.kindAt]
      exact (or_iff_right fun ⟨_, _, he, _, ho', _⟩ => ho (he.2.1 ▸ ho')).symm
  · simp only [leaves_update hid, or_and_right, exists_or]
    rw [h.continuation]
    exact (or_iff_right fun ⟨_, he, hcc⟩ => hk (he.2.1 ▸ hcc)).symm
  · have hperm : ((a.buckets.place x.ordinal x.kind id).toList ++ a.continuation.toList).Perm
        (id :: a.outgoing) :=
      (OrdinalBuckets.toList_place h.ordered).append_right _
    exact hperm.nodup_iff.2 (List.nodup_cons.2 ⟨h.not_mem_outgoing hid, h.nodup⟩)

/-- **A new edge that the rule admits is kept where it belongs.** -/
theorem OutgoingAt.add (h : OutgoingAt E n a) (hid : E id = none) (hx : x.source = n)
    (hacc : Accepts E n x.kind x.ordinal) :
    OutgoingAt (Function.update E id (some x)) n (a.withOutgoing id x.kind x.ordinal) := by
  have hcheck := h.checkOutgoing_eq_ok_iff.2 hacc
  rw [checkOutgoing] at hcheck
  rw [withOutgoing]
  by_cases hk : x.kind = .callContinuation
  · rw [if_pos hk] at hcheck ⊢
    cases ha : a.continuation with
    | none => exact h.addContinuation hid hx hk ha
    | some e => simp [ha] at hcheck
  · rw [if_neg hk] at hcheck ⊢
    exact h.addToBucket hid hx hk (OrdinalBuckets.check_eq_ok_iff.1 hcheck)

/-- The edges at a node without the call continuation. -/
def withoutContinuation (a : Adjacency) : Adjacency := { a with continuation := none }

theorem checkOutgoing_withoutContinuation (hk : k ≠ .callContinuation) :
    a.withoutContinuation.checkOutgoing k o = a.checkOutgoing k o := by
  rw [checkOutgoing, checkOutgoing, if_neg hk, if_neg hk]
  rfl

/-- A call continuation that is taken away leaves everything else in its place. -/
theorem OutgoingAt.erase (h : OutgoingAt E n a) (hx : E.Leaves n id x)
    (hk : x.kind = .callContinuation) :
    OutgoingAt (Function.update E id none) n a.withoutContinuation := by
  have hcont : a.continuation = some id := (h.continuation id).2 ⟨x, hx, hk⟩
  -- no other edge than `id` is a call continuation, so the buckets lose nothing
  have hb : ∀ e y, Leaves (Function.update E id none) n e y ∧ y.kind ≠ .callContinuation ↔
      E.Leaves n e y ∧ y.kind ≠ .callContinuation := by
    intro e y
    rw [leaves_erase, and_assoc, and_congr_right_iff]
    refine fun hy => and_iff_right_of_imp fun hcc he => hcc ?_
    rw [Option.some.inj (hy.1.symm.trans (he ▸ hx.1))]
    exact hk
  refine ⟨h.ordered, fun o e => ?_, fun o k => ?_, fun e => ?_, ?_⟩
  · refine (h.mem_edgesAt o e).trans ?_
    simp only [← and_assoc, hb]
  · refine (h.kindAt o k).trans ?_
    simp only [← and_assoc, hb]
  · refine iff_of_false (fun he => by cases he) fun ⟨y, hy, hcc⟩ => ?_
    rw [leaves_erase] at hy
    have := (h.continuation e).2 ⟨y, hy.1, hcc⟩
    rw [hcont] at this
    exact hy.2 (Option.some.inj this).symm
  · show (a.buckets.toList ++ []).Nodup
    rw [List.append_nil]
    exact h.nodup.of_append_left

end Adjacency
end FlowAtlas
