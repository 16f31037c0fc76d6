import Mathlib.Logic.Function.Basic
import FlowAtlas.Proofs.Graph.Buckets

/-!
# Edges by ordinal as an ordered map

Seen from outside, `OrdinalBuckets` is a map from ordinals to a kind and the edges of that kind, in
the order in which they were taken.  `OrdinalTable` is that map by itself: `OrdinalTable.answer`
says what becomes of an edge, and `OrdinalTable.append` what the map is afterwards, without any word
on how buckets are kept.

`insertAll_refines_ordinalTable` is the main theorem.  After any calls, from no edge on, the buckets
show the map that the accepted calls make (`OrdinalBuckets.Shows`), and one more call is answered as
the map says.  A call keeps the order of the buckets and does to their map what `append` does
(`table_after`); the induction over the calls is `shows_insertAll`.
-/

set_option autoImplicit false

namespace FlowAtlas

/-! ## The map -/

/-- The kind of the edges of each ordinal in use, and these edges as they came. -/
abbrev OrdinalTable := UInt8 → Option (EdgeKind × List EdgeId)

namespace OrdinalTable

/-- The edges of an ordinal, none when it is not in use. -/
def edgesAt (T : OrdinalTable) (o : UInt8) : List EdgeId := ((T o).map (·.2)).getD []

/-- What becomes of an edge: another kind at its ordinal is an error, and the flag tells whether the
edge is new there. -/
def answer (T : OrdinalTable) (o : UInt8) (k : EdgeKind) (id : EdgeId) :
    Except AdjacencyError Bool :=
  match T o with
  | none => .ok true
  | some (found, ids) => if found = k then .ok (id ∉ ids) else .error (.mixedOrdinal o found k)

/-- Put an edge behind those of its ordinal, which is opened with the given kind when not in use. -/
def append (T : OrdinalTable) (o : UInt8) (k : EdgeKind) (id : EdgeId) : OrdinalTable :=
  Function.update T o (some (((T o).map (·.1)).getD k, T.edgesAt o ++ [id]))

end OrdinalTable

/-- A request to take an edge. -/
structure OrdinalCall where
  ordinal : UInt8
  kind : EdgeKind
  id : EdgeId
  deriving DecidableEq, Repr

/-- The map after a request: only an edge that is new changes it. -/
def OrdinalTable.after (T : OrdinalTable) (c : OrdinalCall) : OrdinalTable :=
  match T.answer c.ordinal c.kind c.id with
  | .ok true => T.append c.ordinal c.kind c.id
  | _ => T

namespace OrdinalBuckets

variable {l l' : OrdinalBuckets} {o : UInt8} {k : EdgeKind} {id : EdgeId} {T : OrdinalTable}
  {bs : List Bucket}

/-- The buckets after a request, which leaves them alone when it fails. -/
def after (l : OrdinalBuckets) (c : OrdinalCall) : OrdinalBuckets :=
  match l.insert c.ordinal c.kind c.id with
  | .ok (_, l') => l'
  | .error _ => l

/-- The buckets after requests, one after the other. -/
def insertAll (cs : List OrdinalCall) (l : OrdinalBuckets) : OrdinalBuckets := cs.foldl after l

/-- The map that the buckets are. -/
def table (l : OrdinalBuckets) : OrdinalTable :=
  fun o => (l.kindAt? o).map fun k => (k, (l.edgesAt o).toList)

/-! ## What is seen of the map -/

/-- All that is seen of the buckets is what the map says. -/
structure Shows (l : OrdinalBuckets) (T : OrdinalTable) : Prop where
  /-- The ordinals in use are told in ascending order, and each one once. -/
  ascending : l.partitions.Pairwise fun p q => p.1 < q.1
  mem_partitions : ∀ o k, (o, k) ∈ l.partitions ↔ ∃ ids, T o = some (k, ids)
  edgesAt_eq : ∀ o, (l.edgesAt o).toList = T.edgesAt o
  /-- All edges are the edges of the ordinals in use, one ordinal after the other. -/
  toList_eq : l.toList = l.partitions.flatMap fun p => T.edgesAt p.1
  size_eq : l.size = l.toList.length
  lt_ordinalCount : ∀ o, T o ≠ none → o.toNat < l.ordinalCount
  ordinalCount_eq : l.ordinalCount = 0 ∨ ∃ o, T o ≠ none ∧ l.ordinalCount = o.toNat + 1

theorem table_empty : table empty = fun _ => none := by
  funext o
  rw [table, empty, kindAt?_empty, Option.map_none]

theorem edgesAt_table (l : OrdinalBuckets) (o : UInt8) :
    l.table.edgesAt o = (l.edgesAt o).toList := by
  rw [OrdinalTable.edgesAt, table, edgesAt, kindAt?]
  cases l.search o with
  | ok place => rfl
  | error place => rfl

theorem partitions_layout (bs : List Bucket) :
    (layout bs).partitions = bs.map fun b => (b.ordinal, b.kind) := by
  have hparts : ∀ start, (partsFrom start bs).map (fun part => (part.ordinal, part.kind)) =
      bs.map fun b => (b.ordinal, b.kind) := by
    induction bs with
    | nil => exact fun _ => rfl
    | cons b rest ih => exact fun start => congrArg _ (ih _)
  exact hparts 0

/-- The ordinal of the last partition is the largest. -/
theorem ordinalCount_eq (l : OrdinalBuckets) :
    l.ordinalCount = match l.partitions.getLast? with
      | some p => p.1.toNat + 1
      | none => 0 := by
  rw [ordinalCount, partitions, List.getLast?_map, Array.getLast?_toList]
  cases l.parts.back? with
  | some part => rfl
  | none => rfl

theorem table_layout (h : Bucket.Ascending bs) (o : UInt8) :
    (layout bs).table o = (Bucket.ofOrdinal? bs o).map fun b => (b.kind, b.edges.toList) := by
  rw [table, kindAt?_layout h, edgesAt_layout h]
  cases Bucket.ofOrdinal? bs o with
  | some b => rfl
  | none => rfl

/-- An ordinal has a place in the map just when it is among those in use. -/
theorem Ordered.mem_partitions (h : Ordered l) :
    (o, k) ∈ l.partitions ↔ ∃ ids, l.table o = some (k, ids) := by
  obtain ⟨bs, hbs, rfl⟩ := h.exists_layout
  simp only [partitions_layout, table_layout hbs, List.mem_map, Prod.mk.injEq,
    Option.map_eq_some_iff, Bucket.ofOrdinal?_eq_some_iff hbs]
  constructor
  · rintro ⟨b, hb, rfl, rfl⟩
    exact ⟨_, b, ⟨hb, rfl⟩, rfl, rfl⟩
  · rintro ⟨_, b, ⟨hb, ho⟩, hk, -⟩
    exact ⟨b, hb, ho, hk⟩

theorem Ordered.table_ne_none_iff (h : Ordered l) :
    l.table o ≠ none ↔ ∃ k, (o, k) ∈ l.partitions := by
  simp only [h.mem_partitions, Option.ne_none_iff_exists', Prod.exists]

theorem ordinal_le_getLast {ps : List (UInt8 × EdgeKind)} (h : ps.Pairwise fun p q => p.1 < q.1)
    {p last : UInt8 × EdgeKind} (hlast : ps.getLast? = some last) (hp : p ∈ ps) :
    p.1.toNat ≤ last.1.toNat := by
  obtain ⟨front, hfront⟩ := List.getLast?_eq_some_iff.1 hlast
  rw [hfront, List.pairwise_append] at h
  rw [hfront, List.mem_append, List.mem_singleton] at hp
  rcases hp with hp | rfl
  · exact Nat.le_of_lt (UInt8.lt_iff_toNat_lt.1 (h.2.2 p hp last (List.mem_singleton_self last)))
  · exact Nat.le_refl _

theorem Ordered.ascending_partitions (h : Ordered l) :
    l.partitions.Pairwise fun p q => p.1 < q.1 := by
  obtain ⟨bs, hbs, rfl⟩ := h.exists_layout
  rw [partitions_layout]
  exact List.pairwise_map.2 hbs

/-- Buckets that stand in order show the map that they are. -/
theorem Ordered.shows (h : Ordered l) : l.Shows l.table where
  ascending := h.ascending_partitions
  mem_partitions _ _ := h.mem_partitions
  edgesAt_eq o := (edgesAt_table l o).symm
  toList_eq := by
    obtain ⟨bs, hbs, rfl⟩ := h.exists_layout
    simp only [partitions_layout, List.flatMap_map, edgesAt_table, edgesAt_layout hbs]
    show Bucket.allEdges bs = _
    rw [Bucket.allEdges, List.flatMap_def, List.flatMap_def]
    refine congrArg List.flatten (List.map_congr_left fun b hb => ?_)
    rw [(Bucket.ofOrdinal?_eq_some_iff hbs).2 ⟨hb, rfl⟩]
    rfl
  size_eq := size_eq_length l
  lt_ordinalCount o ho := by
    obtain ⟨k, hk⟩ := h.table_ne_none_iff.1 ho
    rw [ordinalCount_eq]
    cases hlast : l.partitions.getLast? with
    | none =>
      rw [List.getLast?_eq_none_iff.1 hlast] at hk
      cases hk
    | some last => exact Nat.lt_succ_of_le (ordinal_le_getLast h.ascending_partitions hlast hk)
  ordinalCount_eq := by
    rw [OrdinalBuckets.ordinalCount_eq]
    cases hlast : l.partitions.getLast? with
    | none => exact .inl rfl
    | some last =>
      exact .inr ⟨last.1, h.table_ne_none_iff.2 ⟨last.2, List.mem_of_getLast? hlast⟩, rfl⟩

/-! ## One request -/

/-- Placing an edge puts it behind those of its ordinal. -/
theorem table_place (h : Ordered l) : (l.place o k id).table = l.table.append o k id := by
  funext o'
  rw [table, kindAt?_place h, edgesAt_place h, OrdinalTable.append, Function.update_apply,
    edgesAt_table]
  by_cases ho : o = o'
  · rw [if_pos ho, if_pos ho, if_pos ho.symm, table]
    cases l.kindAt? o with
    | none => simp
    | some found => simp
  · rw [if_neg ho, if_neg ho, if_neg (Ne.symm ho), table]

/-- A request is answered as the map says, and an edge that is new is placed. -/
theorem insert_eq_answer (l : OrdinalBuckets) (o : UInt8) (k : EdgeKind) (id : EdgeId) :
    l.insert o k id = (l.table.answer o k id).map fun isNew =>
      (isNew, if isNew then l.place o k id else l) := by
  rw [insert, check, place, OrdinalTable.answer, table, kindAt?, edgesAt]
  cases l.search o with
  | error place => simp [Except.map, bind, Except.bind, pure, Except.pure]
  | ok place =>
    by_cases hk : (l.part place).kind = k
    · by_cases hid : id ∈ l.slice (l.part place)
      · simp [hk, hid, Except.map, bind, Except.bind, pure, Except.pure]
      · simp [hk, hid, Except.map, bind, Except.bind, pure, Except.pure]
    · simp [hk, Except.map, bind, Except.bind]

theorem after_eq (l : OrdinalBuckets) (c : OrdinalCall) :
    l.after c = match l.table.answer c.ordinal c.kind c.id with
      | .ok true => l.place c.ordinal c.kind c.id
      | _ => l := by
  rw [after, insert_eq_answer]
  match l.table.answer c.ordinal c.kind c.id with
  | .ok true => rfl
  | .ok false => rfl
  | .error _ => rfl

theorem Ordered.after (h : Ordered l) (c : OrdinalCall) : Ordered (l.after c) := by
  rw [after_eq]
  split
  · exact ordered_place h
  · exact h

theorem table_after (h : Ordered l) (c : OrdinalCall) : (l.after c).table = l.table.after c := by
  rw [after_eq, OrdinalTable.after]
  split
  · exact table_place h
  · rfl

/-! ## Any number of requests -/

theorem shows_insertAll (h : Ordered l) (cs : List OrdinalCall) :
    Ordered (insertAll cs l) ∧ (insertAll cs l).table = cs.foldl OrdinalTable.after l.table := by
  induction cs generalizing l with
  | nil => exact ⟨h, rfl⟩
  | cons c cs ih =>
    obtain ⟨hordered, htable⟩ := ih (h.after c)
    rw [table_after h] at htable
    exact ⟨hordered, htable⟩

/-- **The buckets are an ordered map.**  After any calls they show the map that the calls make,
which is empty at first.  One more call fails just when its ordinal is in use with another kind, and
then tells so; it changes nothing when its edge stands at the ordinal already; and else the edge
comes behind those of its ordinal. -/
theorem insertAll_refines_ordinalTable (cs : List OrdinalCall) :
    let l := insertAll cs empty
    let T := cs.foldl OrdinalTable.after fun _ => none
    l.Shows T ∧ ∀ o k id,
      match T o with
      | none => ∃ l', l.insert o k id = .ok (true, l') ∧ l'.Shows (T.append o k id)
      | some (found, ids) =>
        if found ≠ k then l.insert o k id = .error (.mixedOrdinal o found k)
        else if id ∈ ids then l.insert o k id = .ok (false, l)
        else ∃ l', l.insert o k id = .ok (true, l') ∧ l'.Shows (T.append o k id) := by
  intro l T
  obtain ⟨hordered, htable⟩ : Ordered l ∧ l.table = T := by
    have hrun := shows_insertAll (l := empty) ordered_empty cs
    rwa [table_empty] at hrun
  refine ⟨htable ▸ hordered.shows, fun o k id => ?_⟩
  have hplaced : Shows (l.place o k id) (T.append o k id) := by
    rw [← htable, ← table_place hordered]
    exact (ordered_place hordered).shows
  have hinsert := insert_eq_answer l o k id
  rw [htable, OrdinalTable.answer] at hinsert
  cases ho : T o with
  | none =>
    rw [ho] at hinsert
    exact ⟨_, hinsert, hplaced⟩
  | some bucket =>
    obtain ⟨found, ids⟩ := bucket
    rw [ho] at hinsert
    dsimp only at hinsert ⊢
    by_cases hk : found = k
    · rw [if_pos hk] at hinsert
      rw [if_neg (not_not.2 hk)]
      by_cases hid : id ∈ ids
      · rw [if_pos hid]
        simpa [hid, Except.map] using hinsert
      · rw [if_neg hid]
        exact ⟨_, by simpa [hid, Except.map] using hinsert, hplaced⟩
    · rw [if_neg hk] at hinsert
      rw [if_pos hk]
      exact hinsert

end OrdinalBuckets
end FlowAtlas
