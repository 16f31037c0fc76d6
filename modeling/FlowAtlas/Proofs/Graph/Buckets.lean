import FlowAtlas.Graph.Adjacency

/-!
# Buckets in one array

`OrdinalBuckets` keeps the edges of all ordinals in one array and addresses them by places.  Here
this is shown to be no more than a way to write down a list of buckets: `OrdinalBuckets.layout`
writes such a list down, and `Ordered`, the invariant, says that the array and the partitions are
written down so and that the ordinals of the buckets ascend.

* `finds_search` is the search by halves, in terms of buckets: `Finds` says which of them stand
  before the place that is found, and which behind it.
* `shiftAfter_extend_layout` and `shiftAfter_openAt_layout` are the two ways in which an edge comes
  into the array.  Either way the result is the layout of the buckets one would expect, so that no
  bucket loses its place.
* `edgesAt_place`, `kindAt?_place` and `exists_toList_place` say what is seen of that, and
  `ordered_place` that the invariant is kept.
-/

set_option autoImplicit false

namespace FlowAtlas

/-! ## Around one place of a list -/

section Place

variable {α : Type} (xs ys : List α) (x : α) (f : α → α)

theorem insertIdx_length_append : (xs ++ ys).insertIdx xs.length x = xs ++ x :: ys := by
  induction xs with
  | nil => rfl
  | cons _ xs ih => rw [List.cons_append, List.length_cons, List.insertIdx_succ_cons, ih]; rfl

theorem modify_length_append_cons : (xs ++ x :: ys).modify xs.length f = xs ++ f x :: ys := by
  simp [List.modify_eq_take_drop]

theorem mapIdx_length_append_cons :
    (xs ++ x :: ys).mapIdx (fun i y => if xs.length < i then f y else y) =
      xs ++ x :: ys.map f := by
  have hbefore : xs.mapIdx (fun i y => if xs.length < i then f y else y) = xs :=
    List.ext_getElem List.length_mapIdx fun i _ hi => by simp [Nat.not_lt_of_lt hi]
  have hbehind : ys.mapIdx (fun _ y => f y) = ys.map f :=
    List.ext_getElem (by simp) fun i _ _ => by simp
  rw [List.mapIdx_append, hbefore, List.mapIdx_cons]
  simp [← hbehind]

/-- A list falls apart at each of its places. -/
theorem exists_eq_append_cons {i : Nat} (hi : i < xs.length) :
    ∃ front y back, xs = front ++ y :: back ∧ front.length = i :=
  ⟨xs.take i, xs[i], xs.drop (i + 1), by simp, List.length_take_of_le (Nat.le_of_lt hi)⟩

end Place

/-! ## Lists of buckets -/

namespace Bucket

variable {o o' : UInt8} {front back bs : List Bucket} {b : Bucket}

/-- Ordinals ascend strictly. -/
def Ascending (bs : List Bucket) : Prop := bs.Pairwise fun a b => a.ordinal < b.ordinal

/-- The bucket of an ordinal. -/
def ofOrdinal? (bs : List Bucket) (o : UInt8) : Option Bucket := bs.find? (·.ordinal == o)

/-- The bucket with an edge behind the others. -/
def push (b : Bucket) (id : EdgeId) : Bucket := { b with edges := b.edges.push id }

/-- The edges of all buckets. -/
def allEdges (bs : List Bucket) : List EdgeId := bs.flatMap (·.edges.toList)

theorem allEdges_cons (b : Bucket) (bs : List Bucket) :
    allEdges (b :: bs) = b.edges.toList ++ allEdges bs :=
  List.flatMap_cons

theorem allEdges_append (front back : List Bucket) :
    allEdges (front ++ back) = allEdges front ++ allEdges back :=
  List.flatMap_append

/-- One bucket more among ascending ones. -/
theorem ascending_insert (h : Ascending (front ++ back))
    (hfront : ∀ a ∈ front, a.ordinal < b.ordinal) (hback : ∀ a ∈ back, b.ordinal < a.ordinal) :
    Ascending (front ++ b :: back) := by
  obtain ⟨h₁, h₂, h₃⟩ := List.pairwise_append.1 h
  refine List.pairwise_append.2 ⟨h₁, List.pairwise_cons.2 ⟨hback, h₂⟩, fun a ha c hc => ?_⟩
  rcases List.mem_cons.1 hc with rfl | hc
  · exact hfront a ha
  · exact h₃ a ha c hc

/-- A bucket stands behind those of smaller ordinals, and before those of larger ones. -/
theorem Ascending.apart (h : Ascending (front ++ b :: back)) :
    (∀ a ∈ front, a.ordinal < b.ordinal) ∧ (∀ a ∈ back, b.ordinal < a.ordinal) ∧
      Ascending (front ++ back) := by
  obtain ⟨h₁, h₂, h₃⟩ := List.pairwise_append.1 h
  obtain ⟨hb, h₂⟩ := List.pairwise_cons.1 h₂
  exact ⟨fun a ha => h₃ a ha b List.mem_cons_self, hb, List.pairwise_append.2
    ⟨h₁, h₂, fun a ha c hc => h₃ a ha c (List.mem_cons_of_mem b hc)⟩⟩

theorem ofOrdinal?_of_ne (hne : b.ordinal ≠ o) :
    ofOrdinal? (front ++ b :: back) o = ofOrdinal? (front ++ back) o := by
  rw [ofOrdinal?, ofOrdinal?, List.find?_append, List.find?_append, List.find?_cons,
    beq_eq_false_iff_ne.2 hne]

/-- What stands before the bucket of an ordinal has smaller ordinals. -/
theorem ofOrdinal?_append_cons (hb : b.ordinal = o) (hfront : ∀ a ∈ front, a.ordinal < o) :
    ofOrdinal? (front ++ b :: back) o = some b := by
  have hnone : front.find? (·.ordinal == o) = none := by
    refine List.find?_eq_none.2 fun a ha heq => ?_
    exact UInt8.ne_of_lt (hfront a ha) (beq_iff_eq.1 heq)
  rw [ofOrdinal?, List.find?_append, hnone, List.find?_cons, beq_iff_eq.2 hb]
  rfl

theorem ofOrdinal?_eq_none (hfront : ∀ a ∈ front, a.ordinal < o)
    (hback : ∀ a ∈ back, o < a.ordinal) : ofOrdinal? (front ++ back) o = none := by
  refine List.find?_eq_none.2 fun a ha heq => ?_
  have ho : a.ordinal = o := beq_iff_eq.1 heq
  rcases List.mem_append.1 ha with ha | ha
  · exact UInt8.ne_of_lt (hfront a ha) ho
  · exact UInt8.ne_of_lt (hback a ha) ho.symm

/-- The bucket of an ordinal is the one that has it. -/
theorem ofOrdinal?_eq_some_iff (h : Ascending bs) :
    ofOrdinal? bs o = some b ↔ b ∈ bs ∧ b.ordinal = o := by
  constructor
  · intro hb
    have ho := List.find?_some (p := fun b : Bucket => b.ordinal == o) hb
    exact ⟨List.mem_of_find?_eq_some hb, beq_iff_eq.1 ho⟩
  · rintro ⟨hb, rfl⟩
    obtain ⟨front, back, rfl⟩ := List.append_of_mem hb
    exact ofOrdinal?_append_cons rfl h.apart.1

end Bucket

open Bucket

namespace OrdinalBuckets

variable {o o' : UInt8} {k : EdgeKind} {id e : EdgeId} {front back bs : List Bucket} {b : Bucket}
  {l : OrdinalBuckets}

/-! ## The layout of a list of buckets -/

/-- The partitions of buckets whose first edge stands at `start`. -/
def partsFrom (start : Nat) : List Bucket → List Partition
  | [] => []
  | b :: rest =>
    ⟨b.ordinal, b.kind, start, b.edges.size⟩ :: partsFrom (start + b.edges.size) rest

/-- The buckets one after the other in one array. -/
def layout (bs : List Bucket) : OrdinalBuckets where
  edges := (allEdges bs).toArray
  parts := (partsFrom 0 bs).toArray

theorem length_partsFrom (start : Nat) (bs : List Bucket) :
    (partsFrom start bs).length = bs.length := by
  induction bs generalizing start with
  | nil => rfl
  | cons b rest ih => rw [partsFrom, List.length_cons, ih, List.length_cons]

theorem partsFrom_append (start : Nat) (front back : List Bucket) :
    partsFrom start (front ++ back) =
      partsFrom start front ++ partsFrom (start + (allEdges front).length) back := by
  induction front generalizing start with
  | nil => rfl
  | cons b rest ih =>
    have hsize : b.edges.toList.length = b.edges.size := Array.length_toList
    rw [List.cons_append, partsFrom, ih, partsFrom, List.cons_append, allEdges_cons,
      List.length_append, hsize, Nat.add_assoc]

/-- Partitions that start one later. -/
theorem partsFrom_succ (start : Nat) (bs : List Bucket) : partsFrom (start + 1) bs =
    (partsFrom start bs).map fun part => { part with start := part.start + 1 } := by
  induction bs generalizing start with
  | nil => rfl
  | cons b rest ih => rw [partsFrom, partsFrom, List.map_cons, Nat.add_right_comm, ih]

theorem parts_layout_append_cons (front : List Bucket) (b : Bucket) (back : List Bucket) :
    partsFrom 0 (front ++ b :: back) = partsFrom 0 front ++
      ⟨b.ordinal, b.kind, (allEdges front).length, b.edges.size⟩ ::
        partsFrom ((allEdges front).length + b.edges.size) back := by
  rw [partsFrom_append, Nat.zero_add, partsFrom]

theorem size_parts_layout (bs : List Bucket) : (layout bs).parts.size = bs.length := by
  rw [layout, List.size_toArray, length_partsFrom]

theorem part_layout (front : List Bucket) (b : Bucket) (back : List Bucket) :
    (layout (front ++ b :: back)).part front.length =
      ⟨b.ordinal, b.kind, (allEdges front).length, b.edges.size⟩ := by
  rw [part, layout, parts_layout_append_cons, ← length_partsFrom 0 front]
  simp

/-- The edges of a bucket stand where its partition says. -/
theorem slice_layout (front : List Bucket) (b : Bucket) (back : List Bucket) :
    (layout (front ++ b :: back)).slice
      ⟨b.ordinal, b.kind, (allEdges front).length, b.edges.size⟩ = b.edges := by
  rw [slice, layout, Partition.stop, allEdges_append, allEdges_cons]
  simp [List.extract_eq_take_drop]

/-- The buckets can be read off again. -/
theorem buckets_layout (bs : List Bucket) : (layout bs).buckets = bs := by
  have hread : ∀ front back, bs = front ++ back → (partsFrom (allEdges front).length back).map
      (fun part => (⟨part.ordinal, part.kind, (layout bs).slice part⟩ : Bucket)) = back := by
    intro front back hbs
    induction back generalizing front with
    | nil => rfl
    | cons b rest ih =>
      have hrest := ih (front ++ [b]) (by rw [hbs, List.append_assoc, List.singleton_append])
      have hstart : (allEdges (front ++ [b])).length = (allEdges front).length + b.edges.size := by
        rw [allEdges_append, allEdges_cons]
        simp [allEdges]
      rw [hstart] at hrest
      rw [partsFrom, List.map_cons, hrest]
      dsimp only
      rw [hbs, slice_layout]
  exact hread [] bs rfl

/-! ## Searching -/

/-- What a search for `o` among buckets answers: the place of the bucket, or the place between those
of smaller and those of larger ordinals. -/
inductive Finds (o : UInt8) : List Bucket → Except Nat Nat → Prop
  | here {front back : List Bucket} {b : Bucket} : b.ordinal = o →
      (∀ a ∈ front, a.ordinal < o) → (∀ a ∈ back, o < a.ordinal) →
      Finds o (front ++ b :: back) (.ok front.length)
  | missing {front back : List Bucket} : (∀ a ∈ front, a.ordinal < o) →
      (∀ a ∈ back, o < a.ordinal) → Finds o (front ++ back) (.error front.length)

/-- A partition has the ordinal of the bucket at its place. -/
theorem exists_ordinal_part (bs : List Bucket) {i : Nat} (hi : i < bs.length) : ∃ front b back,
    bs = front ++ b :: back ∧ front.length = i ∧ ((layout bs).part i).ordinal = b.ordinal := by
  obtain ⟨front, b, back, rfl, rfl⟩ := exists_eq_append_cons bs hi
  exact ⟨front, b, back, rfl, rfl, by rw [part_layout]⟩

/-- The loop keeps that smaller ordinals stand before `lo` and larger ones from `hi` on. -/
theorem finds_searchFrom (h : Ascending bs) {lo hi : Nat} (hle : lo ≤ hi) (hhi : hi ≤ bs.length)
    (hlow : ∀ a ∈ bs.take lo, a.ordinal < o) (hhigh : ∀ a ∈ bs.drop hi, o < a.ordinal) :
    Finds o bs ((layout bs).searchFrom o lo hi) := by
  fun_induction searchFrom (layout bs) o lo hi with
  | case1 lo hi hlt middle found hfound =>
    obtain ⟨front, b, back, hbs, hlength, hb⟩ := exists_ordinal_part bs (i := middle) (by omega)
    have ho : b.ordinal = o := hb.symm.trans hfound
    obtain ⟨hfront, hback, -⟩ := Ascending.apart (hbs ▸ h)
    rw [hbs, ← hlength]
    exact .here ho (ho ▸ hfront) (ho ▸ hback)
  | case2 lo hi hlt middle found _ hsmaller ih =>
    obtain ⟨front, b, back, hbs, hlength, hb⟩ := exists_ordinal_part bs (i := middle) (by omega)
    have ho : b.ordinal < o := hb ▸ hsmaller
    -- all buckets up to the middle are smaller, so `lo` may pass it
    obtain ⟨hfront, -, -⟩ := Ascending.apart (hbs ▸ h)
    refine ih (by omega) hhi (fun a ha => ?_) hhigh
    rw [hbs, ← hlength, List.take_length_add_append] at ha
    have ha : a ∈ front ∨ a = b := by simpa using ha
    rcases ha with ha | rfl
    · exact UInt8.lt_trans (hfront a ha) ho
    · exact ho
  | case3 lo hi hlt middle found hne hnot ih =>
    obtain ⟨front, b, back, hbs, hlength, hb⟩ := exists_ordinal_part bs (i := middle) (by omega)
    have hlarger : o < found := UInt8.lt_of_le_of_ne (UInt8.not_lt.1 hnot) (Ne.symm hne)
    have ho : o < b.ordinal := hb ▸ hlarger
    -- all buckets from the middle on are larger, so `hi` may come down to it
    obtain ⟨-, hback, -⟩ := Ascending.apart (hbs ▸ h)
    refine ih (by omega) (by omega) hlow fun a ha => ?_
    rw [hbs, ← hlength] at ha
    have ha : a = b ∨ a ∈ back := by simpa using ha
    rcases ha with rfl | ha
    · exact ho
    · exact UInt8.lt_trans ho (hback a ha)
  | case4 lo hi hlt =>
    obtain rfl : lo = hi := Nat.le_antisymm hle (Nat.not_lt.1 hlt)
    have hfinds := Finds.missing hlow hhigh
    rwa [List.take_append_drop, List.length_take_of_le hhi] at hfinds

/-- An ordinal is found where it stands, or where it belongs. -/
theorem finds_search (h : Ascending bs) (o : UInt8) : Finds o bs ((layout bs).search o) := by
  rw [search, size_parts_layout]
  exact finds_searchFrom h (Nat.zero_le _) (Nat.le_refl _) (by simp) (by simp)

/-- Nothing is found where there is nothing. -/
theorem search_empty (o : UInt8) : search {} o = .error 0 := by
  rw [search, searchFrom]
  rfl

theorem edgesAt_empty (o : UInt8) : edgesAt {} o = #[] := by rw [edgesAt, search_empty]

theorem kindAt?_empty (o : UInt8) : kindAt? {} o = none := by rw [kindAt?, search_empty]

theorem edgesAt_layout (h : Ascending bs) (o : UInt8) :
    (layout bs).edgesAt o = ((ofOrdinal? bs o).map (·.edges)).getD #[] := by
  have hfinds := finds_search h o
  rw [edgesAt]
  generalize (layout bs).search o = found at hfinds ⊢
  cases hfinds with
  | here hb hfront _ =>
    rw [ofOrdinal?_append_cons hb hfront]
    dsimp only
    rw [part_layout, slice_layout]
    rfl
  | missing hfront hback =>
    rw [ofOrdinal?_eq_none hfront hback]
    rfl

theorem kindAt?_layout (h : Ascending bs) (o : UInt8) :
    (layout bs).kindAt? o = (ofOrdinal? bs o).map (·.kind) := by
  have hfinds := finds_search h o
  rw [kindAt?]
  generalize (layout bs).search o = found at hfinds ⊢
  cases hfinds with
  | here hb hfront _ =>
    rw [ofOrdinal?_append_cons hb hfront]
    dsimp only
    rw [part_layout]
    rfl
  | missing hfront hback =>
    rw [ofOrdinal?_eq_none hfront hback]
    rfl

/-! ## Adding an edge -/

/-- What stands behind the place is the layout of buckets of which the one at the place has an edge
more. -/
theorem shiftAfter_append_cons {edges : List EdgeId} {part : Partition} {before : List Partition}
    {start : Nat} (hbefore : before.length = front.length) :
    shiftAfter ⟨edges.toArray, (before ++ part :: partsFrom start back).toArray⟩ front.length =
      ⟨edges.toArray, (before ++ part :: partsFrom (start + 1) back).toArray⟩ := by
  rw [shiftAfter, List.mapIdx_toArray, ← hbefore, mapIdx_length_append_cons, partsFrom_succ]

/-- An edge that joins a bucket comes last there. -/
theorem shiftAfter_extend_layout (front : List Bucket) (b : Bucket) (back : List Bucket)
    (id : EdgeId) : ((layout (front ++ b :: back)).extend front.length id).shiftAfter front.length =
      layout (front ++ b.push id :: back) := by
  have hlength := length_partsFrom 0 front
  have hstop : (allEdges front).length + b.edges.size =
      (allEdges front ++ b.edges.toList).length := by simp
  have hedges : (allEdges (front ++ b :: back)).insertIdx
      (allEdges front ++ b.edges.toList).length id =
        allEdges (front ++ b.push id :: back) := by
    rw [allEdges_append, allEdges_cons, ← List.append_assoc, insertIdx_length_append,
      allEdges_append, allEdges_cons, push, Array.toList_push]
    simp
  have hparts : (partsFrom 0 (front ++ b :: back)).modify front.length
      (fun part => { part with size := part.size + 1 }) = partsFrom 0 front ++
        ⟨b.ordinal, b.kind, (allEdges front).length, b.edges.size + 1⟩ ::
          partsFrom ((allEdges front).length + b.edges.size) back := by
    rw [parts_layout_append_cons, ← hlength, modify_length_append_cons]
  rw [extend, part_layout, Partition.stop, hstop, layout, List.modify_toArray,
    List.insertIdxIfInBounds_toArray, hedges, hparts, shiftAfter_append_cons hlength, layout,
    parts_layout_append_cons, push, Array.size_push, Nat.add_assoc]

/-- The place where a partition starts is the end of the one before it. -/
theorem stop_part_layout (front back : List Bucket) :
    (if front.length = 0 then 0 else ((layout (front ++ back)).part (front.length - 1)).stop) =
      (allEdges front).length := by
  rcases List.eq_nil_or_concat front with rfl | ⟨init, last, rfl⟩
  · rfl
  · have hlength : (init ++ [last]).length - 1 = init.length := by simp
    rw [if_neg (by simp), List.concat_eq_append, hlength, List.append_assoc, List.singleton_append,
      part_layout, Partition.stop, allEdges_append, allEdges_cons]
    simp [allEdges]

/-- A bucket that is opened for an edge holds that edge and no other. -/
theorem shiftAfter_openAt_layout (front back : List Bucket) (o : UInt8) (k : EdgeKind)
    (id : EdgeId) :
    ((layout (front ++ back)).openAt front.length o k id).shiftAfter front.length =
      layout (front ++ push ⟨o, k, #[]⟩ id :: back) := by
  have hlength := length_partsFrom 0 front
  have hedges : (allEdges (front ++ back)).insertIdx (allEdges front).length id =
      allEdges (front ++ push ⟨o, k, #[]⟩ id :: back) := by
    rw [allEdges_append, insertIdx_length_append, allEdges_append, allEdges_cons]
    rfl
  have hparts : (partsFrom 0 (front ++ back)).insertIdx front.length
      ⟨o, k, (allEdges front).length, 1⟩ = partsFrom 0 front ++
        ⟨o, k, (allEdges front).length, 1⟩ :: partsFrom (allEdges front).length back := by
    rw [partsFrom_append, ← hlength, insertIdx_length_append, Nat.zero_add]
  rw [openAt, stop_part_layout, layout, List.insertIdxIfInBounds_toArray,
    List.insertIdxIfInBounds_toArray, hedges, hparts, shiftAfter_append_cons hlength, layout,
    parts_layout_append_cons]
  rfl

/-! ## The invariant -/

/-- The buckets stand in the array as `layout` writes them, by ascending ordinals. -/
structure Ordered (l : OrdinalBuckets) : Prop where
  ascending : Ascending l.buckets
  layout_eq : layout l.buckets = l

theorem ordered_layout (h : Ascending bs) : Ordered (layout bs) where
  ascending := by rwa [buckets_layout]
  layout_eq := by rw [buckets_layout]

theorem ordered_empty : Ordered {} :=
  have h : Ascending [] := List.Pairwise.nil
  ordered_layout h

theorem Ordered.exists_layout (h : Ordered l) : ∃ bs, Ascending bs ∧ l = layout bs :=
  ⟨l.buckets, h.ascending, h.layout_eq.symm⟩

/-- Put an edge behind those of its ordinal, which is opened in its place when not in use. -/
def place (l : OrdinalBuckets) (o : UInt8) (k : EdgeKind) (id : EdgeId) : OrdinalBuckets :=
  match l.search o with
  | .ok place => (l.extend place id).shiftAfter place
  | .error place => (l.openAt place o k id).shiftAfter place

/-- The buckets `bs'` are the buckets `bs` with one more edge at `o`. -/
structure Places (o : UInt8) (k : EdgeKind) (id : EdgeId) (bs bs' : List Bucket) : Prop where
  ascending : Ascending bs'
  ofOrdinal?_eq : ∀ o', ofOrdinal? bs' o' =
    if o = o' then some (((ofOrdinal? bs o).getD ⟨o, k, #[]⟩).push id) else ofOrdinal? bs o'
  exists_allEdges : ∃ before behind,
    allEdges bs = before ++ behind ∧ allEdges bs' = before ++ id :: behind

/-- **An edge that is placed joins the bucket of its ordinal, or opens it**, and the rest of the
array stays a layout of the other buckets. -/
theorem exists_places (h : Ascending bs) (o : UInt8) (k : EdgeKind) (id : EdgeId) :
    ∃ bs', (layout bs).place o k id = layout bs' ∧ Places o k id bs bs' := by
  have hfinds := finds_search h o
  rw [place]
  generalize (layout bs).search o = found at hfinds ⊢
  cases hfinds with
  | @here front back b hb hfront hback =>
    refine ⟨_, shiftAfter_extend_layout front b back id,
      ascending_insert h.apart.2.2 (hb ▸ hfront) (hb ▸ hback), fun o' => ?_, ?_⟩
    · split
      · rename_i ho
        rw [ofOrdinal?_append_cons hb hfront, ← ho]
        exact ofOrdinal?_append_cons hb hfront
      · rename_i ho
        have hne : b.ordinal ≠ o' := fun heq => ho (hb.symm.trans heq)
        have hpushed : (b.push id).ordinal ≠ o' := hne
        rw [ofOrdinal?_of_ne hpushed, ofOrdinal?_of_ne hne]
    · refine ⟨allEdges front ++ b.edges.toList, allEdges back, ?_, ?_⟩
      · rw [allEdges_append, allEdges_cons, List.append_assoc]
      · rw [allEdges_append, allEdges_cons, push, Array.toList_push]
        simp
  | @missing front back hfront hback =>
    refine ⟨_, shiftAfter_openAt_layout front back o k id, ascending_insert h hfront hback,
      fun o' => ?_, allEdges front, allEdges back, allEdges_append front back, ?_⟩
    · split
      · rename_i ho
        rw [ofOrdinal?_eq_none hfront hback, ← ho]
        exact ofOrdinal?_append_cons rfl hfront
      · rename_i ho
        exact ofOrdinal?_of_ne ho
    · rw [allEdges_append, allEdges_cons]
      rfl

theorem ordered_place (h : Ordered l) : Ordered (l.place o k id) := by
  obtain ⟨bs, hbs, rfl⟩ := h.exists_layout
  obtain ⟨bs', hplace, hplaces⟩ := exists_places hbs o k id
  exact hplace ▸ ordered_layout hplaces.ascending

/-! ## What is seen of a placed edge -/

theorem edgesAt_place (h : Ordered l) : (l.place o k id).edgesAt o' =
    if o = o' then (l.edgesAt o).push id else l.edgesAt o' := by
  obtain ⟨bs, hbs, rfl⟩ := h.exists_layout
  obtain ⟨bs', hplace, hplaces⟩ := exists_places hbs o k id
  rw [hplace, edgesAt_layout hplaces.ascending, hplaces.ofOrdinal?_eq, edgesAt_layout hbs,
    edgesAt_layout hbs]
  split
  · cases ofOrdinal? bs o <;> rfl
  · rfl

theorem kindAt?_place (h : Ordered l) : (l.place o k id).kindAt? o' =
    if o = o' then some ((l.kindAt? o).getD k) else l.kindAt? o' := by
  obtain ⟨bs, hbs, rfl⟩ := h.exists_layout
  obtain ⟨bs', hplace, hplaces⟩ := exists_places hbs o k id
  rw [hplace, kindAt?_layout hplaces.ascending, hplaces.ofOrdinal?_eq, kindAt?_layout hbs,
    kindAt?_layout hbs]
  split
  · cases ofOrdinal? bs o <;> rfl
  · rfl

/-- The list of all edges gains the placed edge, and the others keep their order. -/
theorem exists_toList_place (h : Ordered l) (o : UInt8) (k : EdgeKind) (id : EdgeId) :
    ∃ front back, l.toList = front ++ back ∧ (l.place o k id).toList = front ++ id :: back := by
  obtain ⟨bs, hbs, rfl⟩ := h.exists_layout
  obtain ⟨bs', hplace, hplaces⟩ := exists_places hbs o k id
  rw [hplace]
  exact hplaces.exists_allEdges

/-- The list of all edges gains the placed edge and nothing else. -/
theorem toList_place (h : Ordered l) : (l.place o k id).toList.Perm (id :: l.toList) := by
  obtain ⟨front, back, hold, hnew⟩ := exists_toList_place h o k id
  rw [hold, hnew]
  exact List.perm_middle

/-- Every edge stands at one of the ordinals. -/
theorem mem_toList (h : Ordered l) : e ∈ l.toList ↔ ∃ o, e ∈ l.edgesAt o := by
  obtain ⟨bs, hbs, rfl⟩ := h.exists_layout
  have hall : e ∈ (layout bs).toList ↔ ∃ b ∈ bs, e ∈ b.edges.toList := List.mem_flatMap
  rw [hall]
  simp only [edgesAt_layout hbs]
  constructor
  · rintro ⟨b, hb, he⟩
    refine ⟨b.ordinal, ?_⟩
    rw [(ofOrdinal?_eq_some_iff hbs).2 ⟨hb, rfl⟩]
    exact Array.mem_toList_iff.1 he
  · rintro ⟨o, he⟩
    cases hb : ofOrdinal? bs o with
    | none =>
      rw [hb] at he
      exact absurd he (Array.not_mem_empty e)
    | some b =>
      rw [hb] at he
      exact ⟨b, ((ofOrdinal?_eq_some_iff hbs).1 hb).1, Array.mem_toList_iff.2 he⟩

theorem size_eq_length (l : OrdinalBuckets) : l.size = l.toList.length :=
  Array.length_toList.symm

/-! ## Asking and inserting -/

theorem check_eq_ok_iff : l.check o k = .ok () ↔ ∀ k', l.kindAt? o = some k' → k' = k := by
  rw [check, kindAt?]
  cases l.search o with
  | error _ => simp
  | ok place =>
    by_cases hk : (l.part place).kind = k
    · simp [hk]
    · simp [hk]

/-- An edge that its ordinal holds already changes nothing. -/
theorem insert_of_mem (hc : l.check o k = .ok ()) (hid : id ∈ l.edgesAt o) :
    l.insert o k id = .ok (false, l) := by
  rw [insert, hc]
  rw [edgesAt] at hid
  cases hs : l.search o with
  | error _ =>
    rw [hs] at hid
    exact absurd hid (Array.not_mem_empty id)
  | ok place =>
    rw [hs] at hid
    exact if_pos hid

/-- An edge that its ordinal can hold, and does not hold yet, is placed there. -/
theorem insert_eq_ok (hc : l.check o k = .ok ()) (hid : id ∉ l.edgesAt o) :
    l.insert o k id = .ok (true, l.place o k id) := by
  rw [insert, hc, place]
  rw [edgesAt] at hid
  cases hs : l.search o with
  | error _ => rfl
  | ok place =>
    rw [hs] at hid
    exact if_neg hid

end OrdinalBuckets
end FlowAtlas
