import FlowAtlas.Graph.HashIndex

/-!
# The index by hash as a list of additions

`HashIndex` keeps a bucket of nodes for each hash and counts beside them how many pairs it holds.
What is seen of it depends on nothing but the additions that made it: `HashIndex.Shows` says what
that is, in terms of the list of these additions alone.

`shows_addAll` is the main theorem.  Its induction is over the additions, and one step of it is
`Shows.add`.  The form of a bucket matters to a single addition only: `add_of_mem` and
`exists_add_eq_grow` say of all forms at once that a pair which was added before changes nothing,
and that the bucket of a new one lists what it listed, and then the node (`Bucket.nodes`).
-/

set_option autoImplicit false

namespace FlowAtlas

/-! ## Lists without repetitions -/

section Repetitions

variable {α : Type} [BEq α] [LawfulBEq α] {as : List α} {a : α}

theorem eraseDups_concat_of_mem (ha : a ∈ as) : (as ++ [a]).eraseDups = as.eraseDups := by
  rw [List.eraseDups_append, List.cons_removeAll, List.nil_removeAll]
  simp [ha]

theorem eraseDups_concat_of_not_mem (ha : a ∉ as) :
    (as ++ [a]).eraseDups = as.eraseDups ++ [a] := by
  rw [List.eraseDups_append, List.cons_removeAll, List.nil_removeAll]
  simp [ha, List.eraseDups_cons]

end Repetitions

namespace HashIndex

variable {x : HashIndex} {calls : List (UInt64 × NodeId)} {hash h : UInt64} {node n : NodeId}

/-! ## Additions -/

/-- The index after additions, one after the other. -/
def addAll (x : HashIndex) (calls : List (UInt64 × NodeId)) : HashIndex :=
  calls.foldl (fun x call => x.add call.1 call.2) x

/-- The nodes that were added under a hash, as they came. -/
def nodesUnder (calls : List (UInt64 × NodeId)) (hash : UInt64) : List NodeId :=
  (calls.filter (·.1 = hash)).map (·.2)

/-- All that is seen of the index is what the additions say. -/
structure Shows (x : HashIndex) (calls : List (UInt64 × NodeId)) : Prop where
  /-- The nodes of a hash are told in the order of their first additions, and each one once. -/
  toList_get : ∀ hash, (x.get hash).toList = (nodesUnder calls hash).eraseDups
  /-- The index contains just the pairs that were added. -/
  contains_iff : ∀ hash node, x.contains hash node ↔ (hash, node) ∈ calls
  hashCount_eq : x.hashCount = (calls.map (·.1)).eraseDups.length
  size_eq : x.size = calls.eraseDups.length
  isEmpty_iff : x.isEmpty ↔ x.size = 0

theorem mem_nodesUnder : node ∈ nodesUnder calls hash ↔ (hash, node) ∈ calls := by
  simp [nodesUnder]

theorem nodesUnder_concat : nodesUnder (calls ++ [(hash, node)]) h =
    nodesUnder calls h ++ if hash = h then [node] else [] := by
  by_cases hh : hash = h <;> simp [nodesUnder, hh]

/-! ## One addition -/

/-- What a bucket lists, in either form. -/
def Bucket.nodes : Bucket → Array NodeId
  | single node => #[node]
  | many nodes => nodes

theorem get_of_getElem? {b : Bucket} (hb : x.buckets[hash]? = some b) : x.get hash = b.nodes := by
  rw [get, hb]
  cases b <;> rfl

theorem get_of_getElem?_eq_none (hb : x.buckets[hash]? = none) : x.get hash = #[] := by
  rw [get, hb]

theorem get_grow (x : HashIndex) (hash h : UInt64) (b : Bucket) :
    (x.grow hash b).get h = if hash = h then b.nodes else x.get h := by
  have hbuckets : (x.grow hash b).buckets[h]? = if hash = h then some b else x.buckets[h]? := by
    simp only [grow, Std.HashMap.getElem?_insert, beq_iff_eq]
  split
  · rename_i hh
    exact get_of_getElem? (hbuckets.trans (if_pos hh))
  · rename_i hh
    rw [get, get, hbuckets, if_neg hh]

/-- A pair that was added before changes nothing. -/
theorem add_of_mem (hn : node ∈ x.get hash) : x.add hash node = x := by
  rw [add]
  cases hb : x.buckets[hash]? with
  | none =>
    rw [get_of_getElem?_eq_none hb] at hn
    exact absurd hn (Array.not_mem_empty node)
  | some b =>
    rw [get_of_getElem? hb] at hn
    cases b with
    | single first => exact if_pos (Array.mem_singleton.1 hn).symm
    | many nodes => exact if_pos hn

/-- A node that is new under its hash comes into a bucket that lists it last: it opens the bucket,
joins the one node there, or joins the list. -/
theorem exists_add_eq_grow (hn : node ∉ x.get hash) :
    ∃ b : Bucket, x.add hash node = x.grow hash b ∧ b.nodes = (x.get hash).push node := by
  rw [add]
  cases hb : x.buckets[hash]? with
  | none => exact ⟨_, rfl, by rw [get_of_getElem?_eq_none hb]; rfl⟩
  | some b =>
    rw [get_of_getElem? hb] at hn ⊢
    cases b with
    | single first =>
      have hne : first ≠ node := fun h => hn (Array.mem_singleton.2 h.symm)
      exact ⟨_, if_neg hne, rfl⟩
    | many nodes => exact ⟨_, if_neg hn, rfl⟩

/-- A node that is new under its hash goes to the end of that hash's list. -/
theorem get_add (hn : n ∉ x.get hash) :
    (x.add hash n).get h = if hash = h then (x.get hash).push n else x.get h := by
  obtain ⟨b, hadd, hnodes⟩ := exists_add_eq_grow hn
  rw [hadd, get_grow, hnodes]

/-- No bucket is empty. -/
def Filled (x : HashIndex) : Prop := ∀ hash ∈ x.buckets, x.get hash ≠ #[]

theorem filled_empty : Filled empty :=
  fun _ hmem => absurd hmem Std.HashMap.not_mem_empty

theorem Filled.mem_buckets_iff (hx : Filled x) : hash ∈ x.buckets ↔ ∃ n, n ∈ x.get hash := by
  constructor
  · intro hmem
    obtain ⟨n, hn⟩ := List.exists_mem_of_ne_nil _ (mt Array.toList_eq_nil_iff.1 (hx hash hmem))
    exact ⟨n, Array.mem_toList_iff.1 hn⟩
  · rintro ⟨n, hn⟩
    refine Decidable.byContradiction fun hmem => ?_
    rw [get_of_getElem?_eq_none (Std.HashMap.getElem?_eq_none hmem)] at hn
    exact Array.not_mem_empty n hn

theorem Filled.add (hx : Filled x) (hash : UInt64) (n : NodeId) : Filled (x.add hash n) := by
  by_cases hn : n ∈ x.get hash
  · rwa [add_of_mem hn]
  · intro h hmem
    rw [get_add hn]
    split
    · exact Array.push_ne_empty
    · rename_i hh
      obtain ⟨b, hadd, -⟩ := exists_add_eq_grow hn
      rw [hadd, grow, Std.HashMap.mem_insert, beq_iff_eq] at hmem
      exact hx h (hmem.resolve_left hh)

/-- The index shows the additions if its lists and its counts do. -/
theorem shows_of_get (hget : ∀ hash, (x.get hash).toList = (nodesUnder calls hash).eraseDups)
    (hhashes : x.hashCount = (calls.map (·.1)).eraseDups.length)
    (hsize : x.size = calls.eraseDups.length) : Shows x calls where
  toList_get := hget
  contains_iff hash node := by
    rw [contains, decide_eq_true_iff, ← Array.mem_toList_iff, hget, List.mem_eraseDups,
      mem_nodesUnder]
  hashCount_eq := hhashes
  size_eq := hsize
  isEmpty_iff := beq_iff_eq

namespace Shows

theorem mem_get_iff (h : Shows x calls) : node ∈ x.get hash ↔ (hash, node) ∈ calls := by
  rw [← h.contains_iff, contains, decide_eq_true_iff]

theorem mem_buckets_iff (h : Shows x calls) (hx : Filled x) :
    hash ∈ x.buckets ↔ hash ∈ calls.map (·.1) := by
  simp [hx.mem_buckets_iff, h.mem_get_iff]

theorem toList_get_add (h : Shows x calls) (hash : UInt64) (node : NodeId) (hash' : UInt64) :
    ((x.add hash node).get hash').toList =
      (nodesUnder (calls ++ [(hash, node)]) hash').eraseDups := by
  rw [nodesUnder_concat]
  by_cases hmem : node ∈ x.get hash
  · rw [add_of_mem hmem, h.toList_get]
    split
    · rename_i hh
      rw [eraseDups_concat_of_mem (mem_nodesUnder.2 (hh ▸ h.mem_get_iff.1 hmem))]
    · rw [List.append_nil]
  · rw [get_add hmem]
    split
    · rename_i hh
      have hnew : node ∉ nodesUnder calls hash' := by
        rw [mem_nodesUnder, ← hh]
        exact mt h.mem_get_iff.2 hmem
      rw [Array.toList_push, h.toList_get, hh, eraseDups_concat_of_not_mem hnew]
    · rw [h.toList_get, List.append_nil]

/-- The hash is counted with its first node. -/
theorem hashCount_add (h : Shows x calls) (hx : Filled x) (hash : UInt64) (node : NodeId) :
    (x.add hash node).hashCount = ((calls ++ [(hash, node)]).map (·.1)).eraseDups.length := by
  rw [List.map_append, List.map_singleton]
  by_cases hmem : node ∈ x.get hash
  · have hold := (h.mem_buckets_iff hx).1 (hx.mem_buckets_iff.2 ⟨node, hmem⟩)
    rw [add_of_mem hmem, eraseDups_concat_of_mem hold, h.hashCount_eq]
  · obtain ⟨b, hadd, -⟩ := exists_add_eq_grow hmem
    rw [hadd, hashCount, grow, Std.HashMap.size_insert]
    -- the node is new, but its hash need not be
    split
    · rename_i hold
      rw [eraseDups_concat_of_mem ((h.mem_buckets_iff hx).1 hold)]
      exact h.hashCount_eq
    · rename_i hnew
      rw [eraseDups_concat_of_not_mem (mt (h.mem_buckets_iff hx).2 hnew), List.length_append,
        ← h.hashCount_eq]
      rfl

theorem size_add (h : Shows x calls) (hash : UInt64) (node : NodeId) :
    (x.add hash node).size = (calls ++ [(hash, node)]).eraseDups.length := by
  by_cases hmem : node ∈ x.get hash
  · rw [add_of_mem hmem, eraseDups_concat_of_mem (h.mem_get_iff.1 hmem), h.size_eq]
  · obtain ⟨b, hadd, -⟩ := exists_add_eq_grow hmem
    rw [eraseDups_concat_of_not_mem (mt h.mem_get_iff.2 hmem), List.length_append, ← h.size_eq,
      hadd]
    rfl

/-- One more addition shows as one more. -/
theorem add (h : Shows x calls) (hx : Filled x) (hash : UInt64) (node : NodeId) :
    Shows (x.add hash node) (calls ++ [(hash, node)]) :=
  shows_of_get (h.toList_get_add hash node) (h.hashCount_add hx hash node) (h.size_add hash node)

end Shows

/-! ## Any number of additions -/

theorem shows_empty : Shows empty [] :=
  shows_of_get (fun _ => by simp [get, empty, nodesUnder]) Std.HashMap.size_empty rfl

theorem Shows.addAll (h : Shows x calls) (hx : Filled x) (more : List (UInt64 × NodeId)) :
    Shows (x.addAll more) (calls ++ more) := by
  induction more generalizing x calls with
  | nil => rwa [List.append_nil]
  | cons call more ih =>
    have hrest := ih (h.add hx call.1 call.2) (hx.add call.1 call.2)
    rwa [List.append_assoc] at hrest

/-- **Nothing is lost and nothing is repeated.**  After any additions to the index without nodes,
the nodes of a hash are those that were added under it, in the order of their first additions, and
the counts are those of the different hashes and of the different pairs. -/
theorem shows_addAll (calls : List (UInt64 × NodeId)) : Shows (empty.addAll calls) calls :=
  shows_empty.addAll filled_empty calls

end HashIndex
end FlowAtlas
