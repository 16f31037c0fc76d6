import FlowAtlas.Graph.Reachability
import FlowAtlas.Proofs.Graph.AddEdge
import Mathlib.Logic.Relation

/-!
# Unreachable nodes and missed entries

`Reachability.mem_unreachable_iff` says that the unreachable nodes are those that no root leads to.
No edge enters them from outside, so what leads to one of them does so inside.

The missed entries are chosen by two floods that share one array of marks.  `Reachability.Covers`
is what is known of the array at any time: it holds what a set of sources leads to.  A flood adds
its pending nodes to the sources (`Covers.flood`), also when some of what they lead to was marked
before.  `mem_claimEntries_iff` follows the choice along the ascending list of unreachable nodes.

`WellChosen` is the documented choice of missed entries, and `wellChosen_of_reachable` says that
every graph is searched so.  `mem_missedEntries_iff` describes a missed entry without mention of the
others: it is unentered, or no unentered node leads to it and neither does a node of smaller number.
So a missed entry may hang off another one of larger number, and `missedEntries_apart_iff` says in
which graphs this does not happen.
-/

set_option autoImplicit false

namespace FlowAtlas

/-!
## What a flood marks

`Graph.Leads` says that stored edges, of whatever kind, lead from one node to another, and
`Graph.LeadsWithin` that they do so inside a part of the graph, both ends included.

`Coherent.getElem?_flood` is the specification of `Graph.flood`: it marks what the pending nodes
lead to inside the part that is permitted and was not marked before, and nothing else.  The
induction is on the runs of `flood`.  Once a node is marked, the search goes on inside a smaller
part, so a path must be cut where it last leaves that node; that is `LeadsWithin.avoid`.
-/

namespace Graph

open Relation

variable {g : Graph} {m n r s t : NodeId} {p q : NodeId → Prop}

/-! ### Paths -/

/-- Edges lead from one node to the other.  Every node leads to itself. -/
def Leads (g : Graph) : NodeId → NodeId → Prop :=
  ReflTransGen g.Joins

/-- Edges lead from one node to the other, and every node on the way, ends included, is in `p`. -/
inductive LeadsWithin (g : Graph) (p : NodeId → Prop) (s : NodeId) : NodeId → Prop
  | refl : p s → LeadsWithin g p s s
  | tail {m t : NodeId} : LeadsWithin g p s m → g.Joins m t → p t → LeadsWithin g p s t

namespace LeadsWithin

theorem start (h : g.LeadsWithin p s t) : p s := by
  induction h with
  | refl hs => exact hs
  | tail _ _ _ ih => exact ih

theorem trans (h : g.LeadsWithin p s m) (h' : g.LeadsWithin p m t) : g.LeadsWithin p s t := by
  induction h' with
  | refl => exact h
  | tail _ hj ht ih => exact ih.tail hj ht

theorem head (hs : p s) (hj : g.Joins s m) (h : g.LeadsWithin p m t) : g.LeadsWithin p s t :=
  ((refl hs).tail hj h.start).trans h

theorem mono (h : g.LeadsWithin p s t) (hpq : ∀ x, p x → q x) : g.LeadsWithin q s t := by
  induction h with
  | refl hs => exact refl (hpq _ hs)
  | tail _ hj ht ih => exact ih.tail hj (hpq _ ht)

theorem leads (h : g.LeadsWithin p s t) : g.Leads s t := by
  induction h with
  | refl => exact .refl
  | tail _ hj _ ih => exact ReflTransGen.tail ih hj

/-- A path either never meets a node, or its last part starts right behind that node. -/
theorem avoid (h : g.LeadsWithin p s t) (a : NodeId) :
    g.LeadsWithin (fun x => p x ∧ x ≠ a) s t ∨ t = a ∨
      ∃ m, g.Joins a m ∧ g.LeadsWithin (fun x => p x ∧ x ≠ a) m t := by
  induction h with
  | refl hs =>
    by_cases hsa : s = a
    · exact Or.inr (Or.inl hsa)
    · exact Or.inl (refl ⟨hs, hsa⟩)
  | @tail b c _ hj hc ih =>
    by_cases hca : c = a
    · exact Or.inr (Or.inl hca)
    rcases ih with hb | rfl | ⟨m, ham, hb⟩
    · exact Or.inl (hb.tail hj ⟨hc, hca⟩)
    · exact Or.inr (Or.inr ⟨c, hj, refl ⟨hc, hca⟩⟩)
    · exact Or.inr (Or.inr ⟨m, ham, hb.tail hj ⟨hc, hca⟩⟩)

/-- A path stays in a smaller part, or its last part starts at a node outside of it. -/
theorem stay_or_leave (h : g.LeadsWithin p s t) (q : NodeId → Prop) :
    g.LeadsWithin (fun x => q x ∧ p x) s t ∨ ∃ m, ¬q m ∧ g.LeadsWithin p m t := by
  induction h with
  | refl hs =>
    by_cases hq : q s
    · exact Or.inl (refl ⟨hq, hs⟩)
    · exact Or.inr ⟨s, hq, refl hs⟩
  | @tail b c _ hj hc ih =>
    rcases ih with hb | ⟨m, hm, hb⟩
    · by_cases hq : q c
      · exact Or.inl (hb.tail hj ⟨hq, hc⟩)
      · exact Or.inr ⟨c, hq, refl hc⟩
    · exact Or.inr ⟨m, hm, hb.tail hj hc⟩

end LeadsWithin

/-- Into a part that no edge enters from outside, paths come from inside only. -/
theorem Leads.within (h : g.Leads s t) (hp : ∀ x y, g.Joins x y → p y → p x) (ht : p t) :
    g.LeadsWithin p s t := by
  induction h with
  | refl => exact .refl ht
  | tail _ hj ih => exact (ih (hp _ _ hj ht)).tail hj ht

/-! ### What is read at the nodes -/

/-- Edges from other nodes do not arrive. -/
def Unentered (g : Graph) (n : NodeId) : Prop :=
  ∀ m, g.Joins m n → m = n

/-- An unentered node is led to by itself only. -/
theorem Unentered.eq_of_leads (hn : g.Unentered n) (hmn : g.Leads m n) : m = n := by
  induction hmn using ReflTransGen.head_induction_on with
  | refl => rfl
  | head hj _ ih => exact hn _ (ih ▸ hj)

namespace Coherent

theorem mem_successors (h : Coherent g) : t ∈ g.successors s ↔ g.Joins s t := by
  rw [successors, List.mem_map]
  constructor
  · rintro ⟨e, he, rfl⟩
    obtain ⟨z, hz, rfl⟩ := h.mem_outgoing.1 he
    rw [edge_eq hz]
    exact joins_of_edge? hz
  · rintro ⟨e, z, hz, rfl, rfl⟩
    exact ⟨e, h.mem_outgoing.2 ⟨z, hz, rfl⟩, by rw [edge_eq hz]⟩

theorem isHead_iff (h : Coherent g) : g.isHead n ↔ g.Unentered n := by
  rw [isHead, Array.all_eq_true']
  constructor
  · rintro hall m ⟨e, z, hz, rfl, rfl⟩
    simpa [edge_eq hz] using hall e (h.mem_incoming.2 ⟨z, hz, rfl⟩)
  · intro hn e he
    obtain ⟨z, hz, rfl⟩ := h.mem_incoming.1 he
    simpa [edge_eq hz] using hn _ (joins_of_edge? hz)

theorem hasNode_of_joins (h : Coherent g) (hj : g.Joins s t) : g.hasNode s ∧ g.hasNode t := by
  obtain ⟨e, z, hz, rfl, rfl⟩ := hj
  exact h.ends e z hz

theorem hasNode_of_leads (h : Coherent g) (hst : g.Leads s t) (ht : g.hasNode t) :
    g.hasNode s := by
  rcases hst.cases_head with rfl | ⟨m, hj, -⟩
  · exact ht
  · exact (h.hasNode_of_joins hj).1

end Coherent

/-! ### The flood -/

variable {marked : Array Bool} {allowed : NodeId → Bool} {pending : List NodeId}

@[simp]
theorem size_flood : (g.flood allowed marked pending).size = marked.size := by
  fun_induction flood with
  | case1 => rfl
  | case2 _ _ _ _ _ ih => simpa using ih
  | case3 _ _ _ _ _ ih => exact ih
  | case4 _ _ _ _ ih => exact ih

theorem getElem?_mark (hn : n.index < marked.size) :
    (marked.set n.index true)[t.index]? = if t = n then some true else marked[t.index]? := by
  rw [Array.getElem?_set]
  by_cases ht : t = n
  · rw [if_pos (congrArg NodeId.index ht.symm), if_pos ht]
  · rw [if_neg fun hindex => ht (congrArg NodeId.mk hindex.symm), if_neg ht]

/-- A node from which nothing can be reached may be left out. -/
theorem exists_leadsWithin_cons_iff (hr : ¬p r) :
    (∃ s ∈ r :: pending, g.LeadsWithin p s t) ↔ ∃ s ∈ pending, g.LeadsWithin p s t := by
  simp only [List.mem_cons, exists_eq_or_imp]
  exact or_iff_right fun h => hr h.start

/-- **A flood marks what can newly be reached.** -/
theorem Coherent.getElem?_flood (h : Coherent g) (allowed : NodeId → Bool) (marked : Array Bool)
    (pending : List NodeId) (t : NodeId) :
    (g.flood allowed marked pending)[t.index]? = some true ↔ marked[t.index]? = some true ∨
      ∃ r ∈ pending, g.LeadsWithin (fun x => marked[x.index]? = some false ∧ allowed x) r t := by
  fun_induction flood with
  | case1 marked => simp
  | case2 marked n pending hsize hfree ih =>
    -- from here on the search avoids `n` too
    have hpart : (fun x : NodeId => (marked.set n.index true)[x.index]? = some false ∧ allowed x) =
        fun x => (marked[x.index]? = some false ∧ allowed x) ∧ x ≠ n := by
      funext x
      by_cases hx : x = n
      · simp [hx]
      · simp [getElem?_mark, hx]
    have hset : (marked.set n.index true)[t.index]? = some true ↔
        t = n ∨ marked[t.index]? = some true := by
      by_cases ht : t = n
      · simp [ht]
      · simp [getElem?_mark, ht]
    have hn : marked[n.index]? = some false ∧ allowed n := by simpa [hsize] using hfree
    rw [ih, hset, hpart]
    constructor
    · rintro ((rfl | ht) | ⟨r, hr, hrt⟩)
      · exact Or.inr ⟨t, by simp, .refl hn⟩
      · exact Or.inl ht
      · have hrt := hrt.mono fun x hx => hx.1
        rcases List.mem_append.1 hr with hr | hr
        · exact Or.inr ⟨n, by simp, .head hn (h.mem_successors.1 hr) hrt⟩
        · exact Or.inr ⟨r, by simp [hr], hrt⟩
    · rintro (ht | ⟨r, hr, hrt⟩)
      · exact Or.inl (Or.inr ht)
      · rcases hrt.avoid n with hrt | rfl | ⟨m, hnm, hmt⟩
        · have hrn : r ≠ n := hrt.start.2
          exact Or.inr ⟨r, by simp_all, hrt⟩
        · exact Or.inl (Or.inl rfl)
        · exact Or.inr ⟨m, by simp [h.mem_successors.2 hnm], hmt⟩
  | case3 marked n pending hsize hfree ih =>
    rw [ih, exists_leadsWithin_cons_iff]
    simpa [hsize] using hfree
  | case4 marked n pending hsize ih =>
    rw [ih, exists_leadsWithin_cons_iff]
    simp [hsize]

end Graph

namespace Reachability

open FlowAtlas.Graph Relation

variable {g : Graph} {roots pending l : List NodeId} {n m u s t : NodeId} {inside : NodeId → Bool}
  {marked : Array Bool}

/-! ## Unreachable nodes -/

@[simp]
theorem size_unmarked : g.unmarked.size = g.nodes.size :=
  Array.size_replicate

theorem getElem?_unmarked : g.unmarked[n.index]? = some false ↔ g.hasNode n := by
  simp [unmarked, hasNode_iff, Array.getElem?_replicate]

theorem getElem?_unmarked_ne : g.unmarked[n.index]? ≠ some true := by
  simp [unmarked, Array.getElem?_replicate]

/-- Where there is one mark for each node, a node is unmarked if it is not marked. -/
theorem getElem?_eq_some_false_iff (hsize : marked.size = g.nodes.size) :
    marked[n.index]? = some false ↔ g.hasNode n ∧ marked[n.index]? ≠ some true := by
  rw [hasNode_iff, ← hsize]
  rcases Nat.lt_or_ge n.index marked.size with hn | hn
  · simp [hn]
  · simp [Nat.not_lt.2 hn]

theorem getD_true_eq_false_iff {i : Nat} :
    marked.getD i true = false ↔ marked[i]? = some false := by
  rw [Array.getD_eq_getD_getElem?]
  cases marked[i]? <;> simp

theorem getD_false_eq_true_iff {i : Nat} :
    marked.getD i false = true ↔ marked[i]? = some true := by
  rw [Array.getD_eq_getD_getElem?]
  cases marked[i]? <;> simp

theorem mem_unreachable_iff_unmarked :
    n ∈ (analyze g roots).unreachable ↔
      g.hasNode n ∧ (g.flood (fun _ => true) g.unmarked roots)[n.index]? ≠ some true := by
  have hsize : (g.flood (fun _ => true) g.unmarked roots).size = g.nodes.size := by simp
  rw [analyze, List.mem_filter, mem_nodeIds, Bool.not_eq_true', getD_true_eq_false_iff,
    getElem?_eq_some_false_iff hsize, and_self_left]

/-- **The unreachable nodes are the nodes that no root leads to.** -/
theorem mem_unreachable_iff (h : Coherent g) (roots : List NodeId) :
    n ∈ (analyze g roots).unreachable ↔ g.hasNode n ∧ ∀ r ∈ roots, ¬g.Leads r n := by
  rw [mem_unreachable_iff_unmarked, Ne, h.getElem?_flood]
  refine and_congr_right fun hn => ?_
  simp only [getElem?_unmarked, getElem?_unmarked_ne, and_true, false_or, not_exists, not_and]
  refine forall₂_congr fun r _ => not_congr ⟨LeadsWithin.leads, fun hrn => ?_⟩
  exact hrn.within (fun x y hj _ => (h.hasNode_of_joins hj).1) hn

/-- What leads to an unreachable node is unreachable. -/
theorem mem_unreachable_of_leads (h : Coherent g) (hst : g.Leads s t)
    (ht : t ∈ (analyze g roots).unreachable) : s ∈ (analyze g roots).unreachable := by
  rw [mem_unreachable_iff h] at ht ⊢
  exact ⟨h.hasNode_of_leads hst ht.1, fun r hr hrs => ht.2 r hr (hrs.trans hst)⟩

/-- The paths to an unreachable node are inside the unreachable part. -/
theorem leadsWithin_unreachable_iff (h : Coherent g) (ht : t ∈ (analyze g roots).unreachable) :
    g.LeadsWithin (· ∈ (analyze g roots).unreachable) s t ↔ g.Leads s t :=
  ⟨LeadsWithin.leads, fun hst =>
    hst.within (fun _ _ hj => mem_unreachable_of_leads h (.single hj)) ht⟩

theorem pairwise_unreachable (g : Graph) (roots : List NodeId) :
    (analyze g roots).unreachable.Pairwise (·.index < ·.index) :=
  g.pairwise_nodeIds.filter _

/-! ## Marks -/

/-- The marked nodes are what the sources lead to inside a part of the graph. -/
structure Covers (g : Graph) (inside : NodeId → Bool) (marked : Array Bool)
    (sources : NodeId → Prop) : Prop where
  size : marked.size = g.nodes.size
  marked_iff : ∀ t, marked[t.index]? = some true ↔
    ∃ s, sources s ∧ g.LeadsWithin (inside ·) s t

variable {sources : NodeId → Prop}

theorem covers_unmarked : Covers g inside g.unmarked fun _ => False where
  size := size_unmarked
  marked_iff t := by simp [getElem?_unmarked_ne]

/-- A flood adds its pending nodes to the sources.  A path that meets a marked node may be cut short
there, as everything behind that node is marked as well. -/
theorem Covers.flood (hc : Covers g inside marked sources) (h : Coherent g)
    (hin : ∀ x, inside x → g.hasNode x) (pending : List NodeId) :
    Covers g inside (g.flood inside marked pending) fun s => sources s ∨ s ∈ pending where
  size := size_flood.trans hc.size
  marked_iff t := by
    rw [h.getElem?_flood, hc.marked_iff]
    constructor
    · rintro (⟨s, hs, hst⟩ | ⟨r, hr, hrt⟩)
      · exact ⟨s, Or.inl hs, hst⟩
      · exact ⟨r, Or.inr hr, hrt.mono fun x hx => hx.2⟩
    · rintro ⟨s, hs | hs, hst⟩
      · exact Or.inl ⟨s, hs, hst⟩
      · rcases hst.stay_or_leave fun x => marked[x.index]? = some false with hst | ⟨m, hm, hmt⟩
        · exact Or.inr ⟨s, hs, hst⟩
        · have hmarked : marked[m.index]? = some true := by
            by_contra hnot
            exact hm ((getElem?_eq_some_false_iff hc.size).2 ⟨hin m hmt.start, hnot⟩)
          obtain ⟨r, hr, hrm⟩ := (hc.marked_iff m).1 hmarked
          exact Or.inl ⟨r, hr, hrm.trans hmt⟩

theorem Covers.congr {sources' : NodeId → Prop} (hc : Covers g inside marked sources)
    (hs : ∀ s, sources s ↔ sources' s) : Covers g inside marked sources' where
  size := hc.size
  marked_iff t := by simp only [hc.marked_iff, hs]

/-! ## The choice of missed entries -/

theorem claimEntries_sublist (g : Graph) (inside : NodeId → Bool) (marked : Array Bool)
    (l : List NodeId) : (claimEntries g inside marked l).Sublist l := by
  fun_induction claimEntries with
  | case1 => exact .slnil
  | case2 _ _ _ _ ih => exact ih.cons_cons _
  | case3 _ _ _ _ _ ih => exact ih.cons _
  | case4 _ _ _ _ _ ih => exact ih.cons_cons _

theorem mem_claimEntries_of_isHead (hn : n ∈ l) (hhead : g.isHead n) :
    n ∈ claimEntries g inside marked l := by
  fun_induction claimEntries with
  | case1 => exact hn
  | case2 _ a _ _ ih =>
    rcases List.mem_cons.1 hn with rfl | hn
    · exact List.mem_cons_self
    · exact List.mem_cons_of_mem _ (ih hn)
  | case3 _ a _ ha _ ih =>
    rcases List.mem_cons.1 hn with rfl | hn
    · exact absurd hhead ha
    · exact ih hn
  | case4 _ a _ ha _ ih =>
    rcases List.mem_cons.1 hn with rfl | hn
    · exact absurd hhead ha
    · exact List.mem_cons_of_mem _ (ih hn)

/-- For a later node, the first node of the rest counts as a source. -/
theorem source_or_mem_cons_iff {a : NodeId} (han : a.index < n.index) :
    sources m ∨ (m ∈ a :: l ∧ m.index < n.index) ↔
      (sources m ∨ m = a) ∨ (m ∈ l ∧ m.index < n.index) := by
  rw [List.mem_cons]
  by_cases hma : m = a
  · simp [hma, han]
  · simp [hma]

/-- A node that others enter is chosen if neither a source nor a chosen node before it leads to it.
The sources are those of the marks at the start, and heads are among them. -/
theorem mem_claimEntries_iff (h : Coherent g) (hin : ∀ x, inside x → g.hasNode x)
    (hl : l.Pairwise (·.index < ·.index)) (hc : Covers g inside marked sources)
    (hheads : ∀ m ∈ l, g.isHead m → sources m) (hn : n ∈ l) (hentered : ¬g.isHead n) :
    n ∈ claimEntries g inside marked l ↔
      ∀ m, sources m ∨ (m ∈ claimEntries g inside marked l ∧ m.index < n.index) →
        ¬g.LeadsWithin (inside ·) m n := by
  fun_induction claimEntries generalizing sources with
  | case1 => cases hn
  | case2 marked a rest ha ih =>
    obtain ⟨hlt, hl⟩ := List.pairwise_cons.1 hl
    have hna : n ≠ a := fun hna => hentered (hna ▸ ha)
    have hn := List.mem_of_ne_of_mem hna hn
    have hsource : ∀ m, sources m ∨ m = a ↔ sources m := fun m =>
      or_iff_left_of_imp fun hma => hma ▸ hheads a (.head _) ha
    rw [List.mem_cons, or_iff_right hna, ih hl hc (fun m hm => hheads m (.tail a hm)) hn]
    simp only [source_or_mem_cons_iff (hlt n hn), hsource]
  | case3 marked a rest ha hmark ih =>
    obtain ⟨hlt, hl⟩ := List.pairwise_cons.1 hl
    rcases List.mem_cons.1 hn with rfl | hn
    · -- it is marked, so a source leads to it
      obtain ⟨s, hs, hsn⟩ := (hc.marked_iff n).1 (getD_false_eq_true_iff.1 hmark)
      refine iff_of_false (fun hmem => ?_) fun hnot => hnot s (Or.inl hs) hsn
      exact Nat.lt_irrefl _ (hlt n ((claimEntries_sublist ..).subset hmem))
    · exact ih hl hc (fun m hm => hheads m (.tail a hm)) hn
  | case4 marked a rest ha hmark ih =>
    obtain ⟨hlt, hl⟩ := List.pairwise_cons.1 hl
    rcases List.mem_cons.1 hn with rfl | hn
    · -- it is not marked, and what is chosen after it has a larger number
      refine iff_of_true (.head _) ?_
      rintro m (hm | ⟨hm, hmn⟩) hpath
      · exact hmark (getD_false_eq_true_iff.2 ((hc.marked_iff n).2 ⟨m, hm, hpath⟩))
      · rcases List.mem_cons.1 hm with rfl | hm
        · exact Nat.lt_irrefl _ hmn
        · exact Nat.lt_asymm hmn (hlt m ((claimEntries_sublist ..).subset hm))
    · have hna : n ≠ a := fun hna => Nat.lt_irrefl _ (hna ▸ hlt n hn)
      have hc' : Covers g inside (g.flood inside marked [a]) fun s => sources s ∨ s = a := by
        simpa using hc.flood h hin [a]
      rw [List.mem_cons, or_iff_right hna,
        ih hl hc' (fun m hm hhead => Or.inl (hheads m (.tail a hm) hhead)) hn]
      simp only [source_or_mem_cons_iff (hlt n hn)]

/-- How the missed entries are chosen, with the part that `claimEntries` works in. -/
theorem exists_missedEntries_eq (g : Graph) (roots : List NodeId) :
    ∃ inside : NodeId → Bool, (∀ x, inside x ↔ x ∈ (analyze g roots).unreachable) ∧
      (analyze g roots).missedEntries = claimEntries g inside
        (g.flood inside g.unmarked ((analyze g roots).unreachable.filter g.isHead))
        (analyze g roots).unreachable := by
  refine ⟨_, fun x => ?_, rfl⟩
  have hsize : (g.flood (fun _ => true) g.unmarked roots).size = g.nodes.size := by simp
  rw [mem_unreachable_iff_unmarked, Bool.not_eq_true', getD_true_eq_false_iff,
    getElem?_eq_some_false_iff hsize]

/-- The missed entries of a search are chosen as documented. -/
structure WellChosen (g : Graph) (found : Reachability) : Prop where
  /-- An unreachable node that no other node enters is a missed entry. -/
  unentered_mem : ∀ u ∈ found.unreachable, g.Unentered u → u ∈ found.missedEntries
  /-- Missed entries are unreachable. -/
  mem_unreachable : ∀ m ∈ found.missedEntries, m ∈ found.unreachable
  /-- The unreachable part is what the missed entries lead to in it. -/
  covered : ∀ u ∈ found.unreachable,
    ∃ m ∈ found.missedEntries, g.LeadsWithin (· ∈ found.unreachable) m u
  /-- Any other unreachable node is a missed entry unless some unentered node or some missed entry
  of smaller number leads to it. -/
  entered_iff : ∀ u ∈ found.unreachable, ¬g.Unentered u →
    (u ∈ found.missedEntries ↔
      (∀ m ∈ found.unreachable, g.Unentered m → ¬g.LeadsWithin (· ∈ found.unreachable) m u) ∧
      ∀ m ∈ found.missedEntries, m.index < u.index →
        ¬g.LeadsWithin (· ∈ found.unreachable) m u)

theorem mem_missedEntries_of_unentered (h : Coherent g) (hu : u ∈ (analyze g roots).unreachable)
    (hhead : g.Unentered u) : u ∈ (analyze g roots).missedEntries := by
  obtain ⟨inside, -, hM⟩ := exists_missedEntries_eq g roots
  rw [hM]
  exact mem_claimEntries_of_isHead hu (h.isHead_iff.2 hhead)

theorem unreachable_of_mem_missedEntries (hm : m ∈ (analyze g roots).missedEntries) :
    m ∈ (analyze g roots).unreachable := by
  obtain ⟨inside, -, hM⟩ := exists_missedEntries_eq g roots
  rw [hM] at hm
  exact (claimEntries_sublist ..).subset hm

/-- The marks that the choice starts with are those of the unentered nodes. -/
theorem mem_missedEntries_iff_of_entered (h : Coherent g)
    (hu : u ∈ (analyze g roots).unreachable) (hentered : ¬g.Unentered u) :
    u ∈ (analyze g roots).missedEntries ↔
      (∀ m ∈ (analyze g roots).unreachable, g.Unentered m →
        ¬g.LeadsWithin (· ∈ (analyze g roots).unreachable) m u) ∧
      ∀ m ∈ (analyze g roots).missedEntries, m.index < u.index →
        ¬g.LeadsWithin (· ∈ (analyze g roots).unreachable) m u := by
  obtain ⟨inside, hinside, hM⟩ := exists_missedEntries_eq g roots
  have hin : ∀ x, inside x → g.hasNode x := fun x hx =>
    ((mem_unreachable_iff h roots).1 ((hinside x).1 hx)).1
  have hc : Covers g inside
      (g.flood inside g.unmarked ((analyze g roots).unreachable.filter g.isHead))
      fun m => m ∈ (analyze g roots).unreachable ∧ g.Unentered m := by
    refine (covers_unmarked.flood h hin _).congr fun m => ?_
    rw [false_or, List.mem_filter, h.isHead_iff]
  have hmem := mem_claimEntries_iff h hin (pairwise_unreachable g roots) hc
    (fun m hm hhead => ⟨hm, h.isHead_iff.1 hhead⟩) hu (mt h.isHead_iff.1 hentered)
  have hpart : (inside · : NodeId → Prop) = (· ∈ (analyze g roots).unreachable) :=
    funext fun x => propext (hinside x)
  rw [← hM, hpart] at hmem
  simpa only [or_imp, forall_and, and_imp] using hmem

/-- A node to which no missed entry led would be one itself. -/
theorem exists_missedEntry_leadsWithin (h : Coherent g)
    (hu : u ∈ (analyze g roots).unreachable) :
    ∃ m ∈ (analyze g roots).missedEntries,
      g.LeadsWithin (· ∈ (analyze g roots).unreachable) m u := by
  by_contra hnone
  have hfree : ∀ m ∈ (analyze g roots).missedEntries,
      ¬g.LeadsWithin (· ∈ (analyze g roots).unreachable) m u := fun m hm hmu =>
    hnone ⟨m, hm, hmu⟩
  have hnot : u ∉ (analyze g roots).missedEntries := fun hmem => hfree u hmem (.refl hu)
  have hentered : ¬g.Unentered u := fun hhead => hnot (mem_missedEntries_of_unentered h hu hhead)
  refine hnot ((mem_missedEntries_iff_of_entered h hu hentered).2 ⟨fun m hm hhead => ?_, ?_⟩)
  · exact hfree m (mem_missedEntries_of_unentered h hm hhead)
  · exact fun m hm _ => hfree m hm

/-- **Missed entries are chosen as documented**, in every graph that requests lead to. -/
theorem wellChosen_of_reachable (hg : Reachable g) (roots : List NodeId) :
    WellChosen g (analyze g roots) :=
  have h := coherent_of_reachable hg
  { unentered_mem := fun _ hu => mem_missedEntries_of_unentered h hu
    mem_unreachable := fun _ hm => unreachable_of_mem_missedEntries hm
    covered := fun _ hu => exists_missedEntry_leadsWithin h hu
    entered_iff := fun _ hu hentered => mem_missedEntries_iff_of_entered h hu hentered }

/-- A block of the loop below. -/
def loopBlock (tag : UInt64) : Node :=
  { key := .block ⟨1⟩ tag 0, hash := 5, kind := .normal, unit := ⟨1⟩ }

/-- Blocks 1 and 2 lead to each other, and block 1 leads on to block 0. -/
def loopWithExit : Graph :=
  let blocks := ((empty.withNode (loopBlock 0)).withNode (loopBlock 1)).withNode (loopBlock 2)
  let g₁ := (Request.edge ⟨1⟩ ⟨2⟩ .direct 0).apply blocks
  let g₂ := (Request.edge ⟨2⟩ ⟨1⟩ .direct 0).apply g₁
  (Request.edge ⟨1⟩ ⟨0⟩ .direct 1).apply g₂

theorem reachable_loopWithExit : Reachable loopWithExit := by
  have h₁ : Reachable (empty.withNode (loopBlock 0)) := reachable_withNode rfl
  have h₂ := h₁.withNode (x := loopBlock 1) rfl
    (by simp [find?_withNode, find?_empty, loopBlock])
  have h₃ := h₂.withNode (x := loopBlock 2) rfl
    (by simp [find?_withNode, find?_empty, loopBlock])
  have h₄ := h₃.step (r := .edge ⟨1⟩ ⟨2⟩ .direct 0) (by decide +kernel)
  have h₅ := h₄.step (r := .edge ⟨2⟩ ⟨1⟩ .direct 0) (by decide +kernel)
  exact h₅.step (r := .edge ⟨1⟩ ⟨0⟩ .direct 1) (by decide +kernel)

theorem joins_loopWithExit : loopWithExit.Joins ⟨1⟩ ⟨2⟩ ∧ loopWithExit.Joins ⟨2⟩ ⟨1⟩ ∧
    loopWithExit.Joins ⟨1⟩ ⟨0⟩ :=
  ⟨⟨⟨0⟩, ⟨⟨1⟩, ⟨2⟩, .direct, 0⟩, by decide +kernel, rfl, rfl⟩,
    ⟨⟨1⟩, ⟨⟨2⟩, ⟨1⟩, .direct, 0⟩, by decide +kernel, rfl, rfl⟩,
    ⟨⟨2⟩, ⟨⟨1⟩, ⟨0⟩, .direct, 1⟩, by decide +kernel, rfl, rfl⟩⟩

/-- What a search of the loop reads. -/
theorem successors_loopWithExit :
    loopWithExit.nodes.size = 3 ∧ loopWithExit.successors ⟨0⟩ = [] ∧
      loopWithExit.successors ⟨1⟩ = [⟨2⟩, ⟨0⟩] ∧ loopWithExit.successors ⟨2⟩ = [⟨1⟩] ∧
      loopWithExit.isHead ⟨0⟩ = false ∧ loopWithExit.isHead ⟨1⟩ = false ∧
      loopWithExit.isHead ⟨2⟩ = false := by
  decide +kernel

/-- When the exit is a root, the loop is entered at its first block. -/
theorem analyze_loopWithExit : analyze loopWithExit [⟨0⟩] = ⟨[⟨1⟩, ⟨2⟩], [⟨1⟩]⟩ := by
  obtain ⟨hsize, hs₀, hs₁, hs₂, -, hh₁, hh₂⟩ := successors_loopWithExit
  simp [analyze, flood, claimEntries, unmarked, nodeIds, List.range_succ, Array.replicate_succ,
    hsize, hs₀, hs₁, hs₂, hh₁, hh₂]

theorem wellChosen_loopWithExit :
    Reachable loopWithExit ∧ WellChosen loopWithExit ⟨[⟨1⟩, ⟨2⟩], [⟨1⟩]⟩ :=
  ⟨reachable_loopWithExit,
    analyze_loopWithExit ▸ wellChosen_of_reachable reachable_loopWithExit [⟨0⟩]⟩

/-! ## Entries that hang off others -/

/-- A missed entry is unentered, or no unentered node leads to it and it has the smallest number of
all nodes that do. -/
theorem mem_missedEntries_iff (h : Coherent g) (roots : List NodeId) :
    n ∈ (analyze g roots).missedEntries ↔ n ∈ (analyze g roots).unreachable ∧
      (g.Unentered n ∨ ∀ m, g.Leads m n → ¬g.Unentered m ∧ n.index ≤ m.index) := by
  by_cases hn : n ∈ (analyze g roots).unreachable
  · by_cases hentered : g.Unentered n
    · exact iff_of_true (mem_missedEntries_of_unentered h hn hentered) ⟨hn, Or.inl hentered⟩
    rw [mem_missedEntries_iff_of_entered h hn hentered, and_iff_right hn, or_iff_right hentered]
    simp only [leadsWithin_unreachable_iff h hn]
    constructor
    · rintro ⟨hheads, hsmaller⟩ m hmn
      have hm := mem_unreachable_of_leads h hmn hn
      refine ⟨fun hhead => hheads m hm hhead hmn, Nat.le_of_not_lt fun hlt => ?_⟩
      -- `m` is an entry itself, as what keeps `n` from being led to keeps `m` from it too
      have hm' : m ∈ (analyze g roots).missedEntries :=
        (mem_missedEntries_iff_of_entered h hm fun hhead => hheads m hm hhead hmn).2
          ⟨fun k hk hhead hkm => hheads k hk hhead (hkm.leads.trans hmn),
            fun k hk hkm' hkm => hsmaller k hk (Nat.lt_trans hkm' hlt) (hkm.leads.trans hmn)⟩
      exact hsmaller m hm' hlt hmn
    · intro hall
      exact ⟨fun m _ hhead hmn => (hall m hmn).1 hhead,
        fun m _ hlt hmn => Nat.not_lt.2 (hall m hmn).2 hlt⟩
  · exact iff_of_false (fun hmem => hn (unreachable_of_mem_missedEntries hmem)) fun hmem => hn hmem.1

/-- **No missed entry hangs off another one** if and only if every unreachable node whose
predecessors are all entered, and among them one that it does not lead back to, has a predecessor of
smaller number. -/
theorem missedEntries_apart_iff (hg : Reachable g) (roots : List NodeId) :
    (∀ a ∈ (analyze g roots).missedEntries, ∀ b ∈ (analyze g roots).missedEntries,
        g.Leads b a → b = a) ↔
      ∀ a ∈ (analyze g roots).unreachable, (∀ m, g.Leads m a → ¬g.Unentered m) →
        ∀ b, g.Leads b a → ¬g.Leads a b → ∃ c, g.Leads c a ∧ c.index < a.index := by
  have h := coherent_of_reachable hg
  constructor
  · intro hapart a ha hentered b hba hab
    by_contra hnone
    have hfirst : a ∈ (analyze g roots).missedEntries :=
      (mem_missedEntries_iff h roots).2 ⟨ha, Or.inr fun m hma =>
        ⟨hentered m hma, Nat.le_of_not_lt fun hlt => hnone ⟨m, hma, hlt⟩⟩⟩
    obtain ⟨m, hm, hmb⟩ :=
      exists_missedEntry_leadsWithin h (mem_unreachable_of_leads h hba ha)
    have hma := hapart a hfirst m hm (hmb.leads.trans hba)
    exact hab (hma ▸ hmb.leads)
  · intro hsmaller a ha b hb hba
    by_contra hne
    obtain ⟨haU, ha⟩ := (mem_missedEntries_iff h roots).1 ha
    obtain ⟨-, hb⟩ := (mem_missedEntries_iff h roots).1 hb
    have ha := ha.resolve_left fun hentered => hne (hentered.eq_of_leads hba)
    have hb := hb.resolve_left (ha b hba).1
    -- each has the smallest number of what leads to it, so they do not lead to each other
    have hab : ¬g.Leads a b := fun hab =>
      hne (congrArg NodeId.mk (Nat.le_antisymm (hb a hab).2 (ha b hba).2))
    obtain ⟨c, hca, hlt⟩ := hsmaller a haU (fun m hma => (ha m hma).1) b hba hab
    exact Nat.not_lt.2 (ha c hca).2 hlt

theorem missedEntries_apart_loopWithExit :
    Reachable loopWithExit ∧
      ∀ a ∈ (analyze loopWithExit [⟨0⟩]).missedEntries,
        ∀ b ∈ (analyze loopWithExit [⟨0⟩]).missedEntries, loopWithExit.Leads b a → b = a := by
  have hg := reachable_loopWithExit
  refine ⟨hg, (missedEntries_apart_iff hg [⟨0⟩]).2 fun a ha _ b hba hab => absurd ?_ hab⟩
  have hb := mem_unreachable_of_leads (coherent_of_reachable hg) hba ha
  obtain ⟨h₁₂, h₂₁, -⟩ := joins_loopWithExit
  rw [analyze_loopWithExit] at ha hb
  simp only [List.mem_cons, List.not_mem_nil, or_false] at ha hb
  rcases ha with rfl | rfl <;> rcases hb with rfl | rfl
  · exact .refl
  · exact .single h₁₂
  · exact .single h₂₁
  · exact .refl

/-- The exit of a loop is a missed entry beside the loop if its number is smaller. -/
theorem exit_hangs_off_loop :
    Reachable loopWithExit ∧
      ¬∀ a ∈ (analyze loopWithExit []).missedEntries,
        ∀ b ∈ (analyze loopWithExit []).missedEntries, loopWithExit.Leads b a → b = a := by
  refine ⟨reachable_loopWithExit, fun hapart => ?_⟩
  obtain ⟨hsize, hs₀, hs₁, hs₂, hh₀, hh₁, hh₂⟩ := successors_loopWithExit
  have hM : (analyze loopWithExit []).missedEntries = [⟨0⟩, ⟨1⟩] := by
    simp [analyze, flood, claimEntries, unmarked, nodeIds, List.range_succ, Array.replicate_succ,
      hsize, hs₀, hs₁, hs₂, hh₀, hh₁, hh₂]
  rw [hM] at hapart
  have h := hapart ⟨0⟩ (by simp) ⟨1⟩ (by simp) (.single joins_loopWithExit.2.2)
  exact absurd h (by decide)

end Reachability
end FlowAtlas
