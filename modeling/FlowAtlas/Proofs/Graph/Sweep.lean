import FlowAtlas.Proofs.Graph.Unreached

/-!
# Searching with a queue

`Graph.flood` marks a node when its turn comes and goes on with the nodes behind it first.  The same
search may as well be run with a queue: `Graph.sweep` marks a node when it joins the queue, so that
no node joins it twice, and takes the nodes from the queue in the order in which they joined.

* `Sweep.load` is what ends the search: it counts the nodes that are not marked and those on the
  queue.  A node that joins the queue moves from one count to the other, and each turn takes one
  away.  So there are as many turns as nodes that the search marks (`Sweep.turns_add_count`).
* `sweep_eq_flood` says that both searches mark the same nodes.  What the nodes on the queue lead to
  is what is pending in the flood, and a flood does not depend on the order of what is pending
  (`Coherent.flood_congr`).

`flood_marks_reachable` says which nodes these are.
-/

set_option autoImplicit false

namespace FlowAtlas

/-- A search under way: the marks so far, and the marked nodes whose edges were not followed yet. -/
structure Sweep where
  marked : Array Bool
  queue : List NodeId

namespace Sweep

/-- Mark a node and put it on the queue, if it is permitted and not marked yet. -/
def push (allowed : NodeId → Bool) (w : Sweep) (n : NodeId) : Sweep :=
  if h : n.index < w.marked.size then
    if w.marked[n.index] = false ∧ allowed n = true then
      ⟨w.marked.set n.index true, w.queue ++ [n]⟩
    else w
  else w

/-- Push nodes one after the other. -/
def pushAll (allowed : NodeId → Bool) (w : Sweep) (ns : List NodeId) : Sweep :=
  ns.foldl (push allowed) w

/-- How many nodes are not marked or on the queue. -/
def load (w : Sweep) : Nat := w.marked.count false + w.queue.length

theorem load_push (allowed : NodeId → Bool) (w : Sweep) (n : NodeId) :
    (w.push allowed n).load = w.load := by
  rw [push]
  split
  · rename_i hsize
    split
    · rename_i hfree
      have hpos : 0 < w.marked.count false :=
        Array.count_pos_iff.2 (hfree.1 ▸ Array.getElem_mem hsize)
      rw [load, load, Array.count_set, if_pos (by simp [hfree.1]), if_neg (by simp),
        List.length_append, List.length_singleton]
      omega
    · rfl
  · rfl

theorem load_pushAll (allowed : NodeId → Bool) (w : Sweep) (ns : List NodeId) :
    (w.pushAll allowed ns).load = w.load := by
  induction ns generalizing w with
  | nil => rfl
  | cons n ns ih => exact (ih (w.push allowed n)).trans (load_push allowed w n)

/-- The search with its roots on the queue. -/
def start (allowed : NodeId → Bool) (marked : Array Bool) (roots : List NodeId) : Sweep :=
  pushAll allowed ⟨marked, []⟩ roots

/-- Follow the edges of the nodes on the queue, in turn, until the queue is empty. -/
def run (g : Graph) (allowed : NodeId → Bool) : Sweep → Array Bool
  | ⟨marked, []⟩ => marked
  | ⟨marked, n :: queue⟩ => run g allowed (pushAll allowed ⟨marked, queue⟩ (g.successors n))
termination_by w => w.load
decreasing_by
  rw [load_pushAll]
  simp [load]

/-- How many nodes are taken from the queue until it is empty. -/
def turns (g : Graph) (allowed : NodeId → Bool) : Sweep → Nat
  | ⟨_, []⟩ => 0
  | ⟨marked, n :: queue⟩ => turns g allowed (pushAll allowed ⟨marked, queue⟩ (g.successors n)) + 1
termination_by w => w.load
decreasing_by
  rw [load_pushAll]
  simp [load]

/-- Every node that the search marks has one turn. -/
theorem turns_add_count (g : Graph) (allowed : NodeId → Bool) (w : Sweep) :
    w.turns g allowed + (w.run g allowed).count false = w.load := by
  fun_induction turns with
  | case1 marked => simp [run, load]
  | case2 marked n queue ih =>
    rw [load_pushAll] at ih
    rw [run]
    simp only [load, List.length_cons] at ih ⊢
    omega

/-- The nodes to which the edges of the nodes on the queue lead. -/
def pending (g : Graph) (w : Sweep) : List NodeId := w.queue.flatMap g.successors

end Sweep

namespace Graph

variable {g : Graph} {allowed : NodeId → Bool} {marked marks : Array Bool}
  {pending pending' : List NodeId}

/-- Mark what permitted, unmarked nodes join to a root, with a queue. -/
def sweep (g : Graph) (allowed : NodeId → Bool) (marked : Array Bool) (roots : List NodeId) :
    Array Bool :=
  (Sweep.start allowed marked roots).run g allowed

theorem eq_of_marks (hsize : marked.size = marks.size)
    (hmarks : ∀ t : NodeId, marked[t.index]? = some true ↔ marks[t.index]? = some true) :
    marked = marks := by
  refine Array.ext hsize fun i hi hi' => Bool.eq_iff_iff.2 ?_
  simpa [hi, hi'] using hmarks ⟨i⟩

/-- A flood does not depend on the order of the pending nodes, nor on repetitions. -/
theorem Coherent.flood_congr (h : Coherent g) (hmem : ∀ n, n ∈ pending ↔ n ∈ pending') :
    g.flood allowed marked pending = g.flood allowed marked pending' :=
  eq_of_marks (size_flood.trans size_flood.symm) fun t => by
    simp only [h.getElem?_flood, hmem]

/-- A node on the queue stands for the nodes behind it. -/
theorem Coherent.flood_push (h : Coherent g) (w : Sweep) (n : NodeId) (rest : List NodeId) :
    g.flood allowed (w.push allowed n).marked ((w.push allowed n).pending g ++ rest) =
      g.flood allowed w.marked (w.pending g ++ n :: rest) := by
  have hfront : g.flood allowed w.marked (w.pending g ++ n :: rest) =
      g.flood allowed w.marked (n :: (w.pending g ++ rest)) :=
    h.flood_congr fun _ => List.perm_middle.mem_iff
  rw [hfront, flood, Sweep.push]
  split
  · split
    · refine h.flood_congr fun m => ?_
      simp [Sweep.pending, or_left_comm]
    · rfl
  · rfl

theorem Coherent.flood_pushAll (h : Coherent g) (w : Sweep) (ns : List NodeId) :
    g.flood allowed (w.pushAll allowed ns).marked ((w.pushAll allowed ns).pending g) =
      g.flood allowed w.marked (w.pending g ++ ns) := by
  induction ns generalizing w with
  | nil => rw [List.append_nil]; rfl
  | cons n ns ih => exact (ih (w.push allowed n)).trans (h.flood_push w n ns)

theorem Coherent.run_eq_flood (h : Coherent g) (allowed : NodeId → Bool) (w : Sweep) :
    w.run g allowed = g.flood allowed w.marked (w.pending g) := by
  fun_induction Sweep.run with
  | case1 marked =>
    show marked = g.flood allowed marked []
    rw [flood]
  | case2 marked n queue ih =>
    rw [ih, h.flood_pushAll]
    exact h.flood_congr fun _ => List.perm_append_comm.mem_iff

/-- **A search with a queue marks what a flood marks.** -/
theorem Coherent.sweep_eq_flood (h : Coherent g) (allowed : NodeId → Bool) (marked : Array Bool)
    (roots : List NodeId) : g.sweep allowed marked roots = g.flood allowed marked roots := by
  rw [sweep, h.run_eq_flood, Sweep.start, h.flood_pushAll]
  rfl

/-- A search with a queue takes as many turns as there are nodes that the flood marks anew. -/
theorem Coherent.turns_start_add_count (h : Coherent g) (allowed : NodeId → Bool)
    (marked : Array Bool) (roots : List NodeId) :
    (Sweep.start allowed marked roots).turns g allowed +
      (g.flood allowed marked roots).count false = marked.count false := by
  rw [← h.sweep_eq_flood, sweep, Sweep.turns_add_count, Sweep.start, Sweep.load_pushAll]
  rfl

/-- **A flood marks just what is newly reachable.**  It ends, with a queue too, and there every node
that it marks has one turn.  Then a node is marked if it was marked before, or if edges lead to it from
a root through nodes, both ends included, that are permitted and were not marked before. -/
theorem flood_marks_reachable (hg : Reachable g) (allowed : NodeId → Bool) (marked : Array Bool)
    (roots : List NodeId) :
    g.sweep allowed marked roots = g.flood allowed marked roots ∧
      (Sweep.start allowed marked roots).turns g allowed +
        (g.flood allowed marked roots).count false = marked.count false ∧
      (g.flood allowed marked roots).size = marked.size ∧
      ∀ t, (g.flood allowed marked roots)[t.index]? = some true ↔
        marked[t.index]? = some true ∨
          ∃ r ∈ roots, g.LeadsWithin (fun x => marked[x.index]? = some false ∧ allowed x) r t :=
  have h := coherent_of_reachable hg
  ⟨h.sweep_eq_flood allowed marked roots, h.turns_start_add_count allowed marked roots, size_flood,
    h.getElem?_flood allowed marked roots⟩

open Reachability

/-- The last block of the loop was marked before, and the exit is not permitted. -/
theorem flood_marks_reachable_loopWithExit :
    Reachable loopWithExit ∧
      ∀ t : NodeId, #[false, true, true][t.index]? = some true ↔
        #[false, false, true][t.index]? = some true ∨
          ∃ r ∈ [⟨1⟩, ⟨1⟩, ⟨2⟩], loopWithExit.LeadsWithin
            (fun x => #[false, false, true][x.index]? = some false ∧ decide (x ≠ ⟨0⟩)) r t := by
  have hg := reachable_loopWithExit
  obtain ⟨-, -, -, hmarks⟩ :=
    flood_marks_reachable hg (fun x => x ≠ ⟨0⟩) #[false, false, true] [⟨1⟩, ⟨1⟩, ⟨2⟩]
  obtain ⟨-, -, hs₁, -⟩ := successors_loopWithExit
  have hflood : loopWithExit.flood (fun x => x ≠ ⟨0⟩) #[false, false, true] [⟨1⟩, ⟨1⟩, ⟨2⟩] =
      #[false, true, true] := by
    simp [flood, hs₁]
  exact ⟨hg, hflood ▸ hmarks⟩

end Graph
end FlowAtlas
