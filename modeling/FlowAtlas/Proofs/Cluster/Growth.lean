import FlowAtlas.Cluster.Crossing
import FlowAtlas.Proofs.Cluster.Coherent
import FlowAtlas.Proofs.Stateful

/-!
# Clusters only grow

Whatever is done to a cluster, its nodes stay, each signature keeps the node that stands for it, and
joined nodes stay joined.  `Cluster.Grows` says so, and names the pairs of nodes that are joined in
addition; `Clusters.Grows` says the same of all clusters of a process.

* `NodeStep.grows` and `grows_addEdge` are the steps within one cluster.
* `Clusters.grows_set` puts a cluster that has grown back among the others, so that
  `Clusters.grows_onNode` and `Clusters.grows_addEdge` are the same steps for all clusters.
-/

set_option autoImplicit false

namespace FlowAtlas
namespace Cluster

variable {c c' c₁ c₂ c₃ : Cluster} {x : Node} {placed : NodeId × Bool} {s t n : NodeId}
  {k : EdgeKind} {o : UInt8} {outcome : EdgeOutcome} {key : NodeKey} {signature : UInt64}
  {owner : UnitId} {isCallback : Bool}

/-! ## Growing -/

/-- The nodes of `c` are nodes of `c'`, and stand for the same signatures. -/
structure Extends (c c' : Cluster) : Prop where
  graph : c.graph.Extends c'.graph
  entryPoint?_eq_some : ∀ h n, c.entryPoint? h = some n → c'.entryPoint? h = some n
  exitPoint?_eq_some : ∀ h n, c.exitPoint? h = some n → c'.exitPoint? h = some n

theorem Extends.refl (c : Cluster) : Extends c c :=
  ⟨Graph.Extends.refl c.graph, fun _ _ h => h, fun _ _ h => h⟩

theorem Extends.trans (h : Extends c₁ c₂) (h' : Extends c₂ c₃) : Extends c₁ c₃ where
  graph := h.graph.trans h'.graph
  entryPoint?_eq_some hash n hn := h'.entryPoint?_eq_some hash n (h.entryPoint?_eq_some hash n hn)
  exitPoint?_eq_some hash n hn := h'.exitPoint?_eq_some hash n (h.exitPoint?_eq_some hash n hn)

/-- The cluster `c'` has come of `c`, and joins the pairs `new` as well. -/
structure Grows (c c' : Cluster) (new : NodeId → NodeId → Prop) : Prop where
  coherent : c'.Coherent
  extends_ : c.Extends c'
  joins_iff : ∀ a b, c'.graph.Joins a b ↔ c.graph.Joins a b ∨ new a b

/-- The two clusters have the same ordinary blocks. -/
def SameBlocks (c c' : Cluster) : Prop := ∀ unit tag version,
  c'.graph.find? (.block unit tag version) = c.graph.find? (.block unit tag version)

/-! ## Nodes -/

namespace NodeStep

theorem extends_ (hs : NodeStep c x (placed, c')) : c.Extends c' := by
  have hext := Graph.extends_addNode c.graph x
  cases hs with
  | knownEntry => exact Extends.refl c
  | entry hkey hkind hfree =>
    refine ⟨hext, fun h n hn => ?_, fun h n hn => hn⟩
    have hn : c.entries[h]? = some n := hn
    show (Registry.register c.graph c.entries x)[h]? = some n
    rw [Registry.register, Registry.getElem?_register, if_neg, hn]
    rintro rfl
    cases hfree.symm.trans hn
  | knownExit => exact Extends.refl c
  | exit hkey hkind hfree =>
    refine ⟨hext, fun h n hn => hn, fun h n hn => ?_⟩
    have hn : c.exits[h]? = some n := hn
    show (Registry.register c.graph c.exits x)[h]? = some n
    rw [Registry.register, Registry.getElem?_register, if_neg, hn]
    rintro rfl
    cases hfree.symm.trans hn
  | knownRoot => exact Extends.refl c
  | root => exact ⟨Graph.extends_addNode c.graph _, fun h n hn => hn, fun h n hn => hn⟩
  | block => exact ⟨hext, fun h n hn => hn, fun h n hn => hn⟩

theorem edge?_eq (hs : NodeStep c x (placed, c')) : c'.graph.edge? = c.graph.edge? := by
  cases hs with
  | knownEntry | knownExit | knownRoot => rfl
  | entry | exit | block => exact Graph.edge?_addNode c.graph x
  | root => exact Graph.edge?_addNode c.graph _

theorem grows (hs : NodeStep c x (placed, c')) (h : c.Coherent) (hx : x.edges = {}) :
    c.Grows c' fun _ _ => False where
  coherent := hs.coherent h hx
  extends_ := hs.extends_
  joins_iff a b := by
    rw [Graph.Joins, Graph.Joins, hs.edge?_eq]
    exact (or_iff_left not_false).symm

theorem hasNode (hs : NodeStep c x (placed, c')) (h : c.Coherent) :
    c'.graph.hasNode placed.1 := by
  cases hs with
  | knownEntry _ _ hm => exact (h.entries.issued _ _ hm).1
  | knownExit _ _ hm => exact (h.exits.issued _ _ hm).1
  | knownRoot _ hm => exact h.hasNode_root hm
  | entry | exit | block => exact h.graph.hasNode_addNode x
  | root => exact h.graph.hasNode_addNode _

theorem find?_eq_of_ne (hs : NodeStep c x (placed, c')) (hkey : x.key ≠ key) :
    c'.graph.find? key = c.graph.find? key := by
  cases hs with
  | knownEntry | knownExit | knownRoot => rfl
  | entry | exit | block =>
    dsimp only
    rw [Graph.find?_addNode, if_neg hkey]
  | root hroot =>
    dsimp only
    rw [Graph.find?_addNode]
    exact if_neg fun heq => hkey (hroot.trans heq)

/-- The first node of a cluster stands under its key, whatever its kind. -/
theorem find?_of_empty {id : ClusterId} {name : String}
    (hs : NodeStep (empty id name) x (placed, c')) (hkey : x.key ≠ .processRoot) :
    c'.graph.find? x.key = some placed.1 := by
  cases hs with
  | knownEntry _ _ hm => simp [empty] at hm
  | knownExit _ _ hm => simp [empty] at hm
  | knownRoot hroot => exact absurd hroot hkey
  | root hroot => exact absurd hroot hkey
  | entry | exit | block =>
    dsimp only
    rw [Graph.find?_addNode, if_pos rfl]

end NodeStep

section

variable (hc : c.addEntryFor signature owner isCallback = (placed, c'))

include hc

theorem sameBlocks_addEntryFor : c.SameBlocks c' := by
  have hs := nodeStep_addEntryFor c signature owner isCallback
  rw [hc] at hs
  exact fun _ _ _ => hs.find?_eq_of_ne fun hkey => by cases hkey

theorem entryPoint?_addEntryFor : c'.entryPoint? signature = some placed.1 := by
  rw [addEntryFor, addEntry] at hc
  dsimp only [Node.boundary] at hc
  cases hm : c.entries[signature]? with
  | some n =>
    rw [hm] at hc
    cases hc
    exact hm
  | none =>
    rw [hm] at hc
    cases hc
    exact Std.HashMap.getElem?_insert_self

end

section

variable (hc : c.addExitFor signature owner isCallback = (placed, c'))

include hc

theorem sameBlocks_addExitFor : c.SameBlocks c' := by
  have hs := nodeStep_addExitFor c signature owner isCallback
  rw [hc] at hs
  exact fun _ _ _ => hs.find?_eq_of_ne fun hkey => by cases hkey

theorem exitPoint?_addExitFor : c'.exitPoint? signature = some placed.1 := by
  rw [addExitFor, addExit] at hc
  dsimp only [Node.boundary] at hc
  cases hm : c.exits[signature]? with
  | some n =>
    rw [hm] at hc
    cases hc
    exact hm
  | none =>
    rw [hm] at hc
    cases hc
    exact Std.HashMap.getElem?_insert_self

end

/-! ## Edges -/

theorem addEdge_eq_ok (hr : addEdge s t k o c = .ok outcome c') :
    ∃ g, Graph.addEdge s t k o c.graph = .ok outcome g ∧ c' = { c with graph := g } := by
  rw [addEdge, onGraph] at hr
  cases hg : Graph.addEdge s t k o c.graph with
  | ok a g =>
    dsimp only at hr
    rw [hg] at hr
    cases hr
    exact ⟨g, rfl, rfl⟩
  | error cause g =>
    dsimp only at hr
    rw [hg] at hr
    cases hr

theorem grows_addEdge (h : c.Coherent) (hs : c.graph.hasNode s) (ht : c.graph.hasNode t)
    (hr : addEdge s t k o c = .ok outcome c') : c.Grows c' fun a b => a = s ∧ b = t := by
  obtain ⟨g, hg, rfl⟩ := addEdge_eq_ok hr
  have hsame := c.graph.sameNodes_addEdge s t k o
  have hgraph := h.graph.addEdge (k := k) (o := o) hs ht
  rw [hg] at hsame hgraph
  exact {
    coherent := h.withGraph hgraph hsame
    extends_ := ⟨hsame.extends, fun _ _ hn => hn, fun _ _ hn => hn⟩
    joins_iff := fun a b => h.graph.joins_addEdge_iff hg }

theorem sameBlocks_addEdge (hr : addEdge s t k o c = .ok outcome c') : c.SameBlocks c' := by
  obtain ⟨g, hg, rfl⟩ := addEdge_eq_ok hr
  have hsame := c.graph.sameNodes_addEdge s t k o
  rw [hg] at hsame
  exact fun _ _ _ => hsame.find?_eq

end Cluster

/-! ## All clusters -/

namespace Clusters

variable {ε α : Type} {cs cs' cs₁ cs₂ cs₃ : Clusters} {i j : ClusterId} {c c' : Cluster} {a : α}
  {n : NodeId} {new new' : ClusterId → NodeId → NodeId → Prop}

theorem get_of_size_le (hi : cs.size ≤ i.index) : cs.get i = .empty ⟨0⟩ "" := by
  rw [get, Array.getD_eq_getD_getElem?, Array.getElem?_eq_none hi]
  rfl

theorem exists_get_eq (hc : c ∈ cs.toList) : ∃ i, cs.get i = c := by
  obtain ⟨i, hi⟩ := List.mem_iff_getElem?.1 hc
  refine ⟨⟨i⟩, ?_⟩
  rw [get, Array.getD_eq_getD_getElem?, ← Array.getElem?_toList, hi, Option.getD_some]

theorem index_lt_of_hasNode (hn : (cs.get i).graph.hasNode n) : i.index < cs.size := by
  by_contra hi
  rw [get_of_size_le (Nat.le_of_not_lt hi), Graph.hasNode_iff] at hn
  exact Nat.not_lt_zero _ hn

theorem mem_of_hasNode (hn : (cs.get i).graph.hasNode n) : cs.get i ∈ cs.toList := by
  have hi := index_lt_of_hasNode hn
  rw [get, Array.getD_eq_getD_getElem?, Array.getElem?_eq_getElem hi, Option.getD_some]
  exact Array.getElem_mem_toList hi

theorem get_setIfInBounds :
    Clusters.get (cs.setIfInBounds i.index c) j =
      if j = i ∧ i.index < cs.size then c else cs.get j := by
  rw [get, get, Array.getD_eq_getD_getElem?, Array.getD_eq_getD_getElem?,
    Array.getElem?_setIfInBounds]
  by_cases hj : j = i
  · rw [hj, if_pos rfl]
    by_cases hi : i.index < cs.size
    · rw [if_pos hi, if_pos ⟨rfl, hi⟩]
      rfl
    · rw [if_neg hi, if_neg fun h => hi h.2, Array.getElem?_eq_none (Nat.le_of_not_lt hi)]
  · rw [if_neg fun h => hj (congrArg ClusterId.mk h.symm), if_neg fun h => hj h.1]

theorem on_eq_ok {step : EStateM ε Cluster α} (h : on i step cs = .ok a cs') :
    ∃ c, step (cs.get i) = .ok a c ∧ cs' = cs.setIfInBounds i.index c := by
  rw [on] at h
  cases hs : step (cs.get i) with
  | ok b c =>
    rw [hs] at h
    cases h
    exact ⟨c, rfl, Array.setIfInBounds_setIfInBounds _⟩
  | error cause c =>
    rw [hs] at h
    cases h

theorem onNode_eq_ok {step : Cluster → (NodeId × Bool) × Cluster} {placed : NodeId × Bool}
    (h : @onNode ε i step cs = .ok placed cs') :
    ∃ c, step (cs.get i) = (placed, c) ∧ cs' = cs.setIfInBounds i.index c := by
  obtain ⟨c, hc, hcs⟩ := on_eq_ok h
  cases hc
  exact ⟨_, rfl, hcs⟩

/-! ## Growing -/

/-- Every cluster keeps its invariant. -/
def Coherent (cs : Clusters) : Prop := ∀ i, (cs.get i).Coherent

/-- The clusters `cs'` have come of `cs`, and join the pairs `new` as well. -/
structure Grows (cs cs' : Clusters) (new : ClusterId → NodeId → NodeId → Prop) : Prop where
  size : cs'.size = cs.size
  coherent : cs'.Coherent
  extends_ : ∀ i, (cs.get i).Extends (cs'.get i)
  joins_iff : ∀ i a b, (cs'.get i).graph.Joins a b ↔ (cs.get i).graph.Joins a b ∨ new i a b

/-- The clusters have the same ordinary blocks. -/
def SameBlocks (cs cs' : Clusters) : Prop := ∀ i, (cs.get i).SameBlocks (cs'.get i)

theorem SameBlocks.refl (cs : Clusters) : SameBlocks cs cs := fun _ _ _ _ => rfl

theorem SameBlocks.trans (h : SameBlocks cs₁ cs₂) (h' : SameBlocks cs₂ cs₃) : SameBlocks cs₁ cs₃ :=
  fun i unit tag version => (h' i unit tag version).trans (h i unit tag version)

theorem Grows.refl (h : cs.Coherent) : Grows cs cs fun _ _ _ => False where
  size := rfl
  coherent := h
  extends_ _ := Cluster.Extends.refl _
  joins_iff _ _ _ := (or_iff_left not_false).symm

theorem Grows.trans (h : Grows cs₁ cs₂ new) (h' : Grows cs₂ cs₃ new') :
    Grows cs₁ cs₃ fun i a b => new i a b ∨ new' i a b where
  size := h'.size.trans h.size
  coherent := h'.coherent
  extends_ i := (h.extends_ i).trans (h'.extends_ i)
  joins_iff i a b := by rw [h'.joins_iff, h.joins_iff, or_assoc]

theorem Grows.congr (h : Grows cs cs' new) (hnew : ∀ i a b, new i a b ↔ new' i a b) :
    Grows cs cs' new' where
  size := h.size
  coherent := h.coherent
  extends_ := h.extends_
  joins_iff i a b := by rw [h.joins_iff, hnew]

/-- One of the clusters has grown.  A number that is not in use stands for none of them. -/
theorem grows_set {pairs : NodeId → NodeId → Prop} (h : cs.Coherent)
    (hc : i.index < cs.size → (cs.get i).Grows c pairs) :
    Grows cs (cs.setIfInBounds i.index c) fun j a b => (j = i ∧ i.index < cs.size) ∧ pairs a b where
  size := Array.size_setIfInBounds
  coherent j := by
    rw [get_setIfInBounds]
    split
    · rename_i hj
      exact (hc hj.2).coherent
    · exact h j
  extends_ j := by
    rw [get_setIfInBounds]
    split
    · rename_i hj
      exact hj.1 ▸ (hc hj.2).extends_
    · exact Cluster.Extends.refl _
  joins_iff j a b := by
    rw [get_setIfInBounds]
    split
    · rename_i hj
      rw [and_iff_right hj, hj.1]
      exact (hc hj.2).joins_iff a b
    · rename_i hj
      exact (or_iff_left fun hnew => hj hnew.1).symm

theorem sameBlocks_set (hc : (cs.get i).SameBlocks c) :
    SameBlocks cs (cs.setIfInBounds i.index c) := by
  intro j
  rw [get_setIfInBounds]
  split
  · rename_i hj
    exact hj.1 ▸ hc
  · exact fun _ _ _ => rfl

theorem hasNode_of_grows (h : Grows cs cs' new) (hn : (cs.get i).graph.hasNode n) :
    (cs'.get i).graph.hasNode n :=
  (h.extends_ i).graph.hasNode n hn

/-- A node joins nothing. -/
theorem grows_onNode {x : Node} {placed : NodeId × Bool}
    {step : Cluster → (NodeId × Bool) × Cluster} (h : cs.Coherent) (hx : x.edges = {})
    (hs : Cluster.NodeStep (cs.get i) x (step (cs.get i)))
    (hr : @onNode ε i step cs = .ok placed cs') :
    Grows cs cs' (fun _ _ _ => False) ∧
      (i.index < cs.size → (cs'.get i).graph.hasNode placed.1) := by
  obtain ⟨c, hc, rfl⟩ := onNode_eq_ok hr
  rw [hc] at hs
  constructor
  · exact (grows_set h fun _ => hs.grows (h i) hx).congr fun _ _ _ => iff_of_eq (and_false _)
  · intro hi
    rw [get_setIfInBounds, if_pos ⟨rfl, hi⟩]
    exact hs.hasNode (h i)

/-- An edge joins its ends. -/
theorem grows_addEdge {s t : NodeId} {k : EdgeKind} {o : UInt8} {outcome : EdgeOutcome}
    (h : cs.Coherent) (hs : i.index < cs.size → (cs.get i).graph.hasNode s)
    (ht : i.index < cs.size → (cs.get i).graph.hasNode t)
    (hr : on i (Cluster.addEdge s t k o) cs = .ok outcome cs') :
    Grows cs cs' (fun j a b => (j = i ∧ i.index < cs.size) ∧ a = s ∧ b = t) ∧
      SameBlocks cs cs' := by
  obtain ⟨c, hc, rfl⟩ := on_eq_ok hr
  constructor
  · exact grows_set h fun hi => Cluster.grows_addEdge (h i) (hs hi) (ht hi) hc
  · exact sameBlocks_set (Cluster.sameBlocks_addEdge hc)

end Clusters

/-!
## What a call between clusters joins

`Crossing.split` puts two edges.  `grows_split` says what has become of the clusters when both were
granted: the source leads to the exit of the signature, the entry of the signature leads to the
target, and nothing else is joined that was not before.
-/

namespace Crossing

variable {cs cs' : Clusters} {source target : ClusterNode} {t : Transfer}
  {half : (NodeId × Bool) × EdgeOutcome} {crossing : Crossing}

/-- The half on the side of the source. -/
theorem grows_splitExit (h : cs.Coherent)
    (hs : (cs.get source.cluster).graph.hasNode source.node)
    (hr : splitExit source t cs = .ok half cs') :
    Clusters.Grows cs cs' (fun i a b => ⟨i, a⟩ = source ∧ b = half.1.1) ∧
      Clusters.SameBlocks cs cs' ∧
      (cs'.get source.cluster).exitPoint? t.signature = some half.1.1 := by
  have hi := Clusters.index_lt_of_hasNode hs
  rw [splitExit] at hr
  obtain ⟨_, _, hget, hr⟩ := EStateM.bind_eq_ok_iff.1 hr
  cases hget
  obtain ⟨placed, cs₁, hnode, hr⟩ := EStateM.bind_eq_ok_iff.1 hr
  obtain ⟨edge, cs₂, hedge, hr⟩ := EStateM.bind_eq_ok_iff.1 hr
  cases hr
  obtain ⟨hgrow₁, hplaced⟩ := Clusters.grows_onNode h rfl (Cluster.nodeStep_addExitFor _ _ _ _) hnode
  have hi₁ : source.cluster.index < cs₁.size := hgrow₁.size ▸ hi
  obtain ⟨hgrow₂, hblocks₂⟩ := Clusters.grows_addEdge hgrow₁.coherent
    (fun _ => Clusters.hasNode_of_grows hgrow₁ hs) (fun _ => hplaced hi) hedge
  obtain ⟨c, hc, rfl⟩ := Clusters.onNode_eq_ok hnode
  refine ⟨(hgrow₁.trans hgrow₂).congr fun i a b => ?_, ?_, ?_⟩
  · rw [false_or, and_iff_left hi₁, ← and_assoc]
    refine and_congr_left fun _ => ⟨?_, ?_⟩
    · rintro ⟨rfl, rfl⟩
      rfl
    · rintro rfl
      exact ⟨rfl, rfl⟩
  · exact (Clusters.sameBlocks_set (Cluster.sameBlocks_addExitFor hc)).trans hblocks₂
  · refine (hgrow₂.extends_ source.cluster).exitPoint?_eq_some _ _ ?_
    rw [Clusters.get_setIfInBounds, if_pos ⟨rfl, hi⟩]
    exact Cluster.exitPoint?_addExitFor hc

/-- The half on the side of the target. -/
theorem grows_splitEntry (h : cs.Coherent)
    (ht : (cs.get target.cluster).graph.hasNode target.node)
    (hr : splitEntry target t cs = .ok half cs') :
    Clusters.Grows cs cs' (fun i a b => ⟨i, b⟩ = target ∧ a = half.1.1) ∧
      Clusters.SameBlocks cs cs' ∧
      (cs'.get target.cluster).entryPoint? t.signature = some half.1.1 := by
  have hi := Clusters.index_lt_of_hasNode ht
  rw [splitEntry] at hr
  obtain ⟨_, _, hget, hr⟩ := EStateM.bind_eq_ok_iff.1 hr
  cases hget
  obtain ⟨placed, cs₁, hnode, hr⟩ := EStateM.bind_eq_ok_iff.1 hr
  obtain ⟨edge, cs₂, hedge, hr⟩ := EStateM.bind_eq_ok_iff.1 hr
  cases hr
  obtain ⟨hgrow₁, hplaced⟩ :=
    Clusters.grows_onNode h rfl (Cluster.nodeStep_addEntryFor _ _ _ _) hnode
  have hi₁ : target.cluster.index < cs₁.size := hgrow₁.size ▸ hi
  obtain ⟨hgrow₂, hblocks₂⟩ := Clusters.grows_addEdge hgrow₁.coherent
    (fun _ => hplaced hi) (fun _ => Clusters.hasNode_of_grows hgrow₁ ht) hedge
  obtain ⟨c, hc, rfl⟩ := Clusters.onNode_eq_ok hnode
  refine ⟨(hgrow₁.trans hgrow₂).congr fun i a b => ?_, ?_, ?_⟩
  · rw [false_or, and_iff_left hi₁]
    constructor
    · rintro ⟨rfl, rfl, rfl⟩
      exact ⟨rfl, rfl⟩
    · rintro ⟨rfl, rfl⟩
      exact ⟨rfl, rfl, rfl⟩
  · exact (Clusters.sameBlocks_set (Cluster.sameBlocks_addEntryFor hc)).trans hblocks₂
  · refine (hgrow₂.extends_ target.cluster).entryPoint?_eq_some _ _ ?_
    rw [Clusters.get_setIfInBounds, if_pos ⟨rfl, hi⟩]
    exact Cluster.entryPoint?_addEntryFor hc

/-- **A transfer between clusters joins its source to the exit of its signature and the entry of its
signature to its target**, and no other nodes. -/
theorem grows_split (h : cs.Coherent) (hs : (cs.get source.cluster).graph.hasNode source.node)
    (ht : (cs.get target.cluster).graph.hasNode target.node)
    (hr : split source target t cs = .ok crossing cs') :
    ∃ exit entry, (cs'.get source.cluster).exitPoint? t.signature = some exit ∧
      (cs'.get target.cluster).entryPoint? t.signature = some entry ∧
      Clusters.SameBlocks cs cs' ∧
      Clusters.Grows cs cs' fun i a b =>
        (⟨i, a⟩ = source ∧ b = exit) ∨ (⟨i, b⟩ = target ∧ a = entry) := by
  rw [split] at hr
  split at hr
  · cases hr
  · obtain ⟨⟨exit, exitEdge⟩, cs₁, hexit, hr⟩ := EStateM.bind_eq_ok_iff.1 hr
    obtain ⟨⟨entry, entryEdge⟩, cs₂, hentry, hr⟩ := EStateM.bind_eq_ok_iff.1 hr
    cases hr
    rw [EStateM.adaptExcept_eq_ok_iff] at hexit hentry
    obtain ⟨hgrow₁, hblocks₁, hexitPoint⟩ := grows_splitExit h hs hexit
    obtain ⟨hgrow₂, hblocks₂, hentryPoint⟩ :=
      grows_splitEntry hgrow₁.coherent (Clusters.hasNode_of_grows hgrow₁ ht) hentry
    exact ⟨exit.1, entry.1, (hgrow₂.extends_ _).exitPoint?_eq_some _ _ hexitPoint, hentryPoint,
      hblocks₁.trans hblocks₂, hgrow₁.trans hgrow₂⟩

end Crossing
end FlowAtlas
