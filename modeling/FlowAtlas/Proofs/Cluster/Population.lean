import Mathlib.Data.List.Induction
import FlowAtlas.Proofs.Cluster.Guarded

/-!
# The nodes of a cluster in their order

`Graph.bares` lists the nodes of a graph by their places, apart from the edges at them.  Two
invariants speak of it:

* `Cluster.Stocked` is for a cluster that takes in blocks: which blocks it has and in which order,
  what else it has, and that no signature is registered yet.
* `Cluster.Bordered` is for what comes later: the nodes are those of an earlier cluster and after
  them boundary nodes of signatures that are used.

`Stocked.node`, `Stocked.root` and `Bordered.nodeStep` are the steps that matter.
-/

set_option autoImplicit false

namespace FlowAtlas

/-! ## First occurrences -/

namespace Node

variable {xs : List Node} {x y : Node}

/-- The first node of each key, in the order of the list. -/
def firsts (xs : List Node) : List Node := xs.eraseDupsBy fun x y => x.key == y.key

theorem firsts_concat (xs : List Node) (x : Node) : firsts (xs ++ [x]) =
    if x.key ∈ (firsts xs).map Node.key then firsts xs else firsts xs ++ [x] := by
  -- the loop keeps what it has found in reverse
  have hloop : ∀ found, List.eraseDupsBy.loop (fun x y => x.key == y.key) (xs ++ [x]) found =
      if x.key ∈ (List.eraseDupsBy.loop (fun x y => x.key == y.key) xs found).map Node.key then
        List.eraseDupsBy.loop (fun x y => x.key == y.key) xs found
      else List.eraseDupsBy.loop (fun x y => x.key == y.key) xs found ++ [x] := by
    induction xs with
    | nil =>
      intro found
      have hmem : found.any (fun y => x.key == y.key) ↔ x.key ∈ found.reverse.map Node.key := by
        rw [List.any_eq_true, List.map_reverse, List.mem_reverse, List.mem_map]
        exact exists_congr fun y => and_congr_right fun _ => beq_iff_eq.trans eq_comm
      rw [List.nil_append, List.eraseDupsBy.loop, List.eraseDupsBy.loop]
      cases hany : found.any fun y => x.key == y.key with
      | true =>
        rw [if_pos (hmem.1 hany)]
        rfl
      | false =>
        rw [if_neg fun h => Bool.eq_false_iff.1 hany (hmem.2 h)]
        exact List.reverse_cons
    | cons y xs ih =>
      intro found
      rw [List.cons_append, List.eraseDupsBy.loop, List.eraseDupsBy.loop]
      cases found.any fun z => y.key == z.key with
      | true => exact ih found
      | false => exact ih (y :: found)
  exact hloop []

theorem mem_of_mem_firsts (h : x ∈ firsts xs) : x ∈ xs := by
  induction xs using List.reverseRecOn with
  | nil => exact h
  | append_singleton xs y ih =>
    rw [firsts_concat] at h
    split at h
    · exact List.mem_append_left _ (ih h)
    · exact (List.mem_append.1 h).elim (fun h => List.mem_append_left _ (ih h))
        (List.mem_append_right _)

end Node

/-! ## Nodes by place -/

namespace Graph

variable {g g' : Graph} {x : Node} {n : NodeId} {key : NodeKey}

/-- The nodes by their places, apart from the edges at them. -/
def bares (g : Graph) : List Node := g.nodes.toList.map Node.bare

theorem getElem?_bares (g : Graph) (n : NodeId) :
    g.bares[n.index]? = if g.hasNode n then some (g.node n).bare else none := by
  rw [bares, List.getElem?_map, Array.getElem?_toList, node, Array.getD_eq_getD_getElem?]
  by_cases hn : g.hasNode n
  · rw [if_pos hn, Array.getElem?_eq_getElem (hasNode_iff.1 hn)]
    rfl
  · rw [if_neg hn, Array.getElem?_eq_none (Nat.le_of_not_lt fun h => hn (hasNode_iff.2 h))]
    rfl

theorem getElem?_bares_eq_some_iff :
    g.bares[n.index]? = some x ↔ g.hasNode n ∧ (g.node n).bare = x := by
  rw [getElem?_bares]
  split
  · rename_i hn
    rw [Option.some.injEq, and_iff_right hn]
  · rename_i hn
    exact iff_of_false nofun fun h => hn h.1

theorem mem_bares_iff : x ∈ g.bares ↔ ∃ n, g.hasNode n ∧ (g.node n).bare = x := by
  rw [List.mem_iff_getElem?]
  exact ⟨fun ⟨i, hi⟩ => ⟨⟨i⟩, getElem?_bares_eq_some_iff.1 hi⟩,
    fun ⟨n, hn⟩ => ⟨n.index, getElem?_bares_eq_some_iff.2 hn⟩⟩

theorem bares_withNode : (g.withNode x).bares = g.bares ++ [x.bare] := by
  rw [bares, withNode, Array.toList_push, List.map_append]
  rfl

theorem SameNodes.bares_eq (h : SameNodes g g') : g'.bares = g.bares := by
  refine List.ext_getElem? fun i => ?_
  have hn : (g'.hasNode ⟨i⟩ : Prop) = g.hasNode ⟨i⟩ := propext h.hasNode_iff
  rw [getElem?_bares g' ⟨i⟩, getElem?_bares g ⟨i⟩, h.bare]
  simp only [hn]

theorem Coherent.mem_keys_bares_iff (h : g.Coherent) :
    key ∈ g.bares.map Node.key ↔ ∃ n, g.find? key = some n := by
  rw [List.mem_map]
  constructor
  · rintro ⟨x, hx, rfl⟩
    obtain ⟨n, hn, rfl⟩ := mem_bares_iff.1 hx
    exact ⟨n, (h.find?_eq_some_iff _ _).2 ⟨hn, rfl⟩⟩
  · rintro ⟨n, hfind⟩
    obtain ⟨hn, rfl⟩ := (h.find?_eq_some_iff _ _).1 hfind
    exact ⟨_, mem_bares_iff.2 ⟨n, hn, rfl⟩, rfl⟩

/-- A node whose key is new goes to the end. -/
theorem Coherent.bares_addNode (h : g.Coherent) (x : Node) : (g.addNode x).2.bares =
    if x.key ∈ g.bares.map Node.key then g.bares else g.bares ++ [x.bare] := by
  cases hfind : g.find? x.key with
  | some n => rw [addNode_of_find? hfind, if_pos (h.mem_keys_bares_iff.2 ⟨n, hfind⟩)]
  | none =>
    rw [addNode_of_new hfind, if_neg, bares_withNode]
    rw [h.mem_keys_bares_iff, hfind]
    exact nofun

end Graph

namespace Cluster

variable {c c₀ c' : Cluster} {q : Request} {x : Node} {placed : NodeId × Bool} {m n s t : NodeId}
  {k : EdgeKind} {o : UInt8} {blocks others xs : List Node} {owner : UnitId} {isCallback : Bool}
  {signature : UInt64} {side : NodeKind} {used : NodeKind → UInt64 → Prop}

theorem bares_addEdge : (addEdge s t k o c).state.graph.bares = c.graph.bares := by
  rw [addEdge, state_onGraph]
  exact (c.graph.sameNodes_addEdge s t k o).bares_eq

/-- Whoever is added goes to the end, or was there already. -/
theorem NodeStep.bares_cases (hs : NodeStep c x (placed, c')) (h : c.Coherent)
    (hkey : x.key ≠ .processRoot) :
    c'.graph.bares = c.graph.bares ∨ c'.graph.bares = c.graph.bares ++ [x.bare] := by
  cases hs with
  | knownEntry | knownExit | knownRoot => exact Or.inl rfl
  | entry | exit | block =>
    dsimp only
    rw [h.graph.bares_addNode]
    split
    · exact Or.inl rfl
    · exact Or.inr rfl
  | root hroot => exact absurd hroot hkey

/-! ## Taking in blocks -/

theorem addNode_eq_addBlock (hkey : x.key ≠ .processRoot) (hkind : x.kind.isBoundary = false) :
    c.addNode x = c.addBlock x := by
  rw [addNode, if_neg hkey]
  cases hk : x.kind with
  | clusterEntry | clusterExit =>
    rw [hk] at hkind
    cases hkind
  | _ => rfl

/-- The cluster has these blocks, counts them, has these nodes besides, and has registered no
signature. -/
structure Stocked (blocks others : List Node) (c : Cluster) : Prop where
  coherent : c.Coherent
  blocks_eq : c.graph.bares.filter (·.key.isBlock) = blocks
  others_eq : c.graph.bares.filter (!·.key.isBlock) = others
  blockCount_eq : c.blockCount = blocks.length
  entries : ∀ h, c.entryPoint? h = none
  exits : ∀ h, c.exitPoint? h = none

namespace Stocked

theorem mem_bares_iff (h : c.Stocked blocks others) :
    x ∈ c.graph.bares ↔ x ∈ blocks ∨ x ∈ others := by
  rw [← h.blocks_eq, ← h.others_eq, List.mem_filter, List.mem_filter, ← and_or_left]
  cases x.key.isBlock <;> simp

/-- An ordinary block is taken in when its key is new, and counts then. -/
theorem node (h : c.Stocked (Node.firsts xs) others) (hblock : x.key.isBlock)
    (hkind : x.kind.isBoundary = false) (hedges : x.edges = {}) :
    (c.addNode x).2.Stocked (Node.firsts (xs ++ [x])) others := by
  have hcoherent : (c.addNode x).2.Coherent :=
    (nodeStep_addNode c x).coherent h.coherent hedges
  have hbare : x.bare = x := by rw [Node.bare, ← hedges]
  have hmem : x.key ∈ c.graph.bares.map Node.key ↔ x.key ∈ (Node.firsts xs).map Node.key := by
    rw [List.mem_map, List.mem_map]
    refine exists_congr fun y => and_congr_left fun hy => ?_
    rw [← h.blocks_eq, List.mem_filter, hy, and_iff_left hblock]
  have hkey : x.key ≠ .processRoot := fun hroot => by
    rw [hroot] at hblock
    cases hblock
  rw [addNode_eq_addBlock hkey hkind] at hcoherent ⊢
  rw [Node.firsts_concat]
  cases hfind : c.graph.find? x.key with
  | some n =>
    rw [if_pos (hmem.1 (h.coherent.graph.mem_keys_bares_iff.2 ⟨n, hfind⟩)), addBlock_of_find? hfind]
    exact h
  | none =>
    have hnew : x.key ∉ (Node.firsts xs).map Node.key := by
      rw [← hmem, h.coherent.graph.mem_keys_bares_iff, hfind]
      exact nofun
    obtain ⟨counts, hc⟩ := addBlock_of_new hfind
    rw [hc] at hcoherent ⊢
    rw [if_neg hnew]
    have hbares : (c.graph.withNode x).bares = c.graph.bares ++ [x] :=
      Graph.bares_withNode.trans (by rw [hbare])
    exact {
      coherent := hcoherent
      blocks_eq := by
        rw [hbares, List.filter_append, h.blocks_eq]
        simp [hblock]
      others_eq := by
        rw [hbares, List.filter_append, h.others_eq]
        simp [hblock]
      blockCount_eq := by
        rw [List.length_append, ← h.blockCount_eq]
        rfl
      entries := h.entries
      exits := h.exits }

theorem root_eq_none (h : c.Stocked blocks []) : c.root = none := by
  rw [h.coherent.root_eq, Option.eq_none_iff_forall_ne_some]
  intro n hn
  obtain ⟨hnode, hkey⟩ := (h.coherent.graph.find?_eq_some_iff _ _).1 hn
  have hother : (c.graph.node n).bare ∈ c.graph.bares.filter (!·.key.isBlock) :=
    List.mem_filter.2 ⟨Graph.mem_bares_iff.2 ⟨n, hnode, rfl⟩, by
      rw [show (c.graph.node n).bare.key = .processRoot from hkey]
      rfl⟩
  rw [h.others_eq] at hother
  cases hother

/-- The process root goes to the end, and is no block. -/
theorem addRoot (h : c.Stocked blocks []) (owner : UnitId) :
    (c.addRoot owner).2.graph.bares = c.graph.bares ++ [.processRoot owner] ∧
      (c.addRoot owner).2.Stocked blocks [.processRoot owner] := by
  have hcoherent : (c.addRoot owner).2.Coherent :=
    (nodeStep_addRoot c owner).coherent h.coherent rfl
  have hroot := h.root_eq_none
  have hnew : c.graph.find? (Node.processRoot owner).key = none := h.coherent.root_eq ▸ hroot
  rw [Cluster.addRoot, hroot] at hcoherent ⊢
  dsimp only at hcoherent ⊢
  rw [Graph.addNode_of_new hnew] at hcoherent ⊢
  have hbares : (c.graph.withNode (.processRoot owner)).bares =
      c.graph.bares ++ [.processRoot owner] := Graph.bares_withNode
  refine ⟨hbares, ?_⟩
  exact {
    coherent := hcoherent
    blocks_eq := by
      rw [hbares, List.filter_append, h.blocks_eq]
      exact List.append_nil _
    others_eq := by
      rw [hbares, List.filter_append, h.others_eq]
      rfl
    blockCount_eq := h.blockCount_eq
    entries := h.entries
    exits := h.exits }

theorem addEdge (h : c.Stocked blocks others) (hs : c.graph.hasNode s) (ht : c.graph.hasNode t) :
    (Cluster.addEdge s t k o c).state.Stocked blocks others := by
  have hcoherent := h.coherent.addEdge (k := k) (o := o) hs ht
  have hbares := bares_addEdge (c := c) (s := s) (t := t) (k := k) (o := o)
  rw [Cluster.addEdge, state_onGraph] at hcoherent hbares ⊢
  exact {
    coherent := hcoherent
    blocks_eq := by
      rw [hbares]
      exact h.blocks_eq
    others_eq := by
      rw [hbares]
      exact h.others_eq
    blockCount_eq := h.blockCount_eq
    entries := h.entries
    exits := h.exits }

end Stocked

theorem stocked_empty (id : ClusterId) (name : String) : Stocked [] [] (.empty id name) where
  coherent := coherent_empty id name
  blocks_eq := rfl
  others_eq := rfl
  blockCount_eq := rfl
  entries h := by simp [entryPoint?, empty]
  exits h := by simp [exitPoint?, empty]

/-! ## Adding boundary nodes -/

/-- The node stands for the signature on this side of the cluster. -/
def Borders (c : Cluster) (side : NodeKind) (signature : UInt64) (n : NodeId) : Prop :=
  c.graph.hasNode n ∧
    ∃ isCallback owner, (c.graph.node n).bare = .boundary signature side isCallback owner

theorem Borders.not_earlier (h : c.Borders side signature n) :
    ¬((c.graph.node n).key.isBlock ∨ (c.graph.node n).key = .processRoot) := by
  obtain ⟨-, isCallback, owner, hbare⟩ := h
  have hkey : (c.graph.node n).key = .boundary signature side isCallback := congrArg Node.key hbare
  rw [hkey]
  rintro (hblock | hroot)
  · cases hblock
  · cases hroot

/-- There is one node for a signature on a side, whether it is for callbacks or not. -/
theorem Coherent.borders_unique (h : c.Coherent) (hside : side.isBoundary)
    (hm : c.Borders side signature m) (hn : c.Borders side signature n) : m = n := by
  have hregistered : ∀ registry, Registry.Registers c.graph side registry →
      ∀ n, c.Borders side signature n → registry[signature]? = some n := by
    rintro registry hr n ⟨hnode, isCallback, owner, hbare⟩
    have hkey : (c.graph.node n).key = .boundary signature side isCallback :=
      congrArg Node.key hbare
    have hhash : (c.graph.node n).hash = signature := congrArg Node.hash hbare
    rw [← hhash]
    exact hr.complete n hnode (congrArg Node.kind hbare) (by rw [hkey]; exact nofun)
  have hunique : ∀ registry, Registry.Registers c.graph side registry → m = n := fun registry hr =>
    Option.some.inj ((hregistered registry hr m hm).symm.trans (hregistered registry hr n hn))
  cases side with
  | clusterEntry => exact hunique _ h.entries
  | clusterExit => exact hunique _ h.exits
  | _ => cases hside

/-- The cluster has the nodes of `c₀` and after them boundary nodes of signatures that are used, and
its registries lead to boundary nodes. -/
structure Bordered (used : NodeKind → UInt64 → Prop) (c₀ c : Cluster) : Prop where
  coherent : c.Coherent
  bares_eq : ∃ made, c.graph.bares = c₀.graph.bares ++ made ∧ ∀ x ∈ made,
    ∃ signature side isCallback owner,
      x = .boundary signature side isCallback owner ∧ used side signature
  blockCount_eq : c.blockCount = c₀.blockCount
  entries : ∀ h n, c.entryPoint? h = some n →
    ∃ isCallback, (c.graph.node n).key = .boundary h .clusterEntry isCallback
  exits : ∀ h n, c.exitPoint? h = some n →
    ∃ isCallback, (c.graph.node n).key = .boundary h .clusterExit isCallback

theorem Stocked.bordered (h : c.Stocked blocks others) : c.Bordered used c where
  coherent := h.coherent
  bares_eq := ⟨[], (List.append_nil _).symm, nofun⟩
  blockCount_eq := rfl
  entries hash n hn := by cases (h.entries hash).symm.trans hn
  exits hash n hn := by cases (h.exits hash).symm.trans hn

namespace Bordered

/-- A boundary node may come if its signature is used. -/
theorem nodeStep (h : c₀.Bordered used c)
    (hs : NodeStep c (.boundary signature side isCallback owner) (placed, c'))
    (hside : side.isBoundary) (hused : used side signature) : c₀.Bordered used c' where
  coherent := hs.coherent h.coherent rfl
  bares_eq := by
    obtain ⟨made, hbares, hmade⟩ := h.bares_eq
    rcases hs.bares_cases h.coherent nofun with hsame | hnew
    · exact ⟨made, hsame.trans hbares, hmade⟩
    · refine ⟨made ++ [.boundary signature side isCallback owner], ?_, fun x hx => ?_⟩
      · rw [hnew, hbares, List.append_assoc]
        rfl
      · rcases List.mem_append.1 hx with hold | hx
        · exact hmade x hold
        · exact ⟨signature, side, isCallback, owner, List.mem_singleton.1 hx, hused⟩
  blockCount_eq := by
    rw [← h.blockCount_eq]
    cases hs with
    | block _ _ _ hkind => cases hside.symm.trans hkind
    | knownEntry | entry | knownExit | exit | knownRoot | root => rfl
  entries hash n hn := by
    rcases hs.entryPoint?_cases h.coherent hn with hold | ⟨hkind, -, hhash, hkey⟩
    · rw [hs.extends_.graph.key_eq (h.coherent.entries.issued _ _ hold).1]
      exact h.entries hash n hold
    · subst hhash
      exact ⟨isCallback, hkey.trans (congrArg (NodeKey.boundary signature · isCallback) hkind)⟩
  exits hash n hn := by
    rcases hs.exitPoint?_cases h.coherent hn with hold | ⟨hkind, hhash, hkey⟩
    · rw [hs.extends_.graph.key_eq (h.coherent.exits.issued _ _ hold).1]
      exact h.exits hash n hold
    · subst hhash
      exact ⟨isCallback, hkey.trans (congrArg (NodeKey.boundary signature · isCallback) hkind)⟩

theorem addEdge (h : c₀.Bordered used c) (hs : c.graph.hasNode s) (ht : c.graph.hasNode t) :
    c₀.Bordered used (Cluster.addEdge s t k o c).state := by
  have hcoherent := h.coherent.addEdge (k := k) (o := o) hs ht
  have hsame := c.graph.sameNodes_addEdge s t k o
  rw [Cluster.addEdge, state_onGraph] at hcoherent ⊢
  exact {
    coherent := hcoherent
    bares_eq := by
      rw [hsame.bares_eq]
      exact h.bares_eq
    blockCount_eq := h.blockCount_eq
    entries := fun hash n hn => by
      rw [hsame.key_eq]
      exact h.entries hash n hn
    exits := fun hash n hn => by
      rw [hsame.key_eq]
      exact h.exits hash n hn }

theorem mark (h : c₀.Bordered used c) (found : Option Reachability) :
    Bordered used c₀ { c with reachability := found } where
  coherent := h.coherent.mark found
  bares_eq := h.bares_eq
  blockCount_eq := h.blockCount_eq
  entries := h.entries
  exits := h.exits

/-! ### What follows for the nodes -/

/-- The earlier nodes keep their places. -/
theorem prefix_bares (h : c₀.Bordered used c) : c₀.graph.bares <+: c.graph.bares := by
  obtain ⟨made, hbares, -⟩ := h.bares_eq
  rw [hbares]
  exact List.prefix_append _ _

/-- The blocks are those of the earlier cluster. -/
theorem filter_bares_eq (h : c₀.Bordered used c) :
    c.graph.bares.filter (·.key.isBlock) = c₀.graph.bares.filter (·.key.isBlock) := by
  obtain ⟨made, hbares, hmade⟩ := h.bares_eq
  have hnone : made.filter (·.key.isBlock) = [] := by
    rw [List.filter_eq_nil_iff]
    intro x hx
    obtain ⟨signature, side, isCallback, owner, rfl, -⟩ := hmade x hx
    exact nofun
  rw [hbares, List.filter_append, hnone, List.append_nil]

/-- A node is one of the earlier cluster, or comes after all of these and is a boundary node. -/
theorem node_cases (h : c₀.Bordered used c) (hn : c.graph.hasNode n) :
    (n.index < c₀.graph.bares.length ∧ (c.graph.node n).bare ∈ c₀.graph.bares) ∨
      (c₀.graph.bares.length ≤ n.index ∧
        ∃ side signature, used side signature ∧ c.Borders side signature n) := by
  obtain ⟨made, hbares, hmade⟩ := h.bares_eq
  have hget := Graph.getElem?_bares_eq_some_iff.2 ⟨hn, rfl⟩
  rw [hbares] at hget
  rcases Nat.lt_or_ge n.index c₀.graph.bares.length with hlt | hle
  · rw [List.getElem?_append_left hlt] at hget
    exact Or.inl ⟨hlt, List.mem_of_getElem? hget⟩
  · rw [List.getElem?_append_right hle] at hget
    obtain ⟨signature, side, isCallback, owner, hbare, hused⟩ := hmade _ (List.mem_of_getElem? hget)
    exact Or.inr ⟨hle, side, signature, hused, hn, isCallback, owner, hbare⟩

theorem borders_of_key (h : c₀.Bordered used c) (hn : c.graph.hasNode n)
    (hkey : (c.graph.node n).key = .boundary signature side isCallback)
    (hc₀ : ∀ x ∈ c₀.graph.bares, x.key.isBlock ∨ x.key = .processRoot) :
    c.Borders side signature n := by
  rcases h.node_cases hn with ⟨-, hold⟩ | ⟨-, side', signature', -, hborders⟩
  · have hkey' : (c.graph.node n).bare.key = .boundary signature side isCallback := hkey
    rcases hc₀ _ hold with hblock | hroot
    · rw [hkey'] at hblock
      cases hblock
    · cases hkey'.symm.trans hroot
  · obtain ⟨-, isCallback', owner, hbare⟩ := hborders
    have hkey' : (c.graph.node n).key = .boundary signature' side' isCallback' :=
      congrArg Node.key hbare
    cases hkey.symm.trans hkey'
    exact ⟨hn, isCallback, owner, hbare⟩

end Bordered
end Cluster
end FlowAtlas
