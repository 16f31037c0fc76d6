import FlowAtlas.Proofs.Cluster.Config
import FlowAtlas.Proofs.Cluster.Population
import FlowAtlas.Proofs.Load.Account

/-!
# The nodes of a load

`populated_of_load` is the main theorem.  When a load succeeds and no block record claims to be an
entry or exit of a cluster, the blocks of each cluster are the first ones of their keys, in the
order of the records.  Besides there is the process root, next to the block of the first record, and
after all of these one boundary node for each signature that crosses between clusters on that side
(`Routing.Uses`).

The proof has two halves.  While block records are taken in, the clusters are `Routing.Settled`;
after that they only gain boundary nodes (`Routing.bordered_of_steps`).
-/

set_option autoImplicit false

namespace FlowAtlas

open EStateM Relation

namespace Routing

variable {r : Routing} {blocks done : List (Nat × NodeRecord)} {crosses : List (Nat × CrossRecord)}
  {cs cs₀ cs' : Clusters} {i : ClusterId} {q : Nat × NodeRecord} {x : Node}
  {others : ClusterId → List Node} {side : NodeKind} {signature : UInt64} {position : Nat}
  {record : CrossRecord} {a b : ClusterNode}

/-! ## Block records -/

/-- The nodes that block records bring to a cluster: the first of each key, in their order. -/
def blocksOf (r : Routing) (blocks : List (Nat × NodeRecord)) (i : ClusterId) : List Node :=
  Node.firsts ((blocks.filter fun q => r.home q = i).map r.nodeOf)

/-- The process root, if the first block record belongs to this cluster. -/
def rootOf (r : Routing) (blocks : List (Nat × NodeRecord)) (i : ClusterId) : List Node :=
  (blocks.head?.toList.filter fun q => r.home q = i).map fun q => .processRoot (r.nodeOf q).unit

theorem exists_of_mem_blocksOf (hx : x ∈ r.blocksOf blocks i) :
    ∃ q ∈ blocks, r.home q = i ∧ r.nodeOf q = x := by
  obtain ⟨q, hq, rfl⟩ := List.mem_map.1 (Node.mem_of_mem_firsts hx)
  obtain ⟨hmem, hhome⟩ := List.mem_filter.1 hq
  exact ⟨q, hmem, of_decide_eq_true hhome, rfl⟩

theorem exists_of_mem_rootOf (hx : x ∈ r.rootOf blocks i) :
    ∃ q, blocks.head? = some q ∧ r.home q = i ∧ x = .processRoot (r.nodeOf q).unit := by
  obtain ⟨q, hq, rfl⟩ := List.mem_map.1 hx
  obtain ⟨hmem, hhome⟩ := List.mem_filter.1 hq
  exact ⟨q, Option.mem_toList.1 hmem, of_decide_eq_true hhome, rfl⟩

/-- A block belongs to the cluster of its key. -/
theorem home_eq_of_key_eq {p : Nat × NodeRecord} (h : (r.nodeOf p).key = (r.nodeOf q).key) :
    r.home p = r.home q := congrArg r.cluster (NodeKey.block.inj h).1

/-- The clusters hold what the records brought, and the process root stands next to the first
block. -/
structure Settled (r : Routing) (done : List (Nat × NodeRecord)) (cs : Clusters) : Prop where
  stocked : ∀ i, (cs.get i).Stocked (r.blocksOf done i) (r.rootOf done i)
  first : ∀ q, done.head? = some q →
    [r.nodeOf q, .processRoot (r.nodeOf q).unit] <+: (cs.get (r.home q)).graph.bares

theorem settled_nil (hempty : ∀ i, ∃ id name, cs.get i = .empty id name) : r.Settled [] cs where
  stocked i := by
    obtain ⟨id, name, hi⟩ := hempty i
    exact hi ▸ Cluster.stocked_empty id name
  first q hq := by cases hq

theorem Settled.coherent (h : r.Settled done cs) : cs.Coherent := fun i => (h.stocked i).coherent

/-- A node is a block, or it is the process root in the cluster of the first record. -/
theorem Settled.bare_cases (h : r.Settled done cs) (hx : x ∈ (cs.get i).graph.bares) :
    x.key.isBlock ∨
      ∃ q, done.head? = some q ∧ r.home q = i ∧ x = .processRoot (r.nodeOf q).unit := by
  rcases (h.stocked i).mem_bares_iff.1 hx with hblock | hroot
  · obtain ⟨q, -, -, rfl⟩ := exists_of_mem_blocksOf hblock
    exact Or.inl rfl
  · exact Or.inr (exists_of_mem_rootOf hroot)

/-- An ordinary block goes to the end of its cluster unless its key is there. -/
theorem stocked_ask (h : ∀ i, (cs.get i).Stocked (r.blocksOf done i) (others i))
    (hkind : q.2.kind.isBoundary = false) (hi : (r.home q).index < cs.size) (i : ClusterId) :
    ((cs.ask (r.home q) (.node (r.nodeOf q))).get i).Stocked (r.blocksOf (done ++ [q]) i)
      (others i) := by
  by_cases hij : r.home q = i
  · subst hij
    have hlist : r.blocksOf (done ++ [q]) (r.home q) = Node.firsts
        (((done.filter fun p => r.home p = r.home q).map r.nodeOf) ++ [r.nodeOf q]) := by
      simp [blocksOf]
    rw [hlist, Clusters.get_ask_self hi]
    exact (h _).node rfl hkind rfl
  · have hlist : r.blocksOf (done ++ [q]) i = r.blocksOf done i := by simp [blocksOf, hij]
    rw [hlist, Clusters.get_ask_of_ne fun heq => hij heq.symm]
    exact h i

theorem Settled.node (h : r.Settled done cs) (hdone : done ≠ [])
    (hkind : q.2.kind.isBoundary = false) (hi : (r.home q).index < cs.size) :
    r.Settled (done ++ [q]) (cs.ask (r.home q) (.node (r.nodeOf q))) := by
  have hhead : (done ++ [q]).head? = done.head? := List.head?_append_of_ne_nil _ hdone
  constructor
  · intro i
    rw [rootOf, hhead]
    exact stocked_ask h.stocked hkind hi i
  · rw [hhead]
    intro q₀ hq₀
    refine (h.first q₀ hq₀).trans ?_
    by_cases hij : r.home q₀ = r.home q
    · rw [hij, Clusters.get_ask_self hi]
      have hs := Cluster.nodeStep_addNode (cs.get (r.home q)) (r.nodeOf q)
      rcases hs.bares_cases (h.coherent _) nofun with hsame | hnew
      · exact hsame ▸ List.prefix_rfl
      · exact hnew ▸ List.prefix_append _ _
    · have hsame : (cs.ask (r.home q) (.node (r.nodeOf q))).get (r.home q₀) = cs.get (r.home q₀) :=
        Clusters.get_ask_of_ne hij
      exact hsame.symm ▸ List.prefix_rfl

/-- The first block brings the process root with it. -/
theorem settled_first (hempty : ∀ i, ∃ id name, cs.get i = .empty id name)
    (hkind : q.2.kind.isBoundary = false) (hi : (r.home q).index < cs.size) :
    r.Settled [q] ((cs.ask (r.home q) (.node (r.nodeOf q))).withRoot ⟨r.home q, ⟨0⟩⟩ q.2.kind) := by
  have hstocked : ∀ i, ((cs.ask (r.home q) (.node (r.nodeOf q))).get i).Stocked
      (r.blocksOf [q] i) [] := stocked_ask (settled_nil hempty).stocked hkind hi
  obtain ⟨id, name, hget⟩ := hempty (r.home q)
  obtain ⟨c, hc, hgraph, -⟩ := Cluster.addNode_empty id name (r.nodeOf q) nofun
  have hget₁ : (cs.ask (r.home q) (.node (r.nodeOf q))).get (r.home q) = c := by
    rw [Clusters.get_ask_self hi, hget]
    exact congrArg Prod.snd hc
  have hbares : ((cs.ask (r.home q) (.node (r.nodeOf q))).get (r.home q)).graph.bares =
      [r.nodeOf q] := by
    rw [hget₁, hgraph]
    exact Graph.bares_withNode
  obtain ⟨hnode, hbare⟩ := Graph.getElem?_bares_eq_some_iff (n := ⟨0⟩).1 (by rw [hbares]; rfl)
  have howner : (((cs.ask (r.home q) (.node (r.nodeOf q))).get (r.home q)).graph.node ⟨0⟩).unit =
      (r.nodeOf q).unit := by
    have hunit := congrArg Node.unit hbare
    exact hunit
  have hi₁ := Clusters.index_lt_of_hasNode hnode
  generalize cs.ask (r.home q) (.node (r.nodeOf q)) = cs₁ at *
  have hroot := (hstocked (r.home q)).addRoot ((cs₁.get (r.home q)).graph.node ⟨0⟩).unit
  rw [howner] at hroot
  refine Clusters.withRoot_induction (fun i => (hstocked i).coherent) hnode ⟨fun i => ?_, ?_⟩
    fun cs' root h hends => ⟨?_, ?_⟩
  all_goals dsimp only
  · by_cases hij : r.home q = i
    · subst hij
      have hlist : r.rootOf [q] (r.home q) = [.processRoot (r.nodeOf q).unit] := by simp [rootOf]
      rw [hlist, Clusters.get_ask_self hi₁, howner]
      exact hroot.2
    · have hlist : r.rootOf [q] i = [] := by simp [rootOf, hij]
      rw [hlist, Clusters.get_ask_of_ne fun heq => hij heq.symm]
      exact hstocked i
  · intro q₀ hq₀
    cases hq₀
    rw [Clusters.get_ask_self hi₁, howner]
    rw [hbares] at hroot
    exact hroot.1 ▸ List.prefix_rfl
  · exact Clusters.forall_get_ask (p := fun i c => c.Stocked (r.blocksOf [q] i) (r.rootOf [q] i))
      h.stocked fun _ => (h.stocked _).addEdge hends.1 hends.2
  · intro q₀ hq₀
    cases hq₀
    rw [Clusters.get_ask]
    split
    · exact Cluster.bares_addEdge.symm ▸ h.first q rfl
    · exact h.first q rfl

/-! ## Boundary nodes -/

/-- Some record crosses between clusters under this signature, on this side of cluster `i`: it
leaves by an exit or comes in by an entry. -/
def Uses (r : Routing) (cs : Clusters) (crosses : List (Nat × CrossRecord)) (i : ClusterId)
    (side : NodeKind) (signature : UInt64) : Prop :=
  ∃ q ∈ crosses, q.2.signatureHash = signature ∧ ∃ x y, r.Crosses cs q.1 q.2 x y ∧
    ((side = .clusterExit ∧ x.cluster = i) ∨ (side = .clusterEntry ∧ y.cluster = i))

theorem Uses.isBoundary (h : r.Uses cs crosses i side signature) : side.isBoundary := by
  obtain ⟨-, -, -, -, -, -, ⟨rfl, -⟩ | ⟨rfl, -⟩⟩ := h
  · rfl
  · rfl

section

variable (h : cs.Coherent) (h' : cs'.Coherent) (hsame : Clusters.SameBlocks cs cs')

include h h' hsame

theorem crosses_iff_of_sameBlocks :
    r.Crosses cs' position record a b ↔ r.Crosses cs position record a b := by
  rw [Crosses, Crosses, resolves_iff_of_sameBlocks h h' hsame,
    resolves_iff_of_sameBlocks h h' hsame]

theorem uses_iff_of_sameBlocks :
    r.Uses cs' crosses i side signature ↔ r.Uses cs crosses i side signature := by
  refine exists_congr fun q => and_congr_right fun _ => and_congr_right fun _ => ?_
  refine exists_congr fun x => exists_congr fun y => and_congr_left fun _ => ?_
  exact crosses_iff_of_sameBlocks h h' hsame

end

/-- The clusters have come of `cs₀` by edges, and by boundary nodes for signatures that are used. -/
structure Bordered (r : Routing) (crosses : List (Nat × CrossRecord)) (cs₀ cs : Clusters) :
    Prop where
  sameBlocks : Clusters.SameBlocks cs₀ cs
  bordered : ∀ i, (cs₀.get i).Bordered (r.Uses cs₀ crosses i) (cs.get i)

theorem Bordered.coherent (h : r.Bordered crosses cs₀ cs) : cs.Coherent :=
  fun i => (h.bordered i).coherent

/-- Once the blocks are in place, a load adds edges and boundary nodes only. -/
theorem Step.bordered (hs : r.Step [] crosses cs cs') (h₀ : cs₀.Coherent)
    (h : r.Bordered crosses cs₀ cs) : r.Bordered crosses cs₀ cs' := by
  refine ⟨h.sameBlocks.trans hs.sameBlocks, ?_⟩
  cases hs with
  | ask hq =>
    refine Clusters.forall_get_ask (p := fun i c => (cs₀.get i).Bordered (r.Uses cs₀ crosses i) c)
      h.bordered fun _ => ?_
    have hproper := hq.proper h.coherent
    cases hq with
    | block hq => cases hq
    | root hq => cases hq
    | rootEdge hq => cases hq
    | edge | exitEdge | entryEdge => exact (h.bordered _).addEdge hproper.1 hproper.2
    | exit hq hcross =>
      rw [crosses_iff_of_sameBlocks h₀ h.coherent h.sameBlocks] at hcross
      exact (h.bordered _).nodeStep (Cluster.nodeStep_addExitFor _ _ _ _) rfl
        ⟨_, hq, rfl, _, _, hcross, Or.inl ⟨rfl, rfl⟩⟩
    | entry hq hcross =>
      rw [crosses_iff_of_sameBlocks h₀ h.coherent h.sameBlocks] at hcross
      exact (h.bordered _).nodeStep (Cluster.nodeStep_addEntryFor _ _ _ _) rfl
        ⟨_, hq, rfl, _, _, hcross, Or.inr ⟨rfl, rfl⟩⟩
  | mark _ hget =>
    intro i
    obtain ⟨found, hi⟩ := hget i
    rw [hi]
    exact (h.bordered i).mark found

theorem Settled.bordered_of_steps (h₀ : r.Settled done cs₀)
    (hs : ReflTransGen (r.Step [] crosses) cs₀ cs) : r.Bordered crosses cs₀ cs :=
  preserved_of_reflTransGen hs (fun _ _ hstep => hstep.bordered h₀.coherent)
    ⟨Clusters.SameBlocks.refl cs₀, fun i => (h₀.stocked i).bordered⟩

/-! ## All nodes -/

/-- The nodes of all clusters, given the block records and the cross-module records. -/
structure Populated (r : Routing) (blocks : List (Nat × NodeRecord))
    (crosses : List (Nat × CrossRecord)) (cs : Clusters) (root : Option ClusterNode) : Prop where
  /-- The blocks of a cluster are the first ones of their keys, in the order of the records. -/
  blocks_eq : ∀ i, (cs.get i).graph.bares.filter (·.key.isBlock) = r.blocksOf blocks i
  blockCount_eq : ∀ i, (cs.get i).blockCount = (r.blocksOf blocks i).length
  /-- No two clusters have a block of one key. -/
  cluster_eq : ∀ i j x y, x ∈ (cs.get i).graph.bares → y ∈ (cs.get j).graph.bares →
    x.key.isBlock → x.key = y.key → i = j
  /-- There is a process root if there is a record, and its cluster is that of the first one. -/
  root_eq : root = blocks.head?.map fun q => ⟨r.home q, ⟨1⟩⟩
  /-- It stands right after the block of that record. -/
  first : ∀ q, blocks.head? = some q →
    [r.nodeOf q, .processRoot (r.nodeOf q).unit] <+: (cs.get (r.home q)).graph.bares
  /-- The only other nodes stand for signatures that are used. -/
  node_cases : ∀ i n, (cs.get i).graph.hasNode n → ((cs.get i).graph.node n).key.isBlock ∨
    root = some ⟨i, n⟩ ∨
      ∃ side signature, r.Uses cs crosses i side signature ∧ (cs.get i).Borders side signature n
  /-- For each of these there is one node, -/
  borders : ∀ i side signature, r.Uses cs crosses i side signature →
    ∃! n, (cs.get i).Borders side signature n
  /-- which comes after the blocks and the root. -/
  borders_last : ∀ i side signature m n, (cs.get i).Borders side signature n →
    (cs.get i).graph.hasNode m →
      ((cs.get i).graph.node m).key.isBlock ∨ root = some ⟨i, m⟩ → m.index < n.index

section

variable {root : Option ClusterNode} {n : NodeId} (h₀ : r.Settled blocks cs₀)
  (h : r.Bordered crosses cs₀ cs)

include h₀ h

/-- A node is a block, or the process root, or comes after all of these and is a boundary node. -/
theorem node_cases_of_bordered (hn : (cs.get i).graph.hasNode n) :
    (n.index < (cs₀.get i).graph.bares.length ∧
      (((cs.get i).graph.node n).key.isBlock ∨
        ((cs.get i).graph.node n).key = .processRoot ∧ blocks.head?.map r.home = some i)) ∨
    ((cs₀.get i).graph.bares.length ≤ n.index ∧ ∃ side signature,
      r.Uses cs₀ crosses i side signature ∧ (cs.get i).Borders side signature n) := by
  refine ((h.bordered i).node_cases hn).imp_left fun ⟨hlt, hold⟩ => ⟨hlt, ?_⟩
  refine (h₀.bare_cases hold).imp_right ?_
  rintro ⟨q, hq, rfl, hbare⟩
  have hkey := congrArg Node.key hbare
  exact ⟨hkey, by rw [hq]; rfl⟩

/-- The process root is at place `1`, after the first block. -/
theorem root_of_bordered :
    blocks.head?.map (fun q => (⟨r.home q, ⟨1⟩⟩ : ClusterNode)) = some ⟨i, n⟩ ↔
    (cs.get i).graph.hasNode n ∧ ((cs.get i).graph.node n).key = .processRoot := by
  have hfirst : ∀ q, blocks.head? = some q → (cs.get (r.home q)).graph.hasNode ⟨1⟩ ∧
      ((cs.get (r.home q)).graph.node ⟨1⟩).key = .processRoot := by
    intro q hq
    obtain ⟨rest, hrest⟩ := (h₀.first q hq).trans (h.bordered _).prefix_bares
    obtain ⟨hn, hbare⟩ := Graph.getElem?_bares_eq_some_iff (n := ⟨1⟩).1 (by rw [← hrest]; rfl)
    have hkey := congrArg Node.key hbare
    exact ⟨hn, hkey⟩
  constructor
  · intro hroot
    obtain ⟨q, hq, heq⟩ := Option.map_eq_some_iff.1 hroot
    cases heq
    exact hfirst q hq
  · rintro ⟨hn, hkey⟩
    rcases node_cases_of_bordered h₀ h hn with ⟨-, hblock | ⟨-, hhome⟩⟩ | ⟨-, hborders⟩
    · rw [hkey] at hblock
      cases hblock
    · obtain ⟨q, hq, rfl⟩ := Option.map_eq_some_iff.1 hhome
      have hfind := (h.coherent (r.home q)).graph.find?_eq_some_iff .processRoot
      have hplace := ((hfind _).2 (hfirst q hq)).symm.trans ((hfind n).2 ⟨hn, hkey⟩)
      rw [hq, Option.map_some, Option.some.inj hplace]
    · obtain ⟨side, signature, -, hborders⟩ := hborders
      exact absurd (Or.inr hkey) hborders.not_earlier

/-- Where a signature crosses between clusters, its exit and its entry are boundary nodes. -/
theorem exists_borders_of_bordered (hregistered : ∀ q ∈ crosses, r.Registered cs q.1 q.2)
    (huses : r.Uses cs crosses i side signature) : ∃ n, (cs.get i).Borders side signature n := by
  have hearlier : ∀ x ∈ (cs₀.get i).graph.bares, x.key.isBlock ∨ x.key = .processRoot := by
    intro x hx
    refine (h₀.bare_cases hx).imp_right ?_
    rintro ⟨q, -, -, rfl⟩
    rfl
  obtain ⟨q, hq, rfl, x, y, hcross, ⟨rfl, rfl⟩ | ⟨rfl, rfl⟩⟩ := huses
  · obtain ⟨⟨n, hn⟩, -⟩ := hregistered q hq x y hcross
    obtain ⟨isCallback, hkey⟩ := (h.bordered _).exits _ _ hn
    have hnode := ((h.coherent _).exits.issued _ _ hn).1
    exact ⟨n, (h.bordered _).borders_of_key hnode hkey hearlier⟩
  · obtain ⟨-, n, hn⟩ := hregistered q hq x y hcross
    obtain ⟨isCallback, hkey⟩ := (h.bordered _).entries _ _ hn
    have hnode := ((h.coherent _).entries.issued _ _ hn).1
    exact ⟨n, (h.bordered _).borders_of_key hnode hkey hearlier⟩

/-- **The nodes are those of the block records, the process root, and after them one boundary node
for each signature that is used.** -/
theorem populated_of_bordered (hregistered : ∀ q ∈ crosses, r.Registered cs q.1 q.2) :
    r.Populated blocks crosses cs (blocks.head?.map fun q => ⟨r.home q, ⟨1⟩⟩) := by
  have hblocks : ∀ i, (cs.get i).graph.bares.filter (·.key.isBlock) = r.blocksOf blocks i :=
    fun i => (h.bordered i).filter_bares_eq.trans (h₀.stocked i).blocks_eq
  have huses : ∀ i side signature,
      r.Uses cs crosses i side signature ↔ r.Uses cs₀ crosses i side signature :=
    fun _ _ _ => uses_iff_of_sameBlocks h₀.coherent h.coherent h.sameBlocks
  exact {
    blocks_eq := hblocks
    blockCount_eq := fun i => (h.bordered i).blockCount_eq.trans (h₀.stocked i).blockCount_eq
    cluster_eq := by
      intro i j x y hx hy hblock hkey
      have hx' : x ∈ r.blocksOf blocks i := hblocks i ▸ List.mem_filter.2 ⟨hx, hblock⟩
      have hy' : y ∈ r.blocksOf blocks j := hblocks j ▸ List.mem_filter.2 ⟨hy, hkey ▸ hblock⟩
      obtain ⟨p, -, rfl, rfl⟩ := exists_of_mem_blocksOf hx'
      obtain ⟨q, -, rfl, rfl⟩ := exists_of_mem_blocksOf hy'
      exact home_eq_of_key_eq hkey
    root_eq := rfl
    first := fun q hq => (h₀.first q hq).trans (h.bordered _).prefix_bares
    node_cases := by
      intro i n hn
      rcases node_cases_of_bordered h₀ h hn with ⟨-, hblock | ⟨hkey, -⟩⟩ | ⟨-, hborders⟩
      · exact Or.inl hblock
      · exact Or.inr (Or.inl ((root_of_bordered h₀ h).2 ⟨hn, hkey⟩))
      · obtain ⟨side, signature, hused, hborders⟩ := hborders
        exact Or.inr (Or.inr ⟨side, signature, (huses _ _ _).2 hused, hborders⟩)
    borders := by
      intro i side signature hused
      obtain ⟨n, hn⟩ := exists_borders_of_bordered h₀ h hregistered hused
      exact ⟨n, hn, fun m hm => (h.coherent i).borders_unique hused.isBoundary hm hn⟩
    borders_last := by
      intro i side signature m n hn hm hearlier
      have hafter : (cs₀.get i).graph.bares.length ≤ n.index := by
        rcases node_cases_of_bordered h₀ h hn.1 with ⟨-, hkey⟩ | ⟨hle, -⟩
        · exact absurd (hkey.imp_right And.left) hn.not_earlier
        · exact hle
      have hbefore : m.index < (cs₀.get i).graph.bares.length := by
        rcases node_cases_of_bordered h₀ h hm with ⟨hlt, -⟩ | ⟨-, side, signature, -, hborders⟩
        · exact hlt
        · refine absurd (hearlier.imp_right fun hroot => ?_) hborders.not_earlier
          exact ((root_of_bordered h₀ h).1 hroot).2
      exact Nat.lt_of_lt_of_le hbefore hafter }

end

end Routing

/-! ## The whole load -/

namespace Loading

open Routing

variable {r : Routing} {s s' : LoadState} {u : Unit} {blocks : List (Nat × NodeRecord)}
  {crosses : List (Nat × CrossRecord)}

theorem exists_settled (hempty : ∀ i, ∃ id name, s.clusters.get i = .empty id name)
    (hroot : s.root = none) (hin : ∀ unit, (r.cluster unit).index < s.clusters.size)
    (hkinds : ∀ q ∈ blocks, q.2.kind.isBoundary = false) :
    ∃ s', (blocks.forM fun q => loadNode r q.1 q.2) s = .ok () s' ∧ r.Settled blocks s'.clusters ∧
      s'.root = blocks.head?.map fun q => ⟨r.home q, ⟨1⟩⟩ :=
  exists_ok_loadNodes hempty hroot (fun _ _ => hin _) (settled_nil hempty)
    (fun q hq => settled_first hempty (hkinds q hq) (hin _))
    fun _ q hq _ hdone hi h => h.node hdone (hkinds q hq) hi

/-- After the cross-module records, each signature that crosses between clusters has an exit and an
entry. -/
theorem registered_loadCrosses (h : s.clusters.Coherent)
    (hr : (crosses.forM fun q => loadCross r q.1 q.2) s = .ok u s') :
    ∀ q ∈ crosses, r.Registered s'.clusters q.1 q.2 := by
  induction crosses generalizing s with
  | nil => exact fun q hq => by cases hq
  | cons q crosses ih =>
    obtain ⟨s₁, hq, hcrosses⟩ := forM_cons_eq_ok_iff.1 hr
    have hcross := addsCross_loadCross h hq
    have h₁ := hcross.adds.grows.coherent
    intro p hp
    rcases List.mem_cons.1 hp with rfl | hp
    · obtain ⟨hrest, -⟩ := adds_loadCrosses h₁ hcrosses
      exact hcross.registered.of_grows h₁ hrest.grows hrest.sameBlocks
    · exact ih h₁ hcrosses p hp

end Loading

namespace TraceFiles

open Loading Routing

variable {t : TraceFiles} {r : Routing} {s s' : LoadState} {u : Unit} {config : ClusterConfig}
  {g : ProcessGraph}

theorem populated_of_stages (hempty : ∀ i, ∃ id name, s.clusters.get i = .empty id name)
    (hroot : s.root = none) (hin : ∀ unit, (r.cluster unit).index < s.clusters.size)
    (hkinds : ∀ q ∈ t.blockStream.delivered NodeRecord, q.2.kind.isBoundary = false)
    (hr : t.stages r s = .ok u s') :
    ∃ blocks crosses, t.blockStream.Holds blocks ∧ t.crossModuleStream.Holds crosses ∧
      r.Populated blocks crosses s'.clusters s'.root := by
  obtain ⟨_, s₁, hblocks, hr⟩ := bind_eq_ok_iff.1 hr
  obtain ⟨blocks, hblocksFile, hblocks⟩ := TraceFile.forEach_eq_ok hblocks
  rw [hblocksFile.delivered_eq] at hkinds
  obtain ⟨s₁', hblocks', hsettled, hroot₁⟩ := exists_settled hempty hroot hin hkinds
  cases hblocks.symm.trans hblocks'
  have hsteps := follows_laterStages (t := t) (r := r) [] hsettled.coherent
  rw [Follows, hr] at hsteps
  obtain ⟨_, s₂, hedges, hr⟩ := bind_eq_ok_iff.1 hr
  obtain ⟨_, s₃, hcrosses, hr⟩ := bind_eq_ok_iff.1 hr
  obtain ⟨_, s₄, hvalidate, hr⟩ := bind_eq_ok_iff.1 hr
  obtain ⟨_, s₅, hsearch, hannounce⟩ := bind_eq_ok_iff.1 hr
  obtain ⟨edges, -, hedges⟩ := TraceFile.forEach_eq_ok hedges
  obtain ⟨crosses, hcrossesFile, hcrosses⟩ := TraceFile.forEach_eq_ok hcrosses
  rw [hcrossesFile.delivered_eq] at hsteps
  obtain ⟨hadds₂, -⟩ := adds_loadEdges hsettled.coherent hedges
  obtain ⟨hadds₃, -⟩ := adds_loadCrosses hadds₂.grows.coherent hcrosses
  have hkeep := keeps_validate hvalidate
  have hadds₅ := (adds_search (hkeep.clusters ▸ hadds₃.grows.coherent) hsearch).of_keeps hkeep
  have hlater : Adds s₃ s' _ := hadds₅.trans ((keeps_announce hannounce).adds hadds₅.grows.coherent)
  have hregistered : ∀ q ∈ crosses, r.Registered s'.clusters q.1 q.2 := fun q hq =>
    (registered_loadCrosses hadds₂.grows.coherent hcrosses q hq).of_grows hadds₃.grows.coherent
      hlater.grows hlater.sameBlocks
  refine ⟨blocks, crosses, hblocksFile, hcrossesFile, ?_⟩
  rw [hlater.root_eq, hadds₃.root_eq, hadds₂.root_eq, hroot₁]
  exact populated_of_bordered hsettled (hsettled.bordered_of_steps hsteps) hregistered

/-- **The blocks of a load are the first occurrences of the record keys.**  When a load succeeds and
no block record claims to be an entry or exit of a cluster, the nodes of its clusters are as
`Routing.Populated` says, given all records of the two streams. -/
theorem populated_of_load (hconfig : config.Made)
    (hkinds : ∀ q ∈ t.blockStream.delivered NodeRecord, q.2.kind.isBoundary = false)
    (h : (t.load config).result = .ok g) :
    ∃ blocks crosses, t.blockStream.Holds blocks ∧ t.crossModuleStream.Holds crosses ∧
      t.moduleLog.readLog .initial = .ok (g.modules, g.units) ∧
      (Routing.ofConfig config g.units g.modules).Populated blocks crosses g.clusters g.root := by
  obtain ⟨hlog, s, hr, hclusters, hroot⟩ := stages_of_load h
  obtain ⟨blocks, crosses, hblocks, hcrosses, hpopulated⟩ := populated_of_stages
    (get_emptyClusters config) rfl (hconfig.cluster_lt g.units g.modules) hkinds hr
  rw [← hclusters, ← hroot] at hpopulated
  exact ⟨blocks, crosses, hblocks, hcrosses, hlog, hpopulated⟩

/-- Each cluster holds one of the two blocks, the call has an exit in one and an entry in the other,
and the process begins in the unit. -/
theorem populated_callingOut : ∃ g, ((callingOut mixedEdges).load (.empty "main")).result = .ok g ∧
    (Routing.ofConfig (.empty "main") g.units g.modules).Populated (Record.numbered 0 twoBlocks)
      (Record.numbered 0 [callOut]) g.clusters g.root := by
  obtain ⟨g, hload, hfiles, -⟩ := exists_load_callingOut mixedEdges List.mem_cons_self
  have hkinds : ∀ q ∈ (callingOut mixedEdges).blockStream.delivered NodeRecord,
      q.2.kind.isBoundary = false := by
    rw [hfiles.blocks.delivered_eq]
    decide
  obtain ⟨blocks, crosses, hblocks, hcrosses, -, hpopulated⟩ :=
    populated_of_load (.empty "main") hkinds hload
  rw [hblocks.eq hfiles.blocks, hcrosses.eq hfiles.crosses] at hpopulated
  exact ⟨g, hload, hpopulated⟩

end TraceFiles
end FlowAtlas
