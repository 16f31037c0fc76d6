import FlowAtlas.Proofs.Cluster.Config
import FlowAtlas.Proofs.Load.Blocks
import FlowAtlas.Proofs.Load.Edges

/-!
# Which blocks can be looked up

When the block records have been taken in, endpoints are looked up by key.  A record that is an
entry or exit does not always bring its key: if the cluster has an entry or exit of the same content
hash already, the record is passed over before its key is looked at.  `Routing.Kept` says of which
keys this is not so, and `lookup_iff_kept` is the main theorem: a key is found, then and ever after,
exactly when one of its records is kept.  `second_entry_is_lost` is the shortest stream that loses a
key.
-/

set_option autoImplicit false

namespace FlowAtlas

open EStateM Relation

/-! ## One node -/

namespace Cluster

variable {c c' : Cluster} {x : Node} {placed : NodeId × Bool} {key : NodeKey} {signature : UInt64}

/-- The node is an entry or exit, and its hash stands for another one already. -/
def PassesOver (c : Cluster) (x : Node) : Prop :=
  (x.kind = .clusterEntry ∧ (c.entryPoint? x.hash).isSome) ∨
    (x.kind = .clusterExit ∧ (c.exitPoint? x.hash).isSome)

namespace NodeStep

theorem isSome_find? (hs : NodeStep c x (placed, c')) (hkey : x.key ≠ .processRoot) :
    (c'.graph.find? key).isSome ↔
      (c.graph.find? key).isSome ∨ (x.key = key ∧ ¬c.PassesOver x) := by
  -- whoever is passed over changes nothing, and everyone else is found afterwards
  have hpassed : c.PassesOver x → ((c.graph.find? key).isSome ↔
      (c.graph.find? key).isSome ∨ (x.key = key ∧ ¬c.PassesOver x)) := fun h =>
    (or_iff_left fun hnot => hnot.2 h).symm
  have hplaced : ¬c.PassesOver x → (((c.graph.addNode x).2.find? key).isSome ↔
      (c.graph.find? key).isSome ∨ (x.key = key ∧ ¬c.PassesOver x)) := fun h => by
    rw [Graph.find?_addNode, and_iff_left h]
    by_cases hx : x.key = key
    · simp [hx]
    · simp [hx]
  cases hs with
  | knownEntry _ hkind hm => exact hpassed (Or.inl ⟨hkind, by rw [entryPoint?, hm]; rfl⟩)
  | knownExit _ hkind hm => exact hpassed (Or.inr ⟨hkind, by rw [exitPoint?, hm]; rfl⟩)
  | knownRoot hroot => exact absurd hroot hkey
  | root hroot => exact absurd hroot hkey
  | entry _ hkind hfree =>
    refine hplaced ?_
    rintro (⟨-, hm⟩ | ⟨hexit, -⟩)
    · rw [entryPoint?, hfree] at hm
      cases hm
    · cases hkind.symm.trans hexit
  | exit _ hkind hfree =>
    refine hplaced ?_
    rintro (⟨hentry, -⟩ | ⟨-, hm⟩)
    · cases hkind.symm.trans hentry
    · rw [exitPoint?, hfree] at hm
      cases hm
  | block _ _ _ hkind =>
    refine hplaced ?_
    rintro (⟨hentry, -⟩ | ⟨hexit, -⟩)
    · rw [hentry] at hkind
      cases hkind
    · rw [hexit] at hkind
      cases hkind

theorem isSome_entryPoint? (hs : NodeStep c x (placed, c')) (hkey : x.key ≠ .processRoot) :
    (c'.entryPoint? signature).isSome ↔
      (c.entryPoint? signature).isSome ∨ (x.kind = .clusterEntry ∧ x.hash = signature) := by
  cases hs with
  | knownEntry _ _ hm =>
    refine (or_iff_left_of_imp ?_).symm
    rintro ⟨-, rfl⟩
    rw [entryPoint?, hm]
    rfl
  | entry _ hkind =>
    show (Registry.register c.graph c.entries x)[signature]?.isSome ↔ _
    rw [Registry.register, Registry.getElem?_register, and_iff_right hkind, entryPoint?]
    by_cases hx : x.hash = signature
    · simp [hx]
    · simp [hx]
  | knownExit _ hkind | exit _ hkind =>
    exact (or_iff_left fun h => by cases hkind.symm.trans h.1).symm
  | knownRoot hroot => exact absurd hroot hkey
  | root hroot => exact absurd hroot hkey
  | block _ _ _ hkind =>
    refine (or_iff_left fun h => ?_).symm
    rw [h.1] at hkind
    cases hkind

theorem isSome_exitPoint? (hs : NodeStep c x (placed, c')) (hkey : x.key ≠ .processRoot) :
    (c'.exitPoint? signature).isSome ↔
      (c.exitPoint? signature).isSome ∨ (x.kind = .clusterExit ∧ x.hash = signature) := by
  cases hs with
  | knownExit _ _ hm =>
    refine (or_iff_left_of_imp ?_).symm
    rintro ⟨-, rfl⟩
    rw [exitPoint?, hm]
    rfl
  | exit _ hkind =>
    show (Registry.register c.graph c.exits x)[signature]?.isSome ↔ _
    rw [Registry.register, Registry.getElem?_register, and_iff_right hkind, exitPoint?]
    by_cases hx : x.hash = signature
    · simp [hx]
    · simp [hx]
  | knownEntry _ hkind | entry _ hkind =>
    exact (or_iff_left fun h => by cases hkind.symm.trans h.1).symm
  | knownRoot hroot => exact absurd hroot hkey
  | root hroot => exact absurd hroot hkey
  | block _ _ _ hkind =>
    refine (or_iff_left fun h => ?_).symm
    rw [h.1] at hkind
    cases hkind

end NodeStep

/-- The process root stands in no registry. -/
theorem registries_root (c : Cluster) (owner : UnitId) :
    ((Request.root owner).apply c).entries = c.entries ∧
      ((Request.root owner).apply c).exits = c.exits := by
  rw [Request.apply, addRoot]
  cases c.root with
  | some n => exact ⟨rfl, rfl⟩
  | none => exact ⟨rfl, rfl⟩

theorem registries_edge (c : Cluster) (s t : NodeId) (k : EdgeKind) (o : UInt8) :
    ((Request.edge s t k o).apply c).entries = c.entries ∧
      ((Request.edge s t k o).apply c).exits = c.exits := by
  rw [Request.apply, addEdge, state_onGraph]
  exact ⟨rfl, rfl⟩

end Cluster

/-! ## All records -/

/-- A splitting of a list with one more element is one of the list, or splits off that element. -/
theorem exists_split_concat {α : Type} {p : List α → α → Prop} {l : List α} {a : α} :
    (∃ before b after, l ++ [a] = before ++ b :: after ∧ p before b) ↔
      (∃ before b after, l = before ++ b :: after ∧ p before b) ∨ p l a := by
  constructor
  · rintro ⟨before, b, after, hl, hp⟩
    rcases List.eq_nil_or_concat after with rfl | ⟨after, c, rfl⟩
    · obtain ⟨rfl, hb⟩ := List.append_inj' hl rfl
      cases hb
      exact Or.inr hp
    · rw [List.concat_eq_append, ← List.cons_append, ← List.append_assoc] at hl
      obtain ⟨rfl, -⟩ := List.append_inj' hl rfl
      exact Or.inl ⟨before, b, after, rfl, hp⟩
  · rintro (⟨before, b, after, rfl, hp⟩ | hp)
    · exact ⟨before, b, after ++ [a], by simp, hp⟩
    · exact ⟨l, a, [], rfl, hp⟩

namespace Routing

variable {r : Routing} {done blocks : List (Nat × NodeRecord)} {cs : Clusters} {i : ClusterId}
  {q : Nat × NodeRecord} {key : NodeKey} {first : ClusterNode} {kind : NodeKind}

/-- The record is an entry or exit, and its cluster has one of the same kind and hash before it. -/
def Repeats (r : Routing) (before : List (Nat × NodeRecord)) (q : Nat × NodeRecord) : Prop :=
  q.2.kind.isBoundary ∧
    ∃ p ∈ before, r.home p = r.home q ∧ p.2.kind = q.2.kind ∧ p.2.hash = q.2.hash

/-- A record of this key repeats none of those before it. -/
def Kept (r : Routing) (blocks : List (Nat × NodeRecord)) (key : NodeKey) : Prop :=
  ∃ before p after, blocks = before ++ p :: after ∧ (r.nodeOf p).key = key ∧ ¬r.Repeats before p

theorem kept_concat :
    r.Kept (done ++ [q]) key ↔ r.Kept done key ∨ ((r.nodeOf q).key = key ∧ ¬r.Repeats done q) :=
  exists_split_concat (p := fun before p => (r.nodeOf p).key = key ∧ ¬r.Repeats before p)

/-- The clusters hold the keys that are kept, and stand for the hashes of all entries and exits. -/
structure Indexed (r : Routing) (done : List (Nat × NodeRecord)) (cs : Clusters) : Prop where
  coherent : cs.Coherent
  isSome_find? : ∀ i unit tag version,
    ((cs.get i).graph.find? (.block unit tag version)).isSome ↔
      r.cluster unit = i ∧ r.Kept done (.block unit tag version)
  isSome_entryPoint? : ∀ i h, ((cs.get i).entryPoint? h).isSome ↔
    ∃ p ∈ done, r.home p = i ∧ p.2.kind = .clusterEntry ∧ p.2.hash = h
  isSome_exitPoint? : ∀ i h, ((cs.get i).exitPoint? h).isSome ↔
    ∃ p ∈ done, r.home p = i ∧ p.2.kind = .clusterExit ∧ p.2.hash = h

theorem indexed_nil (hempty : ∀ i, ∃ id name, cs.get i = .empty id name) : r.Indexed [] cs where
  coherent i := by
    obtain ⟨id, name, hi⟩ := hempty i
    exact hi ▸ Cluster.coherent_empty id name
  isSome_find? i unit tag version := by
    obtain ⟨id, name, hi⟩ := hempty i
    rw [hi]
    refine iff_of_false (by simp [Graph.find?, Cluster.empty]) ?_
    rintro ⟨-, before, p, after, hnil, -⟩
    cases before <;> cases hnil
  isSome_entryPoint? i h := by
    obtain ⟨id, name, hi⟩ := hempty i
    simp [hi, Cluster.entryPoint?, Cluster.empty]
  isSome_exitPoint? i h := by
    obtain ⟨id, name, hi⟩ := hempty i
    simp [hi, Cluster.exitPoint?, Cluster.empty]

/-- A record repeats those before it when its node is passed over. -/
theorem Indexed.passesOver_iff (h : r.Indexed done cs) :
    (cs.get (r.home q)).PassesOver (r.nodeOf q) ↔ r.Repeats done q := by
  rw [Cluster.PassesOver, h.isSome_entryPoint?, h.isSome_exitPoint?, Repeats]
  show (q.2.kind = .clusterEntry ∧ ∃ p ∈ done, r.home p = r.home q ∧ _ ∧ p.2.hash = q.2.hash) ∨
    (q.2.kind = .clusterExit ∧ ∃ p ∈ done, r.home p = r.home q ∧ _ ∧ p.2.hash = q.2.hash) ↔ _
  cases q.2.kind <;> simp [NodeKind.isBoundary]

/-- **A record brings its key unless it repeats those before it.** -/
theorem Indexed.node (h : r.Indexed done cs) (hi : (r.home q).index < cs.size) :
    r.Indexed (done ++ [q]) (cs.ask (r.home q) (.node (r.nodeOf q))) := by
  have hs := Cluster.nodeStep_addNode (cs.get (r.home q)) (r.nodeOf q)
  have hkey : (r.nodeOf q).key ≠ .processRoot := nofun
  refine ⟨h.coherent.ask fun _ => rfl, fun i unit tag version => ?_, fun i hash => ?_,
    fun i hash => ?_⟩
  · rw [kept_concat]
    by_cases hij : i = r.home q
    · subst hij
      rw [Clusters.get_ask_self hi]
      refine (hs.isSome_find? hkey).trans ?_
      rw [h.isSome_find?, h.passesOver_iff, and_or_left]
      refine or_congr_right (and_iff_right_of_imp ?_).symm
      -- a key of the record belongs to the cluster of the record
      rintro ⟨hblock, -⟩
      cases hblock
      rfl
    · rw [Clusters.get_ask_of_ne hij, h.isSome_find?, and_or_left]
      refine (or_iff_left ?_).symm
      rintro ⟨hunit, hblock, -⟩
      cases hblock
      exact hij hunit.symm
  · simp only [List.mem_append, List.mem_singleton, or_and_right, exists_or, exists_eq_left]
    by_cases hij : i = r.home q
    · subst hij
      rw [Clusters.get_ask_self hi]
      refine (hs.isSome_entryPoint? hkey).trans ?_
      rw [h.isSome_entryPoint?, and_iff_right rfl]
      rfl
    · rw [Clusters.get_ask_of_ne hij, h.isSome_entryPoint?]
      exact (or_iff_left fun hq => hij hq.1.symm).symm
  · simp only [List.mem_append, List.mem_singleton, or_and_right, exists_or, exists_eq_left]
    by_cases hij : i = r.home q
    · subst hij
      rw [Clusters.get_ask_self hi]
      refine (hs.isSome_exitPoint? hkey).trans ?_
      rw [h.isSome_exitPoint?, and_iff_right rfl]
      rfl
    · rw [Clusters.get_ask_of_ne hij, h.isSome_exitPoint?]
      exact (or_iff_left fun hq => hij hq.1.symm).symm

/-- Requests that bring no block and stand in no registry leave what can be looked up. -/
theorem Indexed.ask {q : Cluster.Request} (h : r.Indexed done cs)
    (hproper : i.index < cs.size → q.Proper (cs.get i))
    (hq : ∀ x, q.asked? = some x → x.key.isBlock = false)
    (hregistries : (q.apply (cs.get i)).entries = (cs.get i).entries ∧
      (q.apply (cs.get i)).exits = (cs.get i).exits) : r.Indexed done (cs.ask i q) := by
  have hsame : Clusters.SameBlocks cs (cs.ask i q) := Clusters.sameBlocks_ask hq
  refine ⟨h.coherent.ask hproper, fun j unit tag version => ?_, ?_, ?_⟩
  · rw [hsame j]
    exact h.isSome_find? j unit tag version
  · refine Clusters.forall_get_ask (p := fun j c => ∀ hash, (c.entryPoint? hash).isSome ↔
      ∃ p ∈ done, r.home p = j ∧ p.2.kind = .clusterEntry ∧ p.2.hash = hash)
      h.isSome_entryPoint? fun _ hash => ?_
    rw [Cluster.entryPoint?, hregistries.1]
    exact h.isSome_entryPoint? i hash
  · refine Clusters.forall_get_ask (p := fun j c => ∀ hash, (c.exitPoint? hash).isSome ↔
      ∃ p ∈ done, r.home p = j ∧ p.2.kind = .clusterExit ∧ p.2.hash = hash)
      h.isSome_exitPoint? fun _ hash => ?_
    rw [Cluster.exitPoint?, hregistries.2]
    exact h.isSome_exitPoint? i hash

theorem Indexed.withRoot (h : r.Indexed done cs)
    (hfirst : (cs.get first.cluster).graph.hasNode first.node) :
    r.Indexed done (cs.withRoot first kind) := by
  refine Clusters.withRoot_induction h.coherent hfirst ?_ fun cs' root h' hends => ?_
  · exact h.ask (fun _ => trivial) (fun x hx => by cases hx; rfl) (Cluster.registries_root _ _)
  · exact h'.ask (fun _ => hends) nofun (Cluster.registries_edge _ _ _ _ _)

end Routing

namespace Loading

open Routing

variable {r : Routing} {s : LoadState} {blocks : List (Nat × NodeRecord)}

/-- After the block records the clusters hold the keys that are kept. -/
theorem exists_indexed (hempty : ∀ i, ∃ id name, s.clusters.get i = .empty id name)
    (hroot : s.root = none) (hin : ∀ unit, (r.cluster unit).index < s.clusters.size) :
    ∃ s', (blocks.forM fun q => loadNode r q.1 q.2) s = .ok () s' ∧
      r.Indexed blocks s'.clusters := by
  have hfirst : ∀ q ∈ blocks, r.Indexed [q] ((s.clusters.ask (r.home q)
      (.node (r.nodeOf q))).withRoot ⟨r.home q, ⟨0⟩⟩ q.2.kind) := by
    intro q _
    have hi : (r.home q).index < s.clusters.size := hin _
    refine ((indexed_nil (r := r) hempty).node hi).withRoot ?_
    obtain ⟨id, name, hget⟩ := hempty (r.home q)
    obtain ⟨c, hc, hgraph, -⟩ := Cluster.addNode_empty id name (r.nodeOf q) nofun
    rw [Clusters.get_ask_self hi, hget]
    show ((Cluster.empty id name).addNode (r.nodeOf q)).2.graph.hasNode _
    rw [hc, hgraph, Graph.hasNode_withNode]
    exact Or.inr rfl
  obtain ⟨s', hr, hindexed, -⟩ := exists_ok_loadNodes hempty hroot (fun q _ => hin _)
    (indexed_nil hempty) hfirst fun done q _ cs _ hi h => h.node hi
  exact ⟨s', hr, hindexed⟩

/-- The clusters after further records, as far as these are taken in. -/
def clustersAfter (r : Routing) (edges : List (Nat × EdgeRecord))
    (crosses : List (Nat × CrossRecord)) (s : LoadState) : Clusters :=
  ((do
    edges.forM fun p => loadEdge r p.1 p.2
    crosses.forM fun p => loadCross r p.1 p.2 : Loading Unit) s).state.clusters

theorem sameBlocks_clustersAfter (h : s.clusters.Coherent) (edges : List (Nat × EdgeRecord))
    (crosses : List (Nat × CrossRecord)) :
    (clustersAfter r edges crosses s).Coherent ∧
      Clusters.SameBlocks s.clusters (clustersAfter r edges crosses s) := by
  have hedges : Follows (r.Step [] crosses) LoadState.clusters
      (edges.forM fun p => loadEdge r p.1 p.2) s :=
    TraceFiles.follows_forM_of_coherent h fun p _ s hs => follows_loadEdge hs
  refine sameBlocks_of_steps (Follows.bind hedges fun _ s₁ hr => ?_) h
  exact TraceFiles.follows_forM_of_coherent (TraceFiles.coherent_of_follows hedges h hr)
    fun p hp s hs => follows_loadCross hs hp

end Loading

/-! ## Looking up -/

namespace Routing

variable {r : Routing} {cs : Clusters} {e : Endpoint} {stream : StreamKind} {position : Nat}
  {unit : UnitId} {tag : UInt64} {n : NodeId} {x : ClusterNode}

/-- An endpoint is found at its own version exactly when the block of that version is there. -/
theorem find?_eq_some_false_iff (hlocate : r.modules.locate e.tag stream position = (unit, tag)) :
    r.find? cs e stream position = some (x, false) ↔ x.cluster = r.cluster unit ∧
      (cs.get (r.cluster unit)).graph.find? (.block unit tag e.version) = some x.node := by
  obtain ⟨cluster, node⟩ := x
  rw [find?, hlocate]
  dsimp only
  cases (cs.get (r.cluster unit)).graph.find? (.block unit tag e.version) with
  | some n =>
    rw [Option.some.injEq, Option.some.injEq, Prod.mk.injEq, ClusterNode.mk.injEq,
      and_iff_left rfl, eq_comm (a := r.cluster unit)]
  | none =>
    refine iff_of_false ?_ fun h => by cases h.2
    rw [Option.map_eq_some_iff]
    rintro ⟨n, -, heq⟩
    cases heq

end Routing

namespace TraceFiles

open Loading Routing

variable {t : TraceFiles} {config : ClusterConfig}
  {blocks : List (Nat × NodeRecord)}

/-- **A block can be looked up exactly when one of its records is kept.**  When the block stream can
be read to its end, the stage over it succeeds.  From then on, whatever edge records and
cross-module records come, the key of a block record stands in its cluster, and every endpoint with
that address and version is found at its own version, if and only if the key is kept. -/
theorem lookup_iff_kept (units : UnitTable) (modules : AddressMap) (hconfig : config.Made)
    (hblocks : t.blockStream.Holds blocks) :
    let r := Routing.ofConfig config units modules
    ∃ s, t.blockStream.forEach .nodes (loadNode r) { clusters := config.emptyClusters } = .ok () s ∧
      ∀ q ∈ blocks, ∀ edges crosses,
        let cs := clustersAfter r edges crosses s
        ((∃ n, (cs.get (r.home q)).graph.hasNode n ∧
            ((cs.get (r.home q)).graph.node n).key = (r.nodeOf q).key) ↔
          r.Kept blocks (r.nodeOf q).key) ∧
        ((∀ (e : Endpoint) stream position, e.version = q.2.version →
            r.modules.locate e.tag stream position = r.modules.locate q.2.tag .block q.1 →
            ∃ n, r.find? cs e stream position = some (⟨r.home q, n⟩, false) ∧
              ((cs.get (r.home q)).graph.node n).key = (r.nodeOf q).key) ↔
          r.Kept blocks (r.nodeOf q).key) := by
  intro r
  obtain ⟨s, hr, hindexed⟩ : ∃ s, (blocks.forM fun q => loadNode r q.1 q.2)
      { clusters := config.emptyClusters } = .ok () s ∧ r.Indexed blocks s.clusters :=
    exists_indexed (get_emptyClusters config) rfl (hconfig.cluster_lt units modules)
  refine ⟨s, by rw [TraceFile.forEach_of_holds hblocks]; exact hr, fun q _ edges crosses => ?_⟩
  intro cs
  obtain ⟨hcoherent, hsame⟩ := sameBlocks_clustersAfter (r := r) hindexed.coherent edges crosses
  have hfind : ((cs.get (r.home q)).graph.find? (r.nodeOf q).key).isSome ↔
      r.Kept blocks (r.nodeOf q).key := by
    have hkey := hindexed.isSome_find? (r.home q) (r.modules.locate q.2.tag .block q.1).1
      (r.modules.locate q.2.tag .block q.1).2 q.2.version
    rw [← hsame] at hkey
    exact hkey.trans (and_iff_right rfl)
  have hnode : ∀ n, (cs.get (r.home q)).graph.find? (r.nodeOf q).key = some n ↔
      (cs.get (r.home q)).graph.hasNode n ∧
        ((cs.get (r.home q)).graph.node n).key = (r.nodeOf q).key :=
    (hcoherent _).graph.find?_eq_some_iff (r.nodeOf q).key
  rw [← hfind, Option.isSome_iff_exists]
  refine ⟨exists_congr fun n => (hnode n).symm, fun hall => ?_, ?_⟩
  · obtain ⟨n, hn, -⟩ := hall ⟨q.2.tag, q.2.version⟩ .block q.1 rfl rfl
    exact ⟨n, ((find?_eq_some_false_iff rfl).1 hn).2⟩
  · rintro ⟨n, hn⟩ e stream position hversion hlocate
    refine ⟨n, (find?_eq_some_false_iff hlocate).2 ⟨rfl, ?_⟩, ((hnode n).1 hn).2⟩
    rw [hversion]
    exact hn

/-- The sole block is found where it belongs. -/
theorem lookup_soleBlock :
    let main := ClusterConfig.empty "main"
    let r := Routing.ofConfig main .initial {}
    ∃ s, oneBlock.blockStream.forEach .nodes (loadNode r) { clusters := main.emptyClusters } =
        .ok () s ∧
      ∃ n, (s.clusters.get (r.home (0, soleBlock))).graph.hasNode n ∧
        ((s.clusters.get (r.home (0, soleBlock))).graph.node n).key =
          (r.nodeOf (0, soleBlock)).key := by
  intro main r
  obtain ⟨s, hr, hlookup⟩ := lookup_iff_kept .initial {}
    (ClusterConfig.Made.empty "main") holds_oneBlock
  obtain ⟨hfound, -⟩ := hlookup (0, soleBlock) List.mem_cons_self [] []
  refine ⟨s, hr, hfound.2 ⟨[], (0, soleBlock), [], rfl, rfl, ?_⟩⟩
  rintro ⟨-, p, hp, -⟩
  cases hp

/-! ### A stream that loses a key -/

/-- Two blocks at different addresses that claim to be entries, with one content hash. -/
def twoEntries : List NodeRecord := [.new 16 0 .clusterEntry 5, .new 32 0 .clusterEntry 5]

/-- A trace of these blocks and no edges. -/
def sharedEntry : TraceFiles :=
  { oneBlock with blockStream := ⟨"blocks", .ok (Record.toBytes twoEntries)⟩ }

theorem holds_sharedEntry : sharedEntry.blockStream.Holds
    [(0, NodeRecord.new 16 0 .clusterEntry 5), (1, NodeRecord.new 32 0 .clusterEntry 5)] := by
  have hfirst : (⟨[.bytes (Record.toBytes twoEntries)], 0, false⟩ : RecordReader NodeRecord).next? =
      (some (.ok (0, NodeRecord.new 16 0 .clusterEntry 5)),
        ⟨[.bytes (Record.toBytes [NodeRecord.new 32 0 .clusterEntry 5])], 1, false⟩) := by rfl
  have hsecond : (⟨[.bytes (Record.toBytes [NodeRecord.new 32 0 .clusterEntry 5])], 1, false⟩ :
      RecordReader NodeRecord).next? = (some (.ok (1, NodeRecord.new 32 0 .clusterEntry 5)),
        ⟨[.bytes []], 2, false⟩) := by rfl
  refine ⟨_, rfl, ?_⟩
  rw [Record.ofBytes, RecordReader.readAll_of_record hfirst, RecordReader.readAll_of_record hsecond,
    RecordReader.readAll_of_end rfl]
  rfl

/-- **The second of two entries of one hash is lost.**  The stream is read to its end, and no node
has the key of its second record, so an endpoint there is not found at its own version. -/
theorem second_entry_is_lost :
    let main := ClusterConfig.empty "main"
    let r := Routing.ofConfig main .initial {}
    let second := (1, NodeRecord.new 32 0 .clusterEntry 5)
    sharedEntry.moduleLog.readLog .initial = .ok ({}, .initial) ∧
    sharedEntry.blockStream.Holds [(0, NodeRecord.new 16 0 .clusterEntry 5), second] ∧
    ∃ s, sharedEntry.blockStream.forEach .nodes (loadNode r) { clusters := main.emptyClusters } =
        .ok () s ∧
      (¬∃ n, (s.clusters.get (r.home second)).graph.hasNode n ∧
        ((s.clusters.get (r.home second)).graph.node n).key = (r.nodeOf second).key) ∧
      ∀ stream position x, r.find? s.clusters ⟨32, 0⟩ stream position ≠ some (x, false) := by
  intro main r second
  obtain ⟨s, hr, hindexed⟩ : ∃ s, ([(0, NodeRecord.new 16 0 .clusterEntry 5), second].forM
      fun q => loadNode r q.1 q.2) { clusters := main.emptyClusters } = .ok () s ∧
      r.Indexed [(0, NodeRecord.new 16 0 .clusterEntry 5), second] s.clusters :=
    exists_indexed (get_emptyClusters main) rfl
      ((ClusterConfig.Made.empty "main").cluster_lt .initial {})
  have hlost :
      ¬r.Kept [(0, NodeRecord.new 16 0 .clusterEntry 5), second] (r.nodeOf second).key := by
    rintro ⟨before, p, after, hsplit, hkey, hrepeats⟩
    match before with
    | [] =>
      cases hsplit
      cases hkey
    | [_] =>
      cases hsplit
      exact hrepeats ⟨rfl, _, List.mem_cons_self, rfl, rfl, rfl⟩
    | _ :: _ :: before => simp at hsplit
  have hfind : ∀ n, (s.clusters.get (r.home second)).graph.find? (r.nodeOf second).key ≠ some n :=
    fun n hn => hlost ((hindexed.isSome_find? _ _ _ _).1 (Option.isSome_of_mem hn)).2
  refine ⟨readLog_oneBlock, holds_sharedEntry, s, ?_, ?_, fun stream position x hx => ?_⟩
  · rw [TraceFile.forEach_of_holds holds_sharedEntry]
    exact hr
  · rintro ⟨n, hn⟩
    exact hfind n (((hindexed.coherent _).graph.find?_eq_some_iff _ _).2 hn)
  · exact hfind x.node ((find?_eq_some_false_iff rfl).1 hx).2

end TraceFiles
end FlowAtlas
