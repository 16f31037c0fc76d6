import FlowAtlas.Load.Routing
import FlowAtlas.Proofs.Cluster.Growth

/-!
# The node that an endpoint stands for

`Routing.Resolves` says, without a search, which node an endpoint of a record stands for: the block
of its address at the recorded version, else at the next, else at the previous one.
`find?_eq_some_iff` says that `Routing.find?` finds that node, and `fate_eq_resolved_iff` that an
edge record is resolved exactly when both its ends stand for nodes.

What an endpoint stands for depends on the ordinary blocks alone, and so it stays while edges and
boundary nodes are added (`resolves_iff_of_sameBlocks`).
-/

set_option autoImplicit false

namespace FlowAtlas
namespace Routing

variable {r : Routing} {cs cs' : Clusters} {stream : StreamKind} {position : Nat} {tag : UInt64}
  {version : UInt8} {e : Endpoint} {x y : ClusterNode} {record : EdgeRecord}

/-! ## Blocks by address -/

/-- The address at a stream position belongs to the block `x`, in this version. -/
def Names (r : Routing) (cs : Clusters) (stream : StreamKind) (position : Nat) (tag : UInt64)
    (version : UInt8) (x : ClusterNode) : Prop :=
  let (unit, offset) := r.modules.locate tag stream position
  x.cluster = r.cluster unit ∧ (cs.get x.cluster).graph.hasNode x.node ∧
    ((cs.get x.cluster).graph.node x.node).key = .block unit offset version

/-- The node under the key of an address. -/
def nodeAt? (r : Routing) (cs : Clusters) (stream : StreamKind) (position : Nat) (tag : UInt64)
    (version : UInt8) : Option ClusterNode :=
  let (unit, offset) := r.modules.locate tag stream position
  ((cs.get (r.cluster unit)).graph.find? (.block unit offset version)).map fun node =>
    ⟨r.cluster unit, node⟩

theorem nodeAt?_eq_some_iff (h : cs.Coherent) :
    r.nodeAt? cs stream position tag version = some x ↔
      r.Names cs stream position tag version x := by
  obtain ⟨cluster, node⟩ := x
  rw [nodeAt?, Names]
  dsimp only
  rw [Option.map_eq_some_iff]
  constructor
  · rintro ⟨n, hn, heq⟩
    cases heq
    exact ⟨rfl, ((h _).graph.find?_eq_some_iff _ _).1 hn⟩
  · rintro ⟨rfl, hn⟩
    exact ⟨node, ((h _).graph.find?_eq_some_iff _ _).2 hn, rfl⟩

theorem nodeAt?_eq_none_iff (h : cs.Coherent) :
    r.nodeAt? cs stream position tag version = none ↔
      ∀ x, ¬r.Names cs stream position tag version x := by
  rw [Option.eq_none_iff_forall_ne_some]
  exact forall_congr' fun x => not_congr (nodeAt?_eq_some_iff h)

theorem Names.eq (h : cs.Coherent) (hx : r.Names cs stream position tag version x)
    (hy : r.Names cs stream position tag version y) : x = y := by
  rw [← nodeAt?_eq_some_iff h] at hx hy
  exact Option.some.inj (hx.symm.trans hy)

theorem Names.index_lt (hx : r.Names cs stream position tag version x) :
    x.cluster.index < cs.size :=
  Clusters.index_lt_of_hasNode hx.2.1

theorem Names.of_grows {new : ClusterId → NodeId → NodeId → Prop} (hg : Clusters.Grows cs cs' new)
    (hx : r.Names cs stream position tag version x) :
    r.Names cs' stream position tag version x := by
  obtain ⟨hcluster, hnode, hkey⟩ := hx
  have hext := (hg.extends_ x.cluster).graph
  exact ⟨hcluster, hext.hasNode _ hnode, (hext.key_eq hnode).trans hkey⟩

theorem nodeAt?_of_sameBlocks (hsame : Clusters.SameBlocks cs cs') :
    r.nodeAt? cs' = r.nodeAt? cs := by
  funext stream position tag version
  rw [nodeAt?, nodeAt?]
  dsimp only
  rw [hsame]

theorem names_iff_of_sameBlocks (h : cs.Coherent) (h' : cs'.Coherent)
    (hsame : Clusters.SameBlocks cs cs') :
    r.Names cs' stream position tag version x ↔ r.Names cs stream position tag version x := by
  rw [← nodeAt?_eq_some_iff h, ← nodeAt?_eq_some_iff h', nodeAt?_of_sameBlocks hsame]

/-! ## Endpoints -/

/-- The endpoint stands for the block `x`.  The recorded version comes first, then the next, then the
previous; neither wraps around. -/
inductive Resolves (r : Routing) (cs : Clusters) (stream : StreamKind) (position : Nat)
    (e : Endpoint) : ClusterNode → Prop
  | recorded {x : ClusterNode} : r.Names cs stream position e.tag e.version x →
      Resolves r cs stream position e x
  | next {x : ClusterNode} : (∀ y, ¬r.Names cs stream position e.tag e.version y) →
      e.version ≠ 255 → r.Names cs stream position e.tag (e.version + 1) x →
      Resolves r cs stream position e x
  | previous {x : ClusterNode} : (∀ y, ¬r.Names cs stream position e.tag e.version y) →
      (e.version ≠ 255 → ∀ y, ¬r.Names cs stream position e.tag (e.version + 1) y) →
      e.version ≠ 0 → r.Names cs stream position e.tag (e.version - 1) x →
      Resolves r cs stream position e x

theorem Resolves.hasNode (hx : r.Resolves cs stream position e x) :
    (cs.get x.cluster).graph.hasNode x.node := by
  cases hx with
  | recorded hx => exact hx.2.1
  | next _ _ hx => exact hx.2.1
  | previous _ _ _ hx => exact hx.2.1

/-- The search in terms of `nodeAt?`. -/
theorem find?_eq (r : Routing) (cs : Clusters) (e : Endpoint) (stream : StreamKind)
    (position : Nat) :
    (r.find? cs e stream position).map (·.1) =
      (r.nodeAt? cs stream position e.tag e.version).or
        ((neighbours e.version).findSome? (r.nodeAt? cs stream position e.tag)) := by
  have hmap : ∀ vs : List UInt8, vs.findSome? (r.nodeAt? cs stream position e.tag) =
      (vs.findSome? fun version => (cs.get (r.cluster
        (r.modules.locate e.tag stream position).1)).graph.find? (.block
          (r.modules.locate e.tag stream position).1 (r.modules.locate e.tag stream position).2
          version)).map fun node =>
        ⟨r.cluster (r.modules.locate e.tag stream position).1, node⟩ := by
    intro vs
    rw [List.map_findSome?]
    rfl
  rw [find?, hmap, nodeAt?]
  dsimp only
  cases (cs.get (r.cluster (r.modules.locate e.tag stream position).1)).graph.find?
      (.block (r.modules.locate e.tag stream position).1
        (r.modules.locate e.tag stream position).2 e.version) with
  | some node => rfl
  | none =>
    rw [Option.map_map]
    rfl

theorem findSome?_neighbours_eq_some_iff {f : UInt8 → Option ClusterNode} :
    (neighbours version).findSome? f = some x ↔
      (version ≠ 255 ∧ f (version + 1) = some x) ∨
        ((version ≠ 255 → f (version + 1) = none) ∧ version ≠ 0 ∧ f (version - 1) = some x) := by
  rw [neighbours, List.findSome?_append, Option.or_eq_some_iff]
  have hnext : ∀ o, (if version = 255 then [] else [version + 1]).findSome? f = o ↔
      (version = 255 ∧ o = none) ∨ (version ≠ 255 ∧ f (version + 1) = o) := by
    intro o
    split
    · rename_i hv
      simp [hv, eq_comm]
    · rename_i hv
      simp [hv]
  have hprevious : (if version = 0 then [] else [version - 1]).findSome? f = some x ↔
      version ≠ 0 ∧ f (version - 1) = some x := by
    split
    · rename_i hv
      simp [hv]
    · rename_i hv
      simp [hv]
  rw [hnext, hnext, hprevious]
  by_cases hv : version = 255
  · simp [hv]
  · simp [hv]

/-- **The search finds the node that an endpoint stands for.** -/
theorem find?_eq_some_iff (h : cs.Coherent) :
    (r.find? cs e stream position).map (·.1) = some x ↔ r.Resolves cs stream position e x := by
  rw [find?_eq, Option.or_eq_some_iff, findSome?_neighbours_eq_some_iff, nodeAt?_eq_some_iff h,
    nodeAt?_eq_none_iff h, nodeAt?_eq_some_iff h, nodeAt?_eq_none_iff h, nodeAt?_eq_some_iff h]
  constructor
  · rintro (hx | ⟨hnone, ⟨hv, hx⟩ | ⟨hnext, hv, hx⟩⟩)
    · exact .recorded hx
    · exact .next hnone hv hx
    · exact .previous hnone hnext hv hx
  · intro hx
    cases hx with
    | recorded hx => exact Or.inl hx
    | next hnone hv hx => exact Or.inr ⟨hnone, Or.inl ⟨hv, hx⟩⟩
    | previous hnone hnext hv hx => exact Or.inr ⟨hnone, Or.inr ⟨hnext, hv, hx⟩⟩

theorem Resolves.eq (h : cs.Coherent) (hx : r.Resolves cs stream position e x)
    (hy : r.Resolves cs stream position e y) : x = y := by
  rw [← find?_eq_some_iff h] at hx hy
  exact Option.some.inj (hx.symm.trans hy)

/-- What an endpoint stands for depends on the ordinary blocks alone. -/
theorem resolves_iff_of_sameBlocks (h : cs.Coherent) (h' : cs'.Coherent)
    (hsame : Clusters.SameBlocks cs cs') :
    r.Resolves cs' stream position e x ↔ r.Resolves cs stream position e x := by
  rw [← find?_eq_some_iff h, ← find?_eq_some_iff h', find?_eq, find?_eq,
    nodeAt?_of_sameBlocks hsame]

/-! ## Edge records -/

/-- **An edge record is resolved exactly when it is not to be passed over and both its ends stand for
nodes.** -/
theorem fate_eq_resolved_iff (h : cs.Coherent) :
    (r.fate cs record stream position).1 = .resolved x y ↔
      record.isSkipped = false ∧ r.Resolves cs stream position record.source x ∧
        r.Resolves cs stream position record.target y := by
  rw [← find?_eq_some_iff h, ← find?_eq_some_iff h, fate]
  cases record.isSkipped with
  | true => exact iff_of_false (fun hf => by cases hf) fun hf => by cases hf.1
  | false =>
    rw [if_neg Bool.false_ne_true, and_iff_right rfl]
    cases r.find? cs record.source stream position with
    | none => exact iff_of_false (fun hf => by cases hf) fun hf => by cases hf.1
    | some s =>
      cases r.find? cs record.target stream position with
      | none =>
        refine iff_of_false (fun hf => ?_) fun hf => by cases hf.2
        dsimp only at hf
        split at hf
        · cases hf
        · cases hf
      | some t =>
        dsimp only [Option.map_some]
        rw [Option.some.injEq, Option.some.injEq, Fate.resolved.injEq]

end Routing
end FlowAtlas
