import FlowAtlas.Cluster.Export
import FlowAtlas.Proofs.Cluster.Requests
import FlowAtlas.Proofs.Load.Account
import FlowAtlas.Proofs.Stateful
import FlowAtlas.Proofs.Trace.RoundTrip
import Mathlib.Data.List.Induction
import Mathlib.Data.List.Nodup

/-!
# What the records of an exported cluster tell

`ExportedNode.Describes` says what the record of a node tells of it, and `ExportedEdge.edge` is the
edge that a record tells of.  While there is room for its nodes and its units, a cluster is exported
(`ClusterExport.exists_ofCluster_eq`), and its records describe its nodes and edges in order.

The record of a block tells its key (`ClusterExport.exists_key_eq`), unless its address lost bits,
which the export counts.  So two blocks never have the same record when the count is zero.
-/

set_option autoImplicit false

namespace FlowAtlas

/-!
## The modules of an exported cluster

The list of modules begins with the module of boundary nodes.  The units of all other nodes follow,
each once, in the order of their first nodes (`Node.units`).

* `ModuleList.Lists` says that a list of modules is that of these units, in names and places.
* `ModuleList.exists_ofNodes_eq` is the main theorem: while there is room for them, the list that a
  cluster is exported with lists the units of its nodes.
-/

/-! ### The units of nodes -/

namespace Node

variable {xs : List Node} {x : Node} {u : UnitId}

/-- The units of the nodes that are no boundary nodes, each once, in the order of their first
nodes. -/
def units (xs : List Node) : List UnitId :=
  ((xs.filter fun x => !x.kind.isBoundary).map fun x => x.unit).eraseDups

theorem mem_units : u ∈ units xs ↔ ∃ x ∈ xs, x.kind.isBoundary = false ∧ x.unit = u := by
  simp [units, List.mem_eraseDups, and_assoc]

theorem unit_mem_units (hx : x ∈ xs) (hkind : x.kind.isBoundary = false) : x.unit ∈ units xs :=
  mem_units.2 ⟨x, hx, hkind, rfl⟩

theorem units_concat (xs : List Node) (x : Node) : units (xs ++ [x]) =
    if x.kind.isBoundary = true ∨ x.unit ∈ units xs then units xs else units xs ++ [x.unit] := by
  rw [units, List.filter_append, List.map_append]
  by_cases hkind : x.kind.isBoundary
  · simp [units, hkind]
  · have hmem : x.unit ∈ (xs.filter fun x => !x.kind.isBoundary).map (fun x => x.unit) ↔
        x.unit ∈ units xs := List.mem_eraseDups.symm
    have hone : ([x].filter fun x => !x.kind.isBoundary).map (fun x => x.unit) = [x.unit] := by
      simp [hkind]
    rw [hone]
    by_cases hold : x.unit ∈ units xs
    · rw [if_pos (Or.inr hold), eraseDups_concat_of_mem (hmem.2 hold), units]
    · rw [if_neg fun h => h.elim hkind hold, eraseDups_concat_of_not_mem (mt hmem.1 hold), units]

theorem nodup_units (xs : List Node) : (units xs).Nodup := by
  induction xs using List.reverseRecOn with
  | nil => exact List.nodup_nil
  | append_singleton xs x ih =>
    rw [units_concat]
    split
    · exact ih
    · rename_i hnew
      rw [← List.concat_eq_append, List.nodup_concat]
      exact ⟨fun hmem => hnew (Or.inr hmem), ih⟩

theorem length_units_le_concat (xs : List Node) (x : Node) :
    (units xs).length ≤ (units (xs ++ [x])).length := by
  rw [units_concat]
  split
  · exact Nat.le_refl _
  · rw [List.length_append]
    exact Nat.le_add_right _ _

theorem length_units_le (xs : List Node) : (units xs).length ≤ xs.length := by
  induction xs using List.reverseRecOn with
  | nil => exact Nat.le_refl _
  | append_singleton xs x ih =>
    rw [units_concat, List.length_append]
    split
    · exact Nat.le_add_right_of_le ih
    · rw [List.length_append]
      exact Nat.add_le_add_right ih 1

end Node

/-! ### Their modules -/

namespace ModuleList

variable {units : UnitTable} {us : List UnitId} {l : ModuleList} {xs : List Node} {x : Node}
  {u v : UnitId} {i : Nat}

/-- The module of boundary nodes comes first, the units follow, and each has its place. -/
structure Lists (units : UnitTable) (us : List UnitId) (l : ModuleList) : Prop where
  names_eq : l.names.toList = boundaryName :: us.map units.name
  places_eq : ∀ u, l.places[u]? = (us.idxOf? u).map (· + 1)

theorem lists_initial (units : UnitTable) : Lists units [] initial where
  names_eq := rfl
  places_eq _ := Std.HashMap.getElem?_empty

namespace Lists

theorem size_names (h : Lists units us l) : l.names.size = us.length + 1 := by
  rw [← Array.length_toList, h.names_eq, List.length_cons, List.length_map]

theorem contains_iff (h : Lists units us l) : l.places.contains u ↔ u ∈ us := by
  rw [Std.HashMap.contains_eq_isSome_getElem?, h.places_eq, Option.isSome_map,
    List.isSome_idxOf?]

/-- The place of a unit is behind that of the boundary nodes, and has the unit's name. -/
theorem exists_place (h : Lists units us l) (hu : u ∈ us) :
    ∃ i, l.places[u]? = some (i + 1) ∧ us[i]? = some u ∧
      l.names.toList[i + 1]? = some (units.name u) := by
  obtain ⟨i, hi⟩ := Option.isSome_iff_exists.1 (List.isSome_idxOf?.2 hu)
  obtain ⟨hlt, hget, -⟩ := List.idxOf?_eq_some_iff.1 hi
  have hunit : us[i]? = some u := List.getElem?_eq_some_iff.2 ⟨hlt, hget⟩
  refine ⟨i, ?_, hunit, ?_⟩
  · rw [h.places_eq, hi, Option.map_some]
  · rw [h.names_eq, List.getElem?_cons_succ, List.getElem?_map, hunit, Option.map_some]

theorem withUnit (h : Lists units us l) (hu : u ∉ us) :
    Lists units (us ++ [u]) ⟨l.names.push (units.name u), l.places.insert u l.names.size⟩ where
  names_eq := by
    rw [Array.toList_push, h.names_eq, List.map_append, List.cons_append]
    rfl
  places_eq v := by
    have happend : (us ++ [u]).idxOf? v =
        (us.idxOf? v).or (if u = v then some us.length else none) := by
      rw [List.idxOf?, List.findIdx?_append, List.findIdx?_singleton]
      by_cases huv : u = v
      · simp [huv]
      · simp [huv]
    rw [Std.HashMap.getElem?_insert, happend, h.places_eq, h.size_names]
    by_cases huv : u = v
    · subst huv
      rw [List.idxOf?_eq_none_iff.2 hu]
      simp
    · simp [huv]

end Lists

/-- While there is room, a node has its unit listed, unless it is a boundary node. -/
theorem exists_add_eq (h : Lists units (Node.units xs) l)
    (hroom : (Node.units (xs ++ [x])).length < limit) :
    ∃ l', add units l x = .ok l' ∧ Lists units (Node.units (xs ++ [x])) l' := by
  rw [Node.units_concat] at hroom ⊢
  have hold : (x.kind.isBoundary || l.places.contains x.unit) = true ↔
      x.kind.isBoundary = true ∨ x.unit ∈ Node.units xs := by
    rw [Bool.or_eq_true, h.contains_iff]
  rw [add]
  by_cases hx : x.kind.isBoundary = true ∨ x.unit ∈ Node.units xs
  · rw [if_pos (hold.2 hx), if_pos hx]
    exact ⟨l, rfl, h⟩
  · rw [if_neg hx, List.length_append, List.length_singleton] at hroom
    rw [if_neg (mt hold.1 hx), if_neg hx, if_neg (by rw [h.size_names]; exact Nat.not_le.2 hroom)]
    exact ⟨_, rfl, h.withUnit fun hmem => hx (Or.inr hmem)⟩

/-- **The modules of a cluster are listed while there is room for them**, each at a place of its
own. -/
theorem exists_ofNodes_eq (units : UnitTable) (hroom : (Node.units xs).length < limit) :
    ∃ l, ofNodes units xs = .ok l ∧ Lists units (Node.units xs) l := by
  induction xs using List.reverseRecOn with
  | nil => exact ⟨initial, rfl, lists_initial units⟩
  | append_singleton xs x ih =>
    obtain ⟨l, hl, hlists⟩ := ih (Nat.lt_of_le_of_lt (Node.length_units_le_concat xs x) hroom)
    obtain ⟨l', hl', hlists'⟩ := exists_add_eq hlists hroom
    refine ⟨l', ?_, hlists'⟩
    rw [ofNodes] at hl ⊢
    rw [List.foldlM_append, hl]
    exact (bind_pure (add units l x)).trans hl'

/-- Modules that are listed had room. -/
theorem lists_of_ofNodes (h : ofNodes units xs = .ok l) :
    (Node.units xs).length < limit ∧ Lists units (Node.units xs) l := by
  induction xs using List.reverseRecOn generalizing l with
  | nil =>
    cases h
    exact ⟨by decide, lists_initial units⟩
  | append_singleton xs x ih =>
    rw [ofNodes, List.foldlM_append] at h
    obtain ⟨before, hbefore, h⟩ := Except.bind_eq_ok_iff.1 h
    obtain ⟨hroom, hlists⟩ := ih hbefore
    have hadd : add units before x = .ok l := (bind_pure (add units before x)).symm.trans h
    by_cases hnew : (Node.units (xs ++ [x])).length < limit
    · obtain ⟨l', hl', hlists'⟩ := exists_add_eq hlists hnew
      cases hadd.symm.trans hl'
      exact ⟨hnew, hlists'⟩
    · rw [Node.units_concat] at hnew
      split at hnew
      · exact absurd hroom hnew
      · rename_i hfresh
        rw [List.length_append, List.length_singleton, ← hlists.size_names] at hnew
        have hold : ¬(x.kind.isBoundary || before.places.contains x.unit) = true := by
          rwa [Bool.or_eq_true, hlists.contains_iff]
        rw [add, if_neg hold, if_pos (Nat.not_lt.1 hnew)] at hadd
        cases hadd

end ModuleList

/-! ## Nodes and edges -/

namespace Node

/-- The node is a block, and no boundary node. -/
def IsCode (x : Node) : Prop := x.key.isBlock ∧ x.kind.isBoundary = false

/-- The node is a block whose address needs more than 32 bits. -/
def IsWide (x : Node) : Prop :=
  ∃ unit tag version, x.key = .block unit tag version ∧ 2 ^ 32 ≤ tag.toNat

/-- If the node is a block, it belongs to the unit that its key names. -/
def KeyedByUnit (x : Node) : Prop :=
  ∀ unit tag version, x.key = .block unit tag version → x.unit = unit

end Node

/-- What the record of a node tells of it: the kind and the content hash of any node; of a block its
module, the low bits of its address, and its version; of a boundary node whether it is for
callbacks. -/
structure ExportedNode.Describes (units : UnitTable) (modules : List String) (r : ExportedNode)
    (x : Node) : Prop where
  kind_eq : r.kind = x.kind
  hash_eq : r.hash = x.hash
  block : ∀ unit tag version, x.key = .block unit tag version → x.kind.isBoundary = false →
    x.unit = unit ∧ 1 ≤ r.module.toNat ∧ modules[r.module.toNat]? = some (units.name unit) ∧
      r.tag.toNat = tag.toNat % 2 ^ 32 ∧ r.version = version
  boundary : ∀ signature kind isCallback, x.key = .boundary signature kind isCallback →
    r.module = 0 ∧ r.tag = 0 ∧ r.version = isCallback.toUInt8

/-- Where the record of a block says that it is: its module, the low bits of its address, and its
version. -/
def ExportedNode.place (r : ExportedNode) : UInt16 × UInt32 × UInt8 := (r.module, r.tag, r.version)

/-- The edge that a record tells of. -/
def ExportedEdge.edge (r : ExportedEdge) : Edge :=
  ⟨⟨r.source.toNat⟩, ⟨r.target.toNat⟩, r.kind, r.ordinal⟩

namespace ClusterExport

variable {units : UnitTable} {l : ModuleList} {xs : List Node} {x : Node} {e : Edge} {c : Cluster}

theorem isTruncated_iff : isTruncated x = true ↔ x.IsWide := by
  rw [isTruncated, Node.IsWide]
  cases x.key with
  | block unit tag version =>
    rw [decide_eq_true_iff]
    refine ⟨fun h => ⟨unit, tag, version, rfl, h⟩, ?_⟩
    rintro ⟨_, _, _, hkey, h⟩
    cases hkey
    exact h
  | boundary | processRoot => exact iff_of_false nofun nofun

/-- The export counts the addresses that lose bits. -/
theorem countP_isTruncated (xs : List Node) : xs.countP isTruncated = howMany xs Node.IsWide := by
  rw [howMany]
  exact List.countP_congr fun x _ => by simp [isTruncated_iff]

/-! ## Records of nodes -/

section

variable (hl : l.Lists units (Node.units xs))
  (hroom : (Node.units xs).length < ModuleList.limit) (hkeyed : ∀ x ∈ xs, x.KeyedByUnit)

include hl hroom hkeyed

/-- The module of a block is the place of its unit, behind the module of the boundary nodes. -/
theorem exists_module_ofNode (hx : x ∈ xs) {unit : UnitId} {tag : UInt64} {version : UInt8}
    (hkey : x.key = .block unit tag version) (hkind : x.kind.isBoundary = false) :
    ∃ i, (ofNode l x).module.toNat = i + 1 ∧ (Node.units xs)[i]? = some unit ∧
      l.names.toList[i + 1]? = some (units.name unit) := by
  have hmem : unit ∈ Node.units xs :=
    hkeyed x hx unit tag version hkey ▸ Node.unit_mem_units hx hkind
  obtain ⟨i, hplace, hunit, hname⟩ := hl.exists_place hmem
  refine ⟨i, ?_, hunit, hname⟩
  have hi := (List.getElem?_eq_some_iff.1 hunit).1
  have hlimit : i + 1 < 2 ^ 16 := Nat.lt_of_le_of_lt hi hroom
  simp only [ofNode, hkey, hplace, Option.getD_some]
  rw [UInt16.toNat_ofNat', Nat.mod_eq_of_lt hlimit]

theorem describes_ofNode (hx : x ∈ xs) : (ofNode l x).Describes units l.names.toList x where
  kind_eq := by rw [ofNode]; cases x.key <;> rfl
  hash_eq := by rw [ofNode]; cases x.key <;> rfl
  block unit tag version hkey hkind := by
    obtain ⟨i, hmodule, -, hname⟩ := exists_module_ofNode hl hroom hkeyed hx hkey hkind
    refine ⟨hkeyed x hx unit tag version hkey, ?_, ?_, ?_, ?_⟩
    · rw [hmodule]
      exact Nat.le_add_left 1 i
    · rw [hmodule, hname]
    · simp only [ofNode, hkey, UInt64.toNat_toUInt32]
    · simp only [ofNode, hkey]
  boundary signature kind isCallback hkey := by simp only [ofNode, hkey, and_self]

/-- **The record of a block tells its key**, unless its address lost bits. -/
theorem exists_key_eq (hx : x ∈ xs) (hcode : x.IsCode) (hwide : ¬x.IsWide) :
    ∃ unit, (Node.units xs)[(ofNode l x).module.toNat - 1]? = some unit ∧
      x.key = .block unit (ofNode l x).tag.toUInt64 (ofNode l x).version := by
  obtain ⟨unit, tag, version, hkey⟩ := NodeKey.isBlock_iff.1 hcode.1
  obtain ⟨i, hmodule, hunit, -⟩ := exists_module_ofNode hl hroom hkeyed hx hkey hcode.2
  have htag : tag.toUInt32.toUInt64 = tag := by
    have hlt : tag.toNat < 2 ^ 32 :=
      Nat.not_le.1 fun hle => hwide ⟨unit, tag, version, hkey, hle⟩
    rw [← UInt64.toNat_inj, UInt32.toNat_toUInt64, UInt64.toNat_toUInt32, Nat.mod_eq_of_lt hlt]
  refine ⟨unit, ?_, ?_⟩
  · rw [hmodule, Nat.add_sub_cancel, hunit]
  · simp only [ofNode, hkey, htag]

end

/-! ## Records of edges -/

theorem edge_ofEdge (hsource : e.source.index < 2 ^ 26) (htarget : e.target.index < 2 ^ 26) :
    (ofEdge e).Fits ∧ (ofEdge e).edge = e := by
  have hindex : ∀ n : NodeId, n.index < 2 ^ 26 → (UInt32.ofNat n.index).toNat = n.index :=
    fun n hn => UInt32.toNat_ofNat_of_lt' (Nat.lt_trans hn (by decide))
  rw [ExportedEdge.Fits, ExportedEdge.edge, ofEdge, hindex _ hsource, hindex _ htarget]
  exact ⟨⟨hsource, htarget⟩, rfl⟩

/-! ## Clusters -/

theorem exists_ofCluster_eq (units : UnitTable) (hnodes : c.graph.nodeCount ≤ 2 ^ 26)
    (hroom : (Node.units c.graph.nodes.toList).length < ModuleList.limit) :
    ∃ l, l.Lists units (Node.units c.graph.nodes.toList) ∧ ofCluster units c = .ok {
      cluster := c.name
      nodes := c.graph.nodes.toList.map (ofNode l)
      edges := c.graph.edges.toList.map ofEdge
      modules := ModuleList.boundaryName :: (Node.units c.graph.nodes.toList).map units.name
      truncatedTags := c.graph.nodes.toList.countP isTruncated } := by
  obtain ⟨l, hl, hlists⟩ := ModuleList.exists_ofNodes_eq units hroom
  refine ⟨l, hlists, ?_⟩
  have hfits : ¬ExportedEdge.nodeLimit < c.graph.nodes.toList.length := Nat.not_lt.2 hnodes
  rw [ofCluster, if_neg hfits, hl, ← hlists.names_eq]

/-- A cluster that is exported is not too large. -/
theorem of_ofCluster_eq {x : ClusterExport} (h : ofCluster units c = .ok x) :
    c.graph.nodeCount ≤ 2 ^ 26 ∧ (Node.units c.graph.nodes.toList).length < ModuleList.limit := by
  rw [ofCluster] at h
  split at h
  · cases h
  · rename_i hfits
    split at h
    · cases h
    · rename_i hl
      exact ⟨Nat.not_lt.1 hfits, (ModuleList.lists_of_ofNodes hl).1⟩

end ClusterExport
end FlowAtlas
