import Mathlib.Data.List.Lattice
import Mathlib.Data.List.Nodup
import FlowAtlas.Load.Routing
import FlowAtlas.Proofs.Stateful

/-!
# Every unit has a cluster

Specs are put together by routing the units that they list, one after the other.
`exists_claimAll_eq_ok_iff` says when this succeeds and `getElem?_clusterOfName` which units are
routed where: each to the cluster that lists it.

A configuration is empty or made of specs (`ClusterConfig.Made`).  In both cases it routes every
unit to a cluster that it has, and so a load finds a cluster for every address (`Made.cluster_lt`).
-/

set_option autoImplicit false

namespace FlowAtlas

/-- The names of the units that a cluster lists. -/
def ClusterSpec.unitNames (s : ClusterSpec) : List String := s.units.map (·.name)

namespace ClusterConfig

variable {specs rest : List ClusterSpec} {name owner : String} {config : ClusterConfig}
  {claimed claimed' : Std.HashMap String ClusterId} {us : List SoftwareUnit} {id : ClusterId}
  {i n : Nat}

/-- The ways in which configurations come about. -/
inductive Made : ClusterConfig → Prop
  | empty (default : String) : Made (.empty default)
  | ofSpecs {specs : List ClusterSpec} {default : String} {config : ClusterConfig} :
      ClusterConfig.ofSpecs specs default = .ok config → Made config

/-- Every unit that is routed goes to one of the first `n` clusters. -/
def RoutesBelow (n : Nat) (claimed : Std.HashMap String ClusterId) : Prop :=
  ∀ (name : String) id, claimed[name]? = some id → id.index < n

theorem position_lt (h : specs ≠ []) (name : String) :
    (position specs name).index < specs.length := by
  rw [position]
  cases hi : specs.findIdx? (·.name == name) with
  | none => exact List.length_pos_iff.2 h
  | some i =>
    obtain ⟨hlt, -⟩ := List.findIdx?_eq_some_iff_getElem.1 hi
    exact hlt

theorem withCluster_ne_nil (name : String) (specs : List ClusterSpec) :
    withCluster name specs ≠ [] := by
  rw [withCluster]
  split
  · rename_i hany
    rintro rfl
    cases hany
  · simp

/-! ## Routing the units of specs -/

/-- Names are free after others were routed exactly when they are different ones, and were free. -/
theorem forall_free_iff {names others : List String}
    (hclaimed' : ∀ name : String,
      claimed'[name]? = if name ∈ others then some id else claimed[name]?) :
    (∀ name ∈ names, claimed'[name]? = none) ↔
      others.Disjoint names ∧ ∀ name ∈ names, claimed[name]? = none := by
  simp only [hclaimed', List.Disjoint]
  constructor
  · intro hfree
    refine ⟨fun name hother hname => ?_, fun name hname => ?_⟩
    · simpa [hother] using hfree name hname
    · by_cases hother : name ∈ others
      · simpa [hother] using hfree name hname
      · simpa [hother] using hfree name hname
  · rintro ⟨hdisjoint, hfree⟩ name hname
    rw [if_neg fun hother => hdisjoint hother hname, hfree name hname]

/-- The units of one cluster are routed unless one of them is listed twice or routed already. -/
theorem exists_claimUnits_eq_ok_iff :
    (∃ claimed', claimUnits specs id owner claimed us = .ok claimed') ↔
      (us.map (·.name)).Nodup ∧ ∀ name ∈ us.map (·.name), claimed[name]? = none := by
  induction us generalizing claimed with
  | nil => simp [claimUnits]
  | cons u us ih =>
    rw [claimUnits, List.map_cons, List.nodup_cons, List.forall_mem_cons]
    cases hu : claimed[u.name]? with
    | some first => simp
    | none =>
      have hinsert : ∀ name, (claimed.insert u.name id)[name]? =
          if name ∈ [u.name] then some id else claimed[name]? := fun name => by
        simp only [Std.HashMap.getElem?_insert, beq_iff_eq, List.mem_singleton]
        exact if_congr eq_comm rfl rfl
      dsimp only
      rw [ih, forall_free_iff hinsert, List.singleton_disjoint]
      tauto

/-- The units of one cluster go to it. -/
theorem getElem?_claimUnits (hr : claimUnits specs id owner claimed us = .ok claimed') :
    claimed'[name]? = if name ∈ us.map (·.name) then some id else claimed[name]? := by
  induction us generalizing claimed with
  | nil =>
    cases hr
    rfl
  | cons u us ih =>
    rw [claimUnits] at hr
    split at hr
    · cases hr
    · rw [ih hr, Std.HashMap.getElem?_insert, List.map_cons]
      by_cases hname : name ∈ us.map (·.name)
      · rw [if_pos hname, if_pos (List.mem_cons_of_mem _ hname)]
      · by_cases hu : name = u.name
        · simp [hu]
        · simp [hu, Ne.symm hu, hname]

/-- The units of a cluster and of those behind it are routed one after the other. -/
theorem claimAll_cons_eq_ok_iff {s : ClusterSpec} :
    claimAll specs i claimed (s :: rest) = .ok claimed' ↔
      (s.name = dynamicName → s.isDynamic = true) ∧
        ∃ claimed₁, claimUnits specs ⟨i⟩ s.name claimed s.units = .ok claimed₁ ∧
          claimAll specs (i + 1) claimed₁ rest = .ok claimed' := by
  rw [claimAll]
  split
  · rename_i hstatic
    refine iff_of_false nofun fun h => ?_
    cases hstatic.2.symm.trans (h.1 hstatic.1)
  · rename_i hstatic
    rw [Except.bind_eq_ok_iff, and_iff_right]
    exact fun hname => eq_true_of_ne_false fun hs => hstatic ⟨hname, hs⟩

/-- The units of all clusters are routed unless one of them is listed twice or routed already, or
the cluster of dynamic code is static. -/
theorem exists_claimAll_eq_ok_iff :
    (∃ claimed', claimAll specs i claimed rest = .ok claimed') ↔
      (∀ s ∈ rest, s.name = dynamicName → s.isDynamic = true) ∧
        (rest.flatMap ClusterSpec.unitNames).Nodup ∧
          ∀ name ∈ rest.flatMap ClusterSpec.unitNames, claimed[name]? = none := by
  induction rest generalizing i claimed with
  | nil => simp [claimAll]
  | cons s rest ih =>
    -- the units of the first cluster are free for the others once they are different ones
    have hfree : ∀ claimed₁, claimUnits specs ⟨i⟩ s.name claimed s.units = .ok claimed₁ →
        ((∃ claimed', claimAll specs (i + 1) claimed₁ rest = .ok claimed') ↔
          (∀ s ∈ rest, s.name = dynamicName → s.isDynamic = true) ∧
            (rest.flatMap ClusterSpec.unitNames).Nodup ∧
              s.unitNames.Disjoint (rest.flatMap ClusterSpec.unitNames) ∧
                ∀ name ∈ rest.flatMap ClusterSpec.unitNames, claimed[name]? = none) := by
      intro claimed₁ hunits
      rw [ih, forall_free_iff fun name => getElem?_claimUnits hunits]
      rfl
    have hfirst : (∃ claimed₁, claimUnits specs ⟨i⟩ s.name claimed s.units = .ok claimed₁) ↔
        s.unitNames.Nodup ∧ ∀ name ∈ s.unitNames, claimed[name]? = none :=
      exists_claimUnits_eq_ok_iff
    rw [List.flatMap_cons, List.nodup_append', List.forall_mem_cons]
    simp only [claimAll_cons_eq_ok_iff, List.mem_append, or_imp, forall_and]
    constructor
    · rintro ⟨claimed', hs, claimed₁, hunits, hrest⟩
      obtain ⟨hstatic, hnodup, hdisjoint, hfree₂⟩ := (hfree _ hunits).1 ⟨_, hrest⟩
      obtain ⟨hnodup₁, hfree₁⟩ := hfirst.1 ⟨_, hunits⟩
      exact ⟨⟨hs, hstatic⟩, ⟨hnodup₁, hnodup, hdisjoint⟩, hfree₁, hfree₂⟩
    · rintro ⟨⟨hs, hstatic⟩, ⟨hnodup₁, hnodup, hdisjoint⟩, hfree₁, hfree₂⟩
      obtain ⟨claimed₁, hunits⟩ := hfirst.2 ⟨hnodup₁, hfree₁⟩
      obtain ⟨claimed', hrest⟩ := (hfree _ hunits).2 ⟨hstatic, hnodup, hdisjoint, hfree₂⟩
      exact ⟨claimed', hs, claimed₁, hunits, hrest⟩

/-- Each unit goes to the cluster that lists it. -/
theorem getElem?_claimAll (hr : claimAll specs i claimed rest = .ok claimed') :
    claimed'[name]? = some id ↔ claimed[name]? = some id ∨
      ∃ j s, rest[j]? = some s ∧ name ∈ s.unitNames ∧ id = ⟨i + j⟩ := by
  induction rest generalizing i claimed with
  | nil =>
    cases hr
    simp
  | cons s rest ih =>
    obtain ⟨-, claimed₁, hunits, hrest⟩ := claimAll_cons_eq_ok_iff.1 hr
    have hhead : claimed₁[name]? = some id ↔
        claimed[name]? = some id ∨ name ∈ s.unitNames ∧ id = ⟨i⟩ := by
      rw [getElem?_claimUnits hunits, ← ClusterSpec.unitNames]
      by_cases hname : name ∈ s.unitNames
      · have hnone := (exists_claimUnits_eq_ok_iff.1 ⟨_, hunits⟩).2 name hname
        simp [hname, hnone, eq_comm]
      · simp [hname]
    have htail : (∃ j t, (s :: rest)[j]? = some t ∧ name ∈ t.unitNames ∧ id = ⟨i + j⟩) ↔
        (name ∈ s.unitNames ∧ id = ⟨i⟩) ∨
          ∃ j t, rest[j]? = some t ∧ name ∈ t.unitNames ∧ id = ⟨i + 1 + j⟩ := by
      rw [← Nat.or_exists_add_one]
      refine or_congr (by simp) (exists_congr fun j => ?_)
      rw [Nat.add_right_comm i 1 j]
      rfl
    rw [ih hrest, hhead, htail, or_assoc]

/-- What a configuration names as the cluster of a unit is one of its clusters. -/
structure Routed (config : ClusterConfig) : Prop where
  named : RoutesBelow config.size config.clusterOfName
  default : config.default.index < config.size
  dynamic : config.dynamic.index < config.size

theorem routed_empty (name : String) : Routed (.empty name) := by
  have hne := withCluster_ne_nil dynamicName (withCluster name [])
  exact {
    named := fun unit id hid => by simp [empty] at hid
    default := List.length_pos_iff.2 hne
    dynamic := position_lt hne dynamicName }

theorem ofSpecs_eq_ok_iff : ofSpecs specs name = .ok config ↔
    ∃ claimed, claimAll (arrange specs name) 0 ∅ (arrange specs name) = .ok claimed ∧
      config = ⟨arrange specs name, claimed, position (arrange specs name) name,
        position (arrange specs name) dynamicName⟩ := by
  rw [ofSpecs, Except.bind_eq_ok_iff]
  refine exists_congr fun claimed => and_congr_right fun _ => ?_
  constructor
  · intro h
    cases h
    rfl
  · rintro rfl
    rfl

/-- A configuration routes the units that its clusters list. -/
theorem getElem?_clusterOfName (h : ofSpecs specs name = .ok config) (unit : String)
    (id : ClusterId) : config.clusterOfName[unit]? = some id ↔
      ∃ s, config.get? id = some s ∧ unit ∈ s.unitNames := by
  obtain ⟨claimed, hclaim, rfl⟩ := ofSpecs_eq_ok_iff.1 h
  rw [getElem?_claimAll hclaim, Std.HashMap.getElem?_empty, or_iff_right nofun]
  constructor
  · rintro ⟨j, s, hs, hunit, rfl⟩
    rw [Nat.zero_add]
    exact ⟨s, hs, hunit⟩
  · rintro ⟨s, hs, hunit⟩
    refine ⟨id.index, s, hs, hunit, ?_⟩
    rw [Nat.zero_add]

theorem routed_ofSpecs (h : ofSpecs specs name = .ok config) : config.Routed := by
  have hnamed := getElem?_clusterOfName h
  obtain ⟨claimed, -, rfl⟩ := ofSpecs_eq_ok_iff.1 h
  have hne : arrange specs name ≠ [] := withCluster_ne_nil _ _
  exact {
    named := fun unit id hid => by
      obtain ⟨s, hs, -⟩ := (hnamed unit id).1 hid
      exact (List.getElem?_eq_some_iff.1 hs).1
    default := position_lt hne name
    dynamic := position_lt hne dynamicName }

theorem Made.routed (h : config.Made) : config.Routed := by
  cases h with
  | empty name => exact routed_empty name
  | ofSpecs h => exact routed_ofSpecs h

theorem Routed.clusterOf_lt (h : config.Routed) (u : SoftwareUnit) :
    (config.clusterOf u).index < config.size := by
  rw [clusterOf]
  split
  · exact h.dynamic
  · cases hu : config.clusterOfName[u.name]? with
    | none => exact h.default
    | some id => exact h.named u.name id hu

/-- **Whatever unit an address belongs to, its cluster is there.** -/
theorem Made.cluster_lt (h : config.Made) (units : UnitTable) (modules : AddressMap)
    (unit : UnitId) :
    ((Routing.ofConfig config units modules).cluster unit).index < config.emptyClusters.size := by
  have hsize : config.emptyClusters.size = config.size := by
    rw [emptyClusters, List.size_toArray, List.length_mapIdx, size]
  rw [hsize, Routing.cluster, Routing.ofConfig, Array.getD_eq_getD_getElem?, Array.getElem?_map]
  cases units.units[unit.index]? with
  | none => exact h.routed.default
  | some u => exact h.routed.clusterOf_lt u

end ClusterConfig
end FlowAtlas
