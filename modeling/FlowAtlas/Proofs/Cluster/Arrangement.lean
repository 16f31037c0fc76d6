import Mathlib.Data.String.Basic
import FlowAtlas.Proofs.Cluster.Config

/-!
# Putting specs together

`ClusterConfig.ofSpecs` orders its specs by name and puts the two clusters behind them that every
configuration has.  The number of a cluster is its place in that list, and the clusters of units, the
default cluster and the cluster of dynamic code are all known by such numbers.

* The order of the specs does not matter (`ofSpecs_eq_of_perm`), as there is one way to order
  different names.
* A name belongs to one place of the list (`position_eq_iff`), so a unit is routed by numbers to the
  cluster that `ClusterConfig.Home` describes by names (`clusterOf_eq_iff_home`).
-/

set_option autoImplicit false

namespace FlowAtlas

/-! ## Specs -/

namespace ClusterSpec

variable {s : ClusterSpec}

/-- The spec was made of some units or read from a text. -/
inductive Built (s : ClusterSpec) : Prop
  | ofUnits {name : String} {units : List SoftwareUnit} : ofUnits name units = .ok s → Built s
  | ofText {name text : String} : ofText name text = .ok s → Built s

theorem isDynamic_of_ofUnits {name : String} {units : List SoftwareUnit}
    (h : ClusterSpec.ofUnits name units = .ok s) : ∀ u ∈ s.units, u.isDynamic = s.isDynamic := by
  cases units with
  | nil => cases h
  | cons u us =>
    rw [ClusterSpec.ofUnits] at h
    split at h
    · cases h
    · rename_i hsame
      cases h
      simpa using hsame

/-- The units of a spec are dynamic when the spec is, and only then. -/
theorem Built.isDynamic_eq (h : s.Built) : ∀ u ∈ s.units, u.isDynamic = s.isDynamic := by
  cases h with
  | ofUnits h => exact isDynamic_of_ofUnits h
  | ofText h => exact isDynamic_of_ofUnits h

end ClusterSpec

namespace ClusterConfig

variable {specs specs' cs : List ClusterSpec} {name default : String} {c : ClusterConfig}
  {s : ClusterSpec} {id : ClusterId} {i : Nat}

/-! ## The order of the specs -/

/-- The specs by name. -/
def byName (specs : List ClusterSpec) : List ClusterSpec :=
  specs.mergeSort fun a b => decide (a.name ≤ b.name)

theorem byName_perm (specs : List ClusterSpec) : (byName specs).Perm specs :=
  List.mergeSort_perm _ _

theorem pairwise_byName (specs : List ClusterSpec) :
    (byName specs).Pairwise fun a b => a.name ≤ b.name := by
  refine (List.pairwise_mergeSort (fun a b c hab hbc => ?_) (fun a b => ?_) specs).imp
    fun {a b} hab => of_decide_eq_true hab
  · exact decide_eq_true ((of_decide_eq_true hab).trans (of_decide_eq_true hbc))
  · rw [Bool.or_eq_true, decide_eq_true_iff, decide_eq_true_iff]
    exact le_total a.name b.name

/-- Different names stand in strict order. -/
theorem pairwise_lt_byName (hnames : (specs.map (·.name)).Nodup) :
    (byName specs).Pairwise fun a b => a.name < b.name := by
  have hne : (byName specs).Pairwise fun a b => a.name ≠ b.name :=
    List.pairwise_map.1 (((byName_perm specs).map _).nodup_iff.2 hnames)
  exact ((pairwise_byName specs).and hne).imp fun {a b} hab => lt_of_le_of_ne hab.1 hab.2

/-- There is one way to order specs of different names. -/
theorem byName_eq_of_perm (hperm : specs.Perm specs') (hnames : (specs.map (·.name)).Nodup) :
    byName specs = byName specs' := by
  refine List.Perm.eq_of_pairwise (fun a b ha hb hab hba => ?_) (pairwise_byName specs)
    (pairwise_byName specs') (((byName_perm specs).trans hperm).trans (byName_perm specs').symm)
  have ha' := (byName_perm specs).mem_iff.1 ha
  have hb' := hperm.mem_iff.2 ((byName_perm specs').mem_iff.1 hb)
  exact List.inj_on_of_nodup_map hnames ha' hb' (le_antisymm hab hba)

/-- **The order in which specs come does not matter**: the same configuration is made of them, or
the same fault is found. -/
theorem ofSpecs_eq_of_perm (hperm : specs.Perm specs') (hnames : (specs.map (·.name)).Nodup)
    (default : String) : ofSpecs specs default = ofSpecs specs' default := by
  have harrange : arrange specs default = arrange specs' default := by
    show withCluster dynamicName (withCluster default (byName specs)) =
      withCluster dynamicName (withCluster default (byName specs'))
    rw [byName_eq_of_perm hperm hnames]
  rw [ofSpecs, ofSpecs, harrange]

/-- A cluster that lists a unit which other clusters list, too. -/
def sharingSpec (name : String) : ClusterSpec :=
  ⟨name, [⟨"shared.so-1-0-0", "shared.so", "1-0-0", false⟩], false⟩

/-- The fault names the two clusters by name, whichever came first. -/
theorem ofSpecs_eq_of_perm_sharing :
    ofSpecs [sharingSpec "b", sharingSpec "a"] "main" =
        ofSpecs [sharingSpec "a", sharingSpec "b"] "main" ∧
      ofSpecs [sharingSpec "a", sharingSpec "b"] "main" =
        .error (.duplicateUnit "shared.so-1-0-0" "a" "b") := by
  refine ⟨ofSpecs_eq_of_perm (List.Perm.swap _ _ _) (by decide) _, ?_⟩
  have hsorted : byName [sharingSpec "a", sharingSpec "b"] = [sharingSpec "a", sharingSpec "b"] :=
    List.mergeSort_of_pairwise (by simp [sharingSpec])
  have harrange : arrange [sharingSpec "a", sharingSpec "b"] "main" =
      [sharingSpec "a", sharingSpec "b", .implicit "main" false, .implicit dynamicName true] := by
    show withCluster dynamicName (withCluster "main" (byName _)) = _
    rw [hsorted]
    decide
  rw [ofSpecs, harrange]
  simp [claimAll, claimUnits, sharingSpec, dynamicName, bind, Except.bind]

/-! ## The clusters that are supplied -/

/-- The cluster of a name that is not taken. -/
def supplied (name : String) (isDynamic : Bool) (taken : List String) : List ClusterSpec :=
  if name ∈ taken then [] else [.implicit name isDynamic]

theorem supplied_congr {isDynamic : Bool} {taken taken' : List String}
    (h : name ∈ taken ↔ name ∈ taken') :
    supplied name isDynamic taken = supplied name isDynamic taken' :=
  if_congr h rfl rfl

theorem withCluster_eq (name : String) (specs : List ClusterSpec) :
    withCluster name specs = specs ++ supplied name (name == dynamicName) (specs.map (·.name)) := by
  have hany : specs.any (·.name == name) = true ↔ name ∈ specs.map (·.name) := by
    simp
  rw [withCluster, supplied]
  by_cases hname : name ∈ specs.map (·.name)
  · rw [if_pos (hany.2 hname), if_pos hname, List.append_nil]
  · rw [if_neg fun h => hname (hany.1 h), if_neg hname]

theorem mem_names_withCluster_iff {other : String} :
    other ∈ (withCluster name specs).map (·.name) ↔ other = name ∨ other ∈ specs.map (·.name) := by
  rw [withCluster_eq, supplied, List.map_append, List.mem_append]
  split
  · rename_i hname
    refine ⟨fun h => Or.inr (h.resolve_right List.not_mem_nil), ?_⟩
    rintro (rfl | h)
    · exact Or.inl hname
    · exact Or.inl h
  · rw [List.map_singleton, List.mem_singleton, or_comm]
    rfl

theorem nodup_names_withCluster (hnames : (specs.map (·.name)).Nodup) (name : String) :
    ((withCluster name specs).map (·.name)).Nodup := by
  rw [withCluster_eq, supplied]
  split
  · rwa [List.append_nil]
  · rename_i hname
    have hconcat := hnames.concat hname
    rw [List.concat_eq_append] at hconcat
    rw [List.map_append]
    exact hconcat

/-- Supplied clusters list no units. -/
theorem mem_withCluster (h : s ∈ withCluster name specs) : s ∈ specs ∨ s.units = [] := by
  rw [withCluster_eq, supplied, List.mem_append] at h
  refine h.imp_right fun h => ?_
  split at h
  · cases h
  · rw [List.mem_singleton.1 h]
    rfl

theorem unitNames_withCluster (name : String) (specs : List ClusterSpec) :
    (withCluster name specs).flatMap ClusterSpec.unitNames =
      specs.flatMap ClusterSpec.unitNames := by
  rw [withCluster_eq, supplied]
  split
  · rw [List.append_nil]
  · simp [ClusterSpec.implicit, ClusterSpec.unitNames]

/-- Of the supplied clusters, only that of dynamic code has its name. -/
theorem isDynamic_withCluster (name : String) (specs : List ClusterSpec) :
    (∀ s ∈ withCluster name specs, s.name = dynamicName → s.isDynamic = true) ↔
      ∀ s ∈ specs, s.name = dynamicName → s.isDynamic = true := by
  rw [withCluster_eq, supplied]
  split
  · rw [List.append_nil]
  · simp [ClusterSpec.implicit, or_imp, forall_and]

/-- The specs in their order, and the two clusters behind them. -/
theorem arrange_eq (specs : List ClusterSpec) (default : String) :
    arrange specs default = byName specs ++
      supplied default (default == dynamicName) (specs.map (·.name)) ++
        supplied dynamicName true (default :: specs.map (·.name)) := by
  have hmem : ∀ name, name ∈ (byName specs).map (·.name) ↔ name ∈ specs.map (·.name) := fun name =>
    ((byName_perm specs).map _).mem_iff
  have htaken : dynamicName ∈ (withCluster default (byName specs)).map (·.name) ↔
      dynamicName ∈ default :: specs.map (·.name) := by
    rw [mem_names_withCluster_iff, hmem, List.mem_cons]
  show withCluster dynamicName (withCluster default (byName specs)) = _
  rw [withCluster_eq dynamicName, supplied_congr htaken, withCluster_eq default,
    supplied_congr (hmem default), beq_self_eq_true]

/-! ## Names and places -/

theorem nodup_names_arrange (hnames : (specs.map (·.name)).Nodup) (default : String) :
    ((arrange specs default).map (·.name)).Nodup :=
  nodup_names_withCluster (nodup_names_withCluster
    (((byName_perm specs).map _).nodup_iff.2 hnames) default) dynamicName

theorem mem_names_arrange (specs : List ClusterSpec) (default : String) :
    default ∈ (arrange specs default).map (·.name) ∧
      dynamicName ∈ (arrange specs default).map (·.name) :=
  ⟨mem_names_withCluster_iff.2 (Or.inr (mem_names_withCluster_iff.2 (Or.inl rfl))),
    mem_names_withCluster_iff.2 (Or.inl rfl)⟩

/-- Among clusters of different names, the first of a name is the one of the name. -/
theorem findIdx?_name_eq_some_iff (hnames : (cs.map (·.name)).Nodup) :
    cs.findIdx? (·.name == name) = some i ↔ ∃ s, cs[i]? = some s ∧ s.name = name := by
  rw [List.findIdx?_eq_some_iff_getElem]
  constructor
  · rintro ⟨hi, hname, -⟩
    exact ⟨cs[i], List.getElem?_eq_getElem hi, beq_iff_eq.1 hname⟩
  · rintro ⟨s, hs, rfl⟩
    obtain ⟨hi, rfl⟩ := List.getElem?_eq_some_iff.1 hs
    refine ⟨hi, beq_self_eq_true _, fun j hj hname => ?_⟩
    have hne : cs[j].name ≠ cs[i].name := List.pairwise_iff_getElem.1 (List.pairwise_map.1 hnames)
      j i (Nat.lt_trans hj hi) hi hj
    exact hne (beq_iff_eq.1 hname)

/-- Among clusters of different names, a name that one of them has belongs to one place. -/
theorem position_eq_iff (hnames : (cs.map (·.name)).Nodup) (hname : name ∈ cs.map (·.name)) :
    position cs name = id ↔ ∃ s, cs[id.index]? = some s ∧ s.name = name := by
  obtain ⟨s, hs, hsname⟩ := List.mem_map.1 hname
  obtain ⟨j, hj⟩ := List.mem_iff_getElem?.1 hs
  have hfound := (findIdx?_name_eq_some_iff hnames).2 ⟨s, hj, hsname⟩
  rw [← findIdx?_name_eq_some_iff hnames, position, hfound, Option.getD_some, Option.some.injEq]
  constructor
  · rintro rfl
    rfl
  · rintro rfl
    rfl

/-! ## The configuration of specs -/

/-- The cluster is the one that the unit belongs to. -/
inductive Home (c : ClusterConfig) (default : String) (u : SoftwareUnit) (s : ClusterSpec) : Prop
  | unknown : u.isUnknown → s.name = dynamicName → Home c default u s
  | listed : ¬u.isUnknown → u.name ∈ s.unitNames → Home c default u s
  | unlisted : ¬u.isUnknown → (∀ s' ∈ c.clusters, u.name ∉ s'.unitNames) → s.name = default →
      Home c default u s

/-- The configuration is that of the specs and of the name of its default cluster. -/
structure Arranges (specs : List ClusterSpec) (default : String) (c : ClusterConfig) : Prop where
  /-- The specs stand in the order of their names.  Behind them are the default cluster and the
  cluster of dynamic code, where they were missing. -/
  clusters_eq : ∃ sorted : List ClusterSpec, sorted.Perm specs ∧
    sorted.Pairwise (fun a b => a.name < b.name) ∧ c.clusters = sorted ++
      supplied default (default == dynamicName) (specs.map (·.name)) ++
        supplied dynamicName true (default :: specs.map (·.name))
  isDynamic_eq : ∀ s ∈ c.clusters, ∀ u ∈ s.units, u.isDynamic = s.isDynamic
  find?_default : c.find? default = some c.default
  find?_dynamic : c.find? dynamicName = some c.dynamic
  /-- Every unit goes to its cluster, and there is only one. -/
  clusterOf_eq_iff : ∀ u id, c.clusterOf u = id ↔ ∃ s, c.get? id = some s ∧ c.Home default u s

/-- Specs can be put together unless a unit is listed twice or the cluster of dynamic code is
static. -/
theorem exists_ofSpecs_eq_ok_iff : (∃ c, ofSpecs specs default = .ok c) ↔
    (specs.flatMap ClusterSpec.unitNames).Nodup ∧
      ∀ s ∈ specs, s.name = dynamicName → s.isDynamic = true := by
  have hclaim : (∃ c, ofSpecs specs default = .ok c) ↔
      ∃ claimed, claimAll (arrange specs default) 0 ∅ (arrange specs default) = .ok claimed := by
    simp only [ofSpecs_eq_ok_iff]
    constructor
    · rintro ⟨_, claimed, h, -⟩
      exact ⟨claimed, h⟩
    · rintro ⟨claimed, h⟩
      exact ⟨_, claimed, h, rfl⟩
  have hunits : ((arrange specs default).flatMap ClusterSpec.unitNames).Perm
      (specs.flatMap ClusterSpec.unitNames) := by
    show ((withCluster dynamicName (withCluster default (byName specs))).flatMap
      ClusterSpec.unitNames).Perm _
    rw [unitNames_withCluster, unitNames_withCluster]
    exact (byName_perm specs).flatMap_right _
  have hdynamic : (∀ s ∈ arrange specs default, s.name = dynamicName → s.isDynamic = true) ↔
      ∀ s ∈ specs, s.name = dynamicName → s.isDynamic = true := by
    show (∀ s ∈ withCluster dynamicName (withCluster default (byName specs)), _) ↔ _
    rw [isDynamic_withCluster, isDynamic_withCluster]
    simp only [(byName_perm specs).mem_iff]
  rw [hclaim, exists_claimAll_eq_ok_iff, hdynamic, hunits.nodup_iff, and_comm,
    and_iff_left fun _ _ => Std.HashMap.getElem?_empty]

/-- Who finds clusters by the units that they list and by the two special names finds the cluster
that a unit belongs to. -/
theorem clusterOf_eq_iff_home
    (hlisted : ∀ (unit : String) id, c.clusterOfName[unit]? = some id ↔
      ∃ s, c.get? id = some s ∧ unit ∈ s.unitNames)
    (hdefault : ∀ id, c.default = id ↔ ∃ s, c.get? id = some s ∧ s.name = default)
    (hdynamic : ∀ id, c.dynamic = id ↔ ∃ s, c.get? id = some s ∧ s.name = dynamicName)
    (u : SoftwareUnit) (id : ClusterId) :
    c.clusterOf u = id ↔ ∃ s, c.get? id = some s ∧ c.Home default u s := by
  rw [clusterOf]
  by_cases hu : u.isUnknown
  · rw [if_pos hu, hdynamic]
    refine exists_congr fun s => and_congr_right fun _ => ⟨.unknown hu, fun hhome => ?_⟩
    cases hhome with
    | unknown _ hname => exact hname
    | listed hknown | unlisted hknown => exact absurd hu hknown
  · rw [if_neg hu]
    cases hunit : c.clusterOfName[u.name]? with
    | some owner =>
      obtain ⟨t, ht, hunits⟩ := (hlisted u.name owner).1 hunit
      rw [Option.getD_some]
      constructor
      · rintro rfl
        exact ⟨t, ht, .listed hu hunits⟩
      · rintro ⟨s, hs, hhome⟩
        cases hhome with
        | unknown hunknown => exact absurd hunknown hu
        | listed _ hs' => exact Option.some.inj (hunit.symm.trans ((hlisted _ _).2 ⟨s, hs, hs'⟩))
        | unlisted _ hnone => exact absurd hunits (hnone t (List.mem_of_getElem? ht))
    | none =>
      have hnone : ∀ t ∈ c.clusters, u.name ∉ t.unitNames := fun t ht hunits => by
        obtain ⟨i, hi⟩ := List.mem_iff_getElem?.1 ht
        cases hunit.symm.trans ((hlisted u.name ⟨i⟩).2 ⟨t, hi, hunits⟩)
      rw [Option.getD_none, hdefault]
      refine exists_congr fun s => and_congr_right fun hs => ⟨.unlisted hu hnone, fun hhome => ?_⟩
      cases hhome with
      | unknown hunknown => exact absurd hunknown hu
      | listed _ hunits => exact absurd hunits (hnone s (List.mem_of_getElem? hs))
      | unlisted _ _ hname => exact hname

/-- What comes of specs of different names. -/
theorem arranges_of_ofSpecs (hbuilt : ∀ s ∈ specs, s.Built) (hnames : (specs.map (·.name)).Nodup)
    (h : ofSpecs specs default = .ok c) : c.Arranges specs default := by
  have hlisted := getElem?_clusterOfName h
  have hnodup := nodup_names_arrange hnames default
  obtain ⟨hdefault, hdynamic⟩ := mem_names_arrange specs default
  obtain ⟨claimed, -, rfl⟩ := ofSpecs_eq_ok_iff.1 h
  have hfind : ∀ name, name ∈ (arrange specs default).map (·.name) →
      ((arrange specs default).findIdx? (·.name == name)).map ClusterId.mk =
        some (position (arrange specs default) name) := fun name hname => by
    obtain ⟨s, hs, hsname⟩ := (position_eq_iff hnodup hname).1 rfl
    rw [(findIdx?_name_eq_some_iff hnodup).2 ⟨s, hs, hsname⟩]
    rfl
  exact {
    clusters_eq := ⟨byName specs, byName_perm specs, pairwise_lt_byName hnames,
      arrange_eq specs default⟩
    isDynamic_eq := fun s hs => by
      rcases mem_withCluster hs with hs | hnone
      · rcases mem_withCluster hs with hs | hnone
        · exact (hbuilt s ((byName_perm specs).mem_iff.1 hs)).isDynamic_eq
        · simp [hnone]
      · simp [hnone]
    find?_default := hfind default hdefault
    find?_dynamic := hfind dynamicName hdynamic
    clusterOf_eq_iff := clusterOf_eq_iff_home hlisted (fun _ => position_eq_iff hnodup hdefault)
      fun _ => position_eq_iff hnodup hdynamic }

/-- **Units are routed to the cluster that lists them.**  Specs of different names make a
configuration exactly when no unit is listed twice and the cluster of dynamic code is not static,
and it is the one that `Arranges` describes. -/
theorem ofSpecs_routes_listed (hbuilt : ∀ s ∈ specs, s.Built)
    (hnames : (specs.map (·.name)).Nodup) (default : String) :
    ((∃ c, ofSpecs specs default = .ok c) ↔ (specs.flatMap ClusterSpec.unitNames).Nodup ∧
        ∀ s ∈ specs, s.name = dynamicName → s.isDynamic = true) ∧
      ∀ c, ofSpecs specs default = .ok c → c.Arranges specs default :=
  ⟨exists_ofSpecs_eq_ok_iff, fun _ h => arranges_of_ofSpecs hbuilt hnames h⟩

/-- Two units of the system. -/
def systemSpec : ClusterSpec :=
  ⟨"system", [.parse "libc.so-2-31-0", .parse "libm.so-2-31-0"], false⟩

/-- One unit of generated code. -/
def jitSpec : ClusterSpec := ⟨"jit", [{ SoftwareUnit.parse "v8-jit" with isDynamic := true }], true⟩

theorem ofSpecs_routes_listed_system : ∃ c, ofSpecs [systemSpec, jitSpec] "main" = .ok c ∧
    c.Arranges [systemSpec, jitSpec] "main" := by
  have hbuilt : ∀ s ∈ [systemSpec, jitSpec], s.Built := by
    have hsystem : ClusterSpec.ofUnits "system"
        [.parse "libc.so-2-31-0", .parse "libm.so-2-31-0"] = .ok systemSpec := rfl
    have hjit : ClusterSpec.ofText "jit" "v8-jit dynamic" = .ok jitSpec := by decide +kernel
    intro s hs
    rcases List.mem_pair.1 hs with rfl | rfl
    · exact .ofUnits hsystem
    · exact .ofText hjit
  obtain ⟨hmade, harranges⟩ := ofSpecs_routes_listed hbuilt (by decide) "main"
  obtain ⟨c, hc⟩ := hmade.2 ⟨by decide, by decide⟩
  exact ⟨c, hc, harranges c hc⟩

end ClusterConfig
end FlowAtlas
