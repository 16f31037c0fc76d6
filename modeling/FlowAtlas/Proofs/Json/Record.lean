import FlowAtlas.Json.Record
import FlowAtlas.Proofs.Json.Writing
import Mathlib.Algebra.Ring.Nat
import Mathlib.Data.List.Basic

/-!
# Records are read as they were written

An object that names no field twice gives each field the value of its member
(`JsonRecord.ofJson?_record`), also when some of its members are left out (`Json.without`).
Beside that stand the single values: texts, numbers in their range, lists, and names of variants.
-/

set_option autoImplicit false

namespace FlowAtlas

/-! ## Texts -/

namespace JsonText

@[simp] theorem string?_ofString (s : String) : (ofString s).string? = some s := by
  have hmap : (s.toList.map some).mapM id = some s.toList := by
    induction s.toList with
    | nil => rfl
    | cons c cs ih =>
      rw [List.map_cons, List.mapM_cons, ih]
      rfl
  rw [string?, ofString, hmap, Option.map_some, String.ofList_toList]

theorem ofString_inj {s s' : String} : ofString s = ofString s' ↔ s = s' := by
  constructor
  · intro h
    have hstring := congrArg string? h
    rw [string?_ofString, string?_ofString] at hstring
    exact Option.some.inj hstring
  · exact congrArg ofString

end JsonText

/-! ## Single values -/

namespace Json

variable {α : Type} {read : Json → Option α} {write : α → Json} {n bits : Nat}

@[simp] theorem string?_ofString (s : String) : (ofString s).string? = some s :=
  JsonText.string?_ofString s

@[simp] theorem bool?_bool (b : Bool) : (bool b).bool? = some b := rfl

theorem intIn?_integer {first last n : Int} (hfirst : first ≤ n) (hlast : n < last) :
    (integer n).intIn? first last = some n := if_pos ⟨hfirst, hlast⟩

theorem nat?_ofNat (h : n < 2 ^ bits) : (ofNat n).nat? bits = some n := by
  have hlast : (n : Int) < Int.pow 2 bits := by
    have hpow : Int.pow 2 bits = ((2 ^ bits : Nat) : Int) := (Int.natCast_pow 2 bits).symm
    rw [hpow]
    exact Int.ofNat_lt.2 h
  rw [nat?, ofNat, intIn?_integer (Int.natCast_nonneg n) hlast]
  rfl

theorem nat?_ofNat_of_lt_wordLimit (h : n < Numeral.wordLimit) : (ofNat n).nat? 64 = some n :=
  nat?_ofNat h

@[simp] theorem word?_ofNat (w : UInt64) : (ofNat w.toNat).word? = some w := by
  rw [word?, nat?_ofNat w.toNat_lt, Option.map_some, UInt64.ofNat_toNat]

@[simp] theorem byte?_ofNat (b : UInt8) : (ofNat b.toNat).byte? = some b := by
  rw [byte?, nat?_ofNat b.toNat_lt, Option.map_some, UInt8.ofNat_toNat]

theorem option?_ofOption {x : Option α} (h : ∀ a, read (write a) = some a)
    (hnull : ∀ a, write a ≠ null) : (ofOption write x).option? read = some x := by
  cases x with
  | none => rfl
  | some a =>
    rw [ofOption, option?]
    · rw [h a]
      rfl
    · exact hnull a

@[simp] theorem option?_ofOption_string (x : Option String) :
    (ofOption ofString x).option? string? = some x :=
  option?_ofOption string?_ofString fun _ => by rintro ⟨⟩

@[simp] theorem option?_ofString (s : String) : (ofString s).option? string? = some (some s) :=
  option?_ofOption_string (some s)

theorem list?_array {l : List α} (h : ∀ a ∈ l, read (write a) = some a) :
    (array (l.map write)).list? read = some l := by
  rw [list?]
  induction l with
  | nil => rfl
  | cons a l ih =>
    obtain ⟨ha, hl⟩ := List.forall_mem_cons.1 h
    rw [List.map_cons, List.mapM_cons, ha, ih hl]
    rfl

theorem variant?_ofString (s : String) : (ofString s).variant? = some (s, none) := by
  rw [ofString, variant?, JsonText.string?_ofString]
  rfl

theorem variant?_record (name : String) (j : Json) :
    (record [(name, j)]).variant? = some (name, some j) := by
  rw [record, List.map_singleton, variant?, JsonText.string?_ofString]
  rfl

theorem named?_ofString {name : α → String} {all : List α} {a : α}
    (h : all.find? (name · == name a) = some a) : (ofString (name a)).named? name all = some a := by
  rw [named?, variant?_ofString]
  exact h

/-! ## Well-written values -/

@[simp] theorem wellWritten_ofString (s : String) : (ofString s).WellWritten := .string _

@[simp] theorem wellWritten_bool (b : Bool) : (bool b).WellWritten := .bool b

@[simp] theorem wellWritten_integer (n : Int) : (integer n).WellWritten := .integer n

@[simp] theorem wellWritten_ofNat (n : Nat) : (ofNat n).WellWritten := .integer n

@[simp] theorem wellWritten_ofOption {x : Option α} (h : ∀ a, (write a).WellWritten) :
    (ofOption write x).WellWritten := by
  cases x with
  | none => exact .null
  | some a => exact h a

theorem wellWritten_array {l : List α} (h : ∀ a ∈ l, (write a).WellWritten) :
    (array (l.map write)).WellWritten := .array (List.forall_mem_map.2 h)

theorem wellWritten_record {members : List (String × Json)} (h : ∀ m ∈ members, m.2.WellWritten) :
    (record members).WellWritten := .object (List.forall_mem_map.2 h)

/-! ## Objects with members left out -/

/-- The value without the members of these names. -/
def without (left : List String) : Json → Json
  | object members => object (members.filter fun m => left.all fun name => m.1 ≠ .ofString name)
  | j => j

theorem WellWritten.without {j : Json} (h : j.WellWritten) (left : List String) :
    (j.without left).WellWritten := by
  cases h with
  | object h => exact .object fun m hm => h m (List.mem_filter.1 hm).1
  | array h => exact .array h
  | real h => exact .real h
  | null | bool _ | integer _ | string _ => constructor

@[simp] theorem without_nil (j : Json) : j.without [] = j := by
  cases j with
  | object members => exact congrArg object (List.filter_true members)
  | null | bool _ | integer _ | real _ | string _ | array _ => rfl

theorem without_record (left : List String) (members : List (String × Json)) :
    (record members).without left = record (members.filter fun m => !left.contains m.1) := by
  rw [record, without, record, List.filter_map]
  congr 2
  refine List.filter_congr fun m _ => Bool.eq_iff_iff.2 ?_
  simp only [Function.comp_apply, List.all_eq_true, decide_eq_true_eq, ne_eq,
    JsonText.ofString_inj, Bool.not_eq_true', List.contains_eq_mem, decide_eq_false_iff_not]
  exact ⟨fun h hm => h m.1 hm rfl, fun h name hname hm => h (hm ▸ hname)⟩

end Json

/-! ## Records -/

namespace JsonField

variable {α : Type} {read : Json → Option α} {default : α} {j : Json}

@[simp] theorem required_given : (given j).required read = read j := rfl

@[simp] theorem optional_given : (given j).optional read = j.option? read := rfl

@[simp] theorem orElse_given : (given j).orElse default read = read j := rfl

@[simp] theorem orElse_unnamed : unnamed.orElse default read = some default := rfl

/-- What an object of these members says about a field. -/
def ofMember (members : List (String × Json)) (name : String) : JsonField :=
  match members.lookup name with
  | some j => given j
  | none => unnamed

@[simp] theorem ofMember_nil (name : String) : ofMember [] name = unnamed := rfl

@[simp] theorem ofMember_cons (key name : String) (j : Json) (members : List (String × Json)) :
    ofMember ((key, j) :: members) name =
      if name = key then given j else ofMember members name := by
  rw [ofMember, List.lookup_cons]
  by_cases h : name = key
  · rw [if_pos h, beq_iff_eq.2 h]
  · rw [if_neg h, beq_eq_false_iff_ne.2 h]
    rfl

end JsonField

namespace JsonRecord

variable {names left : List String} {members : List (String × Json)} {name : String}

theorem filter_eq_lookup (h : (members.map Prod.fst).Nodup) (name : String) :
    members.filter (·.1 == name) = ((members.lookup name).map (name, ·)).toList := by
  induction members with
  | nil => rfl
  | cons m members ih =>
    obtain ⟨k, v⟩ := m
    obtain ⟨hnew, hmembers⟩ := List.nodup_cons.1 h
    by_cases hk : k = name
    · subst hk
      have hrest : members.filter (·.1 == k) = [] := by
        refine List.filter_eq_nil_iff.2 fun m hm hmk => hnew ?_
        exact List.mem_map.2 ⟨m, hm, eq_of_beq hmk⟩
      rw [List.filter_cons_of_pos (p := (·.1 == k)) (a := (k, v)) (beq_self_eq_true k), hrest,
        List.lookup_cons_self]
      rfl
    · have hne : (k == name) = false := beq_eq_false_iff_ne.2 hk
      have hne' : (name == k) = false := beq_eq_false_iff_ne.2 (Ne.symm hk)
      rw [List.filter_cons_of_neg (by simp [hne]), ih hmembers, List.lookup_cons, hne']

/-- The record that says this about each field. -/
def told (names : List String) (field : String → JsonField) : JsonRecord :=
  ⟨names.map fun name => (name, field name)⟩

theorem get_told {field : String → JsonField} (h : name ∈ names) :
    (told names field).get name = field name := by
  rw [get, told, List.lookup_graph _ h]
  rfl

/-- **A record gives each of its fields what the object says about it.** -/
theorem ofJson?_record (h : (members.map Prod.fst).Nodup) (names : List String) :
    ofJson? names (.record members) = some (told names (.ofMember members)) := by
  have hmembers : (members.map fun m => (JsonText.ofString m.1, m.2)).mapM
      (fun m => m.1.string?.map (·, m.2)) = some members := by
    clear h
    induction members with
    | nil => rfl
    | cons m members ih =>
      rw [List.map_cons, List.mapM_cons, JsonText.string?_ofString, ih]
      rfl
  have hfields : ∀ field : String → Option (String × JsonField),
      (∀ name, field name = some (name, .ofMember members name)) →
        names.mapM field = some (names.map fun name => (name, .ofMember members name)) := by
    intro field hfield
    rw [funext hfield]
    exact List.mapM_pure
  rw [Json.record, ofJson?, ofMembers?, hmembers]
  refine congrArg (Option.bind · fun fields => some (JsonRecord.mk fields))
    (hfields _ fun name => ?_)
  rw [filter_eq_lookup h, JsonField.ofMember]
  cases members.lookup name <;> rfl

theorem ofMember_filter (left : List String) (members : List (String × Json)) (name : String) :
    JsonField.ofMember (members.filter fun m => !left.contains m.1) name =
      if name ∈ left then .unnamed else .ofMember members name := by
  have hlookup : (members.filter fun m => !left.contains m.1).lookup name =
      if name ∈ left then none else members.lookup name := by
    induction members with
    | nil => exact (ite_self _).symm
    | cons m members ih =>
      obtain ⟨k, v⟩ := m
      by_cases hk : name = k
      · subst hk
        by_cases hname : name ∈ left
        · rw [List.filter_cons_of_neg (by simp [hname]), ih, if_pos hname, if_pos hname]
        · rw [List.filter_cons_of_pos (by simp [hname]), if_neg hname, List.lookup_cons_self,
            List.lookup_cons_self]
      · have hne : (name == k) = false := beq_eq_false_iff_ne.2 hk
        rw [List.filter_cons]
        split
        · rw [List.lookup_cons, List.lookup_cons, hne]
          exact ih
        · rw [List.lookup_cons, hne]
          exact ih
  rw [JsonField.ofMember, hlookup, JsonField.ofMember]
  by_cases hname : name ∈ left
  · rw [if_pos hname, if_pos hname]
  · rw [if_neg hname, if_neg hname]

/-- A record says nothing about a field that was left out, and all the same about the others. -/
theorem ofJson?_without (h : (members.map Prod.fst).Nodup) (left names : List String) :
    ofJson? names ((Json.record members).without left) =
      some (told names fun name => if name ∈ left then .unnamed else .ofMember members name) := by
  have hsub : ((members.filter fun m => !left.contains m.1).map Prod.fst).Nodup :=
    h.sublist (List.filter_sublist.map _)
  have hfield := funext (ofMember_filter left members)
  rw [Json.without_record, ofJson?_record hsub, hfield]

end JsonRecord
end FlowAtlas
