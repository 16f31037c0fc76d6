import FlowAtlas.Json.Basic

/-!
# Reading stored records

A stored record is an object with a member for each of its fields; members of other names are passed
over, and no field may be named twice. An array of the fields in order does as well. A field may be
required, it may be one that holds a value or none, or it may have a default.
-/

set_option autoImplicit false

namespace FlowAtlas

/-! ## Single values -/

namespace Json

/-- A text. -/
def string? : Json → Option String
  | string t => t.string?
  | _ => none

/-- A truth value. -/
def bool? : Json → Option Bool
  | bool b => some b
  | _ => none

/-- A whole number in a range that includes its first and not its last number. -/
def intIn? (first last : Int) : Json → Option Int
  | integer n => if first ≤ n ∧ n < last then some n else none
  | _ => none

/-- A natural number of at most so many bits. -/
def nat? (bits : Nat) (j : Json) : Option Nat := (j.intIn? 0 (Int.pow 2 bits)).map Int.toNat

/-- A 64-bit word. -/
def word? (j : Json) : Option UInt64 := (j.nat? 64).map UInt64.ofNat

/-- A byte. -/
def byte? (j : Json) : Option UInt8 := (j.nat? 8).map UInt8.ofNat

/-- A value that may be missing. -/
def option? {α : Type} (read : Json → Option α) : Json → Option (Option α)
  | null => some none
  | j => (read j).map some

/-- A list of values. -/
def list? {α : Type} (read : Json → Option α) : Json → Option (List α)
  | array items => items.mapM read
  | _ => none

/-- The name of a variant and what it carries: a text carries nothing, an object of one member the
member's value. -/
def variant? : Json → Option (String × Option Json)
  | string t => t.string?.map (·, none)
  | object [(k, v)] => k.string?.map (·, some v)
  | _ => none

/-- Whether a variant carries nothing, or null. -/
def isBare : Option Json → Bool
  | none => true
  | some null => true
  | _ => false

/-- One of the values of a list, known by its name. -/
def named? {α : Type} (name : α → String) (all : List α) (j : Json) : Option α := do
  let (s, carried) ← j.variant?
  if isBare carried then all.find? (name · == s) else none

end Json

/-! ## Records -/

/-- What a record says about a field. -/
inductive JsonField
  | given (value : Json)
  /-- No member has the name of the field. -/
  | unnamed
  /-- The array ends before the field. -/
  | cut

namespace JsonField

variable {α : Type}

/-- A field that must be there. -/
def required (read : Json → Option α) : JsonField → Option α
  | given j => read j
  | _ => none

/-- A field without a value may be left out of an object, though not of an array. -/
def optional (read : Json → Option α) : JsonField → Option (Option α)
  | given j => j.option? read
  | unnamed => some none
  | cut => none

/-- A field that has a default. -/
def orElse (default : α) (read : Json → Option α) : JsonField → Option α
  | given j => read j
  | _ => some default

end JsonField

/-- The fields of a stored record by name. -/
structure JsonRecord where
  fields : List (String × JsonField)

namespace JsonRecord

/-- The fields that an object gives, of which none may be named twice. -/
def ofMembers? (names : List String) (members : List (JsonText × Json)) : Option JsonRecord := do
  let members ← members.mapM fun m => m.1.string?.map (·, m.2)
  let fields ← names.mapM fun name =>
    match members.filter (·.1 == name) with
    | [] => some (name, .unnamed)
    | [m] => some (name, .given m.2)
    | _ => none
  return ⟨fields⟩

/-- The fields that values in order give. -/
def ofItems : (names : List String) → (items : List Json) → List (String × JsonField)
  | [], _ => []
  | name :: names, [] => (name, .cut) :: ofItems names []
  | name :: names, j :: items => (name, .given j) :: ofItems names items

/-- The record of a value whose fields have these names. -/
def ofJson? (names : List String) : Json → Option JsonRecord
  | .object members => ofMembers? names members
  | .array items => if names.length < items.length then none else some ⟨ofItems names items⟩
  | _ => none

/-- What the record says about a field. -/
def get (r : JsonRecord) (name : String) : JsonField := (r.fields.lookup name).getD .cut

end JsonRecord
end FlowAtlas
