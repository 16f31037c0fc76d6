import Std.Data.HashMap
import FlowAtlas.Text.Numeral

/-!
# Software units

A *software unit* is a named binary: a library, an executable, or a region of generated code.
Logs and cluster files name it `file-major-minor-patch`.

* `SoftwareUnit.parse` splits such a name into file and version, and `SoftwareUnit.unknown` stands
  for code that no known binary covers.
* `UnitTable` numbers units in the order of their first sight, so that the nodes of a graph can
  carry a small number in place of a name. The unknown unit always has number zero.
-/

set_option autoImplicit false

namespace FlowAtlas

/-! ## Names and versions -/

/-- A named binary, with the parts of its name. -/
structure SoftwareUnit where
  /-- The whole name, as logs and cluster files write it. -/
  name : String
  /-- The name without its version. -/
  filename : String
  /-- `major-minor-patch`, or empty when the name ends in no version. -/
  version : String
  /-- Whether the code is generated while the process runs. -/
  isDynamic : Bool
  deriving DecidableEq, Repr, Inhabited

namespace SoftwareUnit

/-- Split a text at its last hyphen: what stands before it and behind it. -/
def lastHyphen? (cs : List Char) : Option (List Char × List Char) :=
  match cs.reverse.dropWhile (· ≠ '-') with
  | [] => none
  | _ :: before => some (before.reverse, (cs.reverse.takeWhile (· ≠ '-')).reverse)

/-- The parts of a text between so many hyphens, the last one first. What is left stands behind
them, whatever it holds. -/
def splitRight : Nat → List Char → List (List Char)
  | 0, cs => [cs]
  | n + 1, cs =>
    match lastHyphen? cs with
    | none => [cs]
    | some (before, part) => part :: splitRight n before

/-- Whether a part of a name is a run of ASCII digits. -/
def isDigitRun (part : List Char) : Bool := !part.isEmpty && part.all Char.isDigit

/-- The file and version parts of a name that ends in three runs of digits and has something before
them. -/
def splitVersion? (name : List Char) : Option (List Char × List Char) :=
  match splitRight 3 name with
  | [patch, minor, major, file] =>
    if [patch, minor, major].all isDigitRun && !file.isEmpty then
      some (file, major ++ '-' :: (minor ++ '-' :: patch))
    else none
  | _ => none

/-- The unit that a name denotes. A name without a version is its own file name. -/
def parse (name : String) : SoftwareUnit :=
  match splitVersion? name.toList with
  | some (file, version) => ⟨name, String.ofList file, String.ofList version, false⟩
  | none => ⟨name, name, "", false⟩

/-- The name of the unit of all code outside every known binary. -/
def unknownName : String := "__unknown__"

/-- The unit of all code outside every known binary. It counts as generated code. -/
def unknown : SoftwareUnit := ⟨unknownName, unknownName, "", true⟩

/-- Whether this is the unknown unit. The name alone decides. -/
def isUnknown (u : SoftwareUnit) : Bool := u.name == unknownName

end SoftwareUnit

/-! ## Numbered units -/

/-- The number of a unit in a `UnitTable`, which is assumed to hold fewer than 2³² units. -/
structure UnitId where
  index : Nat
  deriving DecidableEq, Hashable, Repr, Inhabited

namespace UnitId

/-- The number of the unknown unit. -/
def unknown : UnitId := ⟨0⟩

/-- `u` and the number. -/
def text (u : UnitId) : String := "u" ++ Numeral.decimal u.index

end UnitId

/-- Units numbered by first sight, one for each name. -/
structure UnitTable where
  units : Array SoftwareUnit
  ids : Std.HashMap String UnitId
  deriving Inhabited

namespace UnitTable

/-- No unit at all, not even the unknown one. -/
def empty : UnitTable := ⟨#[], ∅⟩

/-- The number of the unit called `name`. -/
def lookup? (t : UnitTable) (name : String) : Option UnitId := t.ids[name]?

/-- The number of a unit, which is added when its name is new. The first unit of a name stays. -/
def intern (t : UnitTable) (u : SoftwareUnit) : UnitId × UnitTable :=
  match t.lookup? u.name with
  | some id => (id, t)
  | none =>
    let id : UnitId := ⟨t.units.size⟩
    (id, ⟨t.units.push u, t.ids.insert u.name id⟩)

/-- The table that holds the unknown unit only. -/
def initial : UnitTable := (empty.intern .unknown).2

/-- The unit of a number, if it was given out. -/
def get? (t : UnitTable) (id : UnitId) : Option SoftwareUnit := t.units[id.index]?

/-- The name of a unit, or its number when the table does not hold it. -/
def name (t : UnitTable) (id : UnitId) : String :=
  match t.get? id with
  | some u => u.name
  | none => id.text

/-- How many units the table holds. -/
def size (t : UnitTable) : Nat := t.units.size

/-- Each unit behind its number, in the order of the numbers. -/
def toList (t : UnitTable) : List (UnitId × SoftwareUnit) :=
  t.units.toList.mapIdx fun i u => (⟨i⟩, u)

end UnitTable
end FlowAtlas
