import FlowAtlas.Sql.Schema

/-!
# Costs

A `Weight` tells a cost, or a number of rows, by its logarithm: ten stands for twice as much. What is
told of a table hangs on its columns alone, since nothing is known of its rows.
-/

set_option autoImplicit false

namespace FlowAtlas
namespace Sql

/-- A cost, or a number of rows, by ten times its logarithm of base two. -/
abbrev Weight := Int

namespace Weight

/-- The weight of numbers from 8 to 15, beyond that of 8. -/
def fractions : List Int := [0, 2, 3, 5, 6, 7, 8, 9]

/-- The weight of a number. -/
def ofNat (n : Nat) : Weight :=
  if n < 2 then 0
  else
    let log := Nat.log2 n
    let eighths := if 3 ≤ log then n / Nat.pow 2 (log - 3) else n * Nat.pow 2 (3 - log)
    10 * log + fractions.getD (eighths % 8) 0

/-- How much heavier two weights together are than the heavier one, by how far they are apart. -/
def bonuses : List Int := [10, 10, 9, 9, 8, 8, 7, 7, 7, 6, 6, 6, 5, 5, 5, 4, 4, 4, 4, 3, 3, 3, 3, 3,
  3, 2, 2, 2, 2, 2, 2, 2]

/-- The weight of two things together. -/
def add (a b : Weight) : Weight :=
  let high := max a b
  let apart := (high - min a b).toNat
  if 49 < apart then high else if 31 < apart then high + 1 else high + bonuses.getD apart 2

/-- The weight of the logarithm of a number. -/
def log (a : Weight) : Weight := if a ≤ 10 then 0 else ofNat a.toNat - 33

end Weight

/-! ## Tables -/

/-- The weight of the rows of a table, of which nothing is known. -/
def tableWeight : Weight := 200

/-- The first number in a text. -/
def firstNumber? (cs : List Char) : Option Nat :=
  let digits := (cs.dropWhile fun c => !c.isDigit).takeWhile Char.isDigit
  if digits.isEmpty then none else (String.ofList digits).toNat?

/-- How many words the values of a type fill, as far as its name tells. -/
def Column.width (c : Column) : Nat :=
  let type := c.type.toLower
  if ["any", "int", "integer", "real", ""].contains type then 1
  else if type = "text" || type = "blob" then 5
  else
    match c.affinity with
    | .text | .blob =>
      if Affinity.holds type "char" || Affinity.holds type "blob(" then
        min 255 ((firstNumber? type.toList).getD 0 / 4 + 1)
      else 5
    | _ => 1

namespace Table

/-- The weight of a row of the table. -/
def rowWidth (t : Table) : Weight :=
  let own := if t.definition.numberColumn.isNone then 1 else 0
  .ofNat (4 * ((t.columns.map Column.width).foldl (· + ·) 0 + own))

/-- The weight of an entry of an index. -/
def entryWidth (t : Table) (x : Index) : Weight :=
  let width := fun p : IndexPart =>
    match p.value.column? with
    | some (some i) => (t.column i).width
    | _ => 1
  .ofNat (4 * (x.parts.map width).foldl (· + ·) 0)

end Table

/-! ## Indexes -/

/-- The weight of the rows of an index that have its first values in common, where nothing is left
over of what makes a row the only one. -/
def indexSteps : List Int := [33, 32, 30, 28, 27]

/-- The weight of the rows of an index that have its first values in common. -/
def Index.weight (x : Index) (values : Nat) : Weight :=
  let first := if x.filter.isSome then tableWeight - 10 else tableWeight
  if values = 0 then first
  else if x.size < values || x.isUnique && values = x.size then 0
  else indexSteps.getD (values - 1) 23

end Sql
end FlowAtlas
