import FlowAtlas.Sql.Eval
import FlowAtlas.Sql.Found

/-!
# Rows of tables

What is stored of a row, and what a row is to those who use it: a value for each column, where some
come from formulas and those that are not stored are the ones that stand for missing values. An
index has an entry for each row, or for some.
-/

set_option autoImplicit false

namespace FlowAtlas
namespace Sql

open Database (Value Encoding Row)

/-- A setting without queries. -/
def plainSetting (e : Encoding) (rows : List JoinedRow) : Setting :=
  { encoding := e, rows, query := fun _ _ => .failed .misusedRow }

/-! ## Missing values -/

/-- A number as a text, or of an affinity. -/
def literalOf (e : Encoding) (a : Affinity) (isNegative : Bool) (t : String) : Value :=
  let v := numberValue isNegative t
  let isShort := match v with
    | .integer _ => true
    | _ => false
  if isShort || a = .blob then a.apply e v
  else a.apply e (Texts.ofString e ((if isNegative then "-" else "") ++ t))

/-- What stands for a value that is not stored, by the formula for the value where none is given.
Only plain values count. -/
def missingValue (e : Encoding) (a : Affinity) : Expr → Value
  | .number t => literalOf e a false t
  | .unary .positive x => missingValue e a x
  | .unary .negative (.number t) => literalOf e a true t
  | .unary .negative x => a.apply e (negate e (missingValue e a x))
  | .cast x type =>
    let own := Affinity.ofType type
    a.apply e (own.cast e (missingValue e own x))
  | .text s => a.apply e (Texts.ofString e s)
  | .blob bs => .blob bs
  | .truth b => a.apply e (ofTruth b)
  | _ => .null

/-! ## Columns with formulas -/

/-- The columns that a formula uses. -/
def Expr.columns (e : Expr) : List Nat :=
  e.collect (fun
    | .field f => f.column.toList
    | _ => []) fun _ => []

namespace Table

variable (t : Table) (e : Encoding)

/-- Find the values of columns with formulas, each as soon as those that it depends on are known. -/
def completeFrom (id : Value) : (fuel : Nat) → List (Option Value) →
    Except SqlError (List (Option Value))
  | 0, known => return known
  | fuel + 1, known => do
    let row : SourceRow := ⟨id, known.map (·.getD .null)⟩
    let next ← (t.columns.zip known).mapM fun (c, v) =>
      match c.formula, v with
      | some f, none =>
        if f.value.columns.all fun i => (known.getD i (some .null)).isSome then do
          return some (c.affinity.apply e (← f.value.eval (plainSetting e [[row]])))
        else return none
      | _, v => return v
    completeFrom id fuel next

/-- A row with the values of its columns, where those of columns with formulas may not be known. -/
def complete (id : Value) (known : List (Option Value)) : Except SqlError SourceRow := do
  let known ← t.completeFrom e id (known.filter (·.isNone)).length known
  match (t.columns.zip known).find? fun (_, v) => v.isNone with
  | some (c, _) => throw (.formulaLoop c.name)
  | none => return ⟨id, known.map (·.getD .null)⟩

/-! ## Stored rows -/

/-- The columns in the order in which their values are stored. -/
def storedColumns : List Nat :=
  match t.key? with
  | some x => x.parts.filterMap fun p => p.value.column?.bind id
  | none => (List.range t.columns.length).filter fun i => (t.column i).isKept

/-- The row of a number and what is stored of it. -/
def rowOf (id : Value) (stored : List Value) : Except SqlError SourceRow :=
  let places := t.storedColumns
  let known := t.columns.zipIdx.map fun (c, i) =>
    if t.definition.numberColumn = some i then some id
    else
      match places.findIdx? (· = i) with
      | none => none
      | some place =>
        let v := stored[place]?.getD (c.default.elim .null (missingValue e c.affinity))
        some (c.affinity.read v)
  t.complete e id known

/-- What is stored of a row. -/
def stored (r : SourceRow) : List Value :=
  t.storedColumns.map fun i =>
    if t.definition.numberColumn = some i then .null
    else (t.column i).affinity.stored (r.values.getD i .null)

/-- The rows of the table, in order. -/
def scan (d : Database) : Found SourceRow :=
  if t.hasNumbers then
    (Found.ofReading (d.rows t.root)).mapE fun r => t.rowOf d.encoding (.integer r.id) r.values
  else
    let read := d.entries false t.root
    (Found.ofReading (Database.rowsOf read.fault read.items)).mapE fun r =>
      t.rowOf d.encoding .null r.values

/-! ## Indexes -/

/-- The value of a part of an index for a row, as it is stored. -/
def partValue (r : SourceRow) (p : IndexPart) : Except SqlError Value := do
  let v ← p.value.eval (plainSetting e [[r]])
  match p.value.column? with
  | some (some i) => return (t.column i).affinity.stored v
  | _ => return v

/-- Whether an index has an entry for a row. -/
def isIn (x : Index) (r : SourceRow) : Except SqlError Bool :=
  match x.filter with
  | none => return true
  | some f => f.isTrue (plainSetting e [[r]])

/-- The entry of an index for a row. -/
def entryOf (x : Index) (r : SourceRow) : Except SqlError (List Value) :=
  x.parts.mapM (t.partValue e r)

/-- What an entry of an index tells of its row. -/
def rowOfEntry (x : Index) (entry : List Value) : SourceRow :=
  let valueOf := fun column : Option Nat =>
    ((x.parts.zip entry).find? fun (p, _) => p.value.column? = some column).map (·.2)
  let id := (valueOf none).getD .null
  let values := t.columns.zipIdx.map fun (c, i) =>
    if t.definition.numberColumn = some i then id
    else c.affinity.read ((valueOf (some i)).getD .null)
  ⟨id, values⟩

end Table

namespace Index

/-- How two entries stand to each other in so many parts. -/
def compareParts (e : Encoding) : List IndexPart → List Value → List Value → Ordering
  | p :: ps, x :: xs, y :: ys =>
    let o := p.collation.compare e x y
    (if p.isDescending then o.swap else o).then (compareParts e ps xs ys)
  | _, _, _ => .eq

/-- How two entries of an index stand to each other. Those of a table go by the key alone. -/
def compare (x : Index) (e : Encoding) : List Value → List Value → Ordering :=
  compareParts e (if x.isTable then x.parts.take x.size else x.parts)

/-- The entries of an index, in order. -/
def scan (x : Index) (d : Database) : Found (List Value) :=
  let read := d.entries false x.root
  (Found.ofReading (Database.rowsOf read.fault read.items)).mapE fun r => return r.values

end Index
end Sql
end FlowAtlas
