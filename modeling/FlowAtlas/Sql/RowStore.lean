import FlowAtlas.Sql.Progress

/-!
# Rows in trees

Finding a row of a table by what tells it from the others, putting rows in and taking them out. The
indexes of the table have entries for its rows.
-/

set_option autoImplicit false

namespace FlowAtlas
namespace Sql

open Database (Value Encoding Edit Row)
open Execution (edit database encoding ofExcept fail)

/-! ## Finding -/

/-- The entry of an index that starts with some values, if there is one. -/
def Index.find? (x : Index) (values : List Value) : Execution (Option (List Value)) := do
  let e ← encoding
  let standing := fun found => Index.compareParts e (x.parts.take values.length) found values
  edit do
    let place ← Edit.seek (.entry standing) false Database.maxDepth x.root []
    if !place.isFound then return none
    let p := place.node.page
    match Database.Record.decode? (← (← get).contentAt p (p.placeOf place.index)) with
    | some entry => return some entry
    | none => throw .malformed

namespace Table

variable (t : Table)

/-- What tells a row from the others: the values of the key, or the number. -/
def rowKey (r : SourceRow) : Execution (List Value) := do
  ofExcept (t.rowParts.mapM (t.partValue (← encoding) r))

/-- The stored row of a number. -/
def storedRow? (n : Int) : Edit (Option Row) := do
  let place ← Edit.seek (.row n) true Database.maxDepth t.root []
  if !place.isFound then return none
  match Row.ofEntry? (← (← get).entryOf place.node.page place.index) with
  | some r => return some r
  | none => throw .malformed

/-- The row that is told by a key. -/
def fetch? (key : List Value) : Execution (Option SourceRow) := do
  let e ← encoding
  match t.key?, key with
  | some x, _ =>
    match ← x.find? key with
    | none => return none
    | some entry => some <$> ofExcept (t.rowOf e .null entry)
  | none, [.integer n] =>
    match ← edit (t.storedRow? n) with
    | none => return none
    | some r => some <$> ofExcept (t.rowOf e (.integer n) r.values)
  | none, _ => return none

/-- All rows of the table. -/
def allRows : Execution (List SourceRow) := do ofExcept (t.scan (← database)).all

/-! ## Changing -/

/-- The entry of an index for a row, if it has one. -/
def entry? (x : Index) (r : SourceRow) : Execution (Option (List Value)) := do
  let e ← encoding
  if ← ofExcept (isIn e x r) then some <$> ofExcept (t.entryOf e x r) else return none

/-- Put a row in, with its entries in some indexes. -/
def put (isChanged : Index → Bool) (r : SourceRow) : Execution Unit := do
  let e ← encoding
  for x in t.indexes do
    if x.isTable then edit (Edit.putEntry x.root (x.compare e) (t.stored r))
    else if isChanged x then
      match ← t.entry? x r with
      | some entry => edit (Edit.putEntry x.root (x.compare e) entry)
      | none => pure ()
  match r.id with
  | .integer n => edit (Edit.putRow t.root ⟨n, Database.Record.encode (t.stored r)⟩)
  | _ => pure ()

/-- Take the entries of a row out of some indexes. -/
def removeEntries (isChanged : Index → Bool) (r : SourceRow) : Execution Unit := do
  let e ← encoding
  for x in t.indexes do
    if !x.isTable && isChanged x then
      match ← t.entry? x r with
      | some entry => edit (Edit.removeEntry x.root (x.compare e) entry)
      | none => pure ()

/-- Take a row out, with its entries in some indexes. -/
def remove (isChanged : Index → Bool) (r : SourceRow) : Execution Unit := do
  t.removeEntries isChanged r
  match t.key?, r.id with
  | some x, _ => edit (Edit.removeEntry x.root (x.compare (← encoding)) (t.stored r))
  | none, .integer n => edit (Edit.removeRow t.root n)
  | none, _ => pure ()

/-- Take all rows out at once. -/
def clear : Execution Unit := do
  if t.hasNumbers then edit (Edit.clear t.root)
  for x in t.indexes do
    edit (Edit.clear x.root)

end Table

/-! ## Numbers -/

/-- The greatest number of a row. -/
def maxRow : Int := Int.pow 2 63 - 1

/-- The number of a row that a value tells. -/
def rowNumber? (e : Encoding) (v : Value) : Option Int :=
  match Affinity.apply e .numeric v with
  | .integer n => some n
  | _ => none

/-- The number of a row that a value must tell. -/
def rowNumber (v : Value) : Execution Int := do
  match rowNumber? (← encoding) v with
  | some n => return n
  | none => fail .mismatch

/-- The table of the last numbers of tables. -/
def sequenceName : String := "sqlite_sequence"

/-- The table of the last numbers of tables, which must be fit for that. -/
def Schema.sequence (s : Schema) : Except SqlError Table :=
  match s.table? sequenceName with
  | some t =>
    if t.hasNumbers && t.columns.length = 2 then .ok t else .error (.database .malformed)
  | none => .error (.database .malformed)

/-- The number behind that of the last row of a tree. -/
def nextIn (root : Nat) : Edit Int := do
  let place ← Edit.seekLast Database.maxDepth root []
  return if place.isFound then (place.node.page.cell place.index).row + 1 else 1

namespace Table

variable (t : Table)

/-- The number of the last row, as it is kept. -/
def readCounter : Execution Counter := do
  let sequence ← ofExcept (← read).schema.sequence
  let e ← encoding
  let name := Texts.ofString e t.name
  let rows ← sequence.allRows
  match rows.find? fun r => r.values.headD .null = name with
  | none => return ⟨t.name, none, 0, 0⟩
  | some r =>
    let last := wholeOf e (r.values.getD 1 .null)
    return ⟨t.name, match r.id with | .integer n => some n | _ => none, last, last⟩

/-- The number of the last row of a table whose numbers are never used again. -/
def counter : Execution Counter := do
  return ((← get).counters.find? (·.table = t.name)).getD ⟨t.name, none, 0, 0⟩

/-- Take note of the number of a row. -/
def count (n : Int) : Execution Unit := do
  if t.definition.isCounted then
    modify fun p => { p with counters := p.counters.map fun c =>
      if c.table = t.name then { c with last := max c.last n } else c }

/-- The number for a new row. -/
def nextNumber : Execution Int := do
  let next ← edit (nextIn t.root)
  if maxRow < next then fail (.database .noRoom)
  if !t.definition.isCounted then return next
  let c ← t.counter
  if c.last = maxRow then fail (.database .noRoom)
  return max next (c.last + 1)

end Table

/-- Keep the numbers of the last rows. -/
def keepCounters : Execution Unit := do
  for c in (← get).counters do
    if c.row.isNone || c.first < c.last then
      let sequence ← ofExcept (← read).schema.sequence
      let d ← database
      edit do
        let row ← match c.row with
          | some n => pure n
          | none => nextIn sequence.root
        Edit.putRow sequence.root ⟨row, Database.Record.encode [d.textValue c.table, .integer c.last]⟩

end Sql
end FlowAtlas
