import FlowAtlas.Sql.Making

/-!
# Dropping tables

A table goes with its indexes and triggers, and with what other tables tell of it. If rows of other
tables depend on its rows, those go first, one after another.
-/

set_option autoImplicit false

namespace FlowAtlas
namespace Sql

open Database (Edit)
open Execution (edit database ofExcept fail)

namespace Schema

/-- The names of the tables that tell how many rows others have. -/
def countNames : List String := (List.range 4).map fun i => "sqlite_stat" ++ Numeral.decimal (i + 1)

/-- Whether a table may not be dropped, by its name. -/
def isFixed (name : String) : Bool :=
  let name := name.toLower
  name.startsWith "sqlite_" && !name.startsWith "sqlite_stat"

/-- The table of a name, which may be dropped. -/
def droppable (s : Schema) (name : String) : Except SqlError Table :=
  match s.view? name, s.foreign? name, s.anyTable? name with
  | some v, _, _ => .error (.viewDropped v.name)
  | none, some module, _ => .error (.noModule module)
  | none, none, some t => if isFixed t.name then .error (.notDroppable t.name) else .ok t
  | none, none, none => .error (.noTable name)

end Schema

/-- Take rows out of a table in which a column tells the name of another one. -/
def forget (table column name : String) : Execution Unit :=
  let isOwn : Expr := .binary .equal (.name { column }) (.text name)
  runBody (triggerLimit + 1) { isInTrigger := true } [.delete table (some isOwn)]

namespace Table

variable (t : Table)

/-- Take out the rows of a table that goes, if rows of any table depend on them. All rows of other
tables must be left with the rows that they depend on. -/
def abandon : Execution Unit := do
  let s := (← read).schema
  let x : Target := { name := t.name, columns := t.scopeColumns, table := some t }
  if (s.childrenOf t.name).isEmpty then return
  let counted ← ofExcept (s.checkActions t x)
  readCounters counted
  t.deleteAll (runBody (triggerLimit + 1)) {} x true none
  keepCounters
  if 0 < (← get).missing then fail .parentMissing

/-- Take the table, its indexes and its triggers out of the list. -/
def unlist : Execution Unit := do
  let s := (← read).schema
  let isTrigger := fun e : SchemaEntry => e.kind = some "trigger"
  for tr in s.triggersOf t.name do
    for e in s.entries do
      if isTrigger e && e.name = some tr.name then edit (Edit.removeRow 1 e.row)
  if t.definition.isCounted then forget sequenceName "name" t.name
  for e in s.entries do
    if e.table = some t.name && e.kind.isSome && !isTrigger e then edit (Edit.removeRow 1 e.row)

end Table

/-- Let the list tell of another root where it tells of one. -/
def renameRoot (old new : Nat) : Edit Unit := do
  let read := (← get).rows 1
  match read.fault with
  | some e => throw e
  | none => pure ()
  for r in read.items do
    if r.values.getD 3 .null = .integer old then
      let values := (List.range 5).map fun i => r.values.getD i .null
      Edit.putRow 1 ⟨r.id, Database.Record.encode (values.set 3 (.integer new))⟩

/-- Drop a table. -/
def dropTable (name : String) : Execution Unit := do
  let s := (← read).schema
  let t ← ofExcept (s.droppable name)
  Execution.start
  let before := (← database).header .schemaChanges
  for other in Schema.countNames do
    if s.hasTable other then forget other "tbl" t.name
  t.abandon
  t.unlist
  let roots := (t.root :: t.indexes.map (·.root)).filter (· ≠ 0)
  for root in (roots.mergeSort (· ≥ ·)).eraseDups do
    match ← edit (Edit.uproot root) with
    | some moved => edit (renameRoot moved root)
    | none => pure ()
  edit (changeList before)

end Sql
end FlowAtlas
