import FlowAtlas.Bytes
import FlowAtlas.Ledger.Tables

/-!
# Ledgers in memory

A `Ledger` is a value in place of a database: plain tables, on which the statements of a ledger do
what they are meant to do. Rows get numbers that are never used again, a row may depend on a row of
another table and goes with it, and the statements of a transaction are all carried out or not at
all.

A table that someone took away is an error of each operation that needs it, not of the ledger.
-/

set_option autoImplicit false

namespace FlowAtlas

/-! ## Values and rows -/

namespace Datum

/-- Whether a value is sorted before another one or beside it. Texts are sorted by their bytes. -/
def le : Datum → Datum → Bool
  | null, _ => true
  | integer _, null => false
  | integer a, integer b => a ≤ b
  | integer _, text _ => true
  | text a, text b => Bytes.ofText a ≤ Bytes.ofText b
  | text _, _ => false

end Datum

/-- Whether a column may hold a value. -/
def ColumnRule.allows : ColumnRule → Datum → Bool
  | text false, _ => true
  | _, v => v ≠ .null

/-- A row of a table in memory: its values by the names of their columns. -/
abbrev LedgerRow := List (String × Datum)

namespace LedgerRow

/-- The value of a column. -/
def get (r : LedgerRow) (column : String) : Datum := (r.lookup column).getD .null

/-- Whether a column holds a value. None is equal to a value that is missing. -/
def holds (column : String) (v : Datum) (r : LedgerRow) : Bool := v ≠ .null && r.get column = v

/-- Give a column another value. -/
def set (column : String) (v : Datum) (r : LedgerRow) : LedgerRow :=
  r.map fun (name, old) => (name, if name = column then v else old)

end LedgerRow

/-! ## Tables -/

/-- A table in memory. -/
structure RowTable where
  columns : List (String × ColumnRule)
  /-- The rows, in the order in which they were put in. -/
  rows : List LedgerRow := []
  /-- The last number given out. -/
  lastId : Int := 0
  deriving DecidableEq, Repr, Inhabited

namespace RowTable

/-- The columns that name rows of other tables, with the names of these. -/
def parents (t : RowTable) : List (String × String) :=
  t.columns.filterMap fun (column, rule) =>
    match rule with
    | .parent table => some (column, table)
    | _ => none

/-- The next row, in which some columns have given values. -/
def nextRow (t : RowTable) (given : List (String × Datum)) : LedgerRow :=
  t.columns.map fun (column, rule) =>
    (column, if rule = .key then .integer (t.lastId + 1) else (given.lookup column).getD .null)

/-- Whether the rules of the columns allow a row. -/
def allows (t : RowTable) (r : LedgerRow) : Bool :=
  t.columns.all fun (column, rule) => rule.allows (r.get column)

/-- Put in the next row. -/
def push (t : RowTable) (r : LedgerRow) : RowTable :=
  { t with rows := t.rows ++ [r], lastId := t.lastId + 1 }

/-- The rows that are left when rows of another table go: those that depend on none of them. -/
def without (t : RowTable) (table : String) (gone : List LedgerRow) : RowTable :=
  let isLeft := fun r : LedgerRow => t.parents.all fun (column, parent) =>
    parent ≠ table || !gone.any (LedgerRow.holds "id" (r.get column))
  { t with rows := t.rows.filter isLeft }

/-- The rows that a query lists. -/
def select (q : SqlQuery) (t : RowTable) : List LedgerRow :=
  let met := t.rows.filter fun r => q.condition.all fun (column, v) => r.holds column v
  let sorted := met.mergeSort fun a b =>
    if q.isDescending then Datum.le (b.get q.order) (a.get q.order)
    else Datum.le (a.get q.order) (b.get q.order)
  q.limit.elim sorted sorted.take

end RowTable

/-- Tables in memory, and the version of their layout. -/
structure Ledger where
  version : Int := 0
  tables : List (String × RowTable) := []
  /-- The number of the row that was put in last. -/
  lastRow : Int := 0
  deriving DecidableEq, Repr, Inhabited

namespace Ledger

/-- A table, if it is there. -/
def table? (l : Ledger) (name : String) : Option RowTable := l.tables.lookup name

/-- A table that must be there. -/
def table (l : Ledger) (name : String) : Except LedgerError RowTable :=
  match l.table? name with
  | some t => .ok t
  | none => .error (.missingTable name)

/-- Change the tables, each of which is given with its name. -/
def mapTables (f : String → RowTable → RowTable) (l : Ledger) : Ledger :=
  { l with tables := l.tables.map fun (name, t) => (name, f name t) }

/-! ## Statements -/

/-- A table into which rows can be put: the tables on which it depends are there. -/
def open? (l : Ledger) (name : String) : Except LedgerError RowTable := do
  let t ← l.table name
  match t.parents.find? fun (_, parent) => (l.table? parent).isNone with
  | some (_, parent) => throw (.missingTable ("main." ++ parent))
  | none => return t

/-- Whether the rows are there on which a row of a table depends. -/
def isBacked (l : Ledger) (t : RowTable) (r : LedgerRow) : Bool :=
  t.parents.all fun (column, parent) =>
    (l.table? parent).any (·.rows.any (LedgerRow.holds "id" (r.get column)))

/-- Take rows out of a table, which is told with its name, and the rows of other tables that depend
on them. -/
def remove (name : String) (t : RowTable) (isGone : LedgerRow → Bool) (l : Ledger) : Ledger :=
  l.mapTables fun other u =>
    if other = name then { u with rows := u.rows.filter (!isGone ·) }
    else u.without name (t.rows.filter isGone)

/-- Take rows out of a table that must be there. -/
def takeOut (name : String) (isGone : LedgerRow → Bool) (l : Ledger) : Except LedgerError Ledger :=
  return l.remove name (← l.table name) isGone

/-- Put the next row into a table, which is told with its name. -/
def push (name : String) (t : RowTable) (r : LedgerRow) (l : Ledger) : Ledger :=
  let l := l.mapTables fun other u => if other = name then t.push r else u
  { l with lastRow := t.lastId + 1 }

/-- Carry out a statement. -/
def perform : SqlCommand → Ledger → Except LedgerError Ledger
  | .createTable t, l =>
    .ok (if (l.table? t.name).isSome then l
      else { l with tables := l.tables ++ [(t.name, { columns := t.columns })] })
  | .createIndex x, l =>
    if (l.table? x.table).isSome then .ok l else .error (.missingTable ("main." ++ x.table))
  | .setVersion version, l => .ok { l with version }
  | .prepare x, l => do
    let _ ← l.open? x.table
    return l
  | .insert x values, l => do
    let t ← l.open? x.table
    let r := t.nextRow (x.columns.zip values)
    if !t.allows r then throw (.database .refused)
    if !l.isBacked t r then throw (.database .parentMissing)
    return l.push x.table t r
  | .delete x v, l => l.takeOut x.table (LedgerRow.holds x.column v)

/-- Carry out statements one after another, up to the first one that fails. -/
def performAll : List SqlCommand → Ledger → Option LedgerError × Ledger
  | [], l => (none, l)
  | c :: cs, l =>
    match perform c l with
    | .ok l => performAll cs l
    | .error e => (some e, l)

/-- Carry out a query. -/
def ask (q : SqlQuery) (l : Ledger) : Except LedgerError SqlAnswer := do
  let t ← l.table q.table
  return { rows := (t.select q).map fun r => q.columns.map fun c => (c, .ofDatum (r.get c)) }

/-- Work with a ledger in memory. -/
abbrev Work := EStateM LedgerError Ledger

/-- Statements that are taken back leave everything as it was, but for the number of the row that
was put in last. -/
instance : SqlEngine Work where
  carryOut script l :=
    match performAll script.commands l with
    | (none, l) => .ok () l
    | (some e, after) => .error e { l with lastRow := after.lastRow }
  ask q l :=
    match l.ask q with
    | .ok a => .ok a l
    | .error e => .error e l
  lastRow l := .ok l.lastRow l
  version l := .ok l.version l

/-! ## Operations -/

/-- What work comes to, with the ledger behind it. -/
def run {α : Type} (x : Work α) (l : Ledger) : Except LedgerError (α × Ledger) :=
  match EStateM.run x l with
  | .ok a l => .ok (a, l)
  | .error e _ => .error e

/-- Bring the ledger to the latest layout. -/
def migrate (l : Ledger) : Except LedgerError Ledger := (·.2) <$> run LedgerTables.migrate l

/-- A ledger without entries. -/
def empty : Ledger := (migrate {}).toOption.getD {}

/-- Add a load. The answer is its number. -/
def insert (r : LoadRun) (l : Ledger) : Except LedgerError (Int × Ledger) :=
  run (LedgerTables.insert r) l

/-- The loads of a process, or of all. -/
def list (process : Option String) (l : Ledger) : Except LedgerError (List StoredRun) :=
  (·.1) <$> run (LedgerTables.list process) l

/-- The number of the latest load of a process. -/
def latest (process : String) (l : Ledger) : Except LedgerError (Option Int) :=
  (·.1) <$> run (LedgerTables.latest process) l

/-- Put the totals of a load in place of any earlier ones. -/
def putTotals (id : Int) (totals : List ClusterTotals) (l : Ledger) : Except LedgerError Ledger :=
  (·.2) <$> run (LedgerTables.putTotals id totals) l

/-- The totals of a load by the name of the cluster. -/
def totalsOf (id : Int) (l : Ledger) : Except LedgerError (List ClusterTotals) :=
  (·.1) <$> run (LedgerTables.totalsOf id) l

/-! ## Changes by hand -/

/-- Take a load away, and its totals with it. -/
def deleteRun (id : Int) (l : Ledger) : Except LedgerError Ledger :=
  l.takeOut LedgerTables.runsName (LedgerRow.holds "id" (.integer id))

/-- Write the name of the outcome of a load anew. -/
def setStatus (id : Int) (status : String) (l : Ledger) : Except LedgerError Ledger := do
  let _ ← l.table LedgerTables.runsName
  let change := fun r : LedgerRow =>
    if r.holds "id" (.integer id) then r.set "status" (.text status) else r
  return l.mapTables fun name t =>
    if name = LedgerTables.runsName then { t with rows := t.rows.map change } else t

/-- Take a table away, whatever the case of its name. The rows that depend on its rows go too. -/
def dropTable (name : String) (l : Ledger) : Except LedgerError Ledger :=
  match l.takeOut name.toLower fun _ => true with
  | .ok l => .ok { l with tables := l.tables.filter (·.1 ≠ name.toLower) }
  | .error _ => .error (.missingTable name)

/-- Whether a number has a place in 32 bits with sign. -/
def isInt32 (n : Int) : Bool := -Int.pow 2 31 ≤ n && n < Int.pow 2 31

/-- Change the version of the layout, and nothing else. A number that is too large counts as 0. -/
def setVersion (version : Int) (l : Ledger) : Ledger :=
  { l with version := if isInt32 version then version else 0 }

end Ledger
end FlowAtlas
