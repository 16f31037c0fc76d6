import FlowAtlas.Database.Text
import FlowAtlas.Ledger.Basic
import FlowAtlas.Sql.Dropping

/-!
# Statements of a ledger on a database

A ledger that is kept in a file has its tables in a database. `LedgerPages` carries out the
statements of the ledger there. A database may hold other tables beside these, and a table of one of
their names may be of another make: then each statement fails as far as it has to.
-/

set_option autoImplicit false

namespace FlowAtlas
namespace LedgerPages

open Sql
open Database (Value Edit unsigned)

/-! ## Faults -/

/-- What may fail on a database is a failure of the ledger. -/
def ofDatabase {α : Type} : Database.Attempt α → Except LedgerError α
  | .ok a => .ok a
  | .error e => .error (.database e)

/-- What may fail in a statement is a failure of the ledger. -/
def ofStatement {α : Type} (text : String) : Except SqlError α → Except LedgerError α
  | .ok a => .ok a
  | .error e => .error (.statement e text)

/-! ## Values -/

/-- A value as the database keeps it. -/
def valueOf (d : Database) : Datum → Value
  | .null => .null
  | .integer n => .integer n
  | .text s => d.textValue s

/-- A value as a statement tells it. -/
def seen (d : Database) : Value → SeenValue
  | .null => .null
  | .integer n => .integer n
  | .real _ => .other "Real"
  | .blob _ => .other "Blob"
  | .text bs =>
    let bs := d.encoding.decode bs
    match Bytes.text? bs, Text.firstFault? 0 bs with
    | some s, _ => .text s
    | none, fault => .malformed (fault.getD default)

/-! ## Statements -/

/-- Change the version of the layout, and nothing else. -/
def putVersion (version : Int) : Execution Unit := do
  Execution.start
  Execution.edit (Edit.setHeader .userVersion (unsigned 4 version))

/-- A statement of the ledger as one of the database. -/
def statement (d : Database) : SqlCommand → Statement
  | .createTable t => { text := t.statement, change := ensureTable t.statement }
  | .createIndex x => { text := x.statement, change := ensureIndex x.statement x.kept }
  | .setVersion version => { text := "", change := putVersion version }
  | .prepare x => .preparing x.statement
  | .insert x values => .ofText x.statement (values.map (valueOf d))
  | .delete x v => .ofText x.statement [valueOf d v]

/-- Carry out statements. -/
def carryOut (script : SqlScript) (tally : Tally) (d : Database) : Outcome :=
  Sql.carryOut d tally script.isAlone (script.commands.map (statement d))

/-- Carry out a query. -/
def ask (query : SqlQuery) (tally : Tally) (d : Database) : Except LedgerError SqlAnswer := do
  let text := query.statement
  let parameters := (query.condition.map fun (_, v) => valueOf d v).toList
  let schema ← ofDatabase (schemaOf d)
  let select := Reader.whole (do (← Reader.grammar).select) text
  let q ← ofStatement text (select.bind fun q => q.resolve { schema } [])
  let found := q.query.run { database := d, schema, parameters, tally } []
  return {
    rows := found.items.map fun values => (q.columns.map (·.name)).zip (values.map (seen d))
    fault := found.fault.map (.statement · text) }

/-! ## Changes by hand -/

/-- Take a table away. -/
def dropTable (name : String) (tally : Tally) (d : Database) : Outcome :=
  Sql.carryOut d tally true [{ text := "DROP TABLE " ++ name, change := Sql.dropTable name }]

/-- Change the version of the layout, and nothing else. One that is too large counts as 0. -/
def setVersion (version : Int) (tally : Tally) (d : Database) : Outcome :=
  let version := if Ledger.isInt32 version then version else 0
  match d.change (Edit.setHeader .userVersion (unsigned 4 version)) with
  | .ok (_, database) => { database, tally }
  | .error e => { database := d, fault := some ⟨.database e, ""⟩, tally }

end LedgerPages
end FlowAtlas
