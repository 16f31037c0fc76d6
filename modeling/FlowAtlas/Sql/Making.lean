import FlowAtlas.Sql.Statement

/-!
# Making tables and indexes

A table or index gets a tree and an entry in the list of what a database defines. An index that is
made for a table with rows gets an entry for each of them.
-/

set_option autoImplicit false

namespace FlowAtlas
namespace Sql

open Database (Value Edit)
open Execution (edit database encoding ofExcept fail)

/-! ## The list -/

/-- The values of an entry of the list. -/
def entryValues (d : Database) (kind name table : String) (root : Nat) (sql : String) :
    List Value :=
  [d.textValue kind, d.textValue name, d.textValue table, .integer root, d.textValue sql]

/-- Change the list. All changes of a statement count as one, behind so many before. -/
def changeList (before : Nat) : Edit Unit :=
  Edit.setHeader .schemaChanges ((before + 1) % Nat.pow 2 32)

/-- Put the form of the list and the encoding of texts into the header of a database without
tables. -/
def fixForm : Edit Unit := do
  let d ← get
  if d.header .schemaForm = 0 then
    Edit.setHeader .schemaForm latestSchemaForm
    Edit.setHeader .encoding (max 1 (d.header .encoding % 4))

/-! ## Tables -/

/-- Make a table. Its place in the list is taken before its entry is written. -/
def makeTable (name sql : String) : Edit Unit := do
  fixForm
  let root ← Edit.plant .tableLeaf
  let row ← nextIn 1
  Edit.putRow 1 ⟨row, Database.Record.encode (List.replicate 5 .null)⟩
  Edit.putRow 1 ⟨row, Database.Record.encode (entryValues (← get) "table" name name root sql)⟩

/-- The statement that makes the table of the last numbers of tables. -/
def sequenceStatement : String := "CREATE TABLE " ++ sequenceName ++ "(name,seq)"

/-- The definition of the table that a statement makes. -/
def TableDefinition.ofText (sql : String) : Except SqlError TableDefinition :=
  Reader.whole (do
    let name := (← Reader.beginning).name.unquoted
    return (← TableReading.body.run { name }).2) sql

/-- Make a table unless there is one, and with it the table of the last numbers of tables if it
needs one. -/
def ensureTable (sql : String) : Execution Unit := do
  let t ← ofExcept (TableDefinition.ofText sql)
  let s := (← read).schema
  if s.hasTable t.name then return
  if s.hasIndex t.name then fail (.indexThere t.name)
  Execution.start
  let before := (← database).header .schemaChanges
  edit (makeTable t.name sql)
  if t.isCounted && (s.table? sequenceName).isNone then
    edit (makeTable sequenceName sequenceStatement)
  edit (changeList before)

/-! ## Indexes -/

/-- The definition of the index that a statement makes. -/
def IndexDefinition.ofText (sql : String) : Except SqlError IndexDefinition :=
  Reader.whole (do
    let b ← Reader.beginning
    Reader.indexBody b.name.unquoted (b.making = .index true)) sql

/-- The table on which an index may be made. -/
def Schema.indexable (s : Schema) (name : String) : Except SqlError Table :=
  if (s.view? name).isSome then .error .viewIndex
  else if (s.foreign? name).isSome then .error .foreignIndex
  else
    match s.table? name with
    | some t => .ok t
    | none => .error (.noTable ("main." ++ name))

/-- Put an entry for each row of a table into an index. -/
def fillIndex (t : Table) (x : Index) : Execution Unit := do
  let e ← encoding
  let entries ← (← t.allRows).filterMapM (t.entry? x)
  for values in entries.mergeSort fun a b => x.compare e a b ≠ .gt do
    edit (Edit.pushEntry x.root values)

/-- Make an index unless there is one of its name. The list keeps a statement for it without what
does not matter there. -/
def ensureIndex (sql kept : String) : Execution Unit := do
  let x ← ofExcept (IndexDefinition.ofText sql)
  let s := (← read).schema
  let t ← ofExcept (s.indexable x.table)
  if s.hasTable x.name then fail (.tableThere x.name)
  if s.hasIndex x.name then return
  let context : ChangeContext := { schema := s }
  for term in x.terms do
    let _ ← ofExcept (context.formula [t.inScope t.name] term.key)
  Execution.start
  let before := (← database).header .schemaChanges
  edit do
    let root ← Edit.plant .indexLeaf
    let row ← nextIn 1
    Edit.putRow 1 ⟨row, Database.Record.encode (entryValues (← get) "index" x.name t.name root kept)⟩
  match schemaOf (← database) with
  | .error e => fail (.database e)
  | .ok s =>
    for t in s.tables do
      for y in t.indexes do
        if sameName y.name x.name then fillIndex t y
  edit (changeList before)

end Sql
end FlowAtlas
