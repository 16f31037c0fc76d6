import FlowAtlas.Sql.Reader.Definition
import FlowAtlas.Sql.Resolve

/-!
# Reading what a database defines

The first tree of a database lists its tables, indexes, views and triggers: for each the statement
that made it and the root of its tree. `Database.schema` reads the list, one entry after another. An
index that a rule of a table asks for has no statement of its own.
-/

set_option autoImplicit false

namespace FlowAtlas
namespace Sql

open Database (Value Row)

/-! ## Entries -/

namespace SchemaEntry

/-- The text of a value up to the first NUL character, if it is one. -/
def textOf? (d : Database) (v : Value) : Option String :=
  (d.textOf? v).map fun s => String.ofList (s.toList.takeWhile (· ≠ '\x00'))

/-- The number of a page that a value tells. -/
def pageOf? (d : Database) (v : Value) : Option Nat :=
  let n := match v with
    | .integer n => if 0 ≤ n then some n.toNat else none
    | _ => (textOf? d v).bind fun s => if s.all Char.isDigit then s.toNat? else none
  n.filter (· < Nat.pow 2 32)

/-- The entry in a row. -/
def ofRow (d : Database) (r : Row) : SchemaEntry :=
  let value := fun i => r.values.getD i .null
  let text := fun i => textOf? d (value i)
  ⟨r.id, text 0, text 1, text 2, value 3 ≠ .null, pageOf? d (value 3), text 4⟩

/-- Say what is wrong with the entry. -/
def fault (e : SchemaEntry) (reason : String) : DatabaseError :=
  .malformedEntry (e.name.getD "?") reason

/-- Whether the entry has a statement. -/
def hasStatement (e : SchemaEntry) : Bool :=
  e.sql.any fun s => (s.toList.take 2).map Char.toLower = ['c', 'r']

/-- Whether the entry tells the same as its statement. -/
def isNamed (e : SchemaEntry) (kind name table : String) : Bool :=
  let isSame := fun (t : Option String) (s : String) => t.any (sameName · s)
  isSame e.kind kind && isSame e.name name && isSame e.table table

end SchemaEntry

/-! ## Reading statements -/

/-- What is known when the statement of an entry is read. -/
structure Loader where
  schema : Schema
  entry : SchemaEntry
  root : Nat
  /-- Whether entries of indexes may stand in descending order. -/
  admitsDescending : Bool

namespace Loader

variable (l : Loader)

/-- What is wrong with the name of a table or view, if anything. One that may be there already is no
fault. -/
def tableFault? (kind : String) (b : Beginning) : Option SqlError :=
  let name := b.name.unquoted
  let found := if (l.schema.view? name).isSome then "view" else "table"
  if b.schema.isSome then some .corrupt
  else if l.root = 1 || !l.entry.isNamed kind name name then some .unfit
  else if l.schema.hasTable name then
    if b.isOptional then none else some (.alreadyThere found b.name.text)
  else if l.schema.hasIndex name then some (.indexThere name)
  else none

/-- Note what is wrong, if anything. -/
def noteAny (fault : Option SqlError) : Reader Unit :=
  match fault with
  | some e => Reader.note e
  | none => pure ()

/-- Resolve a formula about the columns of a table. -/
def resolved (t : Table) (position : Position) (e : Expr) : Reader Expr :=
  let isPlain := position = .index || position = .generated
  let own := { t.inScope t.name with hasNumbers := t.hasNumbers && !isPlain }
  match e.resolvePlain { scopes := [⟨[own], [], false⟩], position, isDefinition := true } with
  | .ok e => return e
  | .error f => throw f.withoutPlace

/-- The direction of a part of an index, which counts only where that is admitted. -/
def directed (p : IndexPart) : IndexPart :=
  { p with isDescending := p.isDescending && l.admitsDescending }

/-- Read what stands behind the name of a table. -/
def table (name : String) : Reader Schema := do
  if ← Reader.word? "AS" then
    let _ ← (← Reader.grammar).select
    Reader.note .unfit
    Reader.theEnd
    return l.schema
  let (_, d) ← TableReading.body.run { name }
  Reader.theEnd
  let t := Table.ofDefinition d l.root
  let checks ← d.checks.mapM (resolved t .check)
  let columns ← d.columns.mapM fun c => do
    let formula ← c.formula.mapM fun f => do
      return { f with value := ← resolved t .generated f.value }
    return { c with formula }
  let unique := d.unique.map fun r => { r with parts := r.parts.map l.directed }
  let t := Table.ofDefinition { d with checks, columns, unique } l.root
  if l.schema.hasTable name then return l.schema
  return { l.schema with tables := l.schema.tables ++ [t] }

/-- A text that stands for a name of a column. -/
def nameOfText : Expr → Expr
  | .text s => .name { column := s }
  | .collate e c => .collate (nameOfText e) c
  | e => e

/-- The part of an index that a term makes. -/
def partOf (t : Table) (term : SortTerm) : Reader IndexPart := do
  let e ← resolved t .index (nameOfText term.key)
  let collation := match e with
    | .collate _ c => Collation.ofName c
    | .field f => f.collation.getD .binary
    | _ => .binary
  return l.directed ⟨e.core, collation, term.isDescending⟩

/-- Read what stands behind the name of an index. -/
def index (isUnique : Bool) (b : Beginning) : Reader Schema := do
  let x ← Reader.indexBody b.name.unquoted isUnique
  Reader.theEnd
  if b.schema.isSome then throw .corrupt
  match x.terms.findSome? (·.nullsFirst) with
  | some isFirst => throw (.unsupportedNulls (if isFirst then "FIRST" else "LAST"))
  | none => pure ()
  if (l.schema.view? x.table).isSome then throw .viewIndex
  match l.schema.table? x.table with
  | none => throw (.noTable ("main." ++ x.table))
  | some t =>
    if !l.entry.isNamed "index" x.name t.name then throw .unfit
    if l.schema.hasIndex x.name then
      if b.isOptional then return l.schema else throw (.alreadyThere "index" x.name)
    let filter ← x.filter.mapM (resolved t .partialIndex)
    let parts ← x.terms.mapM (l.partOf t)
    let resolution := if isUnique then some Resolution.abort else none
    return l.schema.modifyTable t.name (·.addIndex
      { name := x.name, root := l.root, parts := IndexPart.extend parts t.rowParts
        size := parts.length, isUnique, resolution, filter })

/-- The parameters in a formula or query are nothing in a definition. -/
def isParameter : Token → Bool := fun t => t.kind = .parameter

/-- Refuse a definition that names tables in another database. -/
def onlyHere (kind name : String) : Reader Unit := do
  match (← get).databases.find? (!sameName · "main") with
  | some database => throw (.otherDatabase kind name database)
  | none => pure ()

/-- Read what stands behind the name of a view. -/
def view (b : Beginning) : Reader Schema := do
  let tokens := (← get).tokens
  let name := b.name.unquoted
  let v ← Reader.viewBody name
  Reader.theEnd
  if tokens.any isParameter then throw .parametersInView
  match l.tableFault? "view" b with
  | some e => throw e
  | none => pure ()
  onlyHere "view" b.name.text
  if l.schema.hasTable name then return l.schema
  return { l.schema with views := l.schema.views ++ [v] }

/-- What is wrong with a trigger, if anything. -/
def triggerFault? (b : Beginning) (t : TriggerDefinition) : Option SqlError :=
  let isView := (l.schema.view? t.table).isSome
  let time := if t.time = .before then "BEFORE" else "AFTER"
  if b.schema.isSome then some .corrupt
  else if !isView && (l.schema.anyTable? t.table).isNone then some (.noTable ("main." ++ t.table))
  else if !l.entry.isNamed "trigger" t.name t.table then some .unfit
  else if l.schema.triggers.any (sameName ·.name t.name) then
    if b.isOptional then none else some (.alreadyThere "trigger" b.name.text)
  else if t.table.toLower.startsWith "sqlite_" then some .systemTrigger
  else if isView && t.time ≠ .insteadOf then some (.viewTrigger time t.table)
  else if !isView && t.time = .insteadOf then some (.tableTrigger t.table)
  else none

/-- Read what stands behind the name of a trigger. -/
def trigger (b : Beginning) : Reader Schema := do
  let head ← Reader.triggerHead b.name.unquoted
  noteAny (l.triggerFault? b head)
  Reader.word "BEGIN"
  let body ← Reader.triggerBody
  Reader.theEnd
  onlyHere "trigger" head.name
  if l.schema.triggers.any (sameName ·.name head.name) then return l.schema
  return { l.schema with triggers := { head with body } :: l.schema.triggers }

/-- Read what stands behind the name of a table that is kept elsewhere. -/
def foreign (name : String) : Reader Schema := do
  Reader.word "USING"
  let module ← Reader.name
  let rest := (← get).tokens.dropWhile fun t => !t.isSign ";"
  modify ({ · with tokens := rest })
  Reader.theEnd
  return { l.schema with foreign := l.schema.foreign ++ [(name, module)] }

/-- Read the statement of an entry. -/
def statement : Reader Schema := do
  let b ← Reader.beginning
  let name := b.name.unquoted
  match b.making with
  | .table =>
    noteAny (l.tableFault? "table" b)
    l.table name
  | .virtual =>
    noteAny (l.tableFault? "table" b)
    l.foreign name
  | .index isUnique => l.index isUnique b
  | .view => l.view b
  | .trigger => l.trigger b

end Loader

/-! ## The list -/

namespace Schema

/-- Take an entry with a statement into account. -/
def addStatement (s : Schema) (admitsDescending : Bool) (e : SchemaEntry) (sql : String)
    (root : Nat) : Database.Attempt Schema :=
  let l : Loader := { schema := s, entry := e, root, admitsDescending }
  match l.statement.run { tokens := Token.ofText sql } with
  | .ok (s, _) => .ok s
  | .error f => .error (e.fault f.message)

/-- Give an index without a statement its root. -/
def addRuleIndex (s : Schema) (e : SchemaEntry) (name : String) (count : Nat) :
    Database.Attempt Schema := do
  match s.tableOfIndex? name, e.root with
  | none, _ => throw (e.fault "orphan index")
  | some t, some root =>
    let isTaken := t.indexes.any fun x => x.root = root && !sameName x.name name
    if root < 2 || count < root || isTaken then throw (e.fault "invalid rootpage")
    return s.modifyTable t.name fun t => { t with
      indexes := t.indexes.map fun x => if sameName x.name name then { x with root } else x }
  | some _, none => throw (e.fault "invalid rootpage")

/-- Take an entry into account, in a database of so many pages. -/
def add (count : Nat) (admitsDescending : Bool) (s : Schema) (e : SchemaEntry) :
    Database.Attempt Schema := do
  let s := { s with entries := s.entries ++ [e] }
  let sql := e.sql.getD ""
  if !e.hasRoot then throw (e.fault "")
  else if e.hasStatement then
    match e.root with
    | none => throw (e.fault "invalid rootpage")
    | some root =>
      if count < root then throw (e.fault "invalid rootpage")
      else s.addStatement admitsDescending e sql root
  else
    match e.name with
    | none => throw (e.fault "")
    | some name => if sql ≠ "" then throw (e.fault "") else s.addRuleIndex e name count

end Schema

/-- The latest form of the list. -/
def latestSchemaForm : Nat := 4

/-- Read what a database defines. -/
def schemaOf (d : Database) : Database.Attempt Schema := do
  if d.count = 0 then return {}
  let form := d.header .schemaForm % 256
  if latestSchemaForm < form then throw .unsupportedForm
  let read := d.rows 1
  let entries := read.items.map (SchemaEntry.ofRow d)
  let s ← entries.foldlM (Schema.add d.count (form = latestSchemaForm)) {}
  match read.fault with
  | some e => throw e
  | none => return s

end Sql
end FlowAtlas
