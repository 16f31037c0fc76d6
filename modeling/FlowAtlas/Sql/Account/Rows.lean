import FlowAtlas.Sql.Resolve

/-!
# Rows about a database

`AccountTable.rows` tells the rows of a table about a database, and `TableFunction.rows` those of any
function with a table as its value.
-/

set_option autoImplicit false

namespace FlowAtlas
namespace Sql

open Database (Value Encoding)

/-- The name of a collation. -/
def Collation.told : Collation → String
  | binary => "BINARY"
  | caseless => "NOCASE"
  | trimmed => "RTRIM"
  | unknown name => name

/-- The name of what becomes of rows when the row goes that they belong to. -/
def ParentAction.told : ParentAction → String
  | none => "NO ACTION"
  | restrict => "RESTRICT"
  | setNull => "SET NULL"
  | setDefault => "SET DEFAULT"
  | cascade => "CASCADE"

namespace AccountTable

/-- A number or nothing, for what is so or not. -/
def flag (b : Bool) : Value := .integer (if b then 1 else 0)

/-- The number of a thing among others. -/
def number (i : Nat) : Value := .integer i

variable (e : Encoding)

/-- The place of a column among those of the key, from one on, or zero. -/
def keyPlace (t : Table) (i : Nat) : Nat :=
  if !(t.column i).isInKey then 0
  else
    match t.indexes.find? (·.isKey) with
    | none => 1
    | some x => x.parts.findIdx (fun p => p.value.column? = some (some i)) + 1

/-- What is told of a column of a table. -/
def columnRow (isFull : Bool) (t : Table) (i place : Nat) : List Value :=
  let c := t.column i
  let isRequired := c.required.isSome || t.definition.isKeyed && c.isInKey
  let default := if c.default.isSome then Texts.ofString e c.defaultText else .null
  let hidden := c.formula.elim 0 fun f => if f.isStored then 3 else 2
  [number place, Texts.ofString e c.name, Texts.ofString e c.toldType, flag isRequired, default,
    number (keyPlace t i)] ++ if isFull then [number hidden] else []

/-- What is told of the columns of a table. -/
def columnRows (isFull : Bool) (t : Table) : List (List Value) :=
  let shown := (List.range t.columns.length).filter fun i =>
    isFull || (t.column i).formula.isNone
  shown.zipIdx.map fun (i, place) => columnRow e isFull t i place

/-- The columns of a view, whose query must have a meaning. -/
def viewColumns (s : Schema) (v : ViewDefinition) : Except SqlError (List ScopeColumn) := do
  let all := Grammar.allRows (.table none v.name)
  return (← Select.resolve { schema := s, isDefinition := true } [] all).columns

/-- What is told of the columns of a view. -/
def viewRows (isFull : Bool) (columns : List ScopeColumn) : List (List Value) :=
  columns.zipIdx.map fun (c, i) =>
    [number i, Texts.ofString e c.name, Texts.ofString e c.type, number 0, .null, number 0] ++
      if isFull then [number 0] else []

/-- What is told of all tables, the last one first, each with its own name. -/
def tableRows (s : Schema) : List (String × List Value) :=
  let told := fun name database shown kind width isKeyed isStrict =>
    (name, [Texts.ofString e database, Texts.ofString e shown, Texts.ofString e kind,
      number width, flag isKeyed, flag isStrict])
  let row := fun name kind width isKeyed isStrict =>
    told name "main" name kind width isKeyed isStrict
  let own := s.entries.filterMap fun entry => do
    let name ← entry.name
    match s.table? name, s.view? name with
    | some t, _ =>
      if entry.kind ≠ some "table" then none
      return row t.name "table" t.columns.length t.definition.isKeyed t.definition.isStrict
    | none, some v =>
      if entry.kind ≠ some "view" then none
      return row v.name "view" ((viewColumns s v).toOption.getD []).length false false
    | none, none => none
  own.reverse ++ [told "sqlite_master" "main" "sqlite_schema" "table" 5 false false,
    told "sqlite_temp_master" "temp" "sqlite_temp_schema" "table" 5 false false]

/-- What is told of the indexes of a table. -/
def indexRows (t : Table) : List (List Value) :=
  t.indexes.zipIdx.map fun (x, i) =>
    let origin :=
      if x.isKey then "pk" else if x.name.startsWith "sqlite_autoindex_" then "u" else "c"
    [number i, Texts.ofString e x.name, flag x.isUnique, Texts.ofString e origin,
      flag x.filter.isSome]

/-- What is told of the parts of an index. -/
def partRows (isFull : Bool) (t : Table) (x : Index) : List (List Value) :=
  let parts := if isFull then x.parts else x.parts.take x.size
  parts.zipIdx.map fun (p, i) =>
    let (place, name) : Int × Value :=
      match p.value.column? with
      | some (some c) => (c, Texts.ofString e (t.column c).name)
      | some none => (-1, .null)
      | none => (-2, .null)
    [number i, .integer place, name] ++
      if isFull then
        [flag p.isDescending, Texts.ofString e p.collation.told, flag (decide (i < x.size))]
      else []

/-- What is told of the rules of a table about rows of other tables, the last one first. -/
def parentRows (t : Table) : List (List Value) :=
  t.definition.parents.reverse.zipIdx.flatMap fun (p, i) =>
    p.columns.zipIdx.map fun (c, j) =>
      let other := (p.parentColumns.bind (·[j]?)).elim Value.null (Texts.ofString e)
      [number i, number j, Texts.ofString e p.table, Texts.ofString e (t.column c).name, other,
        Texts.ofString e p.onUpdate.told, Texts.ofString e p.onDelete.told,
        Texts.ofString e "NONE"]

/-- The table of a database that is named first, if there is one. -/
def named? (s : Schema) (name : Option String) : Option Table := name.bind s.anyTable?

/-- The index of a name, or that which is the tree of the table of a name, with its table. -/
def index? (s : Schema) (name : String) : Option (Table × Index) :=
  match s.tableOfIndex? name with
  | some t => (t.indexes.find? (sameName ·.name name)).map (t, ·)
  | none => do
    let t ← s.anyTable? name
    return (t, ← t.key?)

/-- The rows of the table, about what is named first. -/
def rowsAbout (d : Database) (s : Schema) (name : Option String) :
    AccountTable → Except SqlError (List (List Value))
  | columns isFull =>
    match named? s name, name.bind s.view? with
    | some t, _ => return columnRows e isFull t
    | none, some v => return viewRows e isFull (← viewColumns s v)
    | none, none => return []
  | tables =>
    let found := (tableRows e s).filter fun (own, _) => name.all (sameName own)
    return found.map (·.2)
  | indexes => return (named? s name).elim [] (indexRows e)
  | indexParts isFull => return (name.bind (index? s)).elim [] fun (t, x) => partRows e isFull t x
  | parents => return (named? s name).elim [] (parentRows e)
  | collations =>
    return [Collation.trimmed, .caseless, .binary].zipIdx.map fun (c, i) =>
      [number i, Texts.ofString e c.told]
  | trait t => return [[t.value d]]

/-- The rows of the table, for the name of what they are about and that of a database, if they are
given. -/
def rows (d : Database) (s : Schema) (t : AccountTable) (args : List Value) :
    Except SqlError (List (List Value)) := do
  let e := d.encoding
  let given := t.givenColumns.zipIdx.map fun (column, i) =>
    let v := args.getD i Value.null
    (column, if v = Value.null then none else some (Texts.string e v))
  let find := fun column : String => (given.find? (·.1 = column)).bind (·.2)
  let isHere ← match find "schema" with
    | some n =>
      if !(["main", "temp"].any (sameName n)) then throw (.noDatabase n)
      pure (sameName n "main")
    | none => pure true
  let behind := given.map fun (_, text) => text.elim Value.null (Texts.ofString e)
  if !isHere then return []
  return (← t.rowsAbout e d s (find "arg")).map (· ++ behind)

end AccountTable

/-- The rows of a function, for what it is given. -/
def TableFunction.rows (d : Database) (s : Schema) (args : List Value) :
    TableFunction → Except SqlError (List (List Value))
  | document t => t.rows d.encoding args
  | account t => t.rows d s args

end Sql
end FlowAtlas
