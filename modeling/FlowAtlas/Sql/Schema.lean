import FlowAtlas.Database.Tree
import FlowAtlas.Sql.Definition
import FlowAtlas.Text.Numeral

/-!
# What a database defines

A `Schema` holds the tables, indexes, views and triggers of a database. The formulas of its tables
and indexes tell columns by their places; those of views and triggers are still as they are written,
since what they name may be made later.
-/

set_option autoImplicit false

namespace FlowAtlas
namespace Sql

/-- Whether two names are the same but for the case of letters. -/
def sameName (s t : String) : Bool := s.toLower = t.toLower

/-! ## Indexes -/

/-- An index of a table. -/
structure Index where
  name : String
  /-- The root of its tree, or 0 if that is not told. -/
  root : Nat := 0
  /-- What stands in its entries: what it is about, and then what tells the row. -/
  parts : List IndexPart
  /-- How many parts it is about. -/
  size : Nat
  isUnique : Bool
  resolution : Option Resolution := none
  /-- Whether it is the tree of a table whose rows go by the key. -/
  isTable : Bool := false
  /-- Whether it is about the key of the table. -/
  isKey : Bool := false
  /-- The rows that have entries, if not all. -/
  filter : Option Expr := none
  deriving Repr, Inhabited

/-- The column that a formula is, if it is one. -/
def Expr.column? : Expr → Option (Option Nat)
  | .field f => some f.column
  | _ => none

/-- The part of an index that tells the row by its number. -/
def IndexPart.number : IndexPart := ⟨.field { column := none, affinity := some .integer }, .binary, false⟩

/-- The part of an index for a column. -/
def IndexPart.ofColumn (c : Column) (i : Nat) : IndexPart :=
  ⟨.field { column := some i, affinity := c.affinity, collation := some c.collation }, c.collation, false⟩

/-- Whether two parts are of the same column, compared in the same way. -/
def IndexPart.isSame (p q : IndexPart) : Bool :=
  p.value.column?.isSome && p.value.column? = q.value.column? && p.collation = q.collation

/-- Parts with those behind them that are not the same as any of them. -/
def IndexPart.extend (ps qs : List IndexPart) : List IndexPart :=
  qs.foldl (fun ps q => if ps.any (·.isSame q) then ps else ps ++ [q]) ps

/-! ## Tables -/

/-- A table. -/
structure Table where
  root : Nat
  definition : TableDefinition
  /-- The indexes, the last one first, but those that make other rows go come behind the others. -/
  indexes : List Index := []
  deriving Repr, Inhabited

namespace Table

/-- The name of the table. -/
def name (t : Table) : String := t.definition.name

/-- The columns of the table. -/
def columns (t : Table) : List Column := t.definition.columns

/-- A column of the table. -/
def column (t : Table) (i : Nat) : Column := t.columns.getD i default

/-- Whether rows of the table have numbers. -/
def hasNumbers (t : Table) : Bool := !t.definition.isKeyed

/-- The index that is the tree of the table, if rows go by the key. -/
def key? (t : Table) : Option Index := t.indexes.find? (·.isTable)

/-- Put an index with the others. -/
def addIndex (t : Table) (x : Index) : Table :=
  let all := x :: t.indexes
  let makesWay := fun x : Index => x.resolution = some .replace
  { t with indexes := all.filter (!makesWay ·) ++ all.filter makesWay }

/-- The parts that tell a row of the table: the columns of its key, or its number. -/
def rowParts (t : Table) : List IndexPart :=
  match t.key? with
  | none => [.number]
  | some x => x.parts.take x.size

/-- The name of the index for a rule of the table. -/
def ruleIndexName (table : String) (i : Nat) : String :=
  "sqlite_autoindex_" ++ table ++ "_" ++ Numeral.decimal (i + 1)

/-- The index that is the tree of the table: the columns of the key, and then all others that are
kept. -/
def keyIndex (d : TableDefinition) (root : Nat) (r : UniqueRule) (name : String) : Index :=
  let key := IndexPart.extend [] r.parts
  let isIn := fun i => key.any fun p => p.value.column? = some (some i)
  let others := d.columns.zipIdx.filter fun (c, i) => c.isKept && !isIn i
  { name, root, parts := key ++ others.map fun (c, i) => .ofColumn c i, size := key.length
    isUnique := true, resolution := r.resolution, isTable := true, isKey := true }

/-- The table of a definition, with the indexes that its rules ask for. Where these go by the key
behind their own columns, they go up. -/
def ofDefinition (d : TableDefinition) (root : Nat) : Table :=
  let isTree := fun r : UniqueRule => d.isKeyed && r.isKey
  let key := d.unique.find? isTree
  let tail := match key with
    | none => [.number]
    | some r => (IndexPart.extend [] r.parts).map fun p => { p with isDescending := false }
  let index := fun (r : UniqueRule) (i : Nat) =>
    let name := ruleIndexName d.name i
    if isTree r then keyIndex d root r name
    else
      { name, parts := IndexPart.extend r.parts tail, size := r.parts.length, isUnique := true
        resolution := r.resolution, isKey := r.isKey : Index }
  d.unique.zipIdx.foldl (fun t (r, i) => t.addIndex (index r i)) { root, definition := d }

end Table

/-! ## The schema -/

/-- An entry of the list of things that a database defines. -/
structure SchemaEntry where
  row : Int
  kind : Option String
  name : Option String
  table : Option String
  /-- Whether anything stands where the root is told. -/
  hasRoot : Bool
  root : Option Nat
  sql : Option String
  deriving DecidableEq, Repr, Inhabited

/-- What a database defines. -/
structure Schema where
  tables : List Table := []
  views : List ViewDefinition := []
  /-- Tables that are kept elsewhere, with what keeps them. -/
  foreign : List (String × String) := []
  /-- The triggers, the last one first. -/
  triggers : List TriggerDefinition := []
  entries : List SchemaEntry := []
  deriving Repr, Inhabited

namespace Schema

variable (s : Schema)

/-- A table by its name. -/
def table? (name : String) : Option Table := s.tables.find? (sameName ·.name name)

/-- A view by its name. -/
def view? (name : String) : Option ViewDefinition := s.views.find? (sameName ·.name name)

/-- What keeps a table that is kept elsewhere. -/
def foreign? (name : String) : Option String :=
  (s.foreign.find? fun (n, _) => sameName n name).map (·.2)

/-- Whether a name is one of something that can be read like a table. -/
def hasTable (name : String) : Bool :=
  (s.table? name).isSome || (s.view? name).isSome || (s.foreign? name).isSome

/-- The table that has an index of a name. -/
def tableOfIndex? (name : String) : Option Table :=
  s.tables.find? fun t => t.indexes.any (sameName ·.name name)

/-- Whether there is an index of a name. -/
def hasIndex (name : String) : Bool := (s.tableOfIndex? name).isSome

/-- The names of the list itself. -/
def listNames : List String := ["sqlite_master", "sqlite_schema"]

/-- The list itself, as a table. -/
def listTable : Table :=
  let column := fun name => ({ name, type := "TEXT", affinity := .text } : Column)
  { root := 1
    definition := { name := "sqlite_master", columns := [column "type", column "name",
      column "tbl_name", { name := "rootpage", type := "INT", affinity := .integer },
      column "sql"] } }

/-- A table by its name, where the list is one too. -/
def anyTable? (name : String) : Option Table :=
  if listNames.contains name.toLower then some listTable else s.table? name

/-- Change a table. -/
def modifyTable (name : String) (f : Table → Table) : Schema :=
  { s with tables := s.tables.map fun t => if sameName t.name name then f t else t }

/-- The triggers of a table or view, the last one first. -/
def triggersOf (name : String) : List TriggerDefinition := s.triggers.filter (sameName ·.table name)

/-- The rules of all tables about rows of a table, the last one first. -/
def childrenOf (name : String) : List (Table × ParentRule) :=
  (s.tables.flatMap fun t =>
    (t.definition.parents.filter (sameName ·.table name)).map (t, ·)).reverse

end Schema
end Sql
end FlowAtlas
