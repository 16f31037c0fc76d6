import FlowAtlas.Sql.Expr

/-!
# What statements define

Tables, indexes, views and triggers, as the statements that make them tell. The rules of a table are
formulas over the columns of one row. The body of a trigger is a row of `Change`s and queries.
-/

set_option autoImplicit false

namespace FlowAtlas
namespace Sql

/-! ## Rules between tables -/

/-- What becomes of rows when the row goes that they belong to. -/
inductive ParentAction
  /-- The change is forbidden if it leaves them alone in the end. -/
  | none
  /-- The change is forbidden at once. -/
  | restrict
  | setNull
  | setDefault
  | cascade
  deriving DecidableEq, Repr, Inhabited

/-- A rule that the values of some columns must stand in a row of another table. -/
structure ParentRule where
  columns : List Nat
  table : String
  /-- The columns of the other table, or its key. -/
  parentColumns : Option (List String)
  onDelete : ParentAction := .none
  onUpdate : ParentAction := .none
  /-- Whether the rule may be broken until all changes are complete. -/
  isDeferred : Bool := false
  deriving DecidableEq, Repr, Inhabited

/-! ## Tables -/

/-- A formula that gives the values of a column. -/
structure Formula where
  value : Expr
  /-- Whether the values are kept in the table. -/
  isStored : Bool
  deriving Repr, Inhabited

/-- A column of a table. -/
structure Column where
  name : String
  type : String := ""
  affinity : Affinity := .blob
  collation : Collation := .binary
  /-- What becomes of a row without a value, if a value is required. -/
  required : Option Resolution := none
  /-- The value where none is given. -/
  default : Option Expr := none
  /-- That value as it is written. -/
  defaultText : String := ""
  formula : Option Formula := none
  isInKey : Bool := false
  deriving Repr, Inhabited

namespace Column

/-- Types that are told in capital letters, however they were written. -/
def plainTypes : List String := ["ANY", "BLOB", "INT", "INTEGER", "REAL", "TEXT"]

/-- The type of the column as it is told. -/
def toldType (c : Column) : String := (plainTypes.find? (· = c.type.toUpper)).getD c.type

/-- Whether the values of the column stand in the rows. -/
def isKept (c : Column) : Bool := c.formula.all (·.isStored)

end Column

/-- A part of the entries of an index. -/
structure IndexPart where
  /-- The formula, over the columns of the table. -/
  value : Expr
  collation : Collation
  isDescending : Bool := false
  deriving Repr, Inhabited

/-- A rule that no two rows may have the same values. -/
structure UniqueRule where
  parts : List IndexPart
  resolution : Option Resolution
  isKey : Bool
  deriving Repr, Inhabited

/-- A table, as its statement tells. -/
structure TableDefinition where
  name : String
  columns : List Column := []
  /-- Whether a key was named. -/
  hasKey : Bool := false
  /-- The column that is the number of the row, if one is. -/
  numberColumn : Option Nat := none
  numberResolution : Option Resolution := none
  /-- Whether the number column is the key in descending order. -/
  isNumberDescending : Bool := false
  /-- Whether numbers of rows are never used again. -/
  isCounted : Bool := false
  unique : List UniqueRule := []
  checks : List Expr := []
  parents : List ParentRule := []
  /-- Whether rows go by the key instead of a number. -/
  isKeyed : Bool := false
  /-- Whether values must be of the types of their columns. -/
  isStrict : Bool := false
  deriving Repr, Inhabited

namespace TableDefinition

/-- The number of a column. -/
def column? (t : TableDefinition) (name : String) : Option Nat :=
  t.columns.findIdx? (·.name.toLower = name.toLower)

/-- The columns that a change may name: all but those with formulas. -/
def givenColumns (t : TableDefinition) : List Nat :=
  (List.range t.columns.length).filter fun i => (t.columns.getD i default).formula.isNone

end TableDefinition

/-! ## Indexes and views -/

/-- An index, as its statement tells. -/
structure IndexDefinition where
  name : String
  table : String
  terms : List SortTerm
  isUnique : Bool
  /-- The rows that have entries, if not all. -/
  filter : Option Expr
  deriving Repr, Inhabited

/-- A view, as its statement tells. -/
structure ViewDefinition where
  name : String
  columns : Option (List String)
  query : Select
  deriving Repr, Inhabited

/-! ## Changes -/

/-- What is done about a new row that clashes with others. -/
structure Upsert where
  /-- The columns in which it must clash, if they are named. -/
  target : Option (List SortTerm)
  targetFilter : Option Expr
  /-- The new values of the row that is there, or none to leave it. -/
  changes : Option (List (List String × Expr))
  filter : Option Expr
  deriving Repr, Inhabited

/-- A change of the rows of a table, or a query. -/
inductive Change
  | insert (resolution : Option Resolution) (table : String) (columns : Option (List String))
      (rows : Select) (upserts : List Upsert)
  | update (resolution : Option Resolution) (table : String)
      (changes : List (List String × Expr)) (sources : List Source) (filter : Option Expr)
  | delete (table : String) (filter : Option Expr)
  | select (query : Select)
  deriving Repr, Inhabited

/-! ## Triggers -/

/-- When a trigger acts. -/
inductive TriggerTime
  | before
  | after
  | insteadOf
  deriving DecidableEq, Repr, Inhabited

/-- What a trigger waits for. -/
inductive TriggerEvent
  | insert
  | delete
  /-- A change of one of some columns, or of any. -/
  | update (columns : Option (List String))
  deriving DecidableEq, Repr, Inhabited

/-- A trigger, as its statement tells. -/
structure TriggerDefinition where
  name : String
  table : String
  time : TriggerTime
  event : TriggerEvent
  condition : Option Expr
  body : List Change
  deriving Repr, Inhabited

end Sql
end FlowAtlas
