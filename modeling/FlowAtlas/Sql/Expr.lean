import FlowAtlas.Bytes

/-!
# Formulas and queries

An `Expr` is a formula, which has a value in each row, and a `Select` is a query, which has rows.
Each may hold the other. A formula as it is written names columns (`Expr.name`); before it is used,
each name is replaced by the place of its column (`Expr.field`).
-/

set_option autoImplicit false

namespace FlowAtlas
namespace Sql

/-! ## Types and order -/

/-- How a column changes values that are put into it. -/
inductive Affinity
  | blob
  | text
  | numeric
  | integer
  | real
  deriving DecidableEq, Repr, Inhabited

namespace Affinity

/-- Whether a text holds another one. -/
def holds (s part : String) : Bool := 1 < (s.splitOn part).length

/-- The affinity of a type, by the words in its name. -/
def ofType (type : String) : Affinity :=
  let t := type.toLower
  if holds t "int" then integer
  else if holds t "char" || holds t "clob" || holds t "text" then text
  else if holds t "blob" || t = "" then blob
  else if holds t "real" || holds t "floa" || holds t "doub" then real
  else numeric

/-- Whether texts that are numbers become numbers. -/
def isNumeric : Affinity → Bool
  | numeric | integer | real => true
  | _ => false

end Affinity

/-- When two texts are the same, and which comes first. -/
inductive Collation
  /-- Byte by byte. -/
  | binary
  /-- Without regard to the case of Latin letters. -/
  | caseless
  /-- Without regard to blanks at the end. -/
  | trimmed
  /-- A rule of a name that is not known. -/
  | unknown (name : String)
  deriving DecidableEq, Repr, Inhabited

/-- The collation of a name. -/
def Collation.ofName (name : String) : Collation :=
  let n := name.toLower
  if n = "binary" then binary
  else if n = "nocase" then caseless
  else if n = "rtrim" then trimmed
  else unknown name

/-- What becomes of a change that a rule forbids. -/
inductive Resolution
  /-- All changes since the work began are taken back. -/
  | rollback
  /-- The change is taken back. -/
  | abort
  /-- What is changed already stays so. -/
  | fail
  /-- The row is left out. -/
  | ignore
  /-- Other rows make way. -/
  | replace
  deriving DecidableEq, Repr, Inhabited

/-! ## Formulas -/

/-- A name of a column as it is written. -/
structure Name where
  schema : Option String := none
  table : Option String := none
  column : String
  /-- Whether the name of the column stands in double quotation marks. -/
  isQuoted : Bool := false
  /-- How many bytes of the statement stand before the name. -/
  place : Nat := 0
  deriving DecidableEq, Repr, Inhabited

/-- The place of a column. -/
structure Field where
  /-- How many queries further out the column belongs to. -/
  level : Nat := 0
  /-- The number of the table among those of the query. -/
  source : Nat := 0
  /-- The number of the column, or none for the number of the row. -/
  column : Option Nat
  affinity : Option Affinity := none
  /-- How its texts are compared, which does not matter for the number of the row. -/
  collation : Option Collation := none
  /-- The column that has its values as parts of documents, if they may be documents. -/
  part : Option Nat := none
  deriving DecidableEq, Repr, Inhabited

/-- An operation on one value. -/
inductive UnaryOp
  | negative
  | positive
  | complement
  | not
  | isNull
  | isNotNull
  deriving DecidableEq, Repr, Inhabited

/-- An operation on two values. -/
inductive BinaryOp
  | or
  | and
  | equal
  | notEqual
  | is
  | isNot
  | less
  | atMost
  | greater
  | atLeast
  | bitAnd
  | bitOr
  | shiftLeft
  | shiftRight
  | plus
  | minus
  | times
  | divide
  | remainder
  | concat
  /-- The part of a document at a path, as a document or as a value. -/
  | extract (isValue : Bool)
  deriving DecidableEq, Repr, Inhabited

/-- Whether an operation compares. -/
def BinaryOp.isComparison : BinaryOp → Bool
  | equal | notEqual | is | isNot | less | atMost | greater | atLeast => true
  | _ => false

/-- How a table is joined to those before it. -/
structure Join where
  isNatural : Bool := false
  /-- Whether rows before it stay that have no partner. -/
  keepsLeft : Bool := false
  /-- Whether its own rows stay that have no partner. -/
  keepsRight : Bool := false
  /-- Whether the tables before it come first in any case. -/
  isOrdered : Bool := false
  deriving DecidableEq, Repr, Inhabited

/-- Which indexes may find the rows of a table. -/
inductive IndexUse
  | any
  | none
  /-- One of some name, and not the table itself. -/
  | only (index : String)
  deriving DecidableEq, Repr, Inhabited

/-- How the rows of two queries are put together. -/
inductive CompoundOp
  | union
  | unionAll
  | intersect
  | except
  deriving DecidableEq, Repr, Inhabited

/-- How far a frame of rows reaches is told in rows, in values or in groups of rows that stand equally
in their order. -/
inductive FrameUnit
  | rows
  | range
  | groups
  deriving DecidableEq, Repr, Inhabited

/-- What is left out of a frame of rows around a row. -/
inductive Exclusion
  | nothing
  | row
  /-- All rows that stand equally in the order. -/
  | group
  /-- All other rows that stand equally in the order. -/
  | ties
  deriving DecidableEq, Repr, Inhabited

mutual

/-- A formula. -/
inductive Expr
  | null
  /-- A number as it is written. -/
  | number (text : String)
  | text (s : String)
  | blob (bytes : Bytes)
  | truth (b : Bool)
  /-- The day, the time or both. -/
  | moment (word : String)
  /-- A value that is given later. -/
  | parameter (text : String)
  | name (n : Name)
  | field (f : Field)
  | unary (op : UnaryOp) (a : Expr)
  | binary (op : BinaryOp) (a b : Expr)
  | between (a low high : Expr)
  | collate (a : Expr) (collation : String)
  | cast (a : Expr) (type : String)
  /-- A function of values. -/
  | call (function : String) (args : List Expr)
  /-- A function of all rows of a group in some order, of each value once if it is distinct. -/
  | total (function : String) (isDistinct : Bool) (args : List Expr) (order : List SortTerm)
    (filter : Option Expr)
  /-- A function of the rows around each row. -/
  | windowed (function : String) (args : List Expr) (filter : Option Expr) (window : Window)
  | cases (operand : Option Expr) (branches : List (Expr × Expr)) (otherwise : Option Expr)
  /-- Several values. -/
  | row (parts : List Expr)
  | among (a : Expr) (values : List Expr)
  | within (a : Expr) (query : Select)
  | exists (query : Select)
  | scalar (query : Select)
  /-- Give up, or leave the row out. -/
  | raise (resolution : Resolution) (message : String)
  deriving BEq, Repr, Inhabited

/-- Where a frame of rows begins or ends. -/
inductive FrameBound
  | unbounded
  | before (distance : Expr)
  | current
  | behind (distance : Expr)
  deriving BEq, Repr, Inhabited

/-- Which rows around a row belong to it. -/
structure WindowFrame where
  unit : FrameUnit
  first : FrameBound
  last : FrameBound
  /-- What is left out, if that is told. -/
  exclusion : Option Exclusion
  deriving BEq, Repr, Inhabited

/-- How the rows of a query are divided into parts and ordered within each. -/
structure Window where
  /-- The window of which this one takes over what is told there. -/
  base : Option String
  /-- Whether it is that window itself. -/
  isBase : Bool
  parts : List Expr
  order : List SortTerm
  /-- The frame, if it is told. -/
  frame : Option WindowFrame
  deriving BEq, Repr, Inhabited

/-- A part of what stands before the tables of a query. -/
inductive ResultColumn
  /-- All columns, of one table if it is named. -/
  | all (table : Option String)
  /-- A formula with the name that is given to it, and as it is written. -/
  | value (e : Expr) (asName : Option String) (spelling : String)
  deriving BEq, Repr, Inhabited

/-- Where rows come from. -/
inductive Origin
  | table (schema : Option String) (name : String)
  | query (q : Select)
  /-- A function with a table as its value. -/
  | function (name : String) (args : List Expr)
  /-- A query of which each row makes other rows by the second query. Rows may be told apart, so that
  none is made twice. -/
  | recursion (first next : Select) (isDistinct : Bool)
  /-- The row that makes other rows. -/
  | latest
  deriving BEq, Repr, Inhabited

/-- A table of a query. -/
structure Source where
  origin : Origin
  asName : Option String
  join : Join
  condition : Option Expr
  /-- Columns that must be the same as those of the tables before. -/
  shared : Option (List String)
  use : IndexUse
  deriving BEq, Repr, Inhabited

/-- One of the queries whose rows are put together. -/
structure Core where
  isDistinct : Bool
  columns : List ResultColumn
  sources : List Source
  filter : Option Expr
  groups : List Expr
  having : Option Expr
  /-- Windows that are given names. -/
  windows : List (String × Window)
  deriving BEq, Repr, Inhabited

/-- A part of what rows are sorted by. -/
structure SortTerm where
  key : Expr
  isDescending : Bool
  /-- Whether rows without a value come first, if that is said. -/
  nullsFirst : Option Bool
  deriving BEq, Repr, Inhabited

/-- A query. -/
structure Select where
  named : List NamedQuery
  first : Core
  rest : List (CompoundOp × Core)
  order : List SortTerm
  limit : Option Expr
  offset : Option Expr
  deriving BEq, Repr, Inhabited

/-- A query that a query gives a name to. -/
structure NamedQuery where
  name : String
  columns : List String
  query : Select
  deriving BEq, Repr, Inhabited

end

end Sql
end FlowAtlas
