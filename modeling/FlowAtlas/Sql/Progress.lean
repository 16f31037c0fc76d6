import FlowAtlas.Database.Change
import FlowAtlas.Database.Commit
import FlowAtlas.Sql.Select

/-!
# Statements under way

A statement that changes a database is an `Execution`. It has the database as it is so far, and
counts the rows that lack a row that they depend on. What it fails with tells what becomes of the
changes before.
-/

set_option autoImplicit false

namespace FlowAtlas
namespace Sql

open Database (Value Encoding Edit)

/-! ## Progress -/

/-- The number of the last row of a table whose numbers are never used again. -/
structure Counter where
  table : String
  /-- The row in which the number is kept, if there is one. -/
  row : Option Int
  /-- The number when the statement began. -/
  first : Int
  last : Int
  deriving DecidableEq, Repr, Inhabited

/-- How far a statement is. -/
structure Progress where
  database : Database
  /-- Whether the change of the database has begun. -/
  isBegun : Bool := false
  tally : Tally := {}
  /-- How many rows the statement has changed. -/
  changed : Int := 0
  /-- How many rows lack a row that they must have when the statement is complete. -/
  missing : Int := 0
  /-- How many rows lack a row that they must have when all changes are complete. -/
  postponed : Int := 0
  counters : List Counter := []
  deriving Inhabited

/-- What a statement is about. -/
structure Task where
  schema : Schema
  parameters : List Value := []

/-- Why a statement goes no further. -/
inductive Halt
  | failed (e : SqlError) (resolution : Resolution)
  /-- The row that is under way is left out. -/
  | ignored
  deriving Repr

/-- What is meant by the failure of a formula. -/
def Halt.ofError : SqlError → Halt
  | .raised .ignore _ => ignored
  | .raised r message => failed (.raised r message) r
  | e => failed e .abort

/-- A statement that changes a database, or a part of one. -/
abbrev Execution := ReaderT Task (ExceptT Halt (StateM Progress))

namespace Execution

/-! ## Parts of statements -/

/-- Fail, with what becomes of the changes before. -/
def fail {α : Type} (e : SqlError) (r : Resolution := .abort) : Execution α := throw (.failed e r)

/-- What may fail as a formula does. -/
def ofExcept {α : Type} (x : Except SqlError α) : Execution α :=
  match x with
  | .ok a => return a
  | .error e => throw (.ofError e)

/-- The database as it is so far. -/
def database : Execution Database := return (← get).database

/-- The encoding of texts. -/
def encoding : Execution Encoding := return (← database).encoding

/-- Change the database. -/
def edit {α : Type} (x : Edit α) : Execution α := do
  match x.run (← database) with
  | .ok (a, d) =>
    modify ({ · with database := d })
    return a
  | .error e => fail (.database e)

/-- Begin to change the database, unless that has begun. -/
def start : Execution Unit := do
  let p ← get
  if p.isBegun then return
  match p.database.start with
  | .ok database => set { p with database, isBegun := true }
  | .error e => fail (.database e)

/-- What queries of the statement are carried out on. -/
def context : Execution QueryContext := do
  let task ← read
  let p ← get
  return { database := p.database, schema := task.schema, parameters := task.parameters
           tally := p.tally }

/-- The value of a formula, where some rows are in view. -/
def value (e : Expr) (rows : List JoinedRow) : Execution Value := do
  ofExcept (e.eval ((← context).full rows))

/-- Whether a condition holds, if there is one. -/
def holds (condition : Option Expr) (rows : List JoinedRow) : Execution Bool := do
  match condition with
  | none => return true
  | some e => ofExcept (e.isTrue ((← context).full rows))

/-- The rows of a query. -/
def rowsOf (q : Select) (rows : List JoinedRow) : Execution (List (List Value)) := do
  ofExcept (q.run (← context) rows).all

/-- Count a number of rows that the statement has changed. -/
def countChanges (n : Nat) : Execution Unit := modify fun p => { p with changed := p.changed + n }

/-- Take note of how many rows a statement has changed, or that it has changed none. -/
def tell (isUndone : Bool := false) : Execution Unit :=
  modify fun p =>
    let changes := if isUndone then 0 else p.changed
    { p with changed := 0, tally := { p.tally with changes, total := p.tally.total + changes } }

/-- Carry out a part of a statement that has counts of its own. Behind it, only the number of all
changed rows has changed. -/
def apart {α : Type} (x : Execution α) : Execution α := do
  let before ← get
  let restore : Execution Unit := modify fun p =>
    { p with changed := before.changed, tally := { before.tally with total := p.tally.total } }
  modify ({ · with changed := 0 })
  try
    let a ← x
    restore
    return a
  catch h =>
    restore
    throw h

end Execution
end Sql
end FlowAtlas
