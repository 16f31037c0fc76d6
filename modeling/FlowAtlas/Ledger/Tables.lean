import FlowAtlas.Ledger.Error
import FlowAtlas.Ledger.Record

/-!
# The tables of a ledger

A ledger keeps two tables: one row for each load, and the totals of the clusters of a load. What is
done with them is written as statements (`SqlCommand`, `SqlQuery`), which name the columns that are
put in or listed, each in its own order. Something else carries them out (`SqlEngine`): this module
says which statements an operation on a ledger asks for, and how it reads the rows that it gets.

The tables are made by `LedgerTables.migrate`, which also tells ledgers of a later layout apart.
-/

set_option autoImplicit false

namespace FlowAtlas

/-! ## Values -/

/-- A value that is given for a statement. -/
inductive Datum
  | null
  | integer (n : Int)
  | text (s : String)
  deriving DecidableEq, Repr, Inhabited

/-- A text that may be missing, as a value. -/
def Datum.ofOption (s : Option String) : Datum := s.elim null text

/-- A value that a statement tells. -/
inductive SeenValue
  | null
  | integer (n : Int)
  | text (s : String)
  /-- A text that is none from a place on, because of so many bytes, if it goes on behind them. -/
  | malformed (fault : Nat × Option Nat)
  /-- A value of another type. -/
  | other (type : String)
  deriving DecidableEq, Repr, Inhabited

namespace SeenValue

/-- A value as it was given. -/
def ofDatum : Datum → SeenValue
  | .null => null
  | .integer n => integer n
  | .text s => text s

/-- The name of the type of a value. -/
def typeName : SeenValue → String
  | null => "Null"
  | integer _ => "Integer"
  | text _ | malformed _ => "Text"
  | other type => type

end SeenValue

/-! ## Statements -/

/-- What a column of a table must hold. -/
inductive ColumnRule
  /-- The number of the row, which is given out and never used again. -/
  | key
  | text (isRequired : Bool)
  | integer
  /-- The number of a row of another table, with which this row goes. -/
  | parent (table : String)
  deriving DecidableEq, Repr, Inhabited

/-- The words for a rule. -/
def ColumnRule.words : ColumnRule → String
  | key => "INTEGER PRIMARY KEY AUTOINCREMENT"
  | text true => "TEXT NOT NULL"
  | text false => "TEXT"
  | integer => "INTEGER NOT NULL"
  | parent table => "INTEGER NOT NULL REFERENCES " ++ table ++ "(id) ON DELETE CASCADE"

/-- A table to be made. -/
structure TableForm where
  name : String
  columns : List (String × ColumnRule)
  /-- The place of the rules in the lines of the statement. -/
  width : Nat

/-- The statement that makes a table: a line for each column. -/
def TableForm.statement (t : TableForm) : String :=
  let line := fun ((column, rule) : String × ColumnRule) =>
    let blanks := String.ofList (List.replicate (t.width - column.length) ' ')
    "                " ++ column ++ blanks ++ rule.words
  "CREATE TABLE " ++ t.name ++ " (\n" ++ ",\n".intercalate (t.columns.map line) ++
    "\n            )"

/-- An index to be made. -/
structure IndexForm where
  name : String
  table : String
  column : String
  /-- What stands behind the statement in its script. -/
  rest : String

namespace IndexForm

/-- What is indexed, as statements tell it. -/
def target (x : IndexForm) : String := x.name ++ " ON " ++ x.table ++ "(" ++ x.column ++ ")"

/-- The statement that is kept of the index. -/
def kept (x : IndexForm) : String := "CREATE INDEX " ++ x.target

/-- The statement that makes the index unless it is there, up to the end of its script. -/
def statement (x : IndexForm) : String :=
  "\n            CREATE INDEX IF NOT EXISTS " ++ x.target ++ ";" ++ x.rest

end IndexForm

/-- A statement that puts a row into a table: the values of columns are given in their order. -/
structure Insertion where
  table : String
  columns : List String

/-- The text of the statement. -/
def Insertion.statement (x : Insertion) : String :=
  let places := (List.range x.columns.length).map fun i => "?" ++ Numeral.decimal (i + 1)
  "INSERT INTO " ++ x.table ++ " (" ++ ", ".intercalate x.columns ++ ") VALUES (" ++
    ", ".intercalate places ++ ")"

/-- A statement that takes the rows out of a table where a column holds a value. -/
structure Deletion where
  table : String
  column : String

/-- The text of the statement. -/
def Deletion.statement (x : Deletion) : String :=
  "DELETE FROM " ++ x.table ++ " WHERE " ++ x.column ++ " = ?1"

/-- A statement that changes something. -/
inductive SqlCommand
  /-- Make a table, unless it is there. -/
  | createTable (t : TableForm)
  /-- Make an index, unless it is there. -/
  | createIndex (x : IndexForm)
  /-- Change the version of the layout. -/
  | setVersion (version : Int)
  /-- Look whether a row can be put in. -/
  | prepare (x : Insertion)
  | insert (x : Insertion) (values : List Datum)
  | delete (x : Deletion) (value : Datum)

/-- Statements that are carried out at once. -/
inductive SqlScript
  /-- A statement by itself. -/
  | alone (c : SqlCommand)
  /-- The statements of one transaction: all are carried out, or none. -/
  | together (cs : List SqlCommand)

namespace SqlScript

/-- Whether the script is a statement by itself. -/
def isAlone : SqlScript → Bool
  | alone _ => true
  | together _ => false

/-- The statements of a script. -/
def commands : SqlScript → List SqlCommand
  | alone c => [c]
  | together cs => cs

end SqlScript

/-- A statement that lists rows. -/
structure SqlQuery where
  columns : List String
  table : String
  /-- A column that must hold a value. -/
  condition : Option (String × Datum) := none
  /-- The column by which the rows are sorted. -/
  order : String
  /-- Whether the greatest comes first. -/
  isDescending : Bool := false
  /-- The most rows that are listed. -/
  limit : Option Nat := none
  /-- How far the lines of the statement are set in, unless it is a single line. -/
  indent : Option Nat := none

/-- The text of the statement. -/
def SqlQuery.statement (q : SqlQuery) : String :=
  let parts := ["SELECT " ++ ", ".intercalate q.columns, "FROM " ++ q.table] ++
    (q.condition.map fun (column, _) => "WHERE " ++ column ++ " = ?1").toList ++
    ["ORDER BY " ++ q.order ++ (if q.isDescending then " DESC" else "") ++
      q.limit.elim "" (" LIMIT " ++ Numeral.decimal ·)]
  match q.indent with
  | none => " ".intercalate parts
  | some n =>
    let blanks := String.ofList (List.replicate n ' ')
    "\n" ++ String.join (parts.map (blanks ++ · ++ "\n")) ++ blanks

/-! ## Rows -/

/-- A row that is listed: its values, with the names of their columns. -/
abbrev Listed := List (String × SeenValue)

namespace Listed

variable (r : Listed) (i : Nat)

/-- A value must be of another type. -/
def wrongType {α : Type} : Except LedgerError α :=
  let (name, v) := r.getD i default
  .error (.invalidType v.typeName i name)

/-- A value that must be a text. -/
def text : Except LedgerError String :=
  match (r.getD i default).2 with
  | .text s => .ok s
  | .malformed fault => .error (.invalidText i fault)
  | _ => r.wrongType i

/-- A value that may be a text. -/
def optionalText : Except LedgerError (Option String) :=
  match (r.getD i default).2 with
  | .null => .ok none
  | _ => some <$> r.text i

/-- A value that must be a whole number. -/
def integer : Except LedgerError Int :=
  match (r.getD i default).2 with
  | .integer n => .ok n
  | _ => r.wrongType i

end Listed

/-- What a query comes to: rows, and what goes wrong behind them, if anything. -/
structure SqlAnswer where
  rows : List Listed
  fault : Option LedgerError := none

/-- The answers to a query, each of which must make sense. What is wrong with one comes before what
goes wrong behind it. -/
def SqlAnswer.read {α : Type} (f : Listed → Except LedgerError α) (a : SqlAnswer) :
    Except LedgerError (List α) := do
  let items ← a.rows.mapM f
  match a.fault with
  | some e => throw e
  | none => return items

/-- What carries out the statements on tables. -/
class SqlEngine (m : Type → Type) where
  carryOut : SqlScript → m Unit
  ask : SqlQuery → m SqlAnswer
  /-- The number of the row that was put in last. -/
  lastRow : m Int
  /-- The version of the layout. -/
  version : m Int

/-! ## The statements of a ledger -/

/-- A load with its number. -/
structure StoredRun where
  id : Int
  run : LoadRun
  deriving DecidableEq, Repr, Inhabited

namespace LedgerTables

/-- The name of the table of loads. -/
def runsName : String := "load_runs"

/-- The name of the table of totals. -/
def totalsName : String := "cluster_summaries"

/-- The table of loads. -/
def runsForm : TableForm where
  name := runsName
  columns := [("id", .key), ("process", .text true), ("trace_dir", .text true),
    ("trace_hash", .text false), ("status", .text true), ("error", .text false),
    ("started_at", .text true), ("finished_at", .text true)]
  width := 13

/-- The index of loads by process. -/
def processIndex : IndexForm where
  name := "idx_load_runs_process"
  table := runsName
  column := "process"
  rest := "\n\n            PRAGMA user_version = 1;\n            COMMIT;\n            "

/-- The table of totals. -/
def totalsForm : TableForm where
  name := totalsName
  columns := [("id", .key), ("run_id", .parent runsName), ("cluster", .text true),
    ("nodes", .integer), ("edges", .integer), ("executable_blocks", .integer),
    ("entry_points", .integer), ("exit_points", .integer), ("unreachable", .integer),
    ("missed_entries", .integer)]
  width := 18

/-- The script that brings tables without layout to the first one. -/
def firstLayout : SqlScript :=
  .together [.createTable runsForm, .createIndex processIndex, .setVersion 1]

/-- The script that brings tables of the first layout to the second one. -/
def secondLayout : SqlScript := .together [.createTable totalsForm, .setVersion 2]

/-- The statement that adds a load. -/
def runInsertion : Insertion where
  table := runsName
  columns := ["process", "trace_dir", "trace_hash", "status", "error", "started_at", "finished_at"]

/-- The script that adds a load. -/
def runScript (r : LoadRun) : SqlScript :=
  .alone (.insert runInsertion [.text r.process, .text r.traceDir, .ofOption r.traceHash,
    .text r.status.text, .ofOption r.error, .text r.startedAt, .text r.finishedAt])

/-- The statement that lists loads, of a process or all. -/
def runsQuery (process : Option String) : SqlQuery where
  columns := ["id", "process", "trace_dir", "trace_hash", "error", "status", "started_at",
    "finished_at"]
  table := runsName
  condition := process.map fun p => ("process", .text p)
  order := "id"
  indent := some 16

/-- The statement that lists the number of the latest load of a process. -/
def latestQuery (process : String) : SqlQuery where
  columns := ["id"]
  table := runsName
  condition := some ("process", .text process)
  order := "id"
  isDescending := true
  limit := some 1

/-- The columns of the numbers in totals, behind the name of the cluster. -/
def totalsColumns : List String :=
  ["cluster", "nodes", "edges", "executable_blocks", "entry_points", "exit_points", "unreachable",
    "missed_entries"]

/-- The statement that takes the totals of a load away. -/
def totalsDeletion : Deletion := ⟨totalsName, "run_id"⟩

/-- The statement that adds totals. -/
def totalsInsertion : Insertion := ⟨totalsName, "run_id" :: totalsColumns⟩

/-- The statement that adds totals of a load, with its values. -/
def addTotals (run : Int) (t : ClusterTotals) : SqlCommand :=
  .insert totalsInsertion (.integer run :: .text t.cluster :: [t.nodes, t.edges, t.executableBlocks,
    t.entryPoints, t.exitPoints, t.unreachable, t.missedEntries].map .integer)

/-- The script that puts the totals of a load in place of any earlier ones. -/
def totalsScript (run : Int) (totals : List ClusterTotals) : SqlScript :=
  .together (.delete totalsDeletion (.integer run) :: .prepare totalsInsertion ::
    totals.map (addTotals run))

/-- The statement that lists the totals of a load. -/
def totalsQuery (run : Int) : SqlQuery where
  columns := totalsColumns
  table := totalsName
  condition := some ("run_id", .integer run)
  order := "cluster"
  indent := some 12

/-! ## Reading rows -/

/-- The load in a listed row. -/
def runOf (r : Listed) : Except LedgerError StoredRun := do
  match RunStatus.ofText (← r.text 5) with
  | .error _ => throw .unreadableStatus
  | .ok status =>
    return ⟨← r.integer 0, {
      process := ← r.text 1, traceDir := ← r.text 2, traceHash := ← r.optionalText 3, status
      error := ← r.optionalText 4, startedAt := ← r.text 6, finishedAt := ← r.text 7 }⟩

/-- The totals in a listed row. -/
def totalsIn (r : Listed) : Except LedgerError ClusterTotals :=
  return ⟨← r.text 0, ← r.integer 1, ← r.integer 2, ← r.integer 3, ← r.integer 4, ← r.integer 5,
    ← r.integer 6, ← r.integer 7⟩

/-- The number in the first of the listed rows, if there is one. -/
def firstNumber : SqlAnswer → Except LedgerError (Option Int)
  | ⟨r :: _, _⟩ => some <$> r.integer 0
  | ⟨[], some e⟩ => .error e
  | ⟨[], none⟩ => .ok none

/-! ## Operations -/

section Operations

open SqlEngine (carryOut ask)

variable {m : Type → Type} [Monad m] [MonadExceptOf LedgerError m] [SqlEngine m]

/-- Bring the tables to the latest layout. Only tables without any layout get the first one. -/
def migrate : m Unit := do
  let version ← (SqlEngine.version : m Int)
  if LedgerError.latestVersion < version then throw (.unsupportedVersion version)
  if version = 0 then carryOut firstLayout
  if version < LedgerError.latestVersion then carryOut secondLayout

/-- Add a load. The answer is its number. -/
def insert (r : LoadRun) : m Int := do
  carryOut (runScript r)
  SqlEngine.lastRow

/-- The loads of a process, or of all. -/
def list (process : Option String) : m (List StoredRun) := do
  ofExcept ((← ask (runsQuery process)).read runOf)

/-- The number of the latest load of a process. -/
def latest (process : String) : m (Option Int) := do
  ofExcept (firstNumber (← ask (latestQuery process)))

/-- Put the totals of a load in place of any earlier ones. -/
def putTotals (run : Int) (totals : List ClusterTotals) : m Unit :=
  carryOut (totalsScript run totals)

/-- The totals of a load by the name of the cluster. -/
def totalsOf (run : Int) : m (List ClusterTotals) := do
  ofExcept ((← ask (totalsQuery run)).read totalsIn)

end Operations

end LedgerTables
end FlowAtlas
