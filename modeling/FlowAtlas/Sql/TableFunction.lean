import FlowAtlas.Sql.Account
import FlowAtlas.Sql.Document.Rows

/-!
# Functions with tables as their values

A `TableFunction` can stand where a table is named. Its rows are the parts of a document, or what a
database tells of itself. Behind the columns that are seen stand those that have what the function is
given.
-/

set_option autoImplicit false

namespace FlowAtlas
namespace Sql

/-- A function that has a table as its value. -/
inductive TableFunction
  | document (t : DocumentTable)
  | account (t : AccountTable)

namespace TableFunction

/-- The function of a name. -/
def ofName? (name : String) : Option TableFunction :=
  ((DocumentTable.ofName? name).map document).or ((AccountTable.ofName? name).map account)

/-- Refuse what may not be used in a definition. -/
def checkAdmitted (name : String) : Except SqlError Unit :=
  if name.toLower = "dbstat" then throw (.unsafeTable "dbstat") else return

/-- The names of the columns. -/
def columns : TableFunction → List String
  | document _ => DocumentTable.columns
  | account t => t.columnNames

/-- The names of the columns that have what the function is given. -/
def givenColumns : TableFunction → List String
  | document _ => DocumentTable.givenColumns
  | account t => t.givenColumns

/-- The columns with values that may be parts of documents, each with the one that has them as
such. -/
def parts : TableFunction → List (Nat × Nat)
  | document _ => [(DocumentTable.valueColumn, DocumentTable.partColumn)]
  | account _ => []

/-- The number of the first row. -/
def firstNumber : TableFunction → Nat
  | document _ => 0
  | account _ => 1

end TableFunction
end Sql
end FlowAtlas
