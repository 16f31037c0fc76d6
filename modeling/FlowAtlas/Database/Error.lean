/-!
# Failures of databases

Why a file cannot be used as a database, or a change to it is refused.
-/

set_option autoImplicit false

namespace FlowAtlas

/-- Why an operation on a database fails. -/
inductive DatabaseError
  /-- The file holds something else. -/
  | notADatabase
  /-- The pages do not fit together. -/
  | malformed
  /-- A thing that the list of tables describes makes no sense. -/
  | malformedEntry (name reason : String)
  /-- The list of tables is of a later form. -/
  | unsupportedForm
  /-- The file may be read only. -/
  | readOnly
  /-- No number is left for a row. -/
  | noRoom
  /-- A rule of a table forbids the change. -/
  | refused
  /-- A row would be left without the row that it depends on. -/
  | parentMissing
  deriving DecidableEq, Repr

namespace DatabaseError

/-- The wording of the failure. -/
def message : DatabaseError → String
  | notADatabase => "file is not a database"
  | malformed => "database disk image is malformed"
  | malformedEntry name "" => "malformed database schema (" ++ name ++ ")"
  | malformedEntry name reason => "malformed database schema (" ++ name ++ ") - " ++ reason
  | unsupportedForm => "unsupported file format"
  | readOnly => "attempt to write a readonly database"
  | noRoom => "database or disk is full"
  | refused => "constraint failed"
  | parentMissing => "FOREIGN KEY constraint failed"

/-- The general kind of the failure, by number. -/
def kind : DatabaseError → String
  | notADatabase => "Error code 26: File opened that is not a database file"
  | malformed | malformedEntry _ _ => "Error code 11: The database disk image is malformed"
  | unsupportedForm => "Error code 1: SQL error or missing database"
  | readOnly => "Error code 8: Attempt to write a readonly database"
  | noRoom => "Error code 13: Insertion failed because database is full"
  | refused => "Error code 19: Constraint violation"
  | parentMissing => "Error code 787: Foreign key constraint failed"

end DatabaseError
end FlowAtlas
