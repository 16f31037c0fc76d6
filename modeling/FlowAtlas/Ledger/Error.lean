import FlowAtlas.Sql.Error
import FlowAtlas.Text.Numeral

/-!
# Failures of ledgers

Why an operation on a ledger fails: for its file, for what the database in it holds, or for its
layout.
-/

set_option autoImplicit false

namespace FlowAtlas

/-- Why an operation on a ledger fails. -/
inductive LedgerError
  /-- The file cannot be opened. -/
  | cannotOpen (path : String)
  /-- The file cannot be written. -/
  | cannotWrite
  /-- The file or what stands beside it cannot be read. -/
  | cannotRead
  /-- The path holds a NUL byte at a place. -/
  | nulInPath (position : Nat)
  /-- What stands beside the file cannot be taken away. -/
  | cannotRemove
  /-- What stands beside the file keeps others out. -/
  | cannotShare
  /-- The file is no database, or a change to it is refused. -/
  | database (e : DatabaseError)
  /-- The layout is of a later version. -/
  | unsupportedVersion (found : Int)
  | missingTable (name : String)
  /-- A statement cannot be carried out. -/
  | statement (e : SqlError) (text : String)
  /-- A value is not of the type that its column must have. -/
  | invalidType (type : String) (column : Nat) (name : String)
  /-- A text is none from a place on, because of so many bytes, if it goes on behind them. -/
  | invalidText (column : Nat) (fault : Nat × Option Nat)
  /-- A load whose outcome has an unknown name. -/
  | unreadableStatus
  deriving DecidableEq, Repr

namespace LedgerError

/-- The latest layout. -/
def latestVersion : Int := 2

/-- What is wrong with a text. -/
def textFault : Nat × Option Nat → String
  | (place, some size) =>
    "invalid utf-8 sequence of " ++ Numeral.decimal size ++ " bytes from index " ++
      Numeral.decimal place
  | (place, none) => "incomplete utf-8 byte sequence from index " ++ Numeral.decimal place

/-- The wording of a fault of the file or the tables; a layout of a later version is none. -/
def tableMessage? : LedgerError → Option String
  | cannotOpen path => some ("unable to open database file: " ++ path)
  | cannotWrite => some "unable to open database file"
  | cannotRead | cannotRemove => some "disk I/O error"
  | cannotShare => some "locking protocol"
  | nulInPath position =>
    some ("nul byte found in provided data at position: " ++ Numeral.decimal position)
  | database e => some e.message
  | unsupportedVersion _ => none
  | missingTable name => some ("no such table: " ++ name)
  | statement e text =>
    some (e.message ++ e.place?.elim "" fun place =>
      " in " ++ text ++ " at offset " ++ Numeral.decimal place)
  | invalidType type column name =>
    some ("Invalid column type " ++ type ++ " at index: " ++ Numeral.decimal column ++ ", name: " ++
      name)
  | invalidText column fault =>
    some ("Conversion error from type Text at index: " ++ Numeral.decimal column ++ ", " ++
      textFault fault)
  | unreadableStatus => some "Invalid column type Text at index: 5, name: status"

/-- The general kind of a fault, by number. A path that cannot be one is its own kind, and so is
what is wrong with a text. -/
def kind? (e : LedgerError) : Option String :=
  match e with
  | cannotOpen _ | cannotWrite => some "Error code 14: Unable to open the database file"
  | cannotRead => some "Error code 266: Error reading from disk"
  | cannotRemove => some "Error code 2570: I/O error within xDelete of a VFS object"
  | cannotShare => some "Error code 15: Database lock protocol error"
  | database e => some e.kind
  | missingTable _ => some "Error code 1: SQL error or missing database"
  | statement e _ => some e.kind
  | nulInPath _ => e.tableMessage?
  | invalidText _ fault => some (textFault fault)
  | _ => none

/-- The wording of the failure. -/
def message (e : LedgerError) : String :=
  match e, e.tableMessage? with
  | unsupportedVersion found, _ =>
    "Unsupported schema version " ++ Numeral.signedDecimal found ++ "; supported range is 0..=2"
  | _, some text => "SQLite error: " ++ text
  | _, none => ""

/-- The wording of the failure and of what lies behind it, the outermost first. -/
def chain (e : LedgerError) : List String :=
  e.message :: (e.tableMessage?.toList ++ e.kind?.toList)

end LedgerError

end FlowAtlas
