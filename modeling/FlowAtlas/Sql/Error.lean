import FlowAtlas.Database.Error
import FlowAtlas.Sql.Expr
import FlowAtlas.Text.Numeral

/-!
# Failures of statements

Why a statement cannot be read or carried out.
-/

set_option autoImplicit false

namespace FlowAtlas

open Sql (Resolution)

/-- Why a statement fails. -/
inductive SqlError
  -- What cannot be read.
  | near (token : String)
  | incomplete
  | unrecognized (token : String)
  | unknownJoin (words : String)
  | missingJoin (clause : String)
  | earlyClause (clause op : String)
  | qualifiedInTrigger
  | indexInTrigger (clause : String)
  -- What makes no sense as a definition.
  | unfit
  | corrupt
  | alreadyThere (kind name : String)
  | indexThere (name : String)
  | tableThere (name : String)
  | duplicateColumn (name : String)
  | secondKey (table : String)
  | misplacedCount
  | unknownOption (word : String)
  | variableDefault (column : String)
  | formulaInKey
  | formulaDefault
  | formulaFault (column : String)
  | onlyFormulas
  | unknownChildColumn (name : String)
  | singleParent (column table : String)
  | parentCount
  | keyFormula
  | conflictingRules
  | missingKey (table : String)
  | countedKeyed
  | unknownType (table column type : String)
  | missingType (table column : String)
  | prohibited (what place : String)
  | unsupportedNulls (word : String)
  | systemTrigger
  | viewTrigger (time name : String)
  | tableTrigger (name : String)
  | viewIndex
  | foreignIndex
  | parametersInView
  -- What is named and not there, or cannot be used in its place.
  | noTable (name : String)
  | noColumn (name : String) (place : Option Nat)
  | ambiguousColumn (name : String) (place : Option Nat)
  | noTableColumn (table column : String)
  | noFunction (name : String)
  | wrongArguments (name : String)
  | badLikelihood
  | noCollation (name : String)
  | noModule (name : String)
  | noIndex (name : String)
  | noDatabase (name : String)
  | unsafeTable (name : String)
  | noWay
  | otherDatabase (kind name database : String)
  | misusedTotal (name : String)
  | misusedWindow (name : String)
  | noWindow (name : String)
  | fixedWindow (what name : String)
  | unsupportedFrame
  | unorderedRange
  | distinctWindow
  | distinctArguments
  | filteredWindow
  | filteredScalar (name : String)
  | orderedScalar (name : String)
  | scalarWindow (name : String)
  | misusedRow
  | misusedAlias (name : String)
  | misusedWindowAlias (name : String)
  | misplacedTotal (name : String)
  | groupedTotals
  | memberCount (found expected : Nat)
  | noTables
  | namedTwice (name : String)
  | circular (name : String)
  | manyReferences (name : String)
  | manyRecursions (name : String)
  | namedColumns (name : String) (values columns : Nat)
  | groupedRecursion
  | windowedRecursion
  | noTableFunction (name : String)
  | noSharedColumn (name : String)
  | misplacedHaving
  | termOutOfRange (term : Nat) (clause : String) (count : Nat)
  | termMismatch (term : Nat)
  | columnCounts (op : String)
  | valueCounts
  | subqueryColumns (found expected : Nat)
  | viewColumns (expected : Nat) (view : String) (found : Nat)
  | circularView (name : String)
  | unchangeable (view : String)
  | formulaGiven (column : String)
  | givenCounts (values columns : Nat)
  | tableCounts (table : String) (columns values : Nat)
  | misplacedRaise
  | misplacedUpsert
  | parentMismatch (child parent : String)
  | notDroppable (table : String)
  | viewDropped (name : String)
  -- What fails when it is carried out.
  | overflow
  | badEscape
  | badOffset (word kind : String)
  | badPlace
  | badShare
  | mismatch
  | raised (resolution : Resolution) (message : String)
  | required (column : String)
  | notUnique
  | checkFailed
  | wrongType
  | parentMissing
  | tooDeep
  | endless
  | formulaLoop (column : String)
  | unusable (function : String)
  | unauthorized
  -- What is wrong with documents.
  | malformedDocument
  | badPath (path : String)
  | bytesInDocument
  | evenArguments (function : String)
  | oddMembers
  | memberName
  | badFlags
  | manyArguments (name : String) (most : Nat)
  | database (e : DatabaseError)
  deriving DecidableEq, Repr, Inhabited

namespace SqlError

/-- The ordinal of a number in words. -/
def ordinal (n : Nat) : String :=
  let tail :=
    if n / 10 % 10 = 1 then "th"
    else if n % 10 = 1 then "st"
    else if n % 10 = 2 then "nd"
    else if n % 10 = 3 then "rd"
    else "th"
  Numeral.decimal n ++ tail

/-- The wording of the failure. -/
def message : SqlError → String
  | near token => "near \"" ++ token ++ "\": syntax error"
  | incomplete => "incomplete input"
  | unrecognized token => "unrecognized token: \"" ++ token ++ "\""
  | unknownJoin words => "unknown join type: " ++ words
  | missingJoin clause => "a JOIN clause is required before " ++ clause
  | earlyClause clause op => clause ++ " clause should come after " ++ op ++ " not before"
  | qualifiedInTrigger =>
    "qualified table names are not allowed on INSERT, UPDATE, and DELETE statements within triggers"
  | indexInTrigger clause =>
    "the " ++ clause ++ " clause is not allowed on UPDATE or DELETE statements within triggers"
  | unfit => ""
  | corrupt => "corrupt database"
  | alreadyThere kind name => kind ++ " " ++ name ++ " already exists"
  | tableThere name => "there is already a table named " ++ name
  | indexThere name => "there is already an index named " ++ name
  | duplicateColumn name => "duplicate column name: " ++ name
  | secondKey table => "table \"" ++ table ++ "\" has more than one primary key"
  | misplacedCount => "AUTOINCREMENT is only allowed on an INTEGER PRIMARY KEY"
  | unknownOption word => "unknown table option: " ++ word
  | variableDefault column => "default value of column [" ++ column ++ "] is not constant"
  | formulaInKey => "generated columns cannot be part of the PRIMARY KEY"
  | formulaDefault => "cannot use DEFAULT on a generated column"
  | formulaFault column => "error in generated column \"" ++ column ++ "\""
  | onlyFormulas => "must have at least one non-generated column"
  | unknownChildColumn name => "unknown column \"" ++ name ++ "\" in foreign key definition"
  | singleParent column table =>
    "foreign key on " ++ column ++ " should reference only one column of table " ++ table
  | parentCount =>
    "number of columns in foreign key does not match the number of columns in the referenced table"
  | keyFormula => "expressions prohibited in PRIMARY KEY and UNIQUE constraints"
  | conflictingRules => "conflicting ON CONFLICT clauses specified"
  | missingKey table => "PRIMARY KEY missing on table " ++ table
  | countedKeyed => "AUTOINCREMENT not allowed on WITHOUT ROWID tables"
  | unknownType table column type =>
    "unknown datatype for " ++ table ++ "." ++ column ++ ": \"" ++ type ++ "\""
  | missingType table column => "missing datatype for " ++ table ++ "." ++ column
  | prohibited what place => what ++ " prohibited in " ++ place
  | unsupportedNulls word => "unsupported use of NULLS " ++ word
  | systemTrigger => "cannot create trigger on system table"
  | viewTrigger time name => "cannot create " ++ time ++ " trigger on view: " ++ name
  | tableTrigger name => "cannot create INSTEAD OF trigger on table: " ++ name
  | foreignIndex => "virtual tables may not be indexed"
  | viewIndex => "views may not be indexed"
  | parametersInView => "parameters are not allowed in views"
  | noTable name => "no such table: " ++ name
  | noIndex name => "no such index: " ++ name
  | unsafeTable name => "unsafe use of virtual table \"" ++ name ++ "\""
  | noDatabase name => "unknown database '" ++ name.replace "'" "''" ++ "'"
  | noWay => "no query solution"
  | otherDatabase kind name other =>
    kind ++ " " ++ name ++ " cannot reference objects in database " ++ other
  | noColumn name _ => "no such column: " ++ name
  | ambiguousColumn name _ => "ambiguous column name: " ++ name
  | noTableColumn table column => "table " ++ table ++ " has no column named " ++ column
  | noFunction name => "no such function: " ++ name
  | wrongArguments name => "wrong number of arguments to function " ++ name ++ "()"
  | badLikelihood => "second argument to likelihood() must be a constant between 0.0 and 1.0"
  | noCollation name => "no such collation sequence: " ++ name
  | noModule name => "no such module: " ++ name
  | misusedTotal name => "misuse of aggregate function " ++ name ++ "()"
  | misusedWindow name => "misuse of window function " ++ name ++ "()"
  | noWindow name => "no such window: " ++ name
  | fixedWindow what name => "cannot override " ++ what ++ " of window: " ++ name
  | unsupportedFrame => "unsupported frame specification"
  | unorderedRange => "RANGE with offset PRECEDING/FOLLOWING requires one ORDER BY expression"
  | distinctWindow => "DISTINCT is not supported for window functions"
  | distinctArguments => "DISTINCT aggregates must have exactly one argument"
  | filteredWindow => "FILTER clause may only be used with aggregate window functions"
  | filteredScalar name => "FILTER may not be used with non-aggregate " ++ name ++ "()"
  | orderedScalar name => "ORDER BY may not be used with non-aggregate " ++ name ++ "()"
  | scalarWindow name => name ++ "() may not be used as a window function"
  | misusedRow => "row value misused"
  | misusedAlias name => "misuse of aliased aggregate " ++ name
  | misusedWindowAlias name => "misuse of aliased window function " ++ name
  | misplacedTotal name => "misuse of aggregate: " ++ name ++ "()"
  | groupedTotals => "aggregate functions are not allowed in the GROUP BY clause"
  | memberCount found expected =>
    "IN(...) element has " ++ Numeral.decimal found ++ (if found = 1 then " term" else " terms") ++
      " - expected " ++ Numeral.decimal expected
  | noTables => "no tables specified"
  | namedTwice name => "duplicate WITH table name: " ++ name
  | circular name => "circular reference: " ++ name
  | manyReferences name => "multiple references to recursive table: " ++ name
  | manyRecursions name => "multiple recursive references: " ++ name
  | namedColumns name values columns =>
    "table " ++ name ++ " has " ++ Numeral.decimal values ++ " values for " ++
      Numeral.decimal columns ++ " columns"
  | groupedRecursion => "recursive aggregate queries not supported"
  | windowedRecursion => "cannot use window functions in recursive queries"
  | noTableFunction name => "'" ++ name ++ "' is not a function"
  | noSharedColumn name =>
    "cannot join using column " ++ name ++ " - column not present in both tables"
  | misplacedHaving => "HAVING clause on a non-aggregate query"
  | termOutOfRange term clause count =>
    ordinal term ++ " " ++ clause ++ " BY term out of range - should be between 1 and " ++
      Numeral.decimal count
  | termMismatch term =>
    ordinal term ++ " ORDER BY term does not match any column in the result set"
  | columnCounts op =>
    "SELECTs to the left and right of " ++ op ++ " do not have the same number of result columns"
  | valueCounts => "all VALUES must have the same number of terms"
  | subqueryColumns found expected =>
    "sub-select returns " ++ Numeral.decimal found ++ " columns - expected " ++
      Numeral.decimal expected
  | viewColumns expected view found =>
    "expected " ++ Numeral.decimal expected ++ " columns for '" ++ view ++ "' but got " ++
      Numeral.decimal found
  | circularView name => "view " ++ name ++ " is circularly defined"
  | unchangeable view => "cannot modify " ++ view ++ " because it is a view"
  | formulaGiven column => "cannot INSERT into generated column \"" ++ column ++ "\""
  | givenCounts values columns =>
    Numeral.decimal values ++ " values for " ++ Numeral.decimal columns ++ " columns"
  | tableCounts table columns values =>
    "table " ++ table ++ " has " ++ Numeral.decimal columns ++ " columns but " ++
      Numeral.decimal values ++ " values were supplied"
  | misplacedRaise => "RAISE() may only be used within a trigger-program"
  | misplacedUpsert => "ON CONFLICT clause does not match any PRIMARY KEY or UNIQUE constraint"
  | parentMismatch child parent =>
    "foreign key mismatch - \"" ++ child ++ "\" referencing \"" ++ parent ++ "\""
  | notDroppable table => "table " ++ table ++ " may not be dropped"
  | viewDropped name => "use DROP VIEW to delete view " ++ name
  | overflow => "integer overflow"
  | badEscape => "ESCAPE expression must be a single character"
  | badOffset word kind => "frame " ++ word ++ " offset must be a non-negative " ++ kind
  | badPlace => "second argument to nth_value must be a positive integer"
  | badShare => "argument of ntile must be a positive integer"
  | mismatch => "datatype mismatch"
  | raised _ text => text
  | required column => "NOT NULL constraint failed: " ++ column
  | notUnique => "UNIQUE constraint failed"
  | checkFailed => "CHECK constraint failed"
  | wrongType => "cannot store value in column"
  | parentMissing => "FOREIGN KEY constraint failed"
  | tooDeep => "too many levels of trigger recursion"
  | endless => "endless recursion"
  | formulaLoop column => "generated column loop on \"" ++ column ++ "\""
  | unusable name => "unable to use function " ++ name ++ " in the requested context"
  | unauthorized => "not authorized"
  | malformedDocument => "malformed JSON"
  | badPath path => "bad JSON path: '" ++ path.replace "'" "''" ++ "'"
  | bytesInDocument => "JSON cannot hold BLOB values"
  | evenArguments name => name ++ "() needs an odd number of arguments"
  | oddMembers => "json_object() requires an even number of arguments"
  | memberName => "json_object() labels must be TEXT"
  | badFlags => "FLAGS parameter to json_valid() must be between 1 and 15"
  | manyArguments name most =>
    "too many arguments on " ++ name ++ "() - max " ++ Numeral.decimal most
  | database e => e.message

/-- The general kind of the failure, by number. -/
def kind : SqlError → String
  | required _ | notUnique | checkFailed | wrongType | raised _ _ =>
    "Error code 19: Constraint violation"
  | parentMissing => DatabaseError.parentMissing.kind
  | mismatch => "Error code 20: Data type mismatch"
  | database e => e.kind
  | _ => "Error code 1: SQL error or missing database"

/-- The failure without the place where it shows, which is in another text. -/
def withoutPlace : SqlError → SqlError
  | noColumn name _ => noColumn name none
  | ambiguousColumn name _ => ambiguousColumn name none
  | e => e

/-- How many bytes stand before the place where the failure shows, if that is known. -/
def place? : SqlError → Option Nat
  | noColumn _ place | ambiguousColumn _ place => place
  | _ => none

end SqlError
end FlowAtlas
