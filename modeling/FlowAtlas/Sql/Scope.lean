import FlowAtlas.Sql.Error
import FlowAtlas.Sql.Function
import FlowAtlas.Sql.Nesting
import FlowAtlas.Sql.Reader.Expr
import FlowAtlas.Sql.Schema
import FlowAtlas.Sql.Traversal

/-!
# Names in formulas

A name of a column means a column of one of the tables in view (`Scope`), which may be those of a
query further out. `Expr.resolve` puts the places of columns in place of names, and says what in a
formula cannot stand where it does.
-/

set_option autoImplicit false

namespace FlowAtlas
namespace Sql

/-! ## Types of formulas -/

namespace Expr

/-- The formulas of the columns of a query. -/
def columnsOf (q : Select) : List Expr :=
  q.first.columns.flatMap fun
    | .value e _ _ => [e]
    | .all _ => []

/-- The first column of a query, if it is a formula. -/
def firstColumn? (q : Select) : Option Expr := (columnsOf q).head?

/-- The parts of a formula that stands for several values. -/
def rowParts : Expr → List Expr
  | .row parts => parts
  | .scalar q => columnsOf q
  | e => [e]

/-- How many values a formula stands for. -/
def width (e : Expr) : Nat := e.rowParts.length

/-- The affinity of a formula that is no query. -/
def plainAffinity? : Expr → Option Affinity
  | .field f => f.affinity
  | .cast _ type => some (Affinity.ofType type)
  | .collate a _ => plainAffinity? a
  | _ => none

/-- The affinity of a formula, if it has one. -/
def affinity? : Expr → Option Affinity
  | .scalar q => (firstColumn? q).bind plainAffinity?
  | e => e.plainAffinity?

/-- Which sorts of values a formula may have. -/
structure Contents where
  numbers : Bool
  texts : Bool
  deriving DecidableEq, Repr, Inhabited

namespace Contents

/-- Values of all sorts. -/
def any : Contents := ⟨true, true⟩

/-- Values of one or the other. -/
def or (a b : Contents) : Contents := ⟨a.numbers || b.numbers, a.texts || b.texts⟩

/-- The values that something with an affinity may have. -/
def ofAffinity (a : Option Affinity) : Contents :=
  if a.any (·.isNumeric) then ⟨true, false⟩
  else if a = some .text then ⟨false, true⟩
  else any

end Contents

mutual

/-- The values that a formula may have, by its form. -/
def contents : Expr → Contents
  | .collate a _ | .unary .positive a => contents a
  | .null | .blob _ => ⟨false, false⟩
  | .text _ | .binary .concat _ _ => ⟨false, true⟩
  | .parameter _ | .moment _ | .call _ _ | .total _ _ _ _ _ | .windowed _ _ _ _
  | .binary (.extract _) _ _ => .any
  | .field f => .ofAffinity f.affinity
  | .cast _ type => .ofAffinity (some (Affinity.ofType type))
  | .scalar q => .ofAffinity ((firstColumn? q).bind plainAffinity?)
  | .cases _ branches otherwise => (branchContents branches).or (optionContents otherwise)
  | .row _ => .any
  | _ => ⟨true, false⟩

/-- The values that the branches of a choice may have. -/
def branchContents : List (Expr × Expr) → Contents
  | [] => ⟨false, false⟩
  | (_, e) :: rest => (contents e).or (branchContents rest)

/-- The values that a formula may have, if there is one. -/
def optionContents : Option Expr → Contents
  | none => ⟨false, false⟩
  | some e => contents e

end

/-- The affinity of a column that is made by several formulas: that of the first one that has any,
unless others may have values that it would change. -/
def commonAffinity? (es : List Expr) : Option Affinity := do
  let i ← es.findIdx? fun e => e.affinity?.isSome
  let a ← (← es[i]?).affinity?
  let others := (es.eraseIdx i).foldl (fun c e => c.or (contents e)) (⟨false, false⟩ : Contents)
  if a = .text && others.numbers || a.isNumeric && others.texts then some .blob else some a

mutual

/-- The collation that is asked for in a formula, if one is. -/
def askedCollation? : Expr → Option Collation
  | .collate _ c => some (.ofName c)
  | .unary _ a => askedCollation? a
  | .cast a _ => askedCollation? a
  | .binary _ a b => (askedCollation? a).or (askedCollation? b)
  | .between a b c => ((askedCollation? a).or (askedCollation? b)).or (askedCollation? c)
  | .call _ args => askedIn? args
  | .row args => askedIn? args
  | _ => none

/-- The first collation that is asked for in formulas. -/
def askedIn? : List Expr → Option Collation
  | [] => none
  | e :: es => (askedCollation? e).or (askedIn? es)

end

/-- The collation of a column that a formula is. -/
def columnCollation? : Expr → Option Collation
  | .field f => f.collation
  | .cast a _ => columnCollation? a
  | .unary .positive a => columnCollation? a
  | _ => none

/-- The collation of a formula, if it has one. -/
def collation? (e : Expr) : Option Collation := e.askedCollation?.or e.columnCollation?

/-- The collation by which the values of two formulas are compared. -/
def commonCollation (a b : Expr) : Collation :=
  ((a.askedCollation?.or b.askedCollation?).or (a.columnCollation?.or b.columnCollation?)).getD
    .binary

end Expr

/-! ## Tables in view -/

/-- A column in view. -/
structure ScopeColumn where
  name : String
  affinity : Option Affinity := none
  /-- How its texts are compared, unless it is the number of the row. -/
  collation : Option Collation := some .binary
  /-- The column that has its values as parts of documents, if they may be documents. -/
  part : Option Nat := none
  /-- Whether it is told only by its name. -/
  isHidden : Bool := false
  /-- The name of its type. -/
  type : String := ""
  deriving Repr, Inhabited

/-- A table in view. -/
structure ScopeTable where
  /-- The name under which it is in view. -/
  name : String
  /-- Whether it is in view as a table of the database. -/
  isBase : Bool := false
  columns : List ScopeColumn
  /-- Whether its rows have numbers. -/
  hasNumbers : Bool := false
  /-- The name of the column of the numbers of its rows. -/
  numberName : String := "rowid"
  /-- Whether its columns need its name. -/
  isHidden : Bool := false
  /-- The columns that are the same as those of tables before. -/
  shared : List String := []
  deriving Repr, Inhabited

/-- The tables of a query, and the names that it gives to formulas. -/
structure Scope where
  tables : List ScopeTable
  aliases : List (String × Expr) := []
  /-- Whether rows of later tables may stand without a partner. -/
  mayLackLeft : Bool := false
  deriving Repr, Inhabited

/-- How the texts of a column are compared, unless it is the number of the row. -/
def Table.collationOf (t : Table) (i : Nat) : Option Collation :=
  if t.definition.numberColumn = some i then none else some (t.column i).collation

/-- The columns of a table. -/
def Table.scopeColumns (t : Table) : List ScopeColumn :=
  t.columns.zipIdx.map fun (c, i) =>
    { name := c.name, affinity := c.affinity, collation := t.collationOf i, type := c.toldType }

/-- A table in view under a name. -/
def Table.inScope (t : Table) (name : String) : ScopeTable :=
  let numberName := (t.definition.numberColumn.map fun i => (t.column i).name).getD "rowid"
  { name, isBase := true, columns := t.scopeColumns, hasNumbers := t.hasNumbers, numberName }

/-- A row of a table in view, which is asked for by a name. Only the number of the row has an
affinity. -/
def Table.rowInScope (t : Table) (name : String) : ScopeTable :=
  let columns := t.columns.zipIdx.map fun (c, i) =>
    let affinity := if t.definition.numberColumn = some i then some Affinity.integer else none
    { name := c.name, affinity, collation := t.collationOf i }
  { name, columns, hasNumbers := t.hasNumbers, isHidden := true }

/-! ## Finding columns -/

/-- The names of the number of a row. -/
def numberNames : List String := ["rowid", "oid", "_rowid_"]

namespace ScopeTable

/-- Whether a name may mean a column of the table. -/
def admits (t : ScopeTable) (n : Name) : Bool :=
  match n.table with
  | none => !t.isHidden
  | some name => sameName t.name name && n.schema.all fun s => t.isBase && sameName s "main"

/-- The column of a name. -/
def column? (t : ScopeTable) (name : String) : Option Nat :=
  t.columns.findIdx? (sameName ·.name name)

/-- The place of a column. -/
def field (t : ScopeTable) (level source column : Nat) : Field :=
  let c := t.columns.getD column default
  { level, source, column := some column, affinity := c.affinity, collation := c.collation
    part := c.part }

end ScopeTable

namespace Scope

variable (s : Scope)

/-- The columns that a name may mean. One that is the same as a column of a table before does not
count, unless the name tells the table. -/
def fields (level : Nat) (n : Name) : List Field :=
  let all := s.tables.zipIdx.filterMap fun (t, i) =>
    if !t.admits n then none
    else (t.column? n.column).map fun c =>
      (t.field level i c, n.table.isNone && t.shared.any (sameName · n.column))
  all.zipIdx.filterMap fun ((f, isShared), i) => if isShared && 0 < i then none else some f

/-- The numbers of rows that a name may mean. -/
def numbers (level : Nat) (n : Name) : List Field :=
  if !numberNames.contains n.column.toLower then []
  else
    s.tables.zipIdx.filterMap fun (t, i) =>
      if t.admits n && t.hasNumbers then
        some { level, source := i, column := none, affinity := some .integer }
      else none

/-- All columns of a name where rows may lack a partner on either side. -/
def eitherSide? (level : Nat) (n : Name) : Option Expr :=
  let isShared := s.tables.any fun t => t.shared.any (sameName · n.column)
  if n.table.isNone && s.mayLackLeft && isShared then
    let places := s.tables.zipIdx.filterMap fun (t, i) => (t.column? n.column).map (t.field level i)
    some (.call "coalesce" (places.map .field))
  else none

/-- What a name means among the tables of a query, if anything. -/
def find? (level : Nat) (n : Name) (full : String) : Except SqlError (Option Expr) := do
  match s.eitherSide? level n, s.fields level n with
  | some e, _ => return some e
  | none, [f] => return some (.field f)
  | none, _ :: _ :: _ => throw (.ambiguousColumn full n.place)
  | none, [] =>
    match s.numbers level n with
    | [f] => return some (.field f)
    | _ :: _ :: _ => throw (.ambiguousColumn full n.place)
    | [] =>
      if n.table.isSome then return none
      return (s.aliases.find? fun (a, _) => sameName a n.column).map (·.2)

end Scope

/-- The tables of a query and of those further out, the innermost first. -/
abbrev Scopes := List Scope

/-- A formula seen from a query that is further in by some levels. -/
def Expr.shift (levels : Nat) (e : Expr) : Expr :=
  e.map fun
    | .field f => .field { f with level := f.level + levels }
    | e => e

/-- What a name means, if anything, in scopes from a level on. -/
def Scopes.find? (n : Name) (full : String) : (level : Nat) → Scopes → Except SqlError (Option Expr)
  | _, [] => return none
  | level, s :: outer => do
    match ← s.find? 0 n full with
    | some e => return some (e.shift level)
    | none => Scopes.find? n full (level + 1) outer

/-! ## Formulas -/

/-- Where a formula stands. -/
inductive Position
  /-- In a statement. -/
  | statement
  /-- Among the rules of a table. -/
  | check
  | generated
  | index
  | partialIndex
  deriving DecidableEq, Repr, Inhabited

/-- What a place of formulas is called, if it does not admit all. -/
def Position.label? : Position → Option String
  | statement => none
  | check => some "CHECK constraints"
  | generated => some "generated columns"
  | index => some "index expressions"
  | partialIndex => some "partial index WHERE clauses"

/-- What is known where a formula stands. -/
structure Surroundings where
  scopes : Scopes
  position : Position := .statement
  /-- Whether functions of all rows of a group may stand here. -/
  admitsTotals : Bool := false
  /-- Whether functions of the rows around a row may stand here. -/
  admitsWindows : Bool := false
  /-- Whether functions need not be known yet. -/
  isDefinition : Bool := false
  deriving Repr, Inhabited

namespace Surroundings

variable (s : Surroundings)

/-- Refuse what cannot stand in a place. -/
def prohibit (what : String) : Except SqlError Unit :=
  match s.position.label? with
  | some label => throw (.prohibited what label)
  | none => return

/-- A name as messages tell it. -/
def fullName (n : Name) : String :=
  ".".intercalate (n.schema.toList ++ n.table.toList ++ [n.column])

/-- What a name means. A quoted name that means nothing is a text. -/
def resolveName (n : Name) : Except SqlError Expr := do
  if n.table.isSome && (s.position = .index || s.position = .generated) then
    s.prohibit "the \".\" operator"
  let full := fullName n
  match ← Scopes.find? n full 0 s.scopes with
  | some e =>
    if !s.admitsTotals && e.any Expr.isTotal then throw (.misusedAlias n.column)
    if !s.admitsWindows && e.any Expr.isOver then throw (.misusedWindowAlias n.column)
    if e.width ≠ 1 then throw .misusedRow
    return e
  | none =>
    if n.table.isNone && n.isQuoted then return .text n.column
    if n.table.isNone && n.column.toLower = "true" then return .truth true
    if n.table.isNone && n.column.toLower = "false" then return .truth false
    throw (.noColumn full n.place)

/-- How a function is used. -/
structure Use where
  function : String
  args : List Expr
  order : List SortTerm := []
  filter : Option Expr := none
  isDistinct : Bool := false
  window : Option Window := none

/-- Whether a window asks for values at a distance, of which there must be one in its order. -/
def isUnordered (w : Window) : Bool :=
  let isFar := fun
    | FrameBound.before _ | .behind _ => true
    | _ => false
  w.order.length ≠ 1 && w.frame.any fun f => f.unit = .range && (isFar f.first || isFar f.last)

/-- The first function of several rows among the arguments of another one, with its window if it has
one. -/
def nested? (u : Use) : Option (String × Bool) :=
  let parts := u.args ++ u.order.map (·.key) ++ u.filter.toList ++
    u.window.elim [] fun w => w.parts ++ w.order.map (·.key)
  parts.findSome? fun e => (e.collect (fun
    | .total f _ _ _ _ => [(f, false)]
    | .windowed f _ _ _ => [(f, true)]
    | _ => []) fun _ => []).find? fun (_, isOver) => isOver || u.window.isNone

/-- Whether a formula is a number with a point from 0.0 to 1.0. -/
def isChance : Expr → Bool
  | .number t =>
    let n := NumberText.ofChars t.toList
    n.isReal && n.realValue ≤ 1
  | _ => false

/-- Check how a function is used. -/
def checkUse (u : Use) : Except SqlError Unit := do
  let f := u.function
  let kind := Function.kind? f.toLower u.args.length
  if Function.changing.contains f.toLower && s.position ≠ .check then
    s.prohibit "non-deterministic functions"
  match kind with
  | none => if !s.isDefinition then throw (.noFunction f)
  | some (.values, isFit) =>
    if u.window.isSome then throw (.scalarWindow f)
    if !isFit then throw (.wrongArguments f)
    match f.toLower, u.args with
    | "likelihood", [_, p] => if !isChance p then throw .badLikelihood
    | _, _ => pure ()
    if u.filter.isSome then throw (.filteredScalar f)
    if !u.order.isEmpty then throw (.orderedScalar f)
  | some (_, false) => throw (.wrongArguments f)
  | some (kind, true) =>
    if u.window.isSome && !s.admitsWindows || u.window.isNone && kind = .place then
      throw (.misusedWindow f)
    if u.window.isNone && !s.admitsTotals then throw (.misusedTotal f)
    match nested? u with
    | some (inner, true) => throw (.misusedWindow inner)
    | some (inner, false) => throw (.misusedTotal inner)
    | none => pure ()
    if u.window.any isUnordered then throw .unorderedRange
    if u.window.isSome && u.filter.isSome && kind = .place then throw .filteredWindow

/-- Check a part of a formula, before its own parts. -/
def check (e : Expr) : Except SqlError Unit := do
  match e with
  | .call function args => s.checkUse { function, args }
  | .total function isDistinct args order filter =>
    s.checkUse { function, args, order, filter, isDistinct }
  | .windowed function args filter window =>
    s.checkUse { function, args, filter, window := some window }
  | .parameter _ => s.prohibit "parameters"
  | .within _ _ | .exists _ | .scalar _ => s.prohibit "subqueries"
  | _ => return

end Surroundings

/-- Check that a formula stands for one value. -/
def Expr.checkSingle (e : Expr) : Except SqlError Unit :=
  match e with
  | .row _ => throw .misusedRow
  | .scalar q => if e.width = 1 then pure () else throw (.subqueryColumns (columnsOf q).length 1)
  | _ => pure ()

/-- Check that the parts of a formula stand for as many values as they have to. -/
def Expr.checkWidths (e : Expr) : Except SqlError Unit := do
  match e with
  | .binary op a b =>
    if !op.isComparison then
      a.checkSingle
      b.checkSingle
    else if a.width ≠ b.width then throw .misusedRow
  | .between a low high => if a.width ≠ low.width || a.width ≠ high.width then throw .misusedRow
  | .within a q =>
    let count := (columnsOf q).length
    if a.width ≠ count then throw (.subqueryColumns count a.width)
  | .unary _ a | .collate a _ | .cast a _ => a.checkSingle
  | .call _ args => args.forM checkSingle
  | .total _ _ args order pick =>
    (args ++ order.map (·.key) ++ pick.toList).forM checkSingle
  | .windowed _ args pick w =>
    (args ++ pick.toList ++ w.parts ++ w.order.map (·.key)).forM checkSingle
  | .cases operand branches otherwise =>
    (operand.toList ++ branches.flatMap (fun (a, b) => [a, b]) ++ otherwise.toList).forM checkSingle
  | .among a values => (a :: values).forM checkSingle
  | .row parts => parts.forM checkSingle
  | _ => return

/-- Put places of columns in place of names in a formula, with what does so in queries. -/
def Expr.resolve (s : Surroundings) (query : Select → Except SqlError Select) (e : Expr) :
    Except SqlError Expr :=
  e.mapM {
    enter := s.check
    query
    leave := fun e => do
      e.checkWidths
      match e with
      | .name n => s.resolveName n
      | .call f args => return .call f.toLower (Document.argumentsOf f.toLower args)
      | .total f isDistinct args order pick =>
        return .total f.toLower isDistinct (Document.argumentsOf f.toLower args) order pick
      | .windowed f args pick w =>
        return .windowed f.toLower (Document.argumentsOf f.toLower args) pick w
      | e => return e }

/-- Put places of columns in place of names in a formula without queries. -/
def Expr.resolvePlain (s : Surroundings) (e : Expr) : Except SqlError Expr :=
  e.resolve s fun q => return q

end Sql
end FlowAtlas
