import FlowAtlas.Sql.Arguments
import FlowAtlas.Sql.Scope

/-!
# Names in queries

`Select.resolve` puts places of columns in place of names in a query, the queries of views in place
of their names, and columns in place of stars. What is left names tables only. The names of the
columns of the query come with it.
-/

set_option autoImplicit false

namespace FlowAtlas
namespace Sql

/-- A query whose names are resolved, with its columns. -/
structure ResolvedQuery where
  query : Select
  columns : List ScopeColumn
  deriving Repr, Inhabited

/-- A query that has a name, and what is wrong with its use where it cannot be used. -/
structure KnownQuery where
  query : NamedQuery
  bar : Option SqlError := none
  deriving Inhabited

/-- What names of tables mean. -/
structure Catalog where
  schema : Schema
  /-- Queries that have a name, those of the innermost query first. -/
  named : List (List KnownQuery) := []
  /-- The name of the query that is looked into, if it has one. -/
  defining : Option NamedQuery := none
  /-- The columns of the row that makes other rows. -/
  latest : List ScopeColumn := []
  /-- The views that are being looked into. -/
  opened : List String := []
  /-- Whether names are those of a definition. -/
  isDefinition : Bool := false
  /-- Whether the query stands in a view or in a query with a name. -/
  isWithin : Bool := false
  /-- Whether the query is that of a view. -/
  isView : Bool := false
  deriving Inhabited

/-! ## Names of columns -/

/-- A name without a number behind a colon. -/
def nameStem (name : String) : String :=
  let cs := name.toList.reverse
  let rest := cs.dropWhile Char.isDigit
  match rest with
  | ':' :: stem => if rest.length < cs.length then String.ofList stem.reverse else name
  | _ => name

/-- Names made different by numbers behind them. -/
def distinctNames (names : List String) : List String :=
  names.foldl (fun known name =>
    let isKnown := fun s => known.any (sameName s)
    let numbered := fun n : Nat => nameStem name ++ ":" ++ Numeral.decimal (n + 1)
    let free := ((List.range (known.length + 1)).map numbered).find? (!isKnown ·)
    known ++ [if isKnown name then free.getD name else name]) []

/-- Functions whose value is that of their first argument, of which they tell something else. -/
def hints : List String := ["likelihood", "likely", "unlikely"]

/-- A formula without what asks for a collation. -/
def Expr.core : Expr → Expr
  | .collate e _ => e.core
  | e => e

/-- A formula without what asks for a collation and what tells how often it holds. -/
def Expr.stem : Expr → Expr
  | .collate e _ => e.stem
  | .call f (e :: args) => if hints.contains f.toLower then e.stem else .call f (e :: args)
  | e => e

/-- The name of the column that a formula is in a view, or its spelling. -/
def columnName (scopes : Scopes) (e : Expr) (spelling : String) : String :=
  match e.stem with
  | .field f =>
    let t := (scopes[f.level]?.bind fun s => s.tables[f.source]?).getD default
    (f.column.elim t.numberName fun c => (t.columns[c]?).elim spelling (·.name))
  | _ => spelling

/-- The name that a formula is, as it is written, or its spelling. -/
def writtenName (e : Expr) (spelling : String) : String :=
  match e.core with
  | .name n => n.column
  | _ => spelling

/-- The type of a column that a formula is, as its table tells it. -/
def ownType? (scopes : Scopes) : Expr → Option String
  | .field f =>
    let t := (scopes[f.level]?.bind fun s => s.tables[f.source]?).getD default
    f.column.elim (some "INTEGER") fun c => (t.columns[c]?).map (·.type)
  | _ => none

/-- The type of a column that a formula makes, where it has an affinity. -/
def madeType (scopes : Scopes) (e : Expr) (affinity : Option Affinity) : String :=
  let isCast := match e with
    | .cast _ _ => true
    | _ => false
  match (ownType? scopes e).filter fun t => t ≠ "" && affinity = some (Affinity.ofType t), affinity with
  | some t, _ => t
  | none, none => ""
  | none, some .text => "TEXT"
  | none, some .blob => "BLOB"
  | none, some .numeric => "NUM"
  | none, some .integer => if isCast then "NUM" else "INT"
  | none, some .real => if isCast then "NUM" else "REAL"

/-- The column that a formula makes. -/
def resultColumn (scopes : Scopes) (e : Expr) (name : String) : ScopeColumn :=
  let affinity := e.affinity?
  { name, affinity, collation := some (e.collation?.getD .binary)
    type := madeType scopes e affinity }

/-- Columns that several queries make, with the types that the first one tells. -/
def withTypes (scopes : Scopes) (values : List Expr) (columns : List ScopeColumn) :
    List ScopeColumn :=
  columns.zipIdx.map fun (c, i) =>
    { c with type := madeType scopes (values.getD i default) c.affinity }

/-! ## Parts of queries -/

/-- The formulas of the columns of a query, with their names. -/
def ResultColumn.parts : List ResultColumn → List (Expr × String)
  | [] => []
  | .all _ :: rest => parts rest
  | .value e asName spelling :: rest => (e, asName.getD spelling) :: parts rest

/-- The formulas of the columns of a query. -/
def Core.values (c : Core) : List Expr := (ResultColumn.parts c.columns).map (·.1)

/-- Whether rows of a query stand for groups of rows. -/
def Core.isGrouped (c : Core) : Bool :=
  !c.groups.isEmpty || c.values.any (·.any Expr.isTotal) || c.having.any (·.any Expr.isTotal)

/-- A column for each column of the tables in view. -/
def starColumns (s : Scope) (table : Option String) : List ResultColumn :=
  s.tables.zipIdx.flatMap fun (t, i) =>
    if table.all (sameName t.name ·) then
      t.columns.zipIdx.filterMap fun (c, j) =>
        if c.isHidden || table.isNone && 0 < i && t.shared.any (sameName · c.name) then none
        else
          let n : Name := { column := c.name }
          let e := if table.isNone then s.eitherSide? 0 n else none
          some (.value (e.getD (.field (t.field 0 i j))) (some c.name) "")
    else []

/-- The columns that a table shares with the tables before it. -/
def sharedColumns (before : List ScopeTable) (t : ScopeTable) (src : Source) :
    Except SqlError (List String) := do
  let isBefore := fun name => before.any fun u => (u.column? name).isSome
  match src.shared with
  | some names =>
    for name in names do
      if !isBefore name || (t.column? name).isNone then throw (.noSharedColumn name)
    return names
  | none =>
    let own := t.columns.filter fun c => !c.isHidden
    return if src.join.isNatural then (own.map (·.name)).filter isBefore else []

/-- The conditions that shared columns make. -/
def sharedConditions (before : List ScopeTable) (t : ScopeTable) (names : List String) :
    List Expr :=
  names.filterMap fun name =>
    let left := (Scope.fields ⟨before, [], false⟩ 0 { column := name }).head?
    match left, t.column? name with
    | some f, some c => some (.binary .equal (.field f) (.field (t.field 0 before.length c)))
    | _, _ => none

/-- The short whole number that a formula is, if it is one. -/
def wholeLiteral? : Expr → Option Int
  | .number t => (t.toNat?.filter (· < Nat.pow 2 31)).map Int.ofNat
  | .unary .negative e => (wholeLiteral? e).map (-·)
  | .unary .positive e => wholeLiteral? e
  | _ => none

/-- A formula with another one in place of what stands within what asks for a collation. -/
def Expr.withCore : Expr → Expr → Expr
  | .collate e c, new => .collate (e.withCore new) c
  | _, new => new

/-- The formula that a name without a table stands for among those that were given names. -/
def aliased? (aliases : List (String × Expr)) (e : Expr) : Option (String × Expr) :=
  match e.core with
  | .name n => if n.table.isNone then aliases.find? (sameName ·.1 n.column) else none
  | _ => none

/-- A formula whose windows take over what windows with names tell. -/
def Expr.withWindows (known : List (String × Window)) (e : Expr) : Except SqlError Expr :=
  e.mapM {
    enter := fun _ => pure ()
    query := pure
    leave := fun
      | .windowed f args pick w =>
        match Grammar.chained known w with
        | .ok w => return .windowed f args pick w
        | .error e =>
          let isPlace := (Function.kind? f.toLower args.length).any (·.1 = .place)
          if w.isBase then throw e
          else if Surroundings.isUnordered w then throw .unorderedRange
          else if isPlace && pick.isSome then throw .filteredWindow
          else throw e
      | e => return e }

/-! ## Queries -/

/-- What is done to a query that stands in a formula or among the tables of another one, given what
names of tables mean and the tables in view. -/
abbrev QueryResolver := Catalog → Scopes → Select → Except SqlError ResolvedQuery

namespace Catalog

variable (c : Catalog) (inner : QueryResolver)

/-- A table of a query whose names are resolved, and the table that it brings into view. -/
structure ResolvedSource where
  origin : Origin
  table : ScopeTable

/-- The columns of a query that are columns of documents, each with the one that has its values as
parts of documents. -/
def partsIn (q : Select) : List (Nat × Expr) :=
  let isPlain := q.rest.isEmpty && q.order.isEmpty && !q.first.isDistinct && !q.first.isGrouped
  if !isPlain then []
  else
    q.first.values.zipIdx.filterMap fun
      | (.field f, i) => f.part.map fun c => (i, .field { f with column := some c, part := none })
      | _ => none

/-- A query in place of a table. Behind its columns stand those that have the values of others as
parts of documents. -/
def sourceOfQuery (name : String) (isBase : Bool) (columns : Option (List String))
    (q : ResolvedQuery) : ResolvedSource :=
  let names := columns.getD (q.columns.map (·.name))
  let parts := partsIn q.query
  let place := fun i => (parts.findIdx? (·.1 = i)).map (· + q.columns.length)
  let columns := (q.columns.zip (distinctNames names)).zipIdx.map fun ((col, name), i) =>
    { col with name, part := place i }
  let hidden := parts.map fun _ => { name := "", isHidden := true : ScopeColumn }
  let added := parts.map fun (_, e) => ResultColumn.value e none ""
  let first := { q.query.first with columns := q.query.first.columns ++ added }
  ⟨.query { q.query with first }, { name, isBase, columns := columns ++ hidden }⟩

/-- A view in place of a table. -/
def sourceOfView (v : ViewDefinition) (name : String) : Except SqlError ResolvedSource := do
  if c.opened.any (sameName · v.name) then throw (.circularView v.name)
  let within : Catalog :=
    { schema := c.schema, opened := v.name :: c.opened, isDefinition := true, isWithin := true
      isView := true }
  match inner within [] v.query with
  | .error e => throw e.withoutPlace
  | .ok q =>
    match v.columns with
    | some names =>
      if names.length ≠ q.columns.length then
        throw (.viewColumns names.length v.name q.columns.length)
    | none => pure ()
    return sourceOfQuery name true v.columns q

/-- A function in place of a table, whose arguments are resolved later. -/
def sourceOfFunction (t : TableFunction) (function : String) (args : List Expr) (asName : String) :
    ResolvedSource :=
  let columns := t.columns.zipIdx.map fun (name, i) =>
    let part := (t.parts.find? (·.1 = i)).map (·.2)
    { name, affinity := some .blob, part : ScopeColumn }
  let hidden := (t.givenColumns ++ t.parts.map fun _ => "").map fun name =>
    { name, affinity := some .blob, isHidden := true : ScopeColumn }
  ⟨.function function args,
    { name := asName, isBase := true, columns := columns ++ hidden, hasNumbers := true }⟩

/-- What a table of the database or a view is. -/
def sourceOfTable (schema : Option String) (name : String) (asName : String) :
    Except SqlError ResolvedSource := do
  let full := match schema with
    | some s => s ++ "." ++ name
    | none => if c.isDefinition then "main." ++ name else name
  let isThere := (c.schema.anyTable? name).isSome || (c.schema.view? name).isSome
  match TableFunction.ofName? name with
  | some t => if !isThere then return sourceOfFunction t name [] asName
  | none => if !isThere && c.isDefinition then TableFunction.checkAdmitted name
  if schema.any (!sameName · "main") then throw (.noTable full)
  match c.schema.foreign? name, c.schema.anyTable? name, c.schema.view? name with
  | some module, _, _ => throw (.noModule module)
  | none, some t, _ => return ⟨.table none t.name, t.inScope asName⟩
  | none, none, some v => c.sourceOfView inner v asName
  | none, none, none => throw (.noTable full)

/-- The query of a name, with what names mean in its place. -/
def named? (name : String) : List (List KnownQuery) → Option (KnownQuery × List (List KnownQuery))
  | [] => none
  | known :: outer =>
    match known.find? (sameName ·.query.name name) with
    | some k => some (k, known :: outer)
    | none => named? name outer

/-- Let a query not be used by its name, for a reason. -/
def barring (name : String) (e : SqlError) : List (List KnownQuery) → List (List KnownQuery)
  | [] => []
  | known :: outer =>
    if known.any (sameName ·.query.name name) then
      (known.map fun k => if sameName k.query.name name then { k with bar := some e } else k) :: outer
    else known :: barring name e outer

/-- A query with a name in place of a table. -/
def sourceOfNamed (outer : Scopes) (asName : String) (k : KnownQuery)
    (named : List (List KnownQuery)) : Except SqlError ResolvedSource := do
  let n := k.query
  match k.bar with
  | some e => throw e
  | none => pure ()
  let within :=
    { c with
      named := barring n.name (.circular n.name) named, defining := some n, isWithin := true
      isView := false }
  let q ← inner within outer n.query
  if !n.columns.isEmpty && q.columns.length ≠ n.columns.length then
    throw (.namedColumns n.name q.columns.length n.columns.length)
  return sourceOfQuery asName false (if n.columns.isEmpty then none else some n.columns) q

/-- What a table of a query is. -/
def sourceOf (outer : Scopes) (src : Source) : Except SqlError ResolvedSource := do
  match src.origin with
  | .table schema name =>
    let asName := src.asName.getD name
    match schema, named? name c.named with
    | none, some (k, named) =>
      let found ← c.sourceOfNamed inner outer asName k named
      match src.use with
      | .only index => throw (.noIndex ("\"" ++ index ++ "\""))
      | _ => return found
    | _, _ =>
      let found ← c.sourceOfTable inner schema name asName
      match src.use with
      | .only index =>
        let isOwn := (c.schema.tableOfIndex? index).any (sameName ·.name name)
        if isOwn then return found else throw (.noIndex index)
      | _ => return found
  | .query q =>
    return sourceOfQuery (src.asName.getD "") false none (← inner { c with isView := false } outer q)
  | .function name args =>
    let isTable := (c.schema.anyTable? name).isSome || (c.schema.view? name).isSome ||
      (named? name c.named).isSome
    if isTable then throw (.noTableFunction name)
    match TableFunction.ofName? name with
    | some t => return sourceOfFunction t name args (src.asName.getD name)
    | none =>
      if c.isDefinition then TableFunction.checkAdmitted name
      throw (.noTable (if c.isDefinition then "main." ++ name else name))
  | .latest => return ⟨.latest, { name := src.asName.getD "", columns := c.latest }⟩
  | .recursion _ _ _ => throw .unfit

/-- The tables of a query, with what they share, and their conditions as they are written. -/
def sourcesOf (outer : Scopes) (sources : List Source) :
    Except SqlError (List (Source × List Expr) × Scope) := do
  let mut done : List (Source × List Expr) := []
  let mut tables : List ScopeTable := []
  for src in sources do
    let found ← c.sourceOf inner outer src
    let shared ← sharedColumns tables found.table src
    let conditions := sharedConditions tables found.table shared
    done := done ++ [({ src with origin := found.origin, shared := none }, conditions)]
    tables := tables ++ [{ found.table with shared }]
  return (done, { tables, mayLackLeft := sources.any (·.join.keepsRight) })

/-- What is known of where a formula of a query stands. -/
def surroundings (scopes : Scopes) (admitsTotals : Bool) (admitsWindows : Bool := false) :
    Surroundings :=
  { scopes, admitsTotals, admitsWindows }

/-- Resolve a formula of a query. -/
def formula (s : Surroundings) (e : Expr) : Except SqlError Expr :=
  e.resolve s fun q => do
    let q ← inner { c with isView := false } s.scopes q
    return q.query

/-- Resolve the columns of a query. -/
def resultColumns (scopes : Scopes) (windows : List (String × Window))
    (columns : List ResultColumn) : Except SqlError (List ResultColumn) := do
  let own := scopes.headD ⟨[], [], false⟩
  let parts ← columns.mapM fun
    | .all table => do
      if own.tables.isEmpty then throw .noTables
      match table with
      | some name => if !own.tables.any (sameName ·.name name) then throw (.noTable name)
      | none => pure ()
      return starColumns own table
    | .value e asName spelling => do
      let resolved ← c.formula inner (surroundings scopes true true) (← e.withWindows windows)
      let name := if c.isView then columnName scopes resolved spelling else writtenName e spelling
      return [.value resolved (some (asName.getD name)) spelling]
  return parts.flatten

/-- The formula that a term of an order or of groups stands for. -/
def term (s : Surroundings) (clause : String) (columns : List ResultColumn)
    (aliases : List (String × Expr)) (place : Nat) (e : Expr) : Except SqlError Expr := do
  let parts := ResultColumn.parts columns
  let named := (aliased? aliases e).map (·.2)
  match named, wholeLiteral? e.core with
  | some found, _ => return e.withCore found
  | none, some i =>
    if i < 1 || (parts.length : Int) < i then
      throw (.termOutOfRange (place + 1) clause parts.length)
    return e.withCore (parts.getD (i.toNat - 1) default).1
  | none, none => c.formula inner s e

/-- The names that are given to formulas in a query. -/
def aliasesOf (original resolved : List ResultColumn) : List (String × Expr) :=
  let given := original.flatMap fun
    | .value _ (some a) _ => [a]
    | _ => []
  (ResultColumn.parts resolved).filterMap fun (e, name) =>
    if given.contains name then some (name, e) else none

/-- Tables in view whose values are no parts of documents. -/
def withoutParts (s : Scope) : Scope :=
  { s with tables := s.tables.map fun t =>
      { t with columns := t.columns.map fun col => { col with part := none } } }

/-- Whether the rows of a query are kept before its formulas are told, so that it is not known which
values are documents. -/
def keepsRows (q : Core) (order : List SortTerm) : Bool :=
  let values := q.columns.flatMap fun
    | .value e _ _ => [e]
    | .all _ => []
  !q.groups.isEmpty || (values ++ order.map (·.key)).any (·.any Expr.isOver)

/-- The functions of all rows of a group in a formula. -/
def totalsIn (e : Expr) : List String :=
  e.collect (fun
    | .total f _ _ _ _ => [f]
    | _ => []) fun _ => []

/-- Resolve one of the queries of a query, and what its rows are sorted by, if it is the only one. -/
def coreOf (outer : Scopes) (q : Core) (order : List SortTerm) :
    Except SqlError (Core × Scopes × List SortTerm) := do
  let (sources, scope) ← c.sourcesOf inner outer q.sources
  let scope := if keepsRows q order then withoutParts scope else scope
  let scopes := scope :: outer
  let columns ← c.resultColumns inner scopes q.windows q.columns
  let aliases := aliasesOf q.columns columns
  let own := { scope with aliases } :: outer
  let isGrouped := !q.groups.isEmpty || (ResultColumn.parts columns).any (·.1.any Expr.isTotal)
  let plain := surroundings own isGrouped
  let grouped := surroundings own true
  let sorted := surroundings own true true
  if q.having.isSome && !isGrouped then throw .misplacedHaving
  let having ← q.having.mapM (c.formula inner grouped)
  let sources ← sources.mapM fun (src, conditions) => do
    let condition ← src.condition.mapM (c.formula inner plain)
    return { src with condition := allOf (conditions ++ condition.toList) }
  let filter ← q.filter.mapM (c.formula inner plain)
  let sources ← sources.mapM fun src => do
    match src.origin with
    | .function name args =>
      return { src with origin := .function name (← args.mapM (c.formula inner plain)) }
    | _ => return src
  let (sources, filter) := Source.given sources filter
  let order ← order.zipIdx.mapM fun (t, i) => do
    let key ← t.key.withWindows q.windows
    return { t with key := ← c.term inner sorted "ORDER" columns aliases i key }
  let groups ← q.groups.zipIdx.mapM fun (e, i) => c.term inner grouped "GROUP" columns [] i e
  if groups.any (·.any Expr.isTotal) then throw .groupedTotals
  let core : Core := { q with columns, sources, filter, groups, having, windows := [] }
  let ungrouped := sources.filterMap (·.condition) ++ filter.toList ++
    if isGrouped then [] else order.map (·.key)
  match (ungrouped.flatMap totalsIn).head? with
  | some f => throw (.misplacedTotal f)
  | none => pure ()
  (core.values ++ filter.toList ++ groups ++ having.toList ++ order.map (·.key)).forM
    Expr.checkSingle
  let isOdd := fun e : Expr => e.any fun
    | .total _ true args _ _ => args.length ≠ 1
    | _ => false
  if (core.values ++ core.having.toList ++ order.map (·.key)).any isOdd then
    throw .distinctArguments
  for src in sources do
    match src.origin with
    | .function name args =>
      args.forM Expr.checkSingle
      let most := (TableFunction.ofName? name).elim 0 (·.givenColumns.length)
      if most < args.length then throw (.manyArguments name most)
    | _ => pure ()
  return (core, scopes, order)

/-- One of several queries whose rows are put together, as it is written and with its names
resolved. -/
structure ResolvedCore where
  original : Core
  core : Core
  catalog : Catalog
  scopes : Scopes

/-- Resolve one of several queries. -/
def resolveCore (outer : Scopes) (q : Core) : Except SqlError ResolvedCore := do
  let (core, scopes, _) ← c.coreOf inner outer q []
  return { original := q, core, catalog := c, scopes }

/-- The place of the column of several queries that a term of their order means. -/
def compoundTerm (cores : List ResolvedCore) (place : Nat) (e : Expr) : Except SqlError Nat := do
  let width := (cores.head?.elim [] (·.core.columns)).length
  match wholeLiteral? e.core with
  | some i =>
    if i < 1 || (width : Int) < i then throw (.termOutOfRange (place + 1) "ORDER" width)
    return i.toNat - 1
  | none =>
    let found := cores.findSome? fun r =>
      let parts := ResultColumn.parts r.core.columns
      let aliases := aliasesOf r.original.columns r.core.columns
      let named := (aliased? aliases e).bind fun a => parts.findIdx? (·.2 = a.1)
      named.or <|
        match r.catalog.formula inner (surroundings r.scopes true) e.core with
        | .ok f => parts.findIdx? fun (g, _) => g == f
        | .error _ => none
    match found with
    | some i => return i
    | none => throw (.termMismatch (place + 1))

/-- The name of a way to put rows together. -/
def checkWidths (rest : List (CompoundOp × Core)) (width : Nat) : Except SqlError Unit :=
  rest.forM fun (op, r) =>
    if r.columns.length ≠ width then throw (.columnCounts (Grammar.compoundName op)) else pure ()

/-- The columns by which rows of several queries are told apart. -/
def compoundColumns (cores : List Core) : List ScopeColumn :=
  let parts := cores.map fun r => ResultColumn.parts r.columns
  let names := (parts.headD []).map (·.2)
  names.zipIdx.map fun (name, i) =>
    let es := parts.map fun ps => (ps.getD i default).1
    { name, affinity := Expr.commonAffinity? es, collation := es.findSome? Expr.collation? }

/-- How the rows of several queries are told apart. -/
def collationsOf (cores : List Core) : List Collation :=
  (compoundColumns cores).map fun col => col.collation.getD .binary

/-- Names for columns that have none, or that of a truth value. -/
def numberColumns (columns : List ScopeColumn) : List ScopeColumn :=
  columns.zipIdx.map fun (col, i) =>
    if ["", "true", "false"].contains col.name.toLower then
      { col with name := "column" ++ Numeral.decimal (i + 1) }
    else col

/-- The columns that several queries make together, which are compared as those of the first. -/
def madeColumns (cores : List Core) : List ScopeColumn :=
  let first := (cores.head?.elim [] (·.values)).map fun e => e.collation?.getD .binary
  numberColumns ((compoundColumns cores).zipIdx.map fun (col, i) =>
    { col with collation := first[i]? })

/-- Several queries whose names are resolved as one, with the end of the query that they are of. -/
def putTogether (q : Select) (cores : List ResolvedCore) : Except SqlError ResolvedQuery := do
  let limit ← q.limit.mapM (c.formula inner (surroundings [] false))
  let offset ← q.offset.mapM (c.formula inner (surroundings [] false))
  let resolved := cores.map (·.core)
  let first := resolved.headD default
  let rest := (q.rest.map (·.1)).zip resolved.tail
  checkWidths rest first.columns.length
  let columns := compoundColumns resolved
  let order ← q.order.zipIdx.mapM fun (t, i) => do
    let place ← compoundTerm inner cores i t.key
    let col := columns.getD place default
    let key := Expr.field { column := some place, affinity := none, collation := col.collation }
    return { t with key := t.key.withCore key }
  let made := withTypes ((cores.head?.map (·.scopes)).getD []) first.values (madeColumns resolved)
  return ⟨{ named := [], first, rest, order, limit, offset }, made⟩

/-! ## Rows that make rows -/

/-- Whether a table of a query is one of a name. -/
def isNamed (name : String) (src : Source) : Bool :=
  match src.origin with
  | .table none n => sameName n name
  | _ => false

/-- A query in which the row that makes other rows takes the place of the table of a name. -/
def withLatest (name : String) (q : Core) : Core :=
  { q with sources := q.sources.map fun src =>
      if isNamed name src then
        { src with origin := .latest, asName := some (src.asName.getD name) }
      else src }

/-- How many of the last queries of a query use it by its name. -/
def recursiveCount (name : String) (q : Select) : Except SqlError Nat := do
  match q.rest.getLast? with
  | none => return 0
  | some (op, _) =>
    if op ≠ .union && op ≠ .unionAll then return 0
    let uses := (q.rest.reverse.takeWhile (·.1 = op)).map fun (_, r) =>
      (r.sources.filter (isNamed name)).length
    let uses := uses.takeWhile (0 < ·)
    if uses.any (1 < ·) then throw (.manyReferences name)
    return uses.length

/-- A query whose only table is one of rows that make rows. -/
def allOfRecursion (origin : Origin) (columns : List ScopeColumn) : Select :=
  let t : ScopeTable := { name := "", columns }
  { named := [], rest := [], order := [], limit := none, offset := none
    first := {
      isDistinct := false, filter := none, groups := [], having := none, windows := []
      columns := columns.zipIdx.map fun (col, i) =>
        .value (.field (t.field 0 0 i)) (some col.name) ""
      sources := [⟨origin, none, {}, none, none, .any⟩] } }

/-- Resolve a query with a name, of which the last queries use it by its name, so many of them. The
others make the first rows. -/
def recursionOf (c : Catalog) (n : NamedQuery) (count : Nat) (outer : Scopes) (q : Select) :
    Except SqlError ResolvedQuery := do
  let own := fun named : List (List KnownQuery) =>
    if q.named.isEmpty then named else q.named.map ({ query := · }) :: named
  let first := q.first :: (q.rest.take (q.rest.length - count)).map (·.2)
  let next := (q.rest.drop (q.rest.length - count)).map fun (_, r) => withLatest n.name r
  let setup ← first.mapM ({ c with named := own c.named : Catalog }.resolveCore inner outer)
  let width := (setup.head?.elim [] (·.core.values)).length
  if !n.columns.isEmpty && width ≠ n.columns.length then
    throw (.namedColumns n.name width n.columns.length)
  let named := own (barring n.name (.manyRecursions n.name) c.named)
  let resolveNext := fun columns : List ScopeColumn =>
    next.mapM ({ c with named, latest := columns : Catalog }.resolveCore inner (⟨[], [], false⟩ :: outer))
  let named := fun columns : List ScopeColumn =>
    let names := if n.columns.isEmpty then columns.map (·.name) else n.columns
    (columns.zip (distinctNames names)).map fun (col, name) => { col with name }
  let made := named (madeColumns (setup.map (·.core)))
  let trial ← resolveNext (made.map fun col => { col with affinity := none })
  let made := named (madeColumns ((setup ++ trial).map (·.core)))
  let arms ← resolveNext made
  let whole ← { c with named := own c.named : Catalog }.putTogether inner q (setup ++ arms)
  if arms.any (·.core.isGrouped) then throw .groupedRecursion
  let isOver := fun r : ResolvedCore => r.core.values.any (·.any Expr.isOver)
  if arms.getLast?.any isOver then throw .windowedRecursion
  let arms := arms.map (·.core)
  let start : Select :=
    { whole.query with
      rest := whole.query.rest.take (q.rest.length - count), order := [], limit := none
      offset := none }
  let following : Select :=
    { whole.query with
      first := arms.headD default, rest := arms.tail.map fun r => (.unionAll, r) }
  let isDistinct := (q.rest.getLast?).any fun (op, _) => op = .union
  let columns := whole.columns
  return ⟨allOfRecursion (.recursion start following isDistinct) columns, columns⟩

/-! ## Resolving -/

/-- Whether rows that may be told apart are sorted by a collation that is asked for. The query is then
one of several queries in place of a table. -/
def isRecollated (q : Select) : Bool :=
  let asks := fun e : Expr => e.any fun
    | .collate _ _ => true
    | _ => false
  q.rest.any (·.1 ≠ .unionAll) && q.order.any (asks ·.key)

/-- Resolve a query. -/
def selectOf (outer : Scopes) (q : Select) : Except SqlError ResolvedQuery := do
  let n? := c.defining
  let c := { c with defining := none, latest := [] }
  match n? with
  | some n =>
    let count ← recursiveCount n.name q
    if 0 < count then return (← recursionOf inner c n count outer q)
  | none => pure ()
  let c := if q.named.isEmpty then c else { c with named := q.named.map ({ query := · }) :: c.named }
  if isRecollated q && !c.isWithin then
    let table := { q with named := [], order := [], limit := none, offset := none }
    inner c outer { q with named := [], rest := [], first := (Grammar.allRows (.query table)).first }
  else if q.rest.isEmpty then
    let limit ← q.limit.mapM (c.formula inner (surroundings [] false))
    let offset ← q.offset.mapM (c.formula inner (surroundings [] false))
    let (first, scopes, order) ← c.coreOf inner outer q.first q.order
    let columns := (ResultColumn.parts first.columns).map fun (e, name) =>
      resultColumn scopes e name
    return ⟨{ q with named := [], first, order, limit, offset }, numberColumns columns⟩
  else
    c.putTogether inner q (← (q.first :: q.rest.map (·.2)).mapM (c.resolveCore inner outer))

end Catalog

/-- No query is nested deeper than this. -/
def nestingLimit : Nat := 1000

/-- Resolve a query that is nested at most so deep. -/
def Select.resolveWithin : (fuel : Nat) → QueryResolver
  | 0, _, _, _ => throw .tooDeep
  | fuel + 1, c, outer, q => c.selectOf (Select.resolveWithin fuel) outer q

/-- Resolve a query. -/
def Select.resolve (c : Catalog) (outer : Scopes) (q : Select) : Except SqlError ResolvedQuery :=
  Select.resolveWithin nestingLimit c outer q

/-- Resolve a formula, with its queries. -/
def Expr.resolveIn (c : Catalog) (s : Surroundings) (e : Expr) : Except SqlError Expr :=
  c.formula (Select.resolveWithin nestingLimit) s e

end Sql
end FlowAtlas
