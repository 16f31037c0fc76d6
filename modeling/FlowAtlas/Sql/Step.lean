import FlowAtlas.Sql.Dependence

/-!
# Changes with their names resolved

A `Step` is a change of the rows of a table or view whose names are resolved. The body of a trigger
is made of steps too, where the row before a change and the row behind it are in view. Before a
statement begins, all that it may set off must make sense (`Change.check`).
-/

set_option autoImplicit false

namespace FlowAtlas
namespace Sql

open Database (Value)

/-! ## What is changed -/

/-- A table whose rows are changed, or a view, whose triggers do the work. -/
structure Target where
  name : String
  columns : List ScopeColumn
  table : Option Table := none
  /-- The rows of a view. -/
  view : Option Select := none
  deriving Inhabited

namespace Target

/-- The target in view. -/
def inScope (x : Target) : ScopeTable :=
  match x.table with
  | some t => t.inScope t.name
  | none => { name := x.name, isBase := true, columns := x.columns }

/-- A row of the target in view. -/
def rowInScope (x : Target) (name : String) : ScopeTable :=
  match x.table with
  | some t => t.rowInScope name
  | none => { name, columns := x.columns.map ({ · with affinity := none }), isHidden := true }

end Target

/-- How rows are changed, with the names of columns that get new values. -/
inductive RowEvent
  | insert
  | delete
  | update (names : List String)
  deriving DecidableEq, Repr, Inhabited

/-- Whether a trigger waits for a change. -/
def TriggerEvent.meets : TriggerEvent → RowEvent → Bool
  | .insert, .insert | .delete, .delete | .update none, .update _ => true
  | .update (some columns), .update names => columns.any fun c => names.any (sameName c)
  | _, _ => false

/-- The triggers of a table or view that wait for a change, the last one first. -/
def Schema.triggersFor (s : Schema) (x : Target) (e : RowEvent) : List TriggerDefinition :=
  (s.triggersOf x.name).filter (·.event.meets e)

/-- The rows that a trigger sees. -/
def Target.triggerScope (x : Target) (e : RowEvent) : Scope :=
  let new := x.rowInScope "new"
  let old := x.rowInScope "old"
  let tables := match e with
    | .insert => [new]
    | .delete => [old]
    | .update _ => [new, old]
  ⟨tables, [], false⟩

/-! ## Steps -/

/-- New values for columns of rows, where none stands for the number of the row. -/
structure Assignment where
  columns : List (Option Nat)
  value : Expr
  deriving Inhabited

/-- A query for rows of some tables, beside each other, with all values of each. -/
structure Beside where
  query : Select
  /-- How many values the rows of each table have, and whether their numbers stand before these. -/
  shapes : List (Bool × Nat)
  deriving Inhabited

/-- The rows of tables that stand beside each other, by their numbers and values one after another. -/
def Beside.split : List (Bool × Nat) → List Value → List SourceRow
  | [], _ => []
  | (hasNumber, width) :: rest, values =>
    let own := if hasNumber then values.tail else values
    let id := if hasNumber then values.headD .null else .null
    ⟨id, own.take width⟩ :: split rest (own.drop width)

/-- A change of rows. -/
structure Updating where
  target : Target
  resolution : Option Resolution
  /-- The columns that get new values, as they are named. -/
  names : List String
  assignments : List Assignment
  filter : Option Expr
  /-- The rows, where those of other tables stand beside them. -/
  beside : Option Beside := none
  deriving Inhabited

/-- What is done about new rows that clash with others. -/
structure UpsertStep where
  /-- The index in which they must clash, or the number of the row, if that is told. -/
  index : Option (Option Index)
  /-- How the other row is changed, if it is. -/
  change : Option Updating
  deriving Inhabited

/-- New rows. -/
structure Insertion where
  target : Target
  resolution : Option Resolution
  /-- The column of each value, where none stands for the number of the row. -/
  places : List (Option Nat)
  rows : Select
  upserts : List UpsertStep
  deriving Inhabited

/-- A change whose names are resolved. -/
inductive Step
  | insert (x : Insertion)
  | update (x : Updating)
  | delete (target : Target) (filter : Option Expr)
  | query (q : Select)
  deriving Inhabited

namespace Updating

/-- What an update of a table gives new values to, with the columns whose formulas use that. -/
def touched (x : Updating) (t : Table) : Touched :=
  let places := x.assignments.flatMap (·.columns)
  let own := places.filterMap id
  let number := places.any fun c => c.isNone || c = t.definition.numberColumn
  let step := fun known : List Nat =>
    t.columns.zipIdx.foldl (fun known (c, i) =>
      let isReached := c.formula.any fun f =>
        f.value.columns.any fun j => known.contains j || number && t.definition.numberColumn = some j
      if isReached && !known.contains i then known ++ [i] else known) known
  ⟨t.columns.foldl (fun known _ => step known) own, number⟩

end Updating

/-! ## Resolving -/

/-- Where a change stands. -/
structure ChangeContext where
  schema : Schema
  /-- The rows in view in the body of a trigger. -/
  scopes : Scopes := []
  /-- Whether it stands in the body of a trigger. -/
  isInTrigger : Bool := false

namespace ChangeContext

variable (c : ChangeContext)

/-- What names of tables mean. -/
def catalog : Catalog := { schema := c.schema, isDefinition := c.isInTrigger }

/-- Resolve a formula where a table is in view. -/
def formula (tables : List ScopeTable) (e : Expr) : Except SqlError Expr :=
  e.resolveIn c.catalog { scopes := ⟨tables, [], false⟩ :: c.scopes }

/-- The query for all rows of a table or view. -/
def allOfTable (name : String) (filter : Option Expr) : Select := {
  named := [], rest := [], order := [], limit := none, offset := none
  first := {
    isDistinct := false, groups := [], having := none, filter, columns := [.all none], windows := []
    sources := [⟨.table none name, none, {}, none, none, .any⟩] } }

/-- What is changed. A view must have a trigger for that. -/
def target (name : String) (e : RowEvent) : Except SqlError Target := do
  let full := if c.isInTrigger then "main." ++ name else name
  match c.schema.foreign? name, c.schema.table? name, c.schema.view? name with
  | some module, _, _ => throw (.noModule module)
  | none, some t, _ => return { name := t.name, columns := t.scopeColumns, table := some t }
  | none, none, some v =>
    let q ← (allOfTable v.name none).resolve { schema := c.schema } []
    let x : Target := { name := v.name, columns := q.columns, view := some q.query }
    if (c.schema.triggersFor x e).isEmpty then throw (.unchangeable v.name)
    return x
  | none, none, none =>
    if (c.schema.anyTable? name).isSome then throw (.unchangeable name)
    throw (.noTable full)

/-- The columns of the values of new rows. -/
def insertPlaces (x : Target) : Option (List String) → Except SqlError (List (Option Nat))
  | none =>
    return match x.table with
      | some t => t.definition.givenColumns.map some
      | none => (List.range x.columns.length).map some
  | some names =>
    names.mapM fun name => do
      match x.columns.findIdx? (sameName ·.name name) with
      | some i =>
        if x.table.any fun t => (t.column i).formula.isSome then throw (.formulaGiven name)
        return some i
      | none =>
        if numberNames.contains name.toLower && x.table.all (·.hasNumbers) then return none
        throw (.noTableColumn x.name name)

/-- The column that gets a new value. -/
def assignedColumn (x : Target) (name : String) : Except SqlError (Option Nat) := do
  match x.columns.findIdx? (sameName ·.name name) with
  | some i =>
    if x.table.any fun t => (t.column i).formula.isSome then throw (.formulaGiven name)
    return some i
  | none =>
    if numberNames.contains name.toLower && x.table.any (·.hasNumbers) then return none
    throw (.noColumn name none)

/-- New values of columns, by formulas that are resolved in a way. -/
def assignments (x : Target) (resolve : Expr → Except SqlError Expr)
    (changes : List (List String × Expr)) : Except SqlError (List Assignment) :=
  changes.mapM fun (names, e) => do
    let e ← resolve e
    let columns ← names.mapM (assignedColumn x)
    match e with
    | .row parts => if parts.length ≠ names.length then throw .misusedRow
    | _ => pure ()
    return ⟨columns, e⟩

/-- A table that keeps the order in which it has its rows: a query with a limit that leaves none out
is not merged with others. -/
def inOrder (s : Source) : Source :=
  match s.origin with
  | .query q =>
    let all := q.limit.getD (.unary .negative (.number "1"))
    if q.order.isEmpty then s else { s with origin := .query { q with limit := some all } }
  | _ => s

/-- A change of rows beside which those of other tables stand. If that is a single table, its last
rows count. -/
def updateBeside (x : Target) (resolution : Option Resolution)
    (changes : List (List String × Expr)) (sources : List Source) (filter : Option Expr) :
    Except SqlError Updating := do
  let all := allOfTable x.name filter
  let sources := if sources.length = 1 then sources.map inOrder else sources
  let core := { all.first with columns := [], sources := all.first.sources ++ sources }
  let inner := Select.resolveWithin nestingLimit
  let (core, scopes, _) ← c.catalog.coreOf inner c.scopes core []
  let tables := (scopes.headD ⟨[], [], false⟩).tables
  let surroundings : Surroundings := { scopes }
  let assignments ← assignments x (c.catalog.formula inner surroundings) changes
  let fields := tables.zipIdx.flatMap fun (t, i) =>
    let number := if t.hasNumbers then [Expr.field { source := i, column := none }] else []
    number ++ (List.range t.columns.length).map fun j => .field (t.field 0 i j)
  let columns := fields.map fun e => ResultColumn.value e none ""
  let query := { all with first := { core with columns } }
  let shapes := tables.map fun t => (t.hasNumbers, t.columns.length)
  return {
    target := x, resolution, names := changes.flatMap (·.1), assignments, filter := none
    beside := some { query, shapes } }

/-- The index in which a new row must clash, by the columns that are named. -/
def upsertIndex (t : Table) (terms : List SortTerm) (filter : Option Expr) :
    Except SqlError (Option Index) := do
  let keys ← terms.mapM fun term => c.formula [t.inScope t.name] term.key
  let filter ← filter.mapM (c.formula [t.inScope t.name])
  let isNumber := match keys.map Expr.core with
    | [.field f] => t.hasNumbers && (f.column.isNone || f.column = t.definition.numberColumn)
    | _ => false
  if isNumber then return none
  let isOf := fun (p : IndexPart) (e : Expr) =>
    let isSame := match e.core.column?, p.value.column? with
      | some c, some d => c == d
      | _, _ => e.core == p.value
    isSame && e.askedCollation?.all (· = p.collation)
  let isFit := fun x : Index =>
    x.isUnique && x.size = keys.length && (x.filter.all fun f => filter.any (· == f)) &&
      (x.parts.take x.size).all fun p => keys.any (isOf p)
  match t.indexes.find? isFit with
  | some x => return some x
  | none => throw .misplacedUpsert

/-- What is done about new rows that clash with others. -/
def upsert (x : Target) (resolution : Option Resolution) (u : Upsert) :
    Except SqlError UpsertStep := do
  match x.table with
  | none => throw .misplacedUpsert
  | some t =>
    let index ← u.target.mapM fun terms => c.upsertIndex t terms u.targetFilter
    let tables := [t.inScope t.name, t.rowInScope "excluded"]
    let change ← u.changes.mapM fun changes => do
      return {
        target := x, resolution, names := changes.flatMap (·.1)
        assignments := ← assignments x (c.formula tables) changes
        filter := ← u.filter.mapM (c.formula tables) : Updating }
    return ⟨index, change⟩

end ChangeContext

/-- Resolve the names in a change. -/
def Change.resolve (c : ChangeContext) : Change → Except SqlError Step
  | .insert resolution table columns rows upserts => do
    let x ← c.target table .insert
    let places ← ChangeContext.insertPlaces x columns
    let q ← rows.resolve c.catalog c.scopes
    if q.columns.length ≠ places.length then
      if columns.isSome then throw (.givenCounts q.columns.length places.length)
      throw (.tableCounts x.name places.length q.columns.length)
    let upserts ← upserts.mapM (c.upsert x resolution)
    return .insert { target := x, resolution, places, rows := q.query, upserts }
  | .update resolution table changes sources filter => do
    let names := changes.flatMap (·.1)
    let x ← c.target table (.update names)
    if !sources.isEmpty then
      return .update (← c.updateBeside x resolution changes sources filter)
    let assignments ← ChangeContext.assignments x (c.formula [x.inScope]) changes
    let filter ← filter.mapM (c.formula [x.inScope])
    return .update { target := x, resolution, names, assignments, filter }
  | .delete table filter => do
    let x ← c.target table .delete
    return .delete x (← filter.mapM (c.formula [x.inScope]))
  | .select q => do
    return .query (← q.resolve c.catalog c.scopes).query

/-! ## What a change may set off -/

/-- What a search for what may be set off has met. -/
structure Met where
  /-- Triggers by their names, and what rules do about some columns of a table. -/
  keys : List (String × List Nat × Bool) := []
  /-- Tables that get new rows under numbers that are never used again, the last one first. -/
  counted : List Table := []
  deriving Inhabited

/-- A search for what may be set off. -/
abbrev Reach := StateT Met (Except SqlError)

/-- Whether the rules about rows that depend on others make sense where a table changes. -/
def Schema.checkRules (s : Schema) (t : Table) (touched : Option Touched) (isAlone : Bool) :
    Except SqlError Unit := do
  for p in t.definition.parents do
    if p.isTouched t touched then
      match s.table? p.table with
      | none => throw (.noTable p.table)
      | some parent => if (p.key? parent).isNone then throw (.parentMismatch t.name p.table)
  let isUpdate := touched.isSome && s.isLinked t touched
  for (child, p) in s.childrenOf t.name do
    if isUpdate || touched.isNone && (p.isDeferred || !isAlone) then
      if (p.key? t).isNone then throw (.parentMismatch child.name t.name)

namespace Met

/-- Take a table into account that gets new rows. -/
def count (m : Met) (t : Table) : Met :=
  if t.definition.isCounted && !m.counted.any (·.name = t.name) then
    { m with counted := t :: m.counted }
  else m

end Met

namespace Step

/-- What is changed, and how. -/
def event? : Step → Option (Target × RowEvent)
  | insert x => some (x.target, .insert)
  | update x => some (x.target, .update x.names)
  | delete x _ => some (x, .delete)
  | query _ => none

/-- What stays of the rows, if they stay. -/
def touched? : Step → Option Touched
  | update x => x.target.table.map x.touched
  | _ => none

/-- Whether rows that are put into a table or changed may make others go. -/
def mayReplace (t : Table) : Step → Bool
  | insert x =>
    let asks := fun own : Option Resolution => (x.resolution.or own) = some .replace
    let isNumber := fun c : Option Nat => c.isNone || c = t.definition.numberColumn
    x.places.any isNumber && asks t.definition.numberResolution ||
      t.indexes.any fun i => i.isUnique && asks i.resolution
  | update x =>
    let d := x.touched t
    let isTouched := fun i : Index =>
      let parts := if i.isTable then i.parts.take i.size else i.parts
      (parts.map (·.value) ++ i.filter.toList).any fun e => e.columns.any (d.holds t)
    let asks := fun own : Option Resolution => (x.resolution.or own) = some .replace
    d.number && asks t.definition.numberResolution ||
      t.indexes.any fun i => i.isUnique && asks i.resolution && (d.number || isTouched i)
  | _ => false

/-- Whether a step puts in one row that is told in full, and changes no other one. -/
def isSingle (s : Schema) : Step → Bool
  | insert x =>
    let isPlain := fun u : Updating =>
      (s.triggersFor u.target (.update u.names)).isEmpty &&
        u.target.table.all fun t => !s.isLinked t (some (u.touched t))
    x.rows.rest.isEmpty && x.rows.first.sources.isEmpty &&
      x.upserts.all (fun u => u.change.all isPlain) &&
      (s.triggersFor x.target .insert).isEmpty && !(x.target.table.any (mayReplace · (insert x)))
  | _ => false

/-- The updates of rows that new ones clash with. -/
def updates : Step → List Step
  | insert x => (x.upserts.filterMap (·.change)).map update
  | _ => []

end Step

/-- Whether all that a change may set off makes sense, in so many stages. -/
def Change.checkWithin (s : Schema) (isInTrigger : Bool) (scopes : Scopes) :
    (fuel : Nat) → Change → Reach Unit
  | 0, _ => return ()
  | fuel + 1, change => do
    let step ← (change.resolve { schema := s, scopes, isInTrigger } : Except SqlError Step)
    let setOff := fun (x : Target) (e : RowEvent) (key : String × List Nat × Bool)
        (tr : TriggerDefinition) => do
      if !(← get).keys.contains key then
        modify fun m => { m with keys := key :: m.keys }
        let scope := x.triggerScope e
        let c : ChangeContext := { schema := s, isInTrigger := true }
        let _ ← ((tr.condition.mapM fun e =>
          e.resolveIn c.catalog { scopes := [scope] }) : Except SqlError (Option Expr))
        tr.body.forM (checkWithin s true [scope] fuel)
    for step in step :: step.updates do
      match step.event? with
      | none => pure ()
      | some (x, e) =>
        if e = .insert then modify fun m => x.table.elim m m.count
        let triggers := s.triggersFor x e
        for tr in triggers do
          setOff x e (tr.name, [], false) tr
        match x.table with
        | none => pure ()
        | some t =>
          (s.checkRules t step.touched? (step.isSingle s && !isInTrigger) : Except SqlError Unit)
          let mayReplace := step.mayReplace t
          if mayReplace then (s.checkRules t none false : Except SqlError Unit)
          let act := fun (e : RowEvent) (touched : Option Touched) => do
            for (child, p) in s.childrenOf t.name do
              if p.isParentTouched t touched then
                match (p.key? t).bind fun k => p.action? k child t touched.isSome with
                | some tr => setOff x e (child.name, p.columns, touched.isSome) tr
                | none => pure ()
          if e ≠ .insert then act e step.touched?
          if mayReplace then act .delete none

/-- Enough stages for all that a change may set off. -/
def Schema.reachLimit (s : Schema) : Nat :=
  s.triggers.length + 2 * (s.tables.flatMap (·.definition.parents)).length + 2

/-- Whether all that a change may set off makes sense. The answer tells which tables may get new
rows under numbers that are never used again, the last one first. -/
def Change.check (s : Schema) (change : Change) : Except SqlError (List Table) := do
  let (_, met) ← (change.checkWithin s false [] s.reachLimit).run {}
  return met.counted

/-- Whether all makes sense that rules do about rows that depend on rows of a table, when those go.
The answer is as that of `Change.check`. -/
def Schema.checkActions (s : Schema) (t : Table) (x : Target) : Except SqlError (List Table) := do
  let scopes := [x.triggerScope .delete]
  let check : Reach Unit := (s.actionsOn t none).forM fun tr =>
    tr.body.forM fun c => c.checkWithin s true scopes s.reachLimit
  return (← check.run {}).2.counted

end Sql
end FlowAtlas
