import FlowAtlas.Sql.Reader.Definition
import FlowAtlas.Sql.Step

/-!
# Carrying out changes

`Step.perform` puts rows in, changes them or takes them out, one after another. Each row must meet
the rules of its table, and may set off triggers and what rules do about rows that depend on others.
`Change.run` carries out a statement as a whole: it fails if rows are left that lack a row that they
must have.
-/

set_option autoImplicit false

namespace FlowAtlas
namespace Sql

open Database (Value Encoding)
open Execution (edit database encoding fail holds)

/-! ## Triggers -/

/-- Where a change is carried out. -/
structure Frame where
  scopes : Scopes := []
  /-- The rows in view in the body of a trigger. -/
  rows : List JoinedRow := []
  /-- What the statement says about rows that clash with others. -/
  resolution : Option Resolution := none
  /-- The triggers that are under way. -/
  active : List String := []
  isInTrigger : Bool := false

/-- How the body of a trigger is carried out. -/
abbrev BodyRunner := Frame → List Change → Execution Unit

/-- A change of a row that triggers may see. -/
structure RowChange where
  target : Target
  event : RowEvent
  old : Option SourceRow := none
  new : Option SourceRow := none
  deriving Inhabited

namespace RowChange

/-- The rows that a trigger sees. -/
def rows (c : RowChange) : JoinedRow := c.new.toList ++ c.old.toList

/-- The triggers that act at some time, the last one first. -/
def triggers (c : RowChange) (isBefore : Bool) : Execution (List TriggerDefinition) := do
  return ((← read).schema.triggersFor c.target c.event).filter fun tr =>
    decide (tr.time ≠ .after) = isBefore

/-- Set a trigger off, unless it is under way. The answer tells whether the row goes on. -/
def setOff (run : BodyRunner) (f : Frame) (c : RowChange) (tr : TriggerDefinition) :
    Execution Bool := do
  if f.active.contains tr.name then return true
  let scopes := [c.target.triggerScope c.event]
  let inner : Frame :=
    { scopes, rows := [c.rows], resolution := f.resolution, isInTrigger := true
      active := if tr.name = "" then f.active else tr.name :: f.active }
  let catalog : Catalog := { schema := (← read).schema, isDefinition := true }
  try
    Execution.apart do
      let condition ← Execution.ofExcept (tr.condition.mapM fun e => e.resolveIn catalog { scopes })
      if ← holds condition inner.rows then run inner tr.body
    return true
  catch
    | .ignored => return false
    | h => throw h

/-- Set triggers off, one after another, as long as the row goes on. -/
def setOffAll (run : BodyRunner) (f : Frame) (c : RowChange) :
    List TriggerDefinition → Execution Bool
  | [] => return true
  | tr :: rest => do
    if ← c.setOff run f tr then setOffAll run f c rest else return false

/-- Set off what waits for the time behind the change. -/
def complete (run : BodyRunner) (f : Frame) (c : RowChange) : Execution Unit := do
  let _ ← c.setOffAll run f (← c.triggers false)

/-- Do what is to be done to rows that depend on the row. -/
def act (run : BodyRunner) (f : Frame) (c : RowChange) (t : Table) (touched : Option Touched) :
    Execution Unit := do
  for tr in (← read).schema.actionsOn t touched do
    let _ ← c.setOff run { f with resolution := some .abort } tr

end RowChange

/-! ## Values -/

/-- The value of a column where none is given. -/
def Column.defaultValue (c : Column) : Execution Value := do
  match c.default with
  | none => return .null
  | some e => Execution.value (← Execution.ofExcept (e.resolvePlain { scopes := [] })) []

/-- Whether a value is of the type that a table with types asks for. -/
def Column.admits (c : Column) (v : Value) : Bool :=
  match c.type.toLower, v with
  | _, .null | "any", _ | "blob", .blob _ | "int", .integer _ | "integer", .integer _
  | "real", .real _ | "text", .text _ => true
  | _, _ => false

namespace Table

variable (t : Table)

/-- A row of the table, with its values as the columns change them. -/
def formed (id : Value) (values : List Value) : Execution SourceRow := do
  let e ← encoding
  let known := (t.columns.zip values).zipIdx.map fun ((c, v), i) =>
    if t.definition.numberColumn = some i then some id
    else if c.formula.isSome then none
    else some (c.affinity.apply e v)
  let r ← Execution.ofExcept (t.complete e id known)
  let isFit := (t.columns.zip r.values).all fun (c, v) => !c.isKept || c.admits v
  if t.definition.isStrict && !isFit then fail .wrongType
  return r

end Table

/-! ## Rules -/

/-- What is checked of a row. -/
structure Check where
  /-- What the statement says about rows that break a rule. -/
  resolution : Option Resolution
  /-- What is touched, if the row was there before. -/
  touched : Option Touched := none
  /-- What told the row from the others, if it was there before. -/
  oldKey : Option (List Value) := none
  /-- What is done about new rows that clash with others. -/
  upserts : List UpsertStep := []
  /-- How a row is changed instead of a new one that clashes with it. -/
  update : Updating → List Value → Execution Unit := fun _ _ => pure ()

namespace Check

/-- Whether a column is touched. -/
def holds (k : Check) (t : Table) (i : Nat) : Bool := k.touched.all (·.holds t i)

/-- Whether an index is the one that is asked for, or the number of the row is. -/
def isAsked (x : Option Index) : Option (Option Index) → Bool
  | none => true
  | some y => x.map (·.name) = y.map (·.name)

/-- What is done about a new row that clashes in an index, or by its number. -/
def upsert? (k : Check) (x : Option Index) : Option UpsertStep :=
  k.upserts.find? fun u => isAsked x u.index

/-- Indexes in the order in which they are looked at: first those in which a clash has been provided
for. -/
def ordered (k : Check) (xs : List Index) : List Index :=
  let first := k.upserts.flatMap fun u => u.index.elim [] fun x =>
    xs.filter fun y => x.any (·.name = y.name)
  first ++ xs.filter fun y => !first.any (·.name = y.name)

end Check

/-- The columns that a formula uses, where none stands for the number of the row. -/
def Expr.places (e : Expr) : List (Option Nat) :=
  e.collect (fun
    | .field f => [f.column]
    | _ => []) fun _ => []

namespace Table

variable (t : Table)

/-- Refuse a row. The answer is that the row is left out. -/
def refuse (k : Check) (own : Option Resolution) (e : SqlError) : Execution Bool := do
  match (k.resolution.or own).getD .abort with
  | .ignore => return false
  | .replace => fail e
  | r => fail e r

/-- Look at a value that is required. The answer is the value that takes its place, or none if the
row is left out. -/
def requireValue (k : Check) (i : Nat) (c : Column) (v : Value) : Execution (Option Value) := do
  match c.required with
  | none => return some v
  | some own =>
    let isPassed := t.definition.numberColumn = some i || c.formula.isNone && !k.holds t i
    if isPassed || v ≠ .null then return some v
    let mayFill := k.resolution.getD own = .replace && c.default.isSome && c.formula.isNone
    let filled ← if mayFill then c.defaultValue else pure .null
    if filled ≠ .null then return some filled
    let _ ← refuse k (some own) (.required (t.name ++ "." ++ c.name))
    return none

/-- Look at the values of a row that are required. A missing one may be filled. -/
def requireAll (k : Check) (r : SourceRow) : Execution (Option SourceRow) := do
  let own := t.columns.zipIdx.filter fun (c, _) => c.formula.isNone
  let mut values := r.values
  for (c, i) in own do
    match ← t.requireValue k i c (r.values.getD i .null) with
    | none => return none
    | some v => values := values.set i v
  let r ← if values = r.values then pure r else t.formed r.id values
  for (c, i) in t.columns.zipIdx do
    if c.formula.isSome then
      match ← t.requireValue k i c (r.values.getD i .null) with
      | none => return none
      | some _ => pure ()
  return some r

/-- Whether a row meets the conditions of the table, or else is not left out. -/
def meetsChecks (k : Check) (r : SourceRow) : Execution Bool := do
  for e in t.definition.checks do
    let isAsked := k.touched.all fun d => e.places.any fun c => c.elim d.number (d.holds t)
    if isAsked then
      let s := (← Execution.context).full [[r]]
      if !(← Execution.ofExcept (e.isNotFalse s)) then
        if !(← refuse k none .checkFailed) then return false
  return true

/-! ## Rows that make way -/

/-- Take the row of a key out, with all that this sets off. -/
def makeWay (run : BodyRunner) (f : Frame) (key : List Value) : Execution Unit := do
  match ← t.fetch? key with
  | none => return
  | some r =>
    t.countRules { isNew := false } r
    t.remove (fun _ => true) r
    let target : Target := { name := t.name, columns := t.scopeColumns, table := some t }
    RowChange.act run f { target, event := .delete, old := some r } t none

/-- What becomes of a row that clashes with another one. The answer tells whether it goes on. -/
def settleClash (run : BodyRunner) (f : Frame) (k : Check) (x : Option Index)
    (own : Option Resolution) (key : List Value) : Execution Bool := do
  match k.upsert? x with
  | some u =>
    match u.change with
    | some change => k.update change key
    | none => pure ()
    return false
  | none =>
    if (k.resolution.or own) = some .replace then
      t.makeWay run f key
      return true
    else refuse k own .notUnique

/-- Whether a row has a number that no other row has, or the other row makes way. -/
def settleNumber (run : BodyRunner) (f : Frame) (k : Check) (r : SourceRow) : Execution Bool := do
  if !t.hasNumbers || k.oldKey = some [r.id] then return true
  match ← t.fetch? [r.id] with
  | none => return true
  | some _ => t.settleClash run f k none t.definition.numberResolution [r.id]

/-- The key of the row with which a row clashes in an index, if there is one. -/
def clashIn? (k : Check) (x : Index) (r : SourceRow) : Execution (Option (List Value)) := do
  if !x.isUnique then return none
  match ← t.entry? x r with
  | none => return none
  | some entry =>
    let values := entry.take x.size
    if values.contains .null then return none
    match ← x.find? values with
    | none => return none
    | some found =>
      let e ← encoding
      let key ← t.rowKey (t.rowOfEntry x found)
      let isOwn := k.oldKey.any fun old => Index.compareParts e t.rowParts key old = .eq
      return if isOwn then none else some key

/-- Whether a row clashes with no other one in some indexes, or the others make way. -/
def settleIndexes (run : BodyRunner) (f : Frame) (k : Check) (r : SourceRow) :
    List Index → Execution Bool
  | [] => return true
  | x :: rest => do
    match ← t.clashIn? k x r with
    | none => settleIndexes run f k r rest
    | some key =>
      if ← t.settleClash run f k (some x) x.resolution key then settleIndexes run f k r rest
      else return false

/-- Whether the number of a row is looked at last: if it makes other rows go that have it, unless the
statement says so of all, or if another clash has been provided for first. -/
def isNumberLast (k : Check) : Bool :=
  k.upserts.head?.any (fun u => !Check.isAsked none u.index) ||
    t.definition.numberResolution = some .replace && k.resolution.isNone && !t.indexes.isEmpty

/-- Whether a row clashes with no other one, or the others make way. -/
def settle (run : BodyRunner) (f : Frame) (k : Check) (isChanged : Index → Bool) (r : SourceRow) :
    Execution Bool := do
  let isLast := t.isNumberLast k
  if !isLast then
    if !(← t.settleNumber run f k r) then return false
  if !(← t.settleIndexes run f k r (k.ordered (t.indexes.filter isChanged))) then return false
  if isLast then t.settleNumber run f k r else return true

/-- A row that meets the rules of the table, or none if it is left out. -/
def accept (run : BodyRunner) (f : Frame) (k : Check) (isChanged : Index → Bool) (r : SourceRow) :
    Execution (Option SourceRow) := do
  match ← t.requireAll k r with
  | none => return none
  | some r =>
    if !(← t.meetsChecks k r) then return none
    return if ← t.settle run f k isChanged r then some r else none

end Table

/-! ## Updating -/

namespace Updating

variable (x : Updating)

/-- New values of columns, where some rows are in view. -/
def newValues (rows : List JoinedRow) : Execution (List (Option Nat × Value)) := do
  let found ← x.assignments.mapM fun a => do
    let values ← match a.value, a.columns with
      | e, [_] => return a.columns.zip [← Execution.value e rows]
      | .row parts, _ => parts.mapM fun e => Execution.value e rows
      | .scalar q, _ => return a.columns.zip ((← Execution.rowsOf q rows).headD [])
      | _, _ => fail .misusedRow
    return a.columns.zip values
  let own := x.assignments.flatMap (·.columns)
  return own.map fun c => ((found.flatten.find? (·.1 = c)).getD (c, .null))

/-- The values of a row with new ones in place of some. -/
def put (new : List (Option Nat × Value)) (values : List Value) : List Value :=
  new.foldl (fun values (c, v) => c.elim values fun i => values.set i v) values

/-- The new number of a row of a table, if it gets one. -/
def newNumber? (t : Table) (new : List (Option Nat × Value)) : Execution (Option Value) := do
  let isNumber := fun c : Option Nat => c.isNone || c = t.definition.numberColumn
  match (new.filter fun (c, _) => isNumber c).getLast? with
  | some (_, v) => if t.hasNumbers then return some (.integer (← rowNumber v)) else return none
  | none => return none

/-- Whether the entries of an index may change with some columns. -/
def isChanged (t : Table) (d : Touched) (isWhole : Bool) (i : Index) : Bool :=
  let places := (i.parts.map (·.value) ++ i.filter.toList).flatMap Expr.places
  isWhole || places.any fun c => c.elim d.number (d.holds t)

/-- Give a row of a table new values. -/
def change (run : BodyRunner) (f : Frame) (t : Table) (resolution : Option Resolution)
    (new : List (Option Nat × Value)) (old : SourceRow) : Execution Unit := do
  let d := x.touched t
  let number ← newNumber? t new
  let id := number.getD old.id
  let f := { f with resolution }
  let event := RowEvent.update x.names
  let oldKey ← t.rowKey old
  let first ← t.formed id (put new old.values)
  let c : RowChange := { target := x.target, event, old := some old, new := some first }
  let before ← c.triggers true
  if !(← c.setOffAll run f before) then return
  let current? ← if before.isEmpty then pure (some old) else t.fetch? oldKey
  match current? with
  | none => return
  | some current =>
    let isMoved := number.isSome || !t.hasNumbers && d.columns.any fun i => (t.column i).isInKey
    let s := (← read).schema
    let isWhole := isMoved || s.isActing t d
    let next ← if before.isEmpty then pure first else t.formed id (put new current.values)
    let isChanged := isChanged t d isWhole
    match ← t.accept run f { resolution, touched := some d, oldKey := some oldKey } isChanged next with
    | none => return
    | some next =>
      match ← t.fetch? oldKey with
      | none => return
      | some current =>
        t.countRules { touched := some d, isNew := false } old
        if isWhole then t.remove isChanged current else t.removeEntries isChanged current
        t.countRules { touched := some d, isNew := true } next
        t.put isChanged next
        Execution.countChanges 1
        let c := { c with new := some next }
        c.act run f t (some d)
        c.complete run f

end Updating

/-! ## Putting in -/

namespace Insertion

variable (x : Insertion)

/-- The value of the number of a new row, if one is given. -/
def number? (t : Option Table) (values : List Value) : Option Value :=
  let isNumber := fun c : Option Nat =>
    c.isNone || t.any fun t => c = t.definition.numberColumn
  ((x.places.zip values).filter fun (c, _) => isNumber c).getLast?.map (·.2)

/-- The value that is given for a column, if one is. -/
def given? (values : List Value) (i : Nat) : Option Value :=
  ((x.places.zip values).find? fun (c, _) => c = some i).map (·.2)

/-- Put a row into a view, whose triggers do the work. -/
def throughView (run : BodyRunner) (f : Frame) (values : List Value) : Execution Unit := do
  let own := (List.range x.target.columns.length).map fun i => (x.given? values i).getD .null
  let new : SourceRow := ⟨(x.number? none values).getD (.integer (-1)), own⟩
  let c : RowChange := { target := x.target, event := .insert, new := some new }
  let _ ← c.setOffAll run f (← c.triggers true)

/-- The values of the columns of a new row. -/
def columnValues (t : Table) (values : List Value) : Execution (List Value) :=
  t.columns.zipIdx.mapM fun (c, i) =>
    match x.given? values i with
    | some v => return v
    | none => if c.formula.isSome then return .null else c.defaultValue

/-- Put a row into a table. -/
def intoTable (run : BodyRunner) (f : Frame) (t : Table) (isAlone : Bool) (values : List Value) :
    Execution Unit := do
  let own ← x.columnValues t values
  let given := (x.number? (some t) values).filter (· ≠ .null)
  let c : RowChange := { target := x.target, event := .insert }
  let before ← c.triggers true
  if !before.isEmpty then
    let n ← given.elim (pure (-1)) rowNumber
    let new ← t.formed (if t.hasNumbers then .integer n else .null) own
    if !(← { c with new := some new }.setOffAll run f before) then return
  let id ← if !t.hasNumbers then pure Value.null
    else Value.integer <$> given.elim t.nextNumber rowNumber
  match id with
  | .integer n => t.count n
  | _ => pure ()
  let first ← t.formed id own
  let update := fun (u : Updating) key => do
    match ← t.fetch? key with
    | some old =>
      let rows := [old, first] :: f.rows
      if ← holds u.filter rows then u.change run f t u.resolution (← u.newValues rows) old
    | none => pure ()
  let k : Check := { resolution := f.resolution, upserts := x.upserts, update }
  match ← t.accept run f k (fun _ => true) first with
  | none => return
  | some new =>
    t.countRules { isNew := true, isAlone } new
    t.put (fun _ => true) new
    match id with
    | .integer lastId => modify fun p => { p with tally := { p.tally with lastId } }
    | _ => pure ()
    Execution.countChanges 1
    { c with new := some new }.complete run f

end Insertion

/-! ## Taking out -/

/-- Take a row of a table out. -/
def Table.delete (t : Table) (run : BodyRunner) (f : Frame) (x : Target) (isLenient : Bool)
    (old : SourceRow) : Execution Unit := do
  let c : RowChange := { target := x, event := .delete, old := some old }
  let before ← if isLenient then pure [] else c.triggers true
  let key ← t.rowKey old
  if !(← c.setOffAll run f before) then return
  let current? ← if before.isEmpty then pure (some old) else t.fetch? key
  match current? with
  | none => return
  | some current =>
    t.countRules { isNew := false, isLenient } old
    t.remove (fun _ => true) current
    Execution.countChanges 1
    c.act run f t none
    if !isLenient then c.complete run f

/-- Take all rows of a table out of which a condition holds. No triggers act if the table itself
goes. -/
def Table.deleteAll (t : Table) (run : BodyRunner) (f : Frame) (x : Target) (isLenient : Bool)
    (filter : Option Expr) : Execution Unit := do
  let s := (← read).schema
  let isPlain := s.isLinked t none = false && (s.triggersFor x .delete).isEmpty
  if filter.isNone && isPlain then
    Execution.countChanges (← t.allRows).length
    t.clear
  else
    let rows ← (← t.allRows).filterM fun r => holds filter ([r] :: f.rows)
    for r in rows do
      match ← t.fetch? (← t.rowKey r) with
      | some old => t.delete run f x isLenient old
      | none => pure ()

/-! ## Steps -/

/-- The rows of a view of which a condition holds. -/
def Target.viewRows (x : Target) (f : Frame) (filter : Option Expr) : Execution (List SourceRow) := do
  match x.view with
  | none => return []
  | some q =>
    let rows := (← Execution.rowsOf q []).map fun values => ({ values } : SourceRow)
    rows.filterM fun r => holds filter ([r] :: f.rows)

/-- The rows that stand beside each other. -/
def Beside.rows (b : Beside) (f : Frame) : Execution (List JoinedRow) := do
  return (← Execution.rowsOf b.query f.rows).map (split b.shapes)

namespace Updating

/-- The new values of the rows of a table beside which others stand, with the keys of the rows in
their order. The last ones that are told of a row count. -/
def lastValues (x : Updating) (f : Frame) (t : Table) (b : Beside) :
    Execution (List (List Value × List (Option Nat × Value))) := do
  let told ← (← b.rows f).mapM fun rows => do
    return (← t.rowKey (rows.headD default), ← x.newValues (rows :: f.rows))
  let keys ← (← t.allRows).mapM t.rowKey
  return keys.filterMap fun key => told.reverse.find? (·.1 = key)

/-- Give a row of a view new values, by its triggers. -/
def throughView (x : Updating) (run : BodyRunner) (f : Frame) (old : SourceRow)
    (new : List (Option Nat × Value)) : Execution Unit := do
  let c : RowChange := { target := x.target, event := .update x.names, old := some old
                         new := some { old with values := put new old.values } }
  let _ ← c.setOffAll run f (← c.triggers true)

end Updating

namespace Step

/-- Carry out a step. -/
def perform (run : BodyRunner) (f : Frame) : Step → Execution Unit
  | insert x => do
    let rows ← Execution.rowsOf x.rows f.rows
    let f := { f with resolution := f.resolution.or x.resolution }
    let isAlone := (insert x).isSingle (← read).schema && !f.isInTrigger
    for values in rows do
      match x.target.table with
      | some t => x.intoTable run f t isAlone values
      | none => x.throughView run f values
  | update x => do
    let resolution := f.resolution.or x.resolution
    match x.target.table, x.beside with
    | some t, none =>
      let rows ← (← t.allRows).filterM fun r => holds x.filter ([r] :: f.rows)
      for r in rows do
        match ← t.fetch? (← t.rowKey r) with
        | some old => x.change run f t resolution (← x.newValues ([old] :: f.rows)) old
        | none => pure ()
    | some t, some b =>
      for (key, new) in ← x.lastValues f t b do
        match ← t.fetch? key with
        | some old => x.change run f t resolution new old
        | none => pure ()
    | none, none =>
      for old in ← x.target.viewRows f x.filter do
        x.throughView run { f with resolution } old (← x.newValues ([old] :: f.rows))
    | none, some b =>
      for rows in ← b.rows f do
        let new ← x.newValues (rows :: f.rows)
        x.throughView run { f with resolution } (rows.headD default) new
  | delete x filter => do
    let f := { f with resolution := none }
    match x.table with
    | some t => t.deleteAll run f x false filter
    | none =>
      for old in ← x.viewRows f filter do
        let c : RowChange := { target := x, event := .delete, old := some old }
        let _ ← c.setOffAll run f (← c.triggers true)
  | query q => do
    let _ ← Execution.rowsOf q f.rows

end Step

/-! ## Statements -/

/-- No triggers set each other off in more stages. -/
def triggerLimit : Nat := 1000

/-- Whether rows are changed by a step. -/
def Step.isChange : Step → Bool
  | .query _ => false
  | _ => true

/-- Carry out the body of a trigger, which may set off others in so many stages. -/
def runBody : (fuel : Nat) → BodyRunner
  | 0, _, _ => fail .tooDeep
  | fuel + 1, f, body =>
    body.forM fun change => do
      let s := (← read).schema
      let c : ChangeContext := { schema := s, scopes := f.scopes, isInTrigger := f.isInTrigger }
      let step ← Execution.ofExcept (change.resolve c)
      step.perform (runBody fuel) f
      if step.isChange then Execution.tell

/-- Complete a statement: no row may lack a row that it must have. -/
def Execution.finish : Execution Unit := do
  keepCounters
  if 0 < (← get).missing then fail .parentMissing

/-- Look whether a change makes sense. The answer tells which tables may get new rows under numbers
that are never used again, the last one first. -/
def Change.prepare (c : Change) : Execution (List Table) := do
  Execution.ofExcept (c.check (← read).schema)

/-- Take note of the numbers of the last rows of tables. -/
def readCounters (tables : List Table) : Execution Unit := do
  for t in tables.reverse do
    let counter ← t.readCounter
    modify fun p => { p with counters := counter :: p.counters }

/-- Carry out a change as a statement. -/
def Change.run (c : Change) : Execution Unit := do
  let counted ← c.prepare
  Execution.start
  try
    readCounters counted
    runBody (triggerLimit + 1) {} [c]
    Execution.finish
  catch h =>
    let isKept := match h with
      | .failed _ r => r = .fail
      | .ignored => false
    Execution.tell (!isKept)
    throw h

end Sql
end FlowAtlas
