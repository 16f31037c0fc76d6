import FlowAtlas.Sql.RowStore

/-!
# Rows that depend on others

A rule of a table may ask that some values of each row stand in a row of another table, which the
row depends on. A change that breaks such a rule is counted, and one that mends it is counted back:
what is left when the statement is complete forbids it. `ParentRule.action?` tells what is done to
dependent rows when the row changes that they depend on.
-/

set_option autoImplicit false

namespace FlowAtlas
namespace Sql

open Database (Value)
open Execution (edit encoding ofExcept fail)

/-! ## Keys -/

/-- Where the values of a rule stand in the table that they depend on. -/
structure ParentKey where
  /-- The index that is about them, or none if they are the number of the row. -/
  index : Option Index
  /-- The columns of the dependent table, in the order of the index. -/
  columns : List Nat
  deriving Inhabited

namespace ParentKey

/-- The columns of the other table, where none stands for the number of the row. -/
def parentColumns (k : ParentKey) : List (Option Nat) :=
  match k.index with
  | none => [none]
  | some x => (x.parts.take x.size).map fun p => p.value.column?.getD none

end ParentKey

namespace ParentRule

/-- The columns of a rule in the order of an index that is about all of them, if it is. -/
def columnsFor? (p : ParentRule) (t : Table) (x : Index) : Option (List Nat) :=
  match p.parentColumns with
  | none => if x.isKey then some p.columns else none
  | some names =>
    (x.parts.take x.size).mapM fun part => do
      let i ← part.value.column?.getD none
      let c := t.column i
      if part.collation ≠ c.collation then none
      p.columns[← names.findIdx? (sameName · c.name)]?

/-- Where the values of a rule stand in the table that they depend on, which must be a key. -/
def key? (p : ParentRule) (t : Table) : Option ParentKey :=
  let isNumber : Bool := match p.columns, t.definition.numberColumn with
    | [_], some i => p.parentColumns.all fun names => names.all (sameName (t.column i).name)
    | _, _ => false
  if isNumber then some ⟨none, p.columns⟩
  else
    t.indexes.findSome? fun x =>
      if x.isUnique && x.filter.isNone && x.size = p.columns.length then
        (p.columnsFor? t x).map fun columns => ⟨some x, columns⟩
      else none

end ParentRule

/-! ## What is touched -/

/-- What an update gives new values to. -/
structure Touched where
  columns : List Nat
  /-- Whether numbers of rows get new values. -/
  number : Bool
  deriving Repr, Inhabited

namespace Touched

/-- Whether a column of a table is touched. -/
def holds (d : Touched) (t : Table) (i : Nat) : Bool :=
  d.columns.contains i || d.number && t.definition.numberColumn = some i

end Touched

namespace ParentRule

/-- Whether a change touches the columns of a rule. -/
def isTouched (p : ParentRule) (t : Table) : Option Touched → Bool
  | none => true
  | some d => p.columns.any (d.holds t)

/-- Whether a change touches the columns that a rule is about. -/
def isParentTouched (p : ParentRule) (t : Table) : Option Touched → Bool
  | none => true
  | some d => t.columns.zipIdx.any fun (c, i) =>
    d.holds t i && match p.parentColumns with
      | none => c.isInKey
      | some names => names.any (sameName · c.name)

end ParentRule

/-- Whether rules about rows that depend on others matter for a change of a table. -/
def Schema.isLinked (s : Schema) (t : Table) (d : Option Touched) : Bool :=
  t.definition.parents.any (·.isTouched t d) ||
    (s.childrenOf t.name).any fun (_, p) => p.isParentTouched t d

/-- Whether an update may change other rows of the same table, or rows that depend on them. -/
def Schema.isActing (s : Schema) (t : Table) (d : Touched) : Bool :=
  t.definition.parents.any (fun p => p.isTouched t (some d) && sameName p.table t.name) ||
    (s.childrenOf t.name).any fun (_, p) =>
      p.isParentTouched t (some d) && decide (p.onUpdate ≠ .none)

/-! ## Counting -/

namespace ParentRule

variable (p : ParentRule)

/-- Count rows that lack the row that the rule asks for. -/
def count (n : Int) : Execution Unit :=
  modify fun q =>
    if p.isDeferred then { q with postponed := q.postponed + n }
    else { q with missing := q.missing + n }

/-- Whether no row lacks the row that the rule asks for. -/
def isKept : Execution Bool := do
  let q ← get
  return if p.isDeferred then q.postponed = 0 else q.missing = 0

/-- Whether the row that a row depends on is there. A new row may depend on itself. -/
def hasParent (k : ParentKey) (child parent : Table) (r : SourceRow) (isNew : Bool) :
    Execution Bool := do
  let e ← encoding
  let values := k.columns.map fun i => r.values.getD i .null
  let mayBeOwn := isNew && sameName child.name parent.name
  if values.contains .null then return true
  match k.index with
  | none =>
    match rowNumber? e (values.headD .null) with
    | none => return false
    | some n =>
      if mayBeOwn && r.id = .integer n then return true
      return (← edit (parent.storedRow? n)).isSome
  | some x =>
    let own := k.parentColumns.map fun c => c.elim r.id fun i => r.values.getD i .null
    let isOwn := (own.zip values).all fun (a, b) => Collation.binary.compare e a b = .eq
    if mayBeOwn && isOwn then return true
    let given := (k.parentColumns.zip values).map fun (c, v) =>
      (c.elim Affinity.integer fun i => (parent.column i).affinity).apply e v
    return (← x.find? given).isSome

/-- Whether a row depends on another one. -/
def dependsOn (k : ParentKey) (child parent : Table) (r parentRow : SourceRow) :
    Execution Bool := do
  let e ← encoding
  return (k.columns.zip k.parentColumns).all fun (i, c) =>
    let v := r.values.getD i .null
    let w := c.elim parentRow.id fun j => parentRow.values.getD j .null
    let affinity := c.elim Affinity.integer fun j => (parent.column j).affinity
    let collation := c.elim (child.column i).collation fun j => (parent.column j).collation
    let (w, v) := forComparison e (some affinity) (some (child.column i).affinity) w v
    v ≠ .null && w ≠ .null && collation.compare e w v = .eq

/-- Count the rows that depend on a row. A row that goes does not count itself. -/
def countDependents (k : ParentKey) (child parent : Table) (r : SourceRow) (isNew : Bool) :
    Execution Unit := do
  if isNew && (← p.isKept) then return
  let isSame := !isNew && sameName child.name parent.name
  let own ← parent.rowKey r
  for s in ← child.allRows do
    if ← dependsOn k child parent s r then
      if !(isSame && (← parent.rowKey s) = own) then p.count (if isNew then -1 else 1)

/-- Count the row that a row depends on. The only row of a statement fails at once without it. -/
def countParent (k : ParentKey) (child parent : Table) (r : SourceRow) (isNew isAlone : Bool) :
    Execution Unit := do
  if !isNew && (← p.isKept) then return
  if !(← hasParent k child parent r isNew) then
    if isAlone && !p.isDeferred then fail .parentMissing
    p.count (if isNew then 1 else -1)

end ParentRule

/-- How a row of a table is changed. -/
structure RowTouch where
  /-- What is touched, if the row stays. -/
  touched : Option Touched := none
  /-- Whether the row is a new one, or one as it will be. -/
  isNew : Bool
  /-- Whether the row is the only one that its statement changes. -/
  isAlone : Bool := false
  /-- Whether rules that make no sense are passed over. -/
  isLenient : Bool := false

namespace Table

/-- Count what the change of a row means for rules about rows that depend on others. -/
def countRules (t : Table) (x : RowTouch) (r : SourceRow) : Execution Unit := do
  let s := (← read).schema
  if !s.isLinked t x.touched then return
  for p in t.definition.parents.reverse do
    if p.isTouched t x.touched || sameName p.table t.name then
      match s.table? p.table with
      | none =>
        if !x.isLenient then fail (.noTable ("main." ++ p.table))
        if (p.columns.map fun i => r.values.getD i .null).all (· ≠ .null) then p.count (-1)
      | some parent =>
        match p.key? parent with
        | none => if !x.isLenient then fail (.parentMismatch t.name p.table)
        | some k => p.countParent k t parent r x.isNew x.isAlone
  for (child, p) in s.childrenOf t.name do
    if p.isParentTouched t x.touched && (p.isDeferred || !x.isAlone) then
      match p.key? t with
      | none => if !x.isLenient then fail (.parentMismatch child.name t.name)
      | some k => p.countDependents k child t r x.isNew

end Table

/-! ## What is done to dependent rows -/

/-- A formula for a column of the row before or after a change. -/
def Expr.ofRow (row column : String) : Expr := .name { table := some row, column }

namespace ParentRule

variable (p : ParentRule)

/-- What is done to rows that depend on a row of a table, as the body of a trigger. -/
def body (action : ParentAction) (isUpdate : Bool) (child : Table)
    (columns : List (Column × String)) : List Change :=
  let condition := allOf (columns.map fun (c, parent) =>
    .binary .equal (.ofRow "old" parent) (.name { column := c.name }))
  let changes := fun value : Column × String → Expr =>
    [Change.update none child.name (columns.map fun (c, parent) => ([c.name], value (c, parent)))
      [] condition]
  match action with
  | .none => []
  | .restrict =>
    let message := SqlError.parentMissing.message
    [.select {
      named := [], rest := [], order := [], limit := none, offset := none
      first := {
        isDistinct := false, groups := [], having := none, filter := condition, windows := []
        columns := [.value (.raise .abort message) none ""]
        sources := [⟨.table none child.name, none, {}, none, none, .any⟩] } }]
  | .setNull => changes fun _ => .null
  | .setDefault => changes fun (c, _) => if c.formula.isSome then .null else c.default.getD .null
  | .cascade =>
    if isUpdate then changes fun (_, parent) => .ofRow "new" parent
    else [.delete child.name condition]

/-- What is done to rows that depend on a row of a table when that goes or changes, as a trigger. -/
def action? (k : ParentKey) (child parent : Table) (isUpdate : Bool) : Option TriggerDefinition :=
  let action := if isUpdate then p.onUpdate else p.onDelete
  if action = .none then none
  else
    let nameOf := fun c : Option Nat =>
      ((c.or parent.definition.numberColumn).map (parent.column ·)).elim "rowid" (·.name)
    let columns := (k.columns.map child.column).zip (k.parentColumns.map nameOf)
    let isSame := allOf (columns.map fun (_, parent) =>
      .binary .is (.ofRow "old" parent) (.ofRow "new" parent))
    some {
      name := "", table := parent.name, time := .after
      event := if isUpdate then .update none else .delete
      condition := if isUpdate then isSame.map (.unary .not) else none
      body := body action isUpdate child columns }

end ParentRule

/-- What is done to rows that depend on a row of a table when that goes, or when some of it changes,
the rule that was made last first. -/
def Schema.actionsOn (s : Schema) (t : Table) (touched : Option Touched) : List TriggerDefinition :=
  (s.childrenOf t.name).filterMap fun (child, p) =>
    if p.isParentTouched t touched then
      (p.key? t).bind fun k => p.action? k child t touched.isSome
    else none

end Sql
end FlowAtlas
