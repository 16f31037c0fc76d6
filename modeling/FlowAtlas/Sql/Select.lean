import FlowAtlas.Sql.Account.Rows
import FlowAtlas.Sql.Survey

/-!
# Carrying out queries

`Select.run` gives the rows of a query whose names are resolved. The rows of its tables are put
together one table after another, those that its condition leaves are grouped if that is asked for,
and what is told of them is sorted and cut.
-/

set_option autoImplicit false

namespace FlowAtlas
namespace Sql

open Database (Value Encoding)

/-- What a query is carried out on. -/
structure QueryContext where
  database : Database
  schema : Schema
  parameters : List Value := []
  tally : Tally := {}
  /-- How many rows may be made of other rows, at most. -/
  patience : Nat := 1000

/-- How a query that stands in another one is carried out, given the rows in view. -/
abbrev QueryRunner := List JoinedRow → Select → Found (List Value)

/-- The setting of the formulas of a query. -/
def QueryContext.setting (c : QueryContext) (inner : QueryRunner) (rows : List JoinedRow) :
    Setting :=
  { encoding := c.database.encoding, parameters := c.parameters, rows, tally := c.tally
    query := inner }

/-- How two rows of values stand to each other, by the collations of their columns. -/
def compareValues (e : Encoding) : List Collation → List Value → List Value → Ordering
  | c :: cs, x :: xs, y :: ys => (c.compare e x y).then (compareValues e cs xs ys)
  | _, _, _ => .eq

namespace QueryContext

variable (c : QueryContext) (inner : QueryRunner) (outer : List JoinedRow)

/-- A row without values. -/
def noRow : SourceRow := { values := [] }

/-- A whole number that a formula without rows is. -/
def wholeValue (e : Expr) : Except SqlError Int := do
  let encoding := c.database.encoding
  let v ← e.eval (c.setting inner [])
  match Affinity.apply encoding .numeric v with
  | .integer n => return n
  | _ => throw .mismatch

/-! ## Rows that make rows -/

/-- A row, and the values by which it is sorted. -/
structure ToldRow where
  values : List Value
  keys : List Value
  deriving Inhabited

/-- Rows that wait until it is their turn to make others: those in front in order, and those that
came later, the last one first. -/
structure Waiting where
  front : List ToldRow := []
  back : List ToldRow := []

namespace Waiting

/-- Let a row wait. Without an order, it is the last one. -/
def push (e : Encoding) (order : List SortTerm) (w : Waiting) (r : ToldRow) : Waiting :=
  if order.isEmpty then { w with back := r :: w.back }
  else
    let (before, after) := w.front.span fun s => compareKeys e order s.keys r.keys ≠ .gt
    { w with front := before ++ r :: after }

/-- The row whose turn it is. -/
def pop? (w : Waiting) : Option (ToldRow × Waiting) :=
  match w.front, w.back.reverse with
  | r :: rest, _ => some (r, { w with front := rest })
  | [], r :: rest => some (r, ⟨rest, []⟩)
  | [], [] => none

end Waiting

/-- How far rows have made others. -/
structure Growth where
  /-- The rows that had their turn, the last one first. -/
  told : List (List Value) := []
  /-- How many these are. -/
  count : Nat := 0
  waiting : Waiting := {}
  /-- All rows that were made, if none is made twice. -/
  known : List (List Value) := []

/-- Rows with the values by which a query sorts them. -/
def toldRows (q : Select) (rows : Found (List Value)) : Found ToldRow :=
  rows.mapE fun values => do
    let s := c.setting inner ([{ values }] :: outer)
    return ⟨values, ← (q.order.map (·.key)).mapM (·.eval s)⟩

/-- Let rows wait that are made, unless they are known. -/
def queue (isSame : List Value → List Value → Bool) (isDistinct : Bool) (order : List SortTerm)
    (g : Growth) (rows : List ToldRow) : Growth :=
  rows.foldl (fun g r =>
    if isDistinct && g.known.any (isSame r.values) then g
    else
      { g with
        waiting := g.waiting.push c.database.encoding order r
        known := if isDistinct then r.values :: g.known else g.known }) g

/-- Let rows make others, at most so many, until a number of rows had their turn. -/
def grow (put : Growth → List ToldRow → Growth) (make : List Value → Found ToldRow)
    (most : Option Nat) : (fuel : Nat) → Growth → Growth × Option SqlError
  | 0, g => (g, some .endless)
  | fuel + 1, g =>
    match g.waiting.pop? with
    | none => (g, none)
    | some (r, waiting) =>
      let g := { g with told := r.values :: g.told, count := g.count + 1, waiting }
      if most.any (· ≤ g.count) then (g, none)
      else
        match (make r.values).all with
        | .error e => (g, some e)
        | .ok rows => grow put make most fuel (put g rows)

/-- The rows of a query and those that they make by another one. -/
def grownRows (first next : Select) (isDistinct : Bool) : Found (List Value) :=
  let whole := fun e : Option Expr => e.mapM (c.wholeValue inner)
  .after (whole next.limit) fun limit => .after (whole next.offset) fun offset =>
    let skipped := (offset.getD 0).toNat
    let size := limit.bind fun n => if n < 0 then none else some n.toNat
    if size = some 0 then ⟨[], none⟩
    else
      let step := { next with order := [], limit := none, offset := none }
      let arms := next.first :: next.rest.map (·.2)
      let cores := if next.rest.isEmpty then first.first :: first.rest.map (·.2) ++ arms else arms
      let cs := Catalog.collationsOf cores
      let isSame := fun a b => compareValues c.database.encoding cs a b = .eq
      let put := c.queue (isSame · ·) isDistinct next.order
      let told := c.toldRows inner outer next
      let make := fun values => told (inner ([{ values }] :: outer) step)
      .after (told (inner outer first)).all fun rows =>
        let (g, fault) := grow put make (size.map (· + skipped)) c.patience (put {} rows)
        ⟨g.told.reverse.drop skipped, fault⟩

/-! ## Rows of tables -/

/-- The rows of a table of a query, where some rows of its other tables are in view. -/
def sourceRows (src : Source) (beside : JoinedRow) : Found SourceRow :=
  match src.origin with
  | .table _ name =>
    match c.schema.anyTable? name with
    | some t => t.scan c.database
    | none => .failed (.noTable name)
  | .query q => (inner outer q).mapE fun values => return { values }
  | .function name args =>
    match TableFunction.ofName? name with
    | none => .failed (.noTable name)
    | some t =>
      let told := do
        t.rows c.database c.schema (← args.mapM (·.eval (c.setting inner (beside :: outer))))
      .after told fun rows =>
        ⟨(rows.zipIdx t.firstNumber).map fun (values, i) => { id := .integer i, values }, none⟩
  | .recursion first next isDistinct =>
    (c.grownRows inner outer first next isDistinct).mapE fun values => return { values }
  | .latest => ⟨(outer.headD []).take 1, none⟩

/-- The rows of a table of a query by a way, where some rows of its other tables are in view. -/
def wayRows (src : Source) (p : Plan) (beside : JoinedRow) : Found SourceRow :=
  let rows := match src.origin with
    | .table _ name =>
      match c.schema.anyTable? name with
      | some t => t.follow c.database p (c.setting inner ([] :: outer))
      | none => .failed (.noTable name)
    | _ => c.sourceRows inner outer src beside
  match p.extra with
  | none => rows
  | some columns =>
    let key := fun r : SourceRow => columns.map (r.values.getD · .null)
    let compare := compareValues c.database.encoding (columns.map fun _ => .binary)
    rows.rearrange fun rows => rows.mergeSort fun r s => compare (key r) (key s) ≠ .gt

/-- Put the rows of one more table to rows that are put together already. -/
def join (width : Nat) (left : Found JoinedRow) (src : Source) (p own : Plan) : Found JoinedRow :=
  let fixed := c.wayRows inner outer src p []
  let right := fun r : JoinedRow =>
    match src.origin with
    | .function _ _ => c.sourceRows inner outer src r
    | _ => fixed
  let isFit := fun r : JoinedRow =>
    match src.condition with
    | none => Except.ok true
    | some e => e.isTrue (c.setting inner (r :: outer))
  let partners := fun r : JoinedRow => ((right r).mapE fun s => return r ++ [s]).filterE isFit
  let found := left.bind fun r =>
    let found := partners r
    if src.join.keepsLeft && found.items.isEmpty && found.fault.isNone then ⟨[r ++ [noRow]], none⟩
    else found
  if !src.join.keepsRight then found
  else
    let met := found.items.filterMap (·[width]?)
    let others := (c.wayRows inner outer src own []).items.filter fun s => !met.contains s
    let empty := List.replicate width noRow
    match found.fault with
    | some _ => found
    | none => ⟨found.items ++ others.map fun s => empty ++ [s], none⟩

/-- The rows of tables put together in their order, where some keep rows without partners. -/
def joined (w : Wish) (sources : List Source) (plans : List (Nat × Plan)) : Found JoinedRow :=
  let step := fun ((left, width) : Found JoinedRow × Nat) (src : Source) =>
    let plan := (plans.lookup width).getD {}
    let g := w.grounds.getD width default
    let alone : Wish := { grounds := [{ g with join := {}, after := [], isBeside := false }]
                          conditions := w.conditions.filter fun c => c.join.isNone && c.tables = [width] }
    let own := ((alone.path?.bind fun p => (alone.plans p).1.head?).map (·.2)).getD {}
    (c.join inner outer width left src { plan with isCovering := false }
      { own with equal := [], isCovering := false }, width + 1)
  (sources.foldl step (⟨[[]], none⟩, 0)).1

/-- The rows of tables put together by the ways of a path, of which those count that meet the
conditions. -/
def walked (w : Wish) (sources : List Source) (plans : List (Nat × Plan)) : Found JoinedRow :=
  let conditions := w.conditions.zipIdx
  let holds := fun (checks : List Expr) (rows : Found JoinedRow) =>
    rows.filterE fun r => checks.allM fun e => e.isTrue (c.setting inner (r :: outer))
  let step := fun ((left, known) : Found JoinedRow × List Nat) ((i, p) : Nat × Plan) =>
    let src := sources.getD i default
    let isFunction := match src.origin with
      | .function _ _ => true
      | _ => false
    let fixed := if isFunction then ⟨[], none⟩ else c.wayRows inner outer src p []
    let own := fun r : JoinedRow =>
      (if isFunction then c.wayRows inner outer src p r else fixed).mapE fun s => return r.set i s
    let told := fun (isOuter : Bool) => p.checks i (conditions.filter fun (c, _) =>
      if c.isOuter then isOuter && c.join = some i
      else !isOuter && c.tables.all (fun j => j = i || known.contains j) && !(c.tables.all known.contains))
    let rows := left.bind fun r =>
      if !src.join.keepsLeft then own r
      else
        let found := holds (told true) (own r)
        if found.items.isEmpty && found.fault.isNone then ⟨[r.set i noRow], none⟩ else found
    (holds (told false) rows, i :: known)
  let fixed := (conditions.filter fun (c, _) => c.tables.isEmpty).map (·.1.formula)
  let empty : JoinedRow := List.replicate sources.length noRow
  (plans.foldl step (holds fixed ⟨[empty], none⟩, [])).1

/-- Rows of the tables of a query. -/
structure BaseRows where
  rows : Found JoinedRow
  /-- Whether they come in the order of the query, or those of each group stand together. -/
  isSorted : Bool := false

/-- The rows that the tables of a query have. -/
def baseRows (q : Core) (order : List SortTerm) (limit : Option Expr) : BaseRows :=
  let w := q.wish c.schema (Select.weight c.schema nestingLimit) order limit
  match w.path? with
  | none => { rows := .failed .noWay }
  | some path =>
    let (plans, isSorted) := w.plans path
    let plans := if plans.length = 1 then plans
      else plans.map fun (i, p) => (i, { p with equal := [] })
    if q.sources.any (·.join.keepsRight) then
      let rows := c.joined inner outer w q.sources plans
      { rows := rows.filterE fun r => (q.filter.toList.flatMap conjuncts).allM fun e =>
          e.isTrue (c.setting inner (r :: outer)) }
    else { rows := c.walked inner outer w q.sources plans, isSorted }

end QueryContext

/-! ## Groups -/

/-- A row of a query before it is told: the rows of its tables, and those of its group. -/
structure GroupRow where
  row : JoinedRow
  group : Option (List JoinedRow) := none
  /-- The values of the functions of the rows around it. -/
  windows : List (Expr × Value) := []
  /-- Those that are told for terms of the order alone. -/
  copies : List (Expr × Value) := []

/-- Rows with keys, those together that have the same key and stand together. -/
def runs {α : Type} (compare : List Value → List Value → Ordering)
    (rows : List (List Value × α)) : List (List α) :=
  let step := fun (groups : List (List Value × List α)) ((key, a) : List Value × α) =>
    match groups with
    | (k, as) :: rest =>
      if compare k key = .eq then (k, as ++ [a]) :: rest else (key, [a]) :: groups
    | [] => [(key, [a])]
  ((rows.foldl step []).map (·.2)).reverse

/-- Rows with keys, those with the same key together, in the order of the keys. -/
def groupBy {α : Type} (compare : List Value → List Value → Ordering)
    (rows : List (List Value × α)) : List (List α) :=
  runs compare (rows.mergeSort fun a b => compare a.1 b.1 ≠ .gt)

/-- A function of all rows of a group that tells the least or the greatest value. -/
structure Extreme where
  isGreatest : Bool
  isDistinct : Bool
  arg : Expr
  /-- What picks the rows that count. -/
  filter : Option Expr

/-- The last function of all rows of a group that tells the least or the greatest value, if there is
one. -/
def Core.extreme? (q : Core) : Option Extreme :=
  let all := (q.values ++ q.having.toList).flatMap fun e => e.collect (fun
    | .total "min" isDistinct [arg] _ filter => [⟨false, isDistinct, arg, filter⟩]
    | .total "max" isDistinct [arg] _ filter => [⟨true, isDistinct, arg, filter⟩]
    | _ => []) fun _ => []
  all.getLast?

/-- The search for the row that stands for a group. -/
structure Lead where
  row : JoinedRow
  /-- The best value so far. -/
  best : Value := .null
  /-- The values that were met. -/
  met : List Value := []
  /-- Whether the row that was looked at last became the one that stands for the group. -/
  isHit : Bool := true

namespace QueryContext

variable (c : QueryContext) (inner : QueryRunner) (outer : List JoinedRow)

/-- Look at a row that may stand for its group. One that is not picked, or whose value was met, goes
with the row before it. -/
def look (x : Extreme) (l : Lead) (r : JoinedRow) : Except SqlError Lead := do
  let s := c.setting inner (r :: outer)
  let e := c.database.encoding
  let wasHit := if x.filter.isSome then false else l.isHit
  let isPicked := truth? e (← Expr.evalOption x.filter (.integer 1) s) = some true
  if !isPicked then return { l with isHit := wasHit, row := if wasHit then r else l.row }
  let v ← x.arg.eval s
  let col := x.arg.collation?.getD .binary
  if x.isDistinct && l.met.any fun w => col.compare e v w = .eq then
    return { l with isHit := wasHit, row := if wasHit then r else l.row }
  let o := col.compare e v l.best
  let isHit := l.best = .null || v ≠ .null && o = (if x.isGreatest then .gt else .lt)
  return {
    row := if isHit then r else l.row
    best := if isHit then v else l.best
    met := if x.isDistinct then v :: l.met else l.met
    isHit }

/-- The row that stands for a group: one with the least or the greatest value if that is what is
told, or the first one. -/
def leader (q : Core) (rows : List JoinedRow) : Except SqlError JoinedRow := do
  let first := rows.headD []
  match q.extreme? with
  | none => return first
  | some x => return (← rows.foldlM (c.look inner outer x) { row := first }).row

/-- The groups of rows of a query. Without groups, all rows are one. Unless the rows of each group
stand together, they are sorted: where there are as many terms of an order as of groups, in the
directions that they tell. -/
def grouped (q : Core) (order : List SortTerm) (isTogether : Bool) (rows : Found JoinedRow) :
    Found GroupRow :=
  .after rows.all fun rows =>
    let keyed := rows.mapM fun r => do
      let key ← q.groups.mapM fun e => e.eval (c.setting inner (r :: outer))
      return (key, r)
    .after keyed fun keyed =>
      let isTold := order.length = q.groups.length
      let terms := q.groups.zipIdx.map fun (e, i) =>
        ⟨e, isTold && (order[i]?).any (·.isDescending), none⟩
      let compare := compareKeys c.database.encoding terms
      let groups := if q.groups.isEmpty then [rows]
        else if isTogether then runs compare keyed else groupBy compare keyed
      (⟨groups, none⟩ : Found (List JoinedRow)).mapE fun g => do
        return { row := ← c.leader inner outer q g, group := some g }

/-- The setting for a row of a query. -/
def rowSetting (r : GroupRow) : Setting :=
  { c.setting inner (r.row :: outer) with group := r.group, windows := r.windows }

/-! ## Windows -/

/-- What functions tell of the rows of a part, in their order. -/
def partRows (isCopy : Bool) (calls : List WindowCall) (order : List SortTerm)
    (rows : List GroupRow) : Except SqlError (List GroupRow) := do
  let e := c.database.encoding
  let constant := fun e : Expr =>
    let isConstant := !e.any fun
      | .field _ => true
      | e => e.isQuery || e.isTotal
    if isConstant then e.eval (c.setting inner []) else .ok .null
  let told ← calls.mapM fun call => do
    let rows ← rows.mapM fun r => do
      let s := c.rowSetting inner outer r
      let isPicked := truth? e (← Expr.evalOption call.filter (.integer 1) s) = some true
      return { args := ← call.args.mapM (·.eval s), isPicked
               keys := ← order.mapM fun t => t.key.eval s : WindowRow }
    let part := Part.ofRows e order rows
    let frame := call.window.frameOf call.function
    return (call.expr, ← part.values (callCollation call.args) call.function frame constant)
  return rows.zipIdx.map fun (r, i) =>
    let values := told.map fun (e, vs) => (e, vs.getD i .null)
    if isCopy then { r with copies := values } else { r with windows := r.windows ++ values }

/-- Rows in the order of a window, with what functions tell of the rows around them. -/
def windowRows (isCopy : Bool) (calls : List WindowCall) (rows : List GroupRow) :
    Except SqlError (List GroupRow) := do
  let e := c.database.encoding
  match calls with
  | [] => return rows
  | call :: _ =>
    let count := call.window.parts.length
    let keyed ← rows.mapM fun r => do
      return (← call.terms.mapM fun t => t.key.eval (c.rowSetting inner outer r), r)
    let sorted := sortByKeys e call.terms keyed
    let parts := groupBy (compareKeys e (call.terms.take count))
      (sorted.map fun (keys, r) => (keys.take count, r))
    return (← parts.mapM (c.partRows inner outer isCopy calls call.window.order)).flatten

/-- Rows with what functions tell of the rows around them, in the order of the last window. -/
def windowed (q : Core) (order : List SortTerm) (rows : Found GroupRow) : Found GroupRow :=
  match q.windowSteps order with
  | [] => rows
  | steps =>
    let step := fun rows (isCopy, calls) => c.windowRows inner outer isCopy calls rows
    .after rows.all fun rows => .after (steps.reverse.foldlM step rows) fun rows => ⟨rows, none⟩

/-! ## Telling rows -/

/-- Rows in an order. -/
def sortRows (e : Encoding) (order : List SortTerm) (rows : Found ToldRow) : Found ToldRow :=
  rows.rearrange fun rows =>
    rows.mergeSort fun a b => compareKeys e order a.keys b.keys ≠ .gt

/-- A part of rows, as it is asked for. -/
def cut {α : Type} (q : Select) (rows : Found α) : Found α :=
  .after (q.limit.mapM (c.wholeValue inner)) fun limit =>
    .after (q.offset.mapM (c.wholeValue inner)) fun offset =>
      let size := limit.bind fun n => if n < 0 then none else some n.toNat
      rows.part (offset.getD 0).toNat size

/-- What is told of a row. A column that a term of the order repeats is told as in the order. -/
def toldRow (q : Core) (order : List SortTerm) (r : GroupRow) : Except SqlError ToldRow := do
  let s := c.rowSetting inner outer r
  let values ← q.values.mapM (·.eval s)
  let s := { s with windows := r.copies ++ r.windows }
  let keys ← (order.map (·.key)).mapM (·.eval s)
  let put := fun (values : List Value) (t, v) =>
    (if q.isDistinct then none else q.repeated? t).elim values fun i => values.set i v
  return ⟨(order.zip keys).foldl put values, keys⟩

/-- The rows of one of the queries of a query, in its order. -/
def coreRows (q : Core) (order : List SortTerm) (limit : Option Expr) : Found ToldRow :=
  let base := c.baseRows inner outer q order limit
  let rows := base.rows
  let first := q.firstTerms order
  let rows : Found GroupRow :=
    if q.isGrouped then c.grouped inner outer q first base.isSorted rows
    else rows.mapE fun r => return { row := r }
  let rows := match q.having with
    | none => rows
    | some e => rows.filterE fun r => e.isTrue (c.rowSetting inner outer r)
  let rows := c.windowed inner outer q order rows
  let told := rows.mapE (c.toldRow inner outer q order)
  let cs := q.values.map fun e => e.collation?.getD .binary
  let isSame := fun a b : ToldRow =>
    compareValues c.database.encoding cs a.values b.values = .eq
  let told := if q.isDistinct then { told with items := distinctBy (isSame · ·) told.items } else told
  let isRepeated := q.isDistinct && order.map (·.key) == q.values
  let isTold := base.isSorted && !q.isGrouped && !isRepeated && (q.windowSteps order).isEmpty
  if isTold then told else sortRows c.database.encoding order told

/-! ## Queries put together -/

/-- Things without those that are the same as the one before. -/
def withoutRepeats {α : Type} (isSame : α → α → Bool) : List α → List α
  | a :: b :: rest =>
    if isSame a b then withoutRepeats isSame (a :: rest) else a :: withoutRepeats isSame (b :: rest)
  | xs => xs
termination_by xs => xs.length

/-- Put the rows of two queries together, both in order. Of rows that are the same, only one counts
unless all do. -/
def mergeRows {α : Type} (compare : α → α → Ordering) (op : CompoundOp) : List α → List α → List α
  | [], right => if op = .union || op = .unionAll then right else []
  | left, [] => if op = .intersect then [] else left
  | a :: left, b :: right =>
    match compare a b with
    | .lt =>
      let rest := mergeRows compare op left (b :: right)
      if op = .intersect then rest else a :: rest
    | .eq =>
      let rest := mergeRows compare op left (b :: right)
      if op = .unionAll || op = .intersect then a :: rest else rest
    | .gt =>
      let rest := mergeRows compare op (a :: left) right
      if op = .union || op = .unionAll then b :: rest else rest
termination_by left right => left.length + right.length

/-- Put the rows of two queries together. Of rows that are the same, the last one stays. -/
def combine (cs : List Collation) (op : CompoundOp) (left right : List (List Value)) :
    List (List Value) :=
  let compare := compareValues c.database.encoding cs
  let isSame := fun a b => compare a b = .eq
  let sorted := fun rows : List (List Value) =>
    let all := rows.mergeSort fun a b => compare a b ≠ .gt
    (withoutRepeats (isSame · ·) all.reverse).reverse
  match op with
  | .unionAll => left ++ right
  | .union => sorted (left ++ right)
  | .except => sorted (left.filter fun r => !right.any (isSame r ·))
  | .intersect => sorted (left.filter fun r => right.any (isSame r ·))

/-- Terms that tell the rows of several queries apart, beside those by which they are sorted. -/
def wholeOrder (order : List SortTerm) (cs : List Collation) : List SortTerm :=
  let known := order.map fun t => match t.key.core with
    | .field f => f.column
    | _ => none
  order ++ cs.zipIdx.filterMap fun (collation, i) =>
    if known.contains (some i) then none
    else some ⟨.field { column := some i, collation := some collation }, false, none⟩

/-- How many of the last queries are put together before they are put to those before them. Many
queries that are put together in the same way are halved. -/
def lastCount (rest : List (CompoundOp × Core)) : Nat :=
  match rest.getLast? with
  | none => 0
  | some (op, _) =>
    let count := (rest.reverse.takeWhile (·.1 = op)).length
    if (op = .union || op = .unionAll) && 2 < count then 1 + count / 2 else 1

theorem lastCount_pos {rest : List (CompoundOp × Core)} (h : rest ≠ []) : 0 < lastCount rest := by
  unfold lastCount
  split
  · simp_all
  · simp only []
    split <;> omega

/-- The rows of several queries put together in an order. -/
def mergedRows (rowsOf : Core → Found (List Value)) (order : List SortTerm) (first : Core)
    (rest : List (CompoundOp × Core)) : Except SqlError (List ToldRow) := do
  let e := c.database.encoding
  if h : rest = [] then
    let keyed := fun values : List Value => do
      let s := c.setting inner ([{ values }] :: outer)
      return (⟨values, ← (order.map (·.key)).mapM (·.eval s)⟩ : ToldRow)
    let rows ← ((rowsOf first).mapE keyed).all
    return rows.mergeSort fun a b => compareKeys e order a.keys b.keys ≠ .gt
  else
    let op := (rest.getLast h).1
    let count := rest.length - lastCount rest
    let cs := Catalog.collationsOf (first :: rest.map (·.2))
    let order := if op = .unionAll then order else wholeOrder order cs
    let left ← mergedRows rowsOf order first (rest.take count)
    let right ← mergedRows rowsOf order ((rest.drop count).headD (op, first)).2
      (rest.drop (count + 1))
    let merged := mergeRows (fun a b => compareKeys e order a.keys b.keys) op left right
    let isSame := fun a b : ToldRow => compareValues e cs a.values b.values = .eq
    return if op = .unionAll then merged else withoutRepeats (isSame · ·) merged
termination_by rest.length
decreasing_by
  all_goals
    have := lastCount_pos h
    have : 0 < rest.length := List.length_pos_iff.2 h
    simp only [List.length_take, List.length_drop]
    omega

/-- The rows of several queries put together, in order. -/
def compoundRows (q : Select) : Found (List Value) :=
  let cores := q.first :: q.rest.map (·.2)
  let cs := Catalog.collationsOf cores
  let rowsOf := fun core : Core =>
    let alone := { q with first := core, rest := [], order := [] }.flatten nestingLimit
    (c.coreRows inner outer alone.first alone.order none).mapE fun r => return r.values
  let areAll := q.rest.all fun (op, _) => op = .unionAll
  if !q.order.isEmpty then
    .after (c.mergedRows inner outer rowsOf q.order q.first q.rest) fun rows =>
      ⟨rows.map (·.values), none⟩
  else if areAll then (⟨cores, none⟩ : Found Core).bind rowsOf
  else
    .after (rowsOf q.first).all fun first =>
      let step := fun rows (op, core) => do return c.combine cs op rows (← (rowsOf core).all)
      .after (q.rest.foldlM step first) fun rows => ⟨rows, none⟩

/-- The rows of a query, with what carries out those in it. -/
def rows (q : Select) : Found (List Value) :=
  if q.rest.isEmpty then
    c.cut inner q ((c.coreRows inner outer q.first q.order q.limit).mapE fun r => return r.values)
  else c.cut inner q (c.compoundRows inner outer q)

end QueryContext

/-- The rows of a query that is nested at most so deep. -/
def Select.runWithin (c : QueryContext) : (fuel : Nat) → QueryRunner
  | 0, _, _ => .failed .tooDeep
  | fuel + 1, outer, q => c.rows (Select.runWithin c fuel) outer (q.flatten nestingLimit)

/-- The rows of a query, where some rows are in view. Only if need be, many rows are made of others:
most often few of them are asked for. -/
def Select.run (c : QueryContext) (outer : List JoinedRow) (q : Select) : Found (List Value) :=
  let found := Select.runWithin c nestingLimit outer q
  if found.fault ≠ some .endless then found
  else Select.runWithin { c with patience := 100 * c.patience } nestingLimit outer q

/-- The setting of formulas, which may hold queries. -/
def QueryContext.full (c : QueryContext) (rows : List JoinedRow) : Setting :=
  c.setting (Select.run c) rows

end Sql
end FlowAtlas
