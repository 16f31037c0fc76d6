import FlowAtlas.Sql.Merging
import FlowAtlas.Sql.Path
import FlowAtlas.Sql.TableFunction
import FlowAtlas.Sql.Window

/-!
# What queries ask for of their tables

`Core.wish` tells what a query asks for of its tables: their rows, the conditions, and an order in
which rows are wanted. How many rows a query has that stands in place of a table is guessed by the
path that its own wish leads to (`Select.weight`).
-/

set_option autoImplicit false

namespace FlowAtlas
namespace Sql

namespace Core

variable (q : Core)

/-! ## Tables and conditions -/

/-- The conditions of the rows of a query: those of the whole, and those with which tables are
joined. -/
def conditions : List Condition :=
  (q.filter.toList.flatMap conjuncts).map (⟨·, none, false⟩) ++
    q.sources.zipIdx.flatMap fun (s, i) =>
      (s.condition.toList.flatMap conjuncts).map
        (⟨·, some i, s.join.keepsLeft || s.join.keepsRight⟩)

/-- The tables that come before each table in any case. -/
def before : List (List Nat) :=
  let step := fun ((done, fixed, isPast, isBound) : List (List Nat) × List Nat × Bool × Bool)
      ((s, i) : Source × Nat) =>
    let isBeside := Source.isBeside q.sources i
    let j := s.join
    if isPast || j.keepsLeft || j.keepsRight || j.isOrdered || isBeside then
      (done ++ [List.range i], List.range i, j.keepsRight, isBound || isBeside)
    else
      let fixed := if isBound then fixed else []
      (done ++ [fixed], fixed, isPast, isBound)
  (q.sources.zipIdx.foldl step ([], [], false, false)).1

/-- The tables of a query, as far as the ways to their rows go, where queries have some weight. -/
def grounds (schema : Schema) (weigh : Select → Weight) (order : List SortTerm) : List Ground :=
  let all := (q.formulas ++ order.map (·.key)).flatMap (·.ownFields)
  q.sources.zipIdx.map fun (s, source) =>
    let used := all.filterMap fun f => if f.source = source then f.column else none
    let ground : Ground := { source, join := s.join, isBeside := Source.isBeside q.sources source
                             after := q.before.getD source [], used := (used.eraseDups).mergeSort
                             use := s.use }
    match s.origin with
    | .table _ name => { ground with table := schema.anyTable? name }
    | .query inner => { ground with weight := weigh inner }
    | .function name args =>
      let needs := (args.flatMap Expr.ownTables).eraseDups
      match TableFunction.ofName? name with
      | some (.account t) =>
        let weight := if t.givenColumns.isEmpty then 46 else 43
        { ground with weight, call := some (if t.givenColumns.isEmpty then 0 else 43, needs) }
      | _ => { ground with weight := 46, call := some (0, needs) }
    | _ => ground

/-- A condition, or a constant if it asks whether a value is there that must be. -/
def settle (grounds : List Ground) (c : Condition) : Condition :=
  match c.formula with
  | .unary op (.field f) =>
    let g := grounds.getD f.source default
    let isRequired := g.table.any (·.isRequired f.column) && !g.join.keepsLeft && !g.isBeside
    if f.level = 0 && (op = .isNull || op = .isNotNull) && isRequired then
      { c with formula := .truth (op = .isNotNull) }
    else c
  | _ => c

/-! ## Orders -/

/-- The functions of the rows around a row in formulas. -/
def callsIn (es : List Expr) : List WindowCall :=
  (es.flatMap fun e => e.collect (fun
    | .windowed f args pick w => [⟨f, args, pick, w⟩]
    | _ => []) fun _ => []).eraseDups
/-- The functions that are told in one go, those that are told last first. -/
def beside : List WindowCall → List (List WindowCall)
  | [] => []
  | c :: rest =>
    let groups := beside rest
    match groups.find? fun g => g.any (·.isBeside c) with
    | none => [c] :: groups
    | some g => (c :: g) :: groups.filter fun h => !h.any (·.isBeside c)

/-- The place of the column that a term of an order repeats, if that tells of the rows around a
row. -/
def repeated? (q : Core) (t : SortTerm) : Option Nat :=
  if t.key.any Expr.isOver then q.values.findIdx? (· == t.key.core) else none

/-- The functions of the rows around each row, in steps of which the last one comes first, and whether
they are told for terms of the order alone: what is told last is told for these apart. -/
def windowSteps (q : Core) (order : List SortTerm) : List (Bool × List WindowCall) :=
  let (copies, own) := order.partition fun t => (repeated? q t).isSome
  match beside (callsIn (q.values ++ own.map (·.key))) with
  | [] => []
  | last :: rest =>
    let copied := (callsIn (copies.map (·.key))).filter fun c => last.any (·.isBeside c)
    (false, last) :: (beside (rest.flatten ++ copied)).map fun g =>
      (g.any fun c => last.any (·.isBeside c), g)

/-- The order that is asked for first. -/
def firstTerms (q : Core) (order : List SortTerm) : List SortTerm :=
  (((windowSteps q order).getLast?.bind (·.2.head?)).map (·.terms)).getD order

/-- The terms of an order that go up, by formulas. -/
def risingTerms (es : List Expr) : List SortTerm := es.map fun e => ⟨e, false, none⟩

/-- The order in which the first row tells the least or the greatest value, if that is all that a query
without groups tells of its rows. -/
def extremeTerm? (grounds : List Ground) : Option SortTerm :=
  let totals := (q.values.flatMap fun e => e.collect (fun
    | .total f isDistinct args order filter => [.total f isDistinct args order filter]
    | _ => []) fun _ => []).eraseDups
  let isRequired := fun (a : Expr) => show Bool from match a with
    | .field f =>
      let g := grounds.getD f.source default
      g.table.any (·.isRequired f.column) && !g.join.keepsLeft && !g.isBeside
    | _ => false
  match q.groups, q.having, totals with
  | [], none, [Expr.total "min" _ [a] _ none] =>
    some ⟨a, false, if isRequired a then none else some false⟩
  | [], none, [Expr.total "max" _ [a] _ none] => some ⟨a, true, none⟩
  | _, _, _ => none

/-- Whether no two rows of a query are the same, since their values tell the row of its only table. -/
def tellsRows (grounds : List Ground) (conditions : List Condition) : Bool :=
  match grounds with
  | [g] =>
    let fixed := (restrictionsOf conditions).filter fun r => r.bound = .equal && r.needs.isEmpty
    let isTold := fun p : IndexPart =>
      match p.value.column? with
      | some c => fixed.any (·.isOnColumn 0 c) || g.base.isRequired c && q.values.any fun e =>
        e.core.column? = some c && (e.collation?.getD .binary) = p.collation
      | none => false
    let isNumber := fun e : Expr => e.core.column?.any fun c =>
      c.isNone || c = g.base.definition.numberColumn
    g.table.isSome && (q.values.any isNumber ||
      g.base.indexes.any fun x => x.isUnique && x.filter.isNone && (x.parts.take x.size).all isTold)
  | _ => false

/-- What a query asks for of its tables. -/
def wish (schema : Schema) (weigh : Select → Weight) (order : List SortTerm) (limit : Option Expr) :
    Wish :=
  let grounds := q.grounds schema weigh order
  let conditions := q.conditions.map (settle grounds)
  let w : Wish := { grounds, conditions, width := q.columns.length }
  let isSame := fun es : List Expr => order.map (·.key) == es
  let grouped := fun es : List Expr =>
    { w with order := risingTerms es, isLoose := true, told := if isSame es then order else [] : Wish }
  let limit := (limit.bind wholeLiteral?).bind fun n => if 0 < n then some n.toNat else none
  let extreme := q.extremeTerm? grounds
  if !q.groups.isEmpty then { grouped q.groups with isUndirected := true }
  else if q.isGrouped then { w with order := extreme.toList, isFirst := extreme.isSome }
  else if !(q.windowSteps order).isEmpty then { w with order := q.firstTerms order }
  else if !q.isDistinct then { w with order, limit }
  else if !order.isEmpty && isSame q.values then grouped q.values
  else if order.isEmpty then
    let order := if q.tellsRows grounds conditions then [] else risingTerms q.values
    { w with order, isLoose := true, isDistinct := true, limit }
  else { w with order, isDistinct := true, limit }

end Core

/-! ## Guesses -/

/-- Whether a query lists rows of values. -/
def Select.isList (q : Select) : Bool :=
  let isRow := fun c : Core => c.sources.isEmpty && c.columns.all fun
    | .value _ _ spelling => spelling = ""
    | .all _ => false
  isRow q.first && !q.rest.isEmpty && q.rest.all fun (op, c) => op = .unionAll && isRow c

/-- How many rows a query is expected to have, which is nested at most so deep. -/
def Select.weight (schema : Schema) : (fuel : Nat) → Select → Weight
  | 0, _ => 320
  | fuel + 1, q =>
    let weigh := Select.weight schema fuel
    let coreWeight := fun (c : Core) (order : List SortTerm) (limit : Option Expr) =>
      let q := ({ q with first := c, rest := [], order, limit, offset := none }).flatten nestingLimit
      let c := q.first
      if !c.groups.isEmpty then 66
      else if c.isGrouped || c.sources.isEmpty then 0
      else
        let found := ((c.wish schema weigh q.order limit).path?.map (·.found)).getD 320
        if c.isDistinct then found - 30 else found
    let limited := fun (w : Weight) =>
      match q.limit.bind wholeLiteral? with
      | some n => if 0 < n then min w (.ofNat n.toNat) else w
      | none => w
    if q.isList then q.rest.length + 1
    else if q.rest.isEmpty then limited (coreWeight q.first q.order q.limit)
    else
      limited (q.rest.foldl (fun w (op, c) =>
        let own := coreWeight c [] none
        match op with
        | .union | .unionAll => .add w own
        | .intersect => min w own
        | .except => own) (coreWeight q.first [] none))

end Sql
end FlowAtlas
