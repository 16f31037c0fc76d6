import FlowAtlas.Sql.Restriction

/-!
# Queries in place of tables

A query that stands in place of a table of another one can often be made one with it: its tables take
its place, and its formulas take the place of its columns (`Select.flatten`). Which rows there are
does not hang on that, but their order may. For the same reason rows without partners are not kept
where a condition leaves them out.
-/

set_option autoImplicit false

namespace FlowAtlas
namespace Sql

/-! ## Orders that do not show -/

/-- Whether the rows of a query are some of the rows of its tables, one by one. -/
def Select.isPlain (q : Select) : Bool :=
  q.rest.isEmpty && q.limit.isNone && q.offset.isNone && !q.first.isDistinct && !q.first.isGrouped

/-- Whether a query tells something that hangs on the order in which its rows come. -/
def Core.isOrderly (q : Core) (order : List SortTerm) : Bool :=
  (q.values ++ q.having.toList ++ order.map (·.key)).any (·.any fun
    | .total f _ _ _ _ => !(["count", "min", "max"].contains f)
    | e => e.isOver)

/-- A query whose tables come in an order of their own only where that can show. -/
def Select.loosen (q : Select) : Select :=
  let isShown := q.first.isOrderly q.order || q.order.isEmpty && q.first.sources.length < 2
  let loose := fun src : Source =>
    match src.origin with
    | .query inner =>
      if inner.limit.isSome || inner.first.isOrderly inner.order then src
      else { src with origin := .query { inner with order := [] } }
    | _ => src
  if isShown then q
  else { q with first := { q.first with sources := q.first.sources.map loose } }

/-! ## Rows without partners -/

/-- Whether a formula cannot hold where a table has no row. -/
def Expr.needsRow (source : Nat) (e : Expr) : Bool :=
  match e with
  | .field f => f.level = 0 && f.source = source
  | .binary op a b =>
    match op with
    | .is | .isNot | .extract _ => false
    | .and | .or => a.needsRow source && b.needsRow source
    | _ => a.needsRow source || b.needsRow source
  | .among a _ => a.needsRow source
  | .between a low high => a.needsRow source || low.needsRow source && high.needsRow source
  | .unary .isNull _ | .unary .isNotNull _ => false
  | .unary _ a | .collate a _ | .cast a _ => a.needsRow source
  | _ => false

/-- Whether a condition leaves rows out in which a table has no row. -/
def Expr.asksForRow (source : Nat) : Expr → Bool
  | .unary .isNotNull a => a.needsRow source
  | e => e.needsRow source

/-- Whether a table of some comes before one that keeps its own rows without partners. -/
def Source.isBeside (sources : List Source) (i : Nat) : Bool :=
  (sources.drop (i + 1)).any (·.join.keepsRight)

/-- Change how a table of some is joined. -/
def Source.rejoin (sources : List Source) (i : Nat) (f : Join → Join) : List Source :=
  sources.modify i fun s => { s with join := f s.join }

/-- Tables of a query without rows that lack a partner, where conditions leave them out. -/
def Source.narrow (filters : List Expr) (sources : List Source) : List Source :=
  let inner := fun (sources : List Source) => (sources.filter fun s => !s.join.keepsLeft && !s.join.keepsRight)
    |>.flatMap fun s => s.condition.toList.flatMap conjuncts
  (List.range sources.length).foldl (fun sources i =>
    let isBeside := Source.isBeside sources i
    let asked := filters ++ if isBeside then [] else inner sources
    if !asked.any (·.asksForRow i) then sources
    else
      let sources := Source.rejoin sources i fun j => { j with keepsLeft := false }
      if !isBeside then sources
      else
        (List.range sources.length).foldl (fun sources j =>
          if i < j then Source.rejoin sources j fun x => { x with keepsRight := false } else sources)
          sources) sources

/-! ## Queries that become one -/

/-- The queries that stand in place of tables of a query, with the numbers of the tables, if the two
can be one. -/
def Select.partner? (q : Select) : Option (Nat × Select) :=
  let sources := q.first.sources
  let own := q.first.formulas ++ q.order.map (·.key)
  let isFixed := own.any (·.any fun e => e.isQuery || e.isOver)
  let isSingle := sources.length = 1
  let hasFunction := sources.any fun s => match s.origin with
    | .function _ _ => true
    | _ => false
  let isFit := fun (src : Source) (i : Nat) (inner : Select) =>
    let formulas := inner.first.formulas
    let hasWindows := formulas.any (·.any Expr.isOver)
    let isSorted := !inner.order.isEmpty &&
      (!isSingle || q.first.isGrouped || !q.order.isEmpty)
    let isLeft := src.join.keepsLeft
    let isOpen := isSingle || !inner.first.sources.isEmpty && !hasFunction &&
      (i = 0 || !formulas.any (·.any Expr.isQuery)) && !src.join.keepsRight &&
      !Source.isBeside sources i && (!isLeft || inner.first.sources.length = 1 &&
        !q.first.isDistinct && inner.first.values.all (·.column?.isSome))
    inner.isPlain && !hasWindows && !isSorted && isOpen
  if !q.rest.isEmpty || isFixed then none
  else
    sources.zipIdx.findSome? fun (src, i) =>
      match src.origin with
      | .query inner => if isFit src i inner then some (i, inner) else none
      | _ => none

/-- Make one query of two, of which the second one stands in place of a table of the first one, and
of which only one has an order. -/
def Select.merge (q : Select) (i : Nat) (inner : Select) : Select :=
  let count := inner.first.sources.length
  let shift := fun (e : Expr) => e.map fun
    | .field f => .field (if f.level = 0 then { f with source := f.source + i } else f)
    | e => e
  let values := inner.first.values.map shift
  let put := fun (e : Expr) => e.map fun
    | .field f =>
      if f.level ≠ 0 || f.source < i then .field f
      else if f.source = i then (f.column.bind (values[·]?)).getD (.field f)
      else .field { f with source := f.source + count - 1 }
    | e => e
  let column := fun
    | ResultColumn.value e asName spelling => ResultColumn.value (put e) asName spelling
    | c => c
  let own := q.first.sources.map fun s => { s with condition := s.condition.map put }
  let place := own.getD i default
  let isLeft := place.join.keepsLeft
  let told := inner.first.filter.toList.map shift
  let made := inner.first.sources.zipIdx.map fun (s, j) =>
    let late := if j + 1 = count then place.condition.toList else []
    let early := if isLeft then told else []
    { s with
      join := if j = 0 then place.join else s.join
      condition := allOf (s.condition.toList.map shift ++ early ++ late) }
  let first := { q.first with
    columns := q.first.columns.map column
    sources := own.take i ++ made ++ own.drop (i + 1)
    filter := allOf ((if isLeft then [] else told) ++ (q.first.filter.map put).toList)
    groups := q.first.groups.map put
    having := q.first.having.map put }
  let order := q.order.map fun t => { t with key := put t.key }
  { q with first, order := if order.isEmpty then inner.order.map fun t => { t with key := shift t.key }
    else order }

/-- Make one query of those that stand in place of each other's tables, at most so many. -/
def Select.flatten : (fuel : Nat) → Select → Select
  | 0, q => q
  | fuel + 1, q =>
    let q := q.loosen
    let sources := Source.narrow (q.first.filter.toList.flatMap conjuncts) q.first.sources
    let q := { q with first := { q.first with sources } }
    match q.partner? with
    | none => q
    | some (i, inner) => flatten fuel (q.merge i inner)

end Sql
end FlowAtlas
