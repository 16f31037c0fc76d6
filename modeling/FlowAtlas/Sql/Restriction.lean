import FlowAtlas.Sql.Resolve

/-!
# What conditions tell of values

A condition that compares a column with something that is the same for all rows tells where in an
index its rows stand. `Expr.restrictions` finds what a condition tells of the columns, and of other
formulas that an index may be about.
-/

set_option autoImplicit false

namespace FlowAtlas
namespace Sql

/-! ## What formulas depend on -/

/-- The formulas of a query. -/
def Core.formulas (c : Core) : List Expr :=
  c.values ++ c.filter.toList ++ c.groups ++ c.having.toList ++ c.sources.filterMap (·.condition)

/-- The places of columns in a query, nested at most so deep, that belong to a query further out by
some levels. -/
def Select.fieldsOut : (fuel level : Nat) → Select → List Field
  | 0, _, _ => []
  | fuel + 1, level, q =>
    let own := fun e : Expr => e.collect (fun
      | .field f => if f.level = level then [f] else []
      | _ => []) (Select.fieldsOut fuel (level + 1))
    let sourceFields := fun s : Source =>
      match s.origin with
      | .query inner => Select.fieldsOut fuel level inner
      | .function _ args => args.flatMap own
      | .recursion first next _ =>
        Select.fieldsOut fuel level first ++ Select.fieldsOut fuel (level + 1) next
      | .table _ _ | .latest => []
    let cores := q.first :: q.rest.map (·.2)
    let rest := q.order.map (·.key) ++ q.limit.toList ++ q.offset.toList
    (cores.flatMap fun c => c.formulas.flatMap own ++ c.sources.flatMap sourceFields) ++
      rest.flatMap own

namespace Expr

/-- The places of the columns of its own query that a formula depends on, by its queries too. -/
def ownFields (e : Expr) : List Field :=
  e.collect (fun
    | .field f => if f.level = 0 then [f] else []
    | _ => []) (Select.fieldsOut nestingLimit 1)

/-- The tables of its own query that a formula depends on. -/
def ownTables (e : Expr) : List Nat := (e.ownFields.map (·.source)).eraseDups

/-- Whether queries in a formula depend on the rows of its own query. -/
def asksAbout (e : Expr) : Bool :=
  !(e.collect (fun _ => []) (Select.fieldsOut nestingLimit 1)).isEmpty

end Expr

/-! ## Bounds -/

/-- What a condition tells of a value. -/
inductive Bound
  /-- It is the same as another one. -/
  | equal
  /-- It is the same as another one, or both are missing. -/
  | same
  | missing
  /-- It is one of some, or of those that a query has if their number is not told. -/
  | among (count : Option Nat)
  | above
  | below
  /-- It stands between two others. -/
  | between
  /-- It is not missing. -/
  | present
  deriving DecidableEq, Repr, Inhabited

namespace Bound

/-- What a comparison tells of its first value. -/
def ofOperation? : BinaryOp → Option Bound
  | .equal => some equal
  | .is => some same
  | .less | .atMost => some below
  | .greater | .atLeast => some above
  | _ => none

/-- What a comparison tells of its second value, where this is told of the first one. -/
def swapped : Bound → Bound
  | above => below
  | below => above
  | b => b

/-- Whether one value is told. -/
def isOne : Bound → Bool
  | equal | same | missing => true
  | _ => false

/-- Whether a value must be there. -/
def isLower : Bound → Bool
  | above | between | present => true
  | _ => false

/-- Whether a value must not go beyond another one. -/
def isUpper : Bound → Bool
  | below | between => true
  | _ => false

end Bound

/-- What a condition tells of the values of a formula over the rows of one table. -/
structure Restriction where
  /-- The number of the condition among others. -/
  place : Nat := 0
  /-- The number of the table among those of the query. -/
  source : Nat
  key : Expr
  bound : Bound
  /-- What the values are compared with. -/
  value : Expr := .null
  collation : Collation := .binary
  /-- The tables whose rows must be known before. -/
  needs : List Nat := []
  deriving Repr, Inhabited

namespace Restriction

/-- What is told of the values of a formula, where it is compared with something. -/
def ofKey (a : Expr) (bound : Bound) (value : Expr) (collation : Collation) : List Restriction :=
  match a.ownTables with
  | [source] =>
    if value.ownTables.contains source || value.any fun e => e.isTotal || e.isOver then []
    else [{ source, key := a.core, bound, value, collation, needs := value.ownTables }]
  | _ => []

/-- What a comparison tells of its two sides. -/
def ofComparison (op : BinaryOp) (a b : Expr) : List Restriction :=
  match Bound.ofOperation? op with
  | none => []
  | some bound =>
    let collation := a.commonCollation b
    ofKey a bound b collation ++ ofKey b bound.swapped a collation

/-- What is told of the values of a formula without another one. -/
def ofAlone (a : Expr) (bound : Bound) (value : Expr) : List Restriction :=
  ofKey a bound value (a.collation?.getD .binary)

/-- Whether an index on a column of some affinity finds the values that a condition asks for. -/
def fits (r : Restriction) : Bool :=
  let affinity := r.key.affinity?
  let common :=
    match affinity, r.value.affinity? with
    | some a, some b => if a.isNumeric || b.isNumeric then Affinity.numeric else .blob
    | some a, none => a
    | none, some b => b
    | none, none => .blob
  match common with
  | .blob => true
  | .text => affinity = some .text
  | _ => affinity.any (·.isNumeric)

/-- Whether the restriction is about a column of a table. -/
def isOnColumn (r : Restriction) (source : Nat) (column : Option Nat) : Bool :=
  r.source = source && r.key.column? = some column

end Restriction

/-! ## Conditions -/

/-- The characters that stand for others in a pattern. -/
def wildcards : String → List Char
  | "glob" => ['*', '?', '[']
  | "like" => ['%', '_']
  | _ => []

/-- The conditions of which one must hold. -/
def disjuncts : Expr → List Expr
  | .binary .or a b => disjuncts a ++ disjuncts b
  | e => [e]

namespace Expr

/-- Whether a formula is a column of a table of its query. -/
def isOwnColumn (e : Expr) : Bool :=
  match e.core with
  | .field f => f.level = 0
  | _ => false

/-- What a condition tells that compares values one by one. -/
def comparisons : Expr → List Restriction
  | .binary op (.row xs) (.row ys) =>
    if op = .equal || op = .is then (xs.zip ys).flatMap fun (a, b) => Restriction.ofComparison op a b else []
  | .binary op a b => Restriction.ofComparison op a b
  | _ => []

/-- What conditions tell of which one must hold, if all are about the same column. -/
def alternatives (es : List Expr) : List Restriction :=
  let told := es.map fun e =>
    e.comparisons.filter fun r =>
      let a := r.value.affinity?
      r.bound = .equal && (a.isNone || a = r.key.affinity?)
  let isShared := fun r : Restriction => told.all (·.any (·.key == r.key))
  ((told.headD []).find? isShared).toList.map fun r =>
    { r with bound := .among (some es.length), value := .null }

/-- What a pattern tells of a column of texts. -/
def patternBounds (function : String) (pattern a : Expr) : List Restriction :=
  match pattern.core, a.core with
  | .text s, .field f =>
    let isFree := (s.toList.head?).any fun c =>
      !(wildcards function).contains c && (f.affinity = some .text || c.isAlpha)
    let collation := if function = "like" then Collation.caseless else .binary
    if isFree && f.level = 0 then Restriction.ofKey (.field f) .between pattern collation else []
  | _, _ => []

/-- What a condition tells of values. -/
def restrictions (e : Expr) : List Restriction :=
  match e with
  | .unary .isNull a => Restriction.ofAlone a .missing .null
  | .unary .isNotNull (.field f) =>
    if f.column.isSome then Restriction.ofAlone (.field f) .present .null else []
  | .between a low high =>
    Restriction.ofComparison .atLeast a low ++ Restriction.ofComparison .atMost a high
  | .among (.row _) _ => []
  | .among a [v] => Restriction.ofKey a .equal v (a.commonCollation v)
  | .among a vs =>
    let needs := (vs.flatMap ownTables).eraseDups
    (Restriction.ofAlone a (.among (some vs.length)) .null).filterMap fun r =>
      if needs.contains r.source then none else some { r with needs }
  | .within (.row _) _ => []
  | .within a q =>
    let needs := (Expr.exists q).ownTables
    (Restriction.ofAlone a (.among none) ((firstColumn? q).getD .null)).filterMap fun r =>
      if needs.contains r.source then none else some { r with needs }
  | .call f [p, a] => if (wildcards f).isEmpty then [] else patternBounds f p a
  | .binary .or a b => alternatives (disjuncts a ++ disjuncts b)
  | e => e.comparisons

/-- Whether a condition stands for others, which compare values one by one. -/
def isOfRows : Expr → Bool
  | .binary op (.row _) (.row _) => op = .equal || op = .is
  | _ => false

/-- Whether what a condition tells is told by it as it stands. -/
def isPlain (e : Expr) : Bool :=
  match e with
  | .binary .or _ _ | .between _ _ _ | .call _ _ | .unary .isNotNull _ => false
  | e => !e.isOfRows

end Expr

/-- A condition of the rows of a query. -/
structure Condition where
  formula : Expr
  /-- The table with which it stands, if it stands with one. -/
  join : Option Nat := none
  /-- Whether rows of tables before that one stay that do not meet the condition. -/
  isOuter : Bool := false
  deriving Repr, Inhabited

namespace Condition

/-- The tables that a condition depends on. One with which rows stay that do not meet it counts for
its own table. -/
def tables (c : Condition) : List Nat :=
  (c.formula.ownTables ++ if c.isOuter then c.join.toList else []).eraseDups

/-- What a condition tells of values. Where rows before its table stay, it tells nothing of them. -/
def restrictions (c : Condition) : List Restriction :=
  match c.isOuter, c.join with
  | true, some j =>
    let before := List.range j
    c.formula.restrictions.filterMap fun r =>
      if r.source < j then none else some { r with needs := (r.needs ++ before).eraseDups }
  | _, _ => c.formula.restrictions

/-- The column that a condition makes the same as something else, as it is written. -/
def equality? (c : Condition) : Option Restriction :=
  match c.formula with
  | .binary op a b =>
    let key := if a.isOwnColumn then a else b
    let isEqual := (op = .equal || op = .is) && key.isOwnColumn
    if isEqual then c.formula.restrictions.find? (·.key == key.core) else none
  | _ => none

/-- The conditions that count beside one since they follow from it, each with whether it makes values the
same. -/
def others (c : Condition) : List Bool :=
  let sides := fun (isEqual : Bool) (a b : Expr) =>
    if a.isOwnColumn && b.isOwnColumn then [isEqual] else []
  match c.formula with
  | .binary op (.row xs) (.row ys) =>
    if op = .equal || op = .is then (xs.zip ys).flatMap fun (a, b) => true :: sides true a b else []
  | .between a low high => false :: sides false a low ++ false :: sides false a high
  | .binary .or a b => (Expr.binary .or a b).restrictions.map fun _ => false
  | .binary op a b =>
    if (Bound.ofOperation? op).isSome then sides c.equality?.isSome a b else []
  | .call f [p, a] => (Expr.call f [p, a]).restrictions.flatMap fun _ => [false, false]
  | _ => []

end Condition

/-- What conditions tell of values, first by those that tell it as they stand. -/
def restrictionsOf (conditions : List Condition) : List Restriction :=
  let told := fun (isPlain : Bool) =>
    conditions.zipIdx.flatMap fun (c, place) =>
      if c.formula.isPlain = isPlain then
        c.restrictions.map fun r => { r with place : Restriction }
      else []
  told true ++ told false

/-- What is told of columns by what is told of others that are the same. -/
def sharedRestrictions (conditions : List Condition) (told : List Restriction) :
    List Restriction :=
  conditions.flatMap fun c =>
    match c.isOuter, c.formula with
    | false, .binary .equal (.field f) (.field g) =>
      let isAlike := f.affinity = g.affinity ||
        f.affinity.any (·.isNumeric) && g.affinity.any (·.isNumeric)
      let collation := Expr.commonCollation (.field f) (.field g)
      let side := fun (f g : Field) =>
        told.filterMap fun r : Restriction =>
          let isFit := r.key == .field g && !r.needs.contains f.source && r.value != .field f
          if isFit then some ({ r with source := f.source, key := .field f } : Restriction) else none
      if isAlike && collation = .binary && f.source ≠ g.source && f.level = 0 && g.level = 0 then
        side f g ++ side g f
      else []
    | _, _ => []

/-! ## What conditions imply -/

/-- Whether an operation has no value without those of its operands. -/
def BinaryOp.needsBoth : BinaryOp → Bool
  | .equal | .notEqual | .less | .atMost | .greater | .atLeast | .plus | .minus | .bitOr | .shiftLeft
  | .shiftRight | .concat => true
  | _ => false

/-- Whether an operation that does not have the value zero needs its operands. -/
def BinaryOp.needsFactors : BinaryOp → Bool
  | .times | .remainder | .bitAnd | .divide => true
  | _ => false

/-- Whether a formula cannot hold where another one has no value, or cannot have a value there if
that is asked for. -/
def Expr.needs (e key : Expr) (asksValue : Bool) : Bool :=
  e == key ||
    match e with
    | .among a _ => a.needs key true
    | .within a _ => !asksValue && a.needs key true
    | .between a low high =>
      !asksValue && (low.needs key true || high.needs key true || a.needs key true)
    | .binary op a b =>
      (op.needsBoth && (b.needs key true || a.needs key true)) ||
        (op.needsFactors && (b.needs key asksValue || a.needs key asksValue))
    | .unary .positive a | .unary .negative a | .collate a _ => a.needs key asksValue
    | .unary .complement a | .unary .not a => a.needs key true
    | _ => false

/-- Whether a condition holds only where another one does. -/
def Expr.implies (e : Expr) : Expr → Bool
  | .binary .or a b => e == .binary .or a b || e.implies a || e.implies b
  | .unary .isNotNull a => e == .unary .isNotNull a || e.needs a false
  | f => e == f

end Sql
end FlowAtlas
