import FlowAtlas.Sql.TableFunction
import FlowAtlas.Sql.Traversal

/-!
# Arguments that conditions give

What a function with a table as its value is given stands in columns of that table. A condition that
such a column is the same as something therefore gives the function an argument, and is met by that
(`Source.given`).
-/

set_option autoImplicit false

namespace FlowAtlas
namespace Sql

/-- The conditions of the tables of a query, one list for each, and behind them those of its rows. -/
abbrev ConditionLists := List (List Expr)

/-- What a condition says that a column of a table is, if it tells that by other tables. -/
def Expr.given? (source column : Nat) : Expr → Option Expr
  | .binary .equal a b =>
    let side := fun a b : Expr =>
      match a with
      | .field f =>
        let isOwn := f.level = 0 && f.source = source && f.column = some column
        if isOwn && !b.tables.contains source then some b else none
      | _ => none
    (side a b).or (side b a)
  | _ => none

namespace ConditionLists

/-- What the first condition of some lists says that a column is, and the lists without it. -/
def take? (source column : Nat) (isOpen : Nat → Bool) (lists : ConditionLists) :
    Option (Expr × ConditionLists) :=
  lists.zipIdx.findSome? fun (es, k) => do
    if !isOpen k then none
    let i ← es.findIdx? fun e => (e.given? source column).isSome
    let e ← (es.getD i default).given? source column
    return (e, lists.set k (es.eraseIdx i))

end ConditionLists

/-- The arguments of a function with a table as its value that conditions give, one after another
behind those that it has, and the conditions that are left. -/
def TableFunction.given (t : TableFunction) (source : Nat) (isOpen : Nat → Bool)
    (args : List Expr) (lists : ConditionLists) : List Expr × ConditionLists :=
  (List.range t.givenColumns.length).foldl (fun (args, lists) j =>
    if args.length ≠ j then (args, lists)
    else
      match ConditionLists.take? source (t.columns.length + j) isOpen lists with
      | some (e, lists) => (args ++ [e], lists)
      | none => (args, lists)) (args, lists)

/-- Tables of a query, and the condition of its rows, where conditions have given functions their
arguments. The conditions of a table that leaves no row out on the left count for that table alone. -/
def Source.given (sources : List Source) (filter : Option Expr) :
    List Source × Option Expr :=
  let lists := sources.map (fun s => s.condition.toList.flatMap conjuncts) ++
    [filter.toList.flatMap conjuncts]
  let isInner := fun k => ((sources[k]?).all fun s => !s.join.keepsLeft)
  let step := fun ((done, lists) : List Source × ConditionLists) ((s, i) : Source × Nat) =>
    match s.origin with
    | .function name args =>
      match TableFunction.ofName? name with
      | some t =>
        let isOpen := fun k => k = i || isInner i && isInner k
        let (args, lists) := t.given i isOpen args lists
        (done ++ [{ s with origin := .function name args }], lists)
      | none => (done ++ [s], lists)
    | _ => (done ++ [s], lists)
  if sources.any (·.join.keepsRight) then (sources, filter)
  else
    let (done, left) := sources.zipIdx.foldl step ([], lists)
    if left == lists then (done, filter)
    else
      (done.zipIdx.map fun (s, i) => { s with condition := allOf (left.getD i []) },
        allOf (left.getD sources.length []))

end Sql
end FlowAtlas
