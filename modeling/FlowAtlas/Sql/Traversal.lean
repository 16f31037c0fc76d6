import FlowAtlas.Sql.Expr

/-!
# Going through formulas

`Expr.mapM` changes a formula from the inside out, and `Expr.any` looks for a part of it. Neither
goes into the queries that a formula holds: what becomes of these is told by the one who asks.
-/

set_option autoImplicit false

namespace FlowAtlas
namespace Sql

/-! ## Changing formulas -/

/-- How a formula is changed: what is done when a part is met, how a query is changed, and how a
part is changed whose own parts are changed already. -/
structure Visitor (m : Type → Type) where
  enter : Expr → m Unit
  query : Select → m Select
  leave : Expr → m Expr

variable {m : Type → Type} [Monad m]

mutual

/-- Change a formula from the inside out. -/
def Expr.mapM (v : Visitor m) (e : Expr) : m Expr := do
  v.enter e
  match e with
  | .unary op a => v.leave (.unary op (← a.mapM v))
  | .binary op a b => v.leave (.binary op (← a.mapM v) (← b.mapM v))
  | .between a b c => v.leave (.between (← a.mapM v) (← b.mapM v) (← c.mapM v))
  | .collate a c => v.leave (.collate (← a.mapM v) c)
  | .cast a t => v.leave (.cast (← a.mapM v) t)
  | .call f args => v.leave (.call f (← Expr.mapAllM v args))
  | .total f isDistinct args order pick =>
    v.leave (.total f isDistinct (← Expr.mapAllM v args) (← Expr.mapTermsM v order)
      (← Expr.mapOptionM v pick))
  | .windowed f args pick w =>
    v.leave (.windowed f (← Expr.mapAllM v args) (← Expr.mapOptionM v pick) (← Window.mapM v w))
  | .cases operand branches otherwise =>
    v.leave (.cases (← Expr.mapOptionM v operand) (← Expr.mapBranchesM v branches)
      (← Expr.mapOptionM v otherwise))
  | .row parts => v.leave (.row (← Expr.mapAllM v parts))
  | .among a values => v.leave (.among (← a.mapM v) (← Expr.mapAllM v values))
  | .within a q => v.leave (.within (← a.mapM v) (← v.query q))
  | .exists q => v.leave (.exists (← v.query q))
  | .scalar q => v.leave (.scalar (← v.query q))
  | .null => v.leave .null
  | .number t => v.leave (.number t)
  | .text s => v.leave (.text s)
  | .blob bs => v.leave (.blob bs)
  | .truth b => v.leave (.truth b)
  | .moment w => v.leave (.moment w)
  | .parameter t => v.leave (.parameter t)
  | .name n => v.leave (.name n)
  | .field f => v.leave (.field f)
  | .raise r t => v.leave (.raise r t)

/-- Change formulas one after another. -/
def Expr.mapAllM (v : Visitor m) : List Expr → m (List Expr)
  | [] => return []
  | e :: es => return (← e.mapM v) :: (← Expr.mapAllM v es)

/-- Change a formula, if there is one. -/
def Expr.mapOptionM (v : Visitor m) : Option Expr → m (Option Expr)
  | none => return none
  | some e => return some (← e.mapM v)

/-- Change the formulas by which rows are sorted. -/
def Expr.mapTermsM (v : Visitor m) : List SortTerm → m (List SortTerm)
  | [] => return []
  | ⟨e, isDescending, nullsFirst⟩ :: ts =>
    return ⟨← e.mapM v, isDescending, nullsFirst⟩ :: (← Expr.mapTermsM v ts)

/-- Change the end of a frame. -/
def FrameBound.mapM (v : Visitor m) : FrameBound → m FrameBound
  | .before e => return .before (← e.mapM v)
  | .behind e => return .behind (← e.mapM v)
  | .unbounded => return .unbounded
  | .current => return .current

/-- Change a frame, if there is one. -/
def WindowFrame.mapOptionM (v : Visitor m) : Option WindowFrame → m (Option WindowFrame)
  | none => return none
  | some ⟨unit, first, last, exclusion⟩ =>
    return some ⟨unit, ← first.mapM v, ← last.mapM v, exclusion⟩

/-- Change the formulas of a window. -/
def Window.mapM (v : Visitor m) : Window → m Window
  | ⟨base, isBase, parts, order, frame⟩ =>
    return ⟨base, isBase, ← Expr.mapAllM v parts, ← Expr.mapTermsM v order,
      ← WindowFrame.mapOptionM v frame⟩

/-- Change the branches of a choice. -/
def Expr.mapBranchesM (v : Visitor m) : List (Expr × Expr) → m (List (Expr × Expr))
  | [] => return []
  | (a, b) :: rest => return (← a.mapM v, ← b.mapM v) :: (← Expr.mapBranchesM v rest)

end

/-! ## Looking into formulas -/

/-- The parts of a formula with something about them, the outer ones behind the inner ones. Each
query is asked for its own. -/
def Expr.collect {α : Type} (part : Expr → List α) (query : Select → List α) (e : Expr) : List α :=
  let v : Visitor (StateM (List α)) :=
    { enter := fun _ => pure ()
      query := fun q => do
        modify (· ++ query q)
        return q
      leave := fun e => do
        modify (· ++ part e)
        return e }
  ((e.mapM v).run []).2

/-- Whether a formula or one of its parts is of a sort. -/
def Expr.any (isSort : Expr → Bool) (e : Expr) : Bool :=
  !(e.collect (fun a => if isSort a then [()] else []) fun _ => []).isEmpty

/-- Change a formula from the inside out, and leave its queries as they are. -/
def Expr.map (f : Expr → Expr) (e : Expr) : Expr :=
  Id.run (e.mapM { enter := fun _ => pure (), query := pure, leave := fun e => pure (f e) })

/-- The tables of its own query that a formula is about. -/
def Expr.tables (e : Expr) : List Nat :=
  e.collect (fun
    | .field f => if f.level = 0 then [f.source] else []
    | _ => []) fun _ => []

/-! ## Sorts of formulas -/

/-- Whether a part of a formula is a query. -/
def Expr.isQuery : Expr → Bool
  | .within _ _ | .exists _ | .scalar _ => true
  | _ => false

/-- Whether a part of a formula asks for all rows of a group. -/
def Expr.isTotal : Expr → Bool
  | .total _ _ _ _ _ => true
  | _ => false

/-- Whether a part of a formula asks for the rows around a row. -/
def Expr.isOver : Expr → Bool
  | .windowed _ _ _ _ => true
  | _ => false

/-! ## Conditions -/

/-- The conditions that must all hold. -/
def conjuncts : Expr → List Expr
  | .binary .and a b => conjuncts a ++ conjuncts b
  | e => [e]

/-- All of some conditions as one. -/
def allOf : List Expr → Option Expr
  | [] => none
  | e :: es => some (es.foldl (.binary .and) e)

end Sql
end FlowAtlas
