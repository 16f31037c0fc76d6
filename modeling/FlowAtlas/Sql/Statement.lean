import FlowAtlas.Sql.Load
import FlowAtlas.Sql.Perform

/-!
# Statements

Statements are carried out alone or several together. When they are complete, no row may lack a row
that it must have by then. A statement that fails is taken back with all that came before it, unless
it stands alone and says that what it has done stays.
-/

set_option autoImplicit false

namespace FlowAtlas
namespace Sql

open Database (Value)

/-! ## Texts -/

/-- The change that a text writes. -/
def Change.ofText (text : String) : Except SqlError Change := Reader.whole Reader.change text

/-- A statement with the values that are given for it. -/
structure Statement where
  text : String
  change : Execution Unit
  parameters : List Value := []

namespace Statement

/-- A change as it is written. -/
def ofText (text : String) (parameters : List Value) : Statement :=
  { text, parameters, change := do (← Execution.ofExcept (Change.ofText text)).run }

/-- Look whether a change makes sense that is written. -/
def preparing (text : String) : Statement :=
  let change := do
    let _ ← (← Execution.ofExcept (Change.ofText text)).prepare
  { text, change }

end Statement

/-! ## Outcomes -/

/-- What went wrong with a statement. -/
structure StatementFault where
  error : SqlError
  /-- The text of the statement. -/
  text : String := ""
  deriving DecidableEq, Repr, Inhabited

/-- What has become of statements. -/
structure Outcome where
  /-- The database behind the statements. -/
  database : Database
  /-- What went wrong, if anything. -/
  fault : Option StatementFault := none
  tally : Tally
  /-- Whether something was written before it was taken back. -/
  isUndone : Bool := false
  deriving Inhabited

/-! ## Carrying out -/

/-- Carry out a statement, from where others have got to, on what the database defines then. -/
def Statement.run (x : Statement) (p : Progress) : Except Halt Unit × Progress :=
  let p : Progress :=
    { database := p.database, isBegun := p.isBegun, tally := p.tally, postponed := p.postponed }
  match schemaOf p.database with
  | .ok schema => (x.change.run { schema, parameters := x.parameters }).run.run p
  | .error e => (.error (.ofError (.database e)), p)

/-- Carry out statements one after another, up to the first one that fails, which is told too. -/
def Statement.runAll : List Statement → Progress → Option (Halt × String) × Progress
  | [], p => (none, p)
  | x :: rest, p =>
    match x.run p with
    | (.ok (), p) => runAll rest p
    | (.error h, p) => (some (h, x.text), p)

/-- Carry out statements together. What one of them has done stays only if it stands alone. -/
def carryOut (d : Database) (tally : Tally) (isAlone : Bool) (xs : List Statement) : Outcome :=
  let (halt, p) := Statement.runAll xs { database := d, tally }
  let isWhole := p.missing ≤ 0 && p.postponed ≤ 0
  let isKept := match halt with
    | some (.failed _ r, _) => isAlone && isWhole && r = .fail
    | _ => isWhole
  let completed := if isKept && p.isBegun then p.database.complete (d.header .changes) else .ok d
  let fault := match halt, completed with
    | some (.failed error _, text), _ => some ⟨error, text⟩
    | _, .error e => some ⟨.database e, ""⟩
    | _, .ok _ => if isWhole then none else some ⟨.parentMissing, ""⟩
  let after := completed.toOption.getD d
  { database := after, fault, tally := p.tally
    isUndone := after.pages = d.pages && p.database.pages ≠ d.pages }

end Sql
end FlowAtlas
