import FlowAtlas.Database.Tree
import FlowAtlas.Sql.Error

/-!
# What is found before a failure

Rows are found one after another. What goes wrong with one of them does not undo those before it,
so a search has both: what it found, in order, and why it went no further.
-/

set_option autoImplicit false

namespace FlowAtlas
namespace Sql

/-- What was found, in order, and what went wrong behind it. -/
structure Found (α : Type) where
  items : List α
  fault : Option SqlError := none
  deriving Repr, Inhabited

namespace Found

variable {α β : Type}

/-- Nothing is found, for a reason. -/
def failed (e : SqlError) : Found α := ⟨[], some e⟩

/-- One thing is found, unless it fails. -/
def ofExcept : Except SqlError α → Found α
  | .ok a => ⟨[a], none⟩
  | .error e => failed e

/-- What is found when something is known, unless that fails. -/
def after (x : Except SqlError α) (f : α → Found β) : Found β :=
  match x with
  | .ok a => f a
  | .error e => failed e

/-- What was read. -/
def ofReading (r : Database.Reading α) : Found α := ⟨r.items, r.fault.map .database⟩

/-- What is found for each of some things, up to the first failure. -/
def each (last : Option SqlError) (f : α → Found β) : List α → Found β
  | [] => ⟨[], last⟩
  | a :: rest =>
    let x := f a
    match x.fault with
    | some _ => x
    | none =>
      let y := each last f rest
      ⟨x.items ++ y.items, y.fault⟩

/-- What is found for each thing that was found. -/
def bind (x : Found α) (f : α → Found β) : Found β := each x.fault f x.items

/-- Change each thing that was found. -/
def mapE (x : Found α) (f : α → Except SqlError β) : Found β := x.bind fun a => ofExcept (f a)

/-- What was found that is fit. -/
def filterE (x : Found α) (isFit : α → Except SqlError Bool) : Found α :=
  x.bind fun a =>
    match isFit a with
    | .ok true => ⟨[a], none⟩
    | .ok false => ⟨[], none⟩
    | .error e => failed e

/-- All that was found, if nothing went wrong. -/
def all (x : Found α) : Except SqlError (List α) :=
  match x.fault with
  | some e => .error e
  | none => .ok x.items

/-- What was found in another order, for which nothing may go wrong. -/
def rearrange (x : Found α) (f : List α → List β) : Found β :=
  match x.fault with
  | some e => failed e
  | none => ⟨f x.items, none⟩

/-- A part of what was found. What goes wrong behind it does not matter. -/
def part (x : Found α) (first : Nat) (size : Option Nat) : Found α :=
  let items := x.items.drop first
  match size with
  | none => ⟨items, x.fault⟩
  | some n => ⟨items.take n, if n ≤ items.length then none else x.fault⟩

end Found
end Sql
end FlowAtlas
