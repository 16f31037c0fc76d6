import FlowAtlas.Sql.Plan

/-!
# Paths through the tables of a query

The rows of several tables are put together one table after another, each by a way of its own that
may use what is known of the tables before it. A `Path` tells the ways and their order.
`Wish.path?` looks for the cheapest one: it goes on from the best paths through some tables to those
through one more, and weighs against each other what a path costs and what sorting its rows costs.
-/

set_option autoImplicit false

namespace FlowAtlas
namespace Sql

/-! ## Orders -/

/-- How far an order is met by the ways of a path. -/
structure Meeting where
  /-- The terms of the order, and whether rows come in their order. -/
  terms : List (SortTerm × Bool)
  /-- Whether the values that were looked at tell the rows of all tables so far. -/
  tellsRows : Bool := true
  /-- The tables whose rows they tell. -/
  told : List Nat := []
  deriving Inhabited

/-- How far an order is met by one way. -/
structure WayMeeting where
  terms : List (SortTerm × Bool)
  /-- Whether rows go backward for that, if it is settled. -/
  isReversed : Option Bool := none
  /-- Whether the values that were looked at tell a row. -/
  tellsRow : Bool := true
  /-- Whether the number of the row is among them. -/
  hasNumber : Bool := false

namespace Meeting

/-- Whether all terms are met. -/
def isWhole (m : Meeting) : Bool := m.terms.all (·.2)

/-- How many terms are met, if that is settled. -/
def count? (m : Meeting) : Option Nat :=
  if m.isWhole then some m.terms.length
  else if m.tellsRows then none
  else some (m.terms.takeWhile (·.2)).length

end Meeting

namespace Wish

variable (w : Wish)

/-- Whether conditions settle a term of an order for a table, so that it does not matter, where some
tables come before. -/
def isSettled (g : Ground) (before : List Nat) (s : Bounds) (term : SortTerm) : Bool :=
  match term.key.core with
  | .field f =>
    f.level = 0 && f.source = g.source && w.restrictions.any fun r =>
      let isOne := r.bound.isOne ||
        w.isFirst && s.fixed.any fun q => q.place = r.place && q.bound = r.bound
      isOne && r.isOnColumn f.source f.column && r.needs.all before.contains &&
        (r.bound = .missing || f.column.isNone ||
          r.collation = term.key.collation?.getD .binary)
  | _ => false

/-- Let the next part of an index meet a term of the order. -/
def meet? (g : Ground) (p : IndexPart) (isNext : Bool) (m : WayMeeting) : Option WayMeeting :=
  let first := m.terms.zipIdx.find? fun ((term, isMet), _) =>
    !isMet && (!w.isLoose || g.isOrderedBy p term)
  first.bind fun ((term, _), i) =>
    let own := p.isDescending ≠ term.isDescending
    let isPlain := term.nullsFirst.all (· ≠ term.isDescending)
    let isFit := g.isOrderedBy p term &&
      (w.isUndirected || m.isReversed.all (· == own) && (isPlain || isNext))
    if !isFit then none
    else some { m with
      terms := m.terms.set i (term, true)
      isReversed := if w.isUndirected then m.isReversed else some own
      hasNumber := m.hasNumber || g.base.partColumn p = some none }

/-- Let the parts of an index meet the terms of the order one after another, of which so many are
told and so many tell a row. -/
def meetParts (g : Ground) (s : Bounds) (size : Nat) : (place : Nat) → List IndexPart →
    WayMeeting → WayMeeting
  | _, [], m => { m with tellsRow := m.tellsRow || m.hasNumber }
  | place, p :: ps, m =>
    let told := (s.fixed[place]?).map (·.bound)
    let isSkipped := told.any fun b => b.isOne || w.isFirst
    if isSkipped then
      let tellsRow := m.tellsRow && told ≠ some .same && told ≠ some .missing
      meetParts g s size (place + 1) ps { m with tellsRow }
    else
      let isThere := (g.base.partColumn p).any fun c => told.isSome || g.base.isRequired c
      let m := { m with tellsRow := m.tellsRow && isThere }
      match w.meet? g p (place = s.fixed.length) m with
      | some m => meetParts g s size (place + 1) ps m
      | none =>
        let tellsRow := m.tellsRow && place ≠ 0 && size ≤ place
        { m with tellsRow := tellsRow || m.hasNumber }

/-- Let one more way meet the order. The answer tells too whether its rows go backward. -/
def meetWay (m : Meeting) (c : Candidate) : Meeting × Bool :=
  if !m.tellsRows || m.isWhole then (m, false)
  else
    let g := w.grounds.getD c.source default
    let settle := fun ((term, isMet) : SortTerm × Bool) =>
      (term, isMet || w.isSettled g m.told c.bounds term)
    let x := c.plan.index
    let start : WayMeeting := { terms := m.terms.map settle, tellsRow := x.all (·.isUnique) }
    let own := if c.isOne then { start with tellsRow := true }
      else w.meetParts g c.bounds (x.elim 0 (·.size)) 0 (Index.partsOf x) start
    let told := m.told ++ if own.tellsRow then [c.source] else []
    let isTold := fun e : Expr =>
      let tables := e.ownTables
      tables.all told.contains && (!tables.isEmpty || e.ownFields.isEmpty)
    let terms := own.terms.map fun (term, isMet) =>
      (term, isMet || own.tellsRow && isTold term.key)
    ({ terms, tellsRows := own.tellsRow, told },
      !w.isLoose && own.isReversed.getD false)

/-- Let the ways of a path meet the order, up to the first function. None of them does if one makes an
index. -/
def meeting (steps : List Candidate) : Meeting × List Bool :=
  let start : Meeting := { terms := w.order.map fun term => (term, false) }
  let isCall := fun c : Candidate => (w.grounds.getD c.source default).call.isSome
  let own := steps.takeWhile (!isCall ·)
  if own.any (·.makesIndex) then ({ start with tellsRows := false }, steps.map fun _ => false)
  else
    let (m, turns) := own.foldl (fun (m, turns) c =>
      let (m, isReversed) := w.meetWay m c
      (m, turns ++ [isReversed])) (start, [])
    (m, turns ++ (steps.drop own.length).map fun _ => false)

end Wish

/-! ## Paths -/

/-- Ways through some tables of a query, the outer ones first. -/
structure Path where
  steps : List Candidate := []
  /-- How many rows it finds. -/
  found : Weight := 0
  /-- What it costs with sorting. -/
  cost : Weight := 0
  /-- What it costs without sorting. -/
  unsorted : Weight := 0
  /-- How many terms of the order are met, if that is settled. -/
  met : Option Nat := none
  deriving Inhabited

namespace Path

/-- The tables that a path goes through. -/
def tables (p : Path) : List Nat := p.steps.map (·.source)

/-- Whether two paths go through the same tables and are alike in whether the order is settled. -/
def isLike (p q : Path) : Bool :=
  p.tables.all q.tables.contains && p.met.isSome = q.met.isSome

/-- Whether a path is at least as good as another one through the same tables. -/
def isBetter (p q : Path) : Bool :=
  p.cost < q.cost || p.cost = q.cost &&
    (p.found < q.found || p.found = q.found && p.unsorted ≤ q.unsorted)

/-- Some paths, at most so many, with one more if it is better than one of them. -/
def insert (most : Nat) (paths : List Path) (p : Path) : List Path :=
  match paths.findIdx? (·.isLike p) with
  | some i => if (paths.getD i default).isBetter p then paths else paths.set i p
  | none =>
    if paths.length < most then paths ++ [p]
    else
      let isWorse := fun a b : Path => b.cost < a.cost || b.cost = a.cost && b.unsorted < a.unsorted
      let worst := paths.zipIdx.foldl (fun (w, i) (q, j) => if isWorse q w then (q, j) else (w, i))
        (paths.headD default, 0)
      if isWorse worst.1 p then paths.set worst.2 p else paths

end Path

namespace Wish

variable (w : Wish)

/-- The cost of sorting so many rows, where some terms of the order are met already. -/
def sortCost (rows : Weight) (met : Nat) : Weight :=
  let n := w.order.length
  let columns := Weight.ofNat ((w.width + 59) / 30)
  let scale := if met = 0 then 0 else Weight.ofNat ((n - met) * 100 / n) - 66
  let (more, sorted) : Weight × Weight := match w.limit with
    | some n => (if met = 0 then 10 else 16, min (.ofNat n) rows)
    | none => (0, if w.isDistinct && 10 < rows then rows - 10 else rows)
  rows + columns + scale + more + sorted.log

/-- A path with one more way, where so many rows are expected of the whole. No order is looked at if
that is not known. -/
def extend (rows : Option Weight) (p : Path) (c : Candidate) : Path :=
  let unsorted := c.cost + p.found
  let unsorted := Weight.add (if c.setup = 0 then unsorted else .add c.setup unsorted) p.unsorted
  let found := p.found + c.found
  let steps := p.steps ++ [c]
  let met := match rows, p.met with
    | none, _ => some 0
    | _, some n => some n
    | some _, none => (w.meeting steps).1.count?
  let (cost, unsorted) : Weight × Weight := match rows, met with
    | some rows, some n =>
      if n < w.order.length then (.add unsorted (w.sortCost rows n) + 3, unsorted)
      else (unsorted, unsorted - 2)
    | _, _ => (unsorted, unsorted - 2)
  { steps, met, unsorted, cost, found }

/-- The paths that go on from some through one more table. -/
def extensions (rows : Option Weight) (ways : List Candidate) (paths : List Path) : List Path :=
  let count := w.grounds.length
  let most := if count ≤ 1 then 1 else if count = 2 then 5 else 10
  let isFit := fun (p : Path) (c : Candidate) =>
    c.needs.all p.tables.contains && !p.tables.contains c.source &&
      !(c.makesIndex && p.found < 3)
  paths.foldl (fun found p =>
    (ways.filter (isFit p)).foldl (fun found c => Path.insert most found (w.extend rows p c)) found) []

/-- The cheapest path through all tables. -/
def cheapest? (rows : Option Weight) (ways : List Candidate) : Option Path :=
  let paths := w.grounds.foldl (fun paths _ => w.extensions rows ways paths) [{}]
  match paths with
  | [] => none
  | p :: rest => some (rest.foldl (fun b q => if q.cost < b.cost then q else b) p)

/-- The ways to the rows of all tables. -/
def allWays : List Candidate := (w.grounds.flatMap w.ways).foldl Candidate.insert []

/-- The cheapest path, where sorting counts. -/
def path? : Option Path := do
  let ways := w.allWays
  let p ← w.cheapest? none ways
  if w.order.isEmpty then some p else w.cheapest? (some (p.found + 1)) ways

/-- The ways of a path, with their directions, and whether its rows come in order. -/
def plans (p : Path) : List (Nat × Plan) × Bool :=
  let (_, turns) := w.meeting p.steps
  let isWhole := p.met.all (w.order.length ≤ ·) && (w.meeting p.steps).1.isWhole
  let exact := { w with order := w.told, isLoose := false, isUndirected := false }
  let (m, told) := exact.meeting p.steps
  let turns := if isWhole && !w.told.isEmpty && m.isWhole then told else turns
  let isPlain := w.order.all fun term => term.nullsFirst.all (· ≠ term.isDescending)
  ((p.steps.zip turns).map fun (c, isReversed) => (c.source, { c.plan with isReversed }),
    isWhole && (isPlain || w.isLoose))

end Wish
end Sql
end FlowAtlas
