import FlowAtlas.Sql.Restriction
import FlowAtlas.Sql.Rows
import FlowAtlas.Sql.Weight

/-!
# Ways to the rows of a table

The rows of a table can be found one after another, or by an index, which has them in an order of
its own and finds those with given values at once. `Wish.ways` tells the ways to the rows of a table
of a query, with what they cost. A way does not change which rows are found, but in which order they
come where the order is not told.
-/

set_option autoImplicit false

namespace FlowAtlas
namespace Sql

open Database (Value Encoding)

/-! ## What is asked for -/

/-- A table of a query, as far as the ways to its rows go. -/
structure Ground where
  /-- The number of the table among those of the query. -/
  source : Nat
  /-- The table of the database that it is, unless a query makes its rows. -/
  table : Option Table := none
  /-- How many rows there are, as far as that is known. -/
  weight : Weight := tableWeight
  /-- What the rows cost and the tables that they depend on, if a function tells them. -/
  call : Option (Weight × List Nat) := none
  join : Join := {}
  /-- Whether a table behind it keeps its own rows without partners. -/
  isBeside : Bool := false
  /-- The tables that come before it in any case. -/
  after : List Nat := []
  /-- The columns whose values are needed. -/
  used : List Nat := []
  use : IndexUse := .any
  deriving Inhabited

/-- A formula of an index, as one of the query. -/
def Ground.own (g : Ground) (e : Expr) : Expr := e.map fun
  | .field f => .field { f with source := g.source }
  | e => e

/-- What is asked for of the rows of a query. -/
structure Wish where
  grounds : List Ground
  conditions : List Condition
  order : List SortTerm := []
  /-- Whether it does not matter which terms of the order come first. -/
  isLoose : Bool := false
  /-- Whether rows that are the same in the terms of the order need only stand together. -/
  isUndirected : Bool := false
  /-- Whether only the first row in the order counts. -/
  isFirst : Bool := false
  /-- Whether rows that are the same count once. -/
  isDistinct : Bool := false
  /-- How many rows count, if that is told. -/
  limit : Option Nat := none
  /-- How many values a row of the answer has. -/
  width : Nat := 1
  /-- The order of the answer, if it has the same terms. -/
  told : List SortTerm := []
  /-- What the conditions tell of values. -/
  restrictions : List Restriction :=
    let told := restrictionsOf conditions
    told ++ sharedRestrictions conditions told

namespace Wish

variable (w : Wish)

/-- What conditions leave of so many rows of a table, where some conditions are used and the rows of
some tables are known. -/
def leftOver (g : Ground) (needs used : List Nat) (found rows : Weight) : Weight :=
  let isCounted := fun c : Condition =>
    !c.formula.isOfRows && c.tables.contains g.source &&
      c.tables.all fun i => i = g.source || needs.contains i
  let left := w.conditions.zipIdx.filter fun (c, place) => isCounted c && !used.contains place
  let reduce := left.foldl (fun n (c, _) =>
    match c.equality? with
    | some r =>
      let isSmall := (wholeLiteral? r.value).any fun n => -1 ≤ n && n ≤ 1
      max n (if isSmall then 10 else 20)
    | none => n) 0
  min (found - left.length) (rows - reduce)

/-- Whether what a condition tells holds for a table. Where rows stay that have no partner, only that
counts which stands with the table. -/
def admits (g : Ground) (r : Restriction) : Bool :=
  let c := w.conditions.getD r.place default
  let isBound := g.join.keepsLeft || g.join.keepsRight
  let isFree := !isBound && !g.isBeside
  r.source = g.source && (isFree || c.join = some g.source && (c.isOuter || !isBound))

/-- What conditions tell of a table. -/
def restrictionsOn (g : Ground) : List Restriction := w.restrictions.filter (w.admits g)

/-- Whether the conditions leave no row out that an index of a table leaves out. -/
def impliesFilter (g : Ground) (x : Index) : Bool :=
  let isTold := fun (f : Expr) => w.restrictions.any fun r =>
    !([.missing, .same, .present].contains r.bound) && f == .unary .isNotNull r.key
  let admits := fun c : Condition =>
    if c.isOuter then c.join = some g.source else !g.join.keepsLeft && !g.join.keepsRight
  x.filter.all fun f => (conjuncts (g.own f)).all fun f =>
    isTold f || w.conditions.any fun c => admits c && c.formula.implies f

end Wish

/-! ## How far values are told -/

/-- What is told of the values in an index: of the first ones one by one, and of the next one how far
it reaches. -/
structure Bounds where
  fixed : List Restriction := []
  limits : List Restriction := []
  /-- How many rows are found for each choice of values. -/
  found : Weight
  /-- How many choices of values there are. -/
  choices : Weight := 0
  deriving Inhabited

namespace Bounds

/-- All that is told. -/
def all (s : Bounds) : List Restriction := s.fixed ++ s.limits

/-- Tell one more value, which leaves some part of the rows. -/
def fix (s : Bounds) (step : Weight) (r : Restriction) : Bounds :=
  let missing := if r.bound = .missing then 10 else 0
  let choices := match r.bound with
    | .among (some n) => Weight.ofNat n
    | .among none => 46
    | _ => 0
  { s with fixed := s.fixed ++ [r], found := s.found + step + missing
           choices := s.choices + choices }

/-- Tell how far the next value reaches. -/
def limit (s : Bounds) (rs : List Restriction) : Bounds :=
  let has := fun isSide : Bound → Bool => if rs.any fun r => isSide r.bound then 1 else 0
  let sides : Int := has Bound.isLower + has Bound.isUpper
  let told : Int := if rs.any fun r => r.bound = .present then sides - 1 else sides
  let less := s.found - 20 * told - (if sides = 2 then 20 else 0)
  { s with limits := rs, found := min (s.found - sides) (max 10 less) }

end Bounds

/-! ## Ways -/

/-- A way to the rows of a table. -/
structure Plan where
  /-- The index that is used, or none for all rows of the table in order. -/
  index : Option Index := none
  /-- What the first parts of the index are, or the number of the row. -/
  equal : List Expr := []
  /-- The conditions by which rows are found. -/
  used : List Nat := []
  isReversed : Bool := false
  /-- Whether the index tells all that is needed. -/
  isCovering : Bool := false
  /-- The columns behind the key of an index that is made for the query alone. -/
  extra : Option (List Nat) := none
  deriving Inhabited

/-- A way with its cost. -/
structure Candidate where
  source : Nat
  plan : Plan
  bounds : Bounds
  /-- The tables whose rows must be known before. -/
  needs : List Nat
  /-- What it costs before the first row. -/
  setup : Weight := 0
  cost : Weight
  /-- How many rows it finds. -/
  found : Weight
  /-- Whether it finds at most one row. -/
  isOne : Bool := false
  /-- Whether what it goes by may be of use for the order. -/
  isHelpful : Bool := false
  deriving Inhabited

namespace Candidate

/-- Whether an index is used that was there before. -/
def isIndexed (c : Candidate) : Bool := c.plan.index.isSome

/-- Whether an index is made. -/
def makesIndex (c : Candidate) : Bool := c.plan.extra.isSome

/-- Whether a way goes by less of what is told than another one, and costs no more. -/
def isWithin (a b : Candidate) : Bool :=
  let name := fun c : Candidate => c.plan.index.map (·.name)
  let told := fun c : Candidate => c.bounds.all.map fun r => (r.place, r.bound)
  if b.cost < a.cost && b.found < a.found then false
  else if name a = name b && a.bounds.fixed.length < b.bounds.fixed.length then true
  else (told a).length < (told b).length && (told a).all (told b).contains &&
    !(a.plan.isCovering && !b.plan.isCovering)

/-- A way by an index, where one that goes by more of what is told costs less than others. -/
def beside (before : List Candidate) (c : Candidate) : Candidate :=
  before.foldl (fun c b =>
    if b.source ≠ c.source || !c.isIndexed || !b.isIndexed then c
    else if b.isWithin c then
      { c with cost := min b.cost c.cost, found := min (b.found - 1) c.found }
    else if c.isWithin b then
      { c with cost := max b.cost c.cost, found := max (b.found + 1) c.found }
    else c) c

/-- Whether two ways are to the same rows and of the same use for the order. -/
def isLike (a b : Candidate) : Bool :=
  let use := fun c : Candidate => if c.isHelpful then some (c.plan.index.map (·.name)) else none
  a.source = b.source && use a = use b

/-- Whether another way is not needed beside one. -/
def covers (a b : Candidate) : Bool :=
  a.isLike b && a.needs.all b.needs.contains && a.setup ≤ b.setup && a.cost ≤ b.cost &&
    a.found ≤ b.found

/-- Whether a way takes the place of another one: it costs less, or has an index that need not be
made. -/
def replaces (a b : Candidate) : Bool :=
  a.isLike b && a.needs.all b.needs.contains &&
    (b.makesIndex && a.isIndexed && a.bounds.fixed.any (fun r => r.bound = .equal || r.bound = .same) ||
      a.cost ≤ b.cost && a.found ≤ b.found)

/-- Some ways with one more, but those that another one covers. -/
def insert (ways : List Candidate) (c : Candidate) : List Candidate :=
  let c := c.beside ways
  let (before, rest) := ways.span fun b => !(b.covers c || c.replaces b)
  match rest with
  | [] => ways ++ [c]
  | b :: rest => if b.covers c then ways else before ++ c :: rest.filter (!c.replaces ·)

end Candidate

/-! ### Indexes -/

/-- Whether an entry of an index has what a formula needs of a table. -/
def Index.tells (x : Index) (source : Nat) (e : Expr) : Bool :=
  (e.collect (fun
    | .field f => if f.level = 0 && f.source = source then f.column.toList else []
    | _ => []) fun _ => []).all fun i => x.parts.any fun p => p.value.column? = some (some i)

/-- The parts of an index, or the number of the row. -/
def Index.partsOf : Option Index → List IndexPart
  | none => [.number]
  | some x => x.parts

namespace Table

variable (t : Table)

/-- The column that a part of an index is about, where the number of the row counts as its own. -/
def partColumn (p : IndexPart) : Option (Option Nat) :=
  p.value.column?.map fun c => if c.isSome && c = t.definition.numberColumn then none else c

/-- Whether a column, or the number of the row, has a value in each row. -/
def isRequired (column : Option Nat) : Bool :=
  column.all fun i => t.definition.numberColumn = some i || (t.column i).required.isSome

/-- Whether an index tells all columns that are needed. One that a rule of the table makes is not used
for the key of the table. -/
def covers (used : List Nat) (x : Index) : Bool :=
  let isRule := t.definition.isKeyed && !x.isTable && x.name.startsWith "sqlite_autoindex_"
  let parts := if isRule then x.parts.take x.size else x.parts
  x.isTable || used.all fun c =>
    t.definition.numberColumn = some c || parts.any fun p => p.value.column? = some (some c)

end Table

namespace Ground

variable (g : Ground)

/-- The table, or one without anything. -/
def base : Table := g.table.getD default

/-- The weight of the rows that have the first values in common. -/
def weightOf : Option Index → Nat → Weight
  | none, n => if n = 0 then g.weight else 0
  | some x, n => x.weight n

/-- Whether at most one row is found. -/
def findsOne (x : Option Index) (s : Bounds) : Bool :=
  match s.fixed.getLast?, s.limits with
  | some r, [] =>
    let n := s.fixed.length
    let isNumber := ((Index.partsOf x)[n - 1]?).any fun p => p.value.column? = some none
    let isKey := x.any fun x =>
      let own := x.parts.take x.size
      let isThere := fun p : IndexPart => (g.base.partColumn p).any g.base.isRequired
      s.choices = 0 && n = x.size && x.isUnique &&
        (x.isTable || own.all isThere || x.size = 1 && r.bound = .equal)
    (r.bound = .equal || r.bound = .same) && (isNumber || isKey)
  | _, _ => false

/-- Whether a formula is about a part of an index. -/
def isAbout (e : Expr) (p : IndexPart) : Bool :=
  match g.base.partColumn p, e with
  | some c, .field f =>
    f.level = 0 && f.source = g.source &&
      (if f.column = g.base.definition.numberColumn then none else f.column) = c
  | none, e => e == g.own p.value
  | _, _ => false

/-- Whether a term of an order is about a part of an index. -/
def isOrderedBy (p : IndexPart) (term : SortTerm) : Bool :=
  g.isAbout term.key.core p &&
    (g.base.partColumn p = some none || p.collation = (term.key.collation?.getD .binary))

end Ground

/-! ### Costs -/

namespace Wish

variable (w : Wish) (g : Ground)

/-- What conditions tell of a part of an index, each sort of it once for the same tables. -/
def restrictionsFor (p : IndexPart) : List Restriction :=
  let isFit := fun r : Restriction =>
    g.isAbout r.key p && (g.base.partColumn p = some none || r.bound = .missing ||
      r.collation = p.collation && r.fits)
  ((w.restrictionsOn g).filter isFit).foldl
    (fun rs r =>
      if rs.any fun q => q.bound = r.bound && q.needs.all r.needs.contains then rs else rs ++ [r]) []

/-- How far the values of an index are told, where so many are told already. -/
def boundsFrom (x : Option Index) : (place : Nat) → List IndexPart → Bounds → List Bounds
  | _, [], _ => []
  | place, p :: ps, s =>
    let told := w.restrictionsFor g p
    told.flatMap fun r =>
      if r.bound.isUpper then [s.limit [r]]
      else if r.bound.isLower then
        s.limit [r] :: (told.filter (·.bound = .below)).map fun u => s.limit [r, u]
      else
        let s := s.fix (g.weightOf x (place + 1) - g.weightOf x place) r
        s :: boundsFrom x (place + 1) ps s

/-- The ways in which conditions tell the values of an index. -/
def allBounds (x : Option Index) : List Bounds :=
  let parts := match x with
    | some x => if x.isKey then x.parts.take x.size else x.parts
    | none => Index.partsOf none
  w.boundsFrom g x 0 parts { found := g.weightOf x 0 }

/-- Whether an index, or the number of the row, may be of use for the order. -/
def isHelpedBy (x : Option Index) : Bool :=
  let parts := match x with
    | none => Index.partsOf none
    | some x => x.parts.take x.size
  w.order.any fun term =>
    match term.key.core with
    | .field f =>
      let isNumber := f.column.isNone || f.column = g.base.definition.numberColumn
      f.level = 0 && f.source = g.source &&
        (isNumber || parts.any fun p => p.value.column? = some f.column)
    | e => parts.any fun p => p.value.column?.isNone && e == g.own p.value

/-- A way, by how far values are told. -/
def candidate (x : Option Index) (isCovering : Bool) (s : Bounds) (cost : Weight) : Candidate :=
  let used := s.all.map (·.place)
  let needs := (g.after ++ s.all.flatMap (·.needs)).eraseDups
  let equal := (s.fixed.takeWhile (·.bound = .equal)).map (·.value)
  { source := g.source, plan := { index := x, equal, used, isCovering }, bounds := s, needs
    cost := cost + s.choices, isOne := g.findsOne x s, isHelpful := w.isHelpedBy g x
    found := w.leftOver g needs used (s.found + s.choices) (g.weightOf x 0) }

/-- The ways by the number of the row. -/
def numberWays : List Candidate :=
  let scan := w.candidate g none true { found := g.weight } (g.weight + 16)
  let bounded := if g.table.isSome then w.allBounds g none else []
  scan :: bounded.map fun s => w.candidate g none true s (.add g.weight.log (s.found + 16))

/-- The cost of an index whose entries are all visited. -/
def scanCost (x : Index) (isCovering : Bool) : Weight :=
  let rows := x.weight 0
  let own := rows + 1 + 15 * g.base.entryWidth x / g.base.rowWidth
  let early := w.conditions.takeWhile fun c => x.tells g.source c.formula
  let others := if early.length = w.conditions.length then early.flatMap (·.others) else []
  let isEqual := early.map (·.equality?.isSome) ++ others
  let lookups := isEqual.foldl (fun n isEqual => n - if isEqual then 20 else 1) (rows + 16)
  if isCovering then own else .add own lookups

/-- The way by an index whose values are told so far. -/
def boundedWay (x : Index) (isCovering : Bool) (s : Bounds) : Candidate :=
  let own := Weight.add (x.weight 0).log (s.found + 1 + 15 * g.base.entryWidth x / g.base.rowWidth)
  w.candidate g (some x) isCovering s (if isCovering then own else .add own (s.found + 16))

/-- The ways by an index. -/
def indexWays (x : Index) : List Candidate :=
  if !w.impliesFilter g x then []
  else
    let isCovering := g.base.covers g.used x
    let isNarrow := g.base.entryWidth x < g.base.rowWidth
    let isScanned := w.isHelpedBy g (some x) || !g.base.hasNumbers || x.filter.isSome ||
      g.use ≠ .any || isCovering && isNarrow
    let scan := w.candidate g (some x) isCovering { found := x.weight 0 } (w.scanCost g x isCovering)
    (if isScanned then [scan] else []) ++
      (w.allBounds g (some x)).map (w.boundedWay g x isCovering)

/-- The ways by an index that is made for the query alone, which finds rows by the columns that
conditions make the same as something. -/
def madeWays : List Candidate :=
  let isFit := fun r : Restriction =>
    (r.bound = .equal || r.bound = .same) && r.fits && r.key.column?.any fun c =>
      c.isSome && c ≠ g.base.definition.numberColumn
  let isBarred := g.use ≠ .any || g.join.keepsRight || g.table.any fun t => !t.hasNumbers
  if isBarred then []
  else
    let columns := g.used.filter fun c => some c ≠ g.base.definition.numberColumn
    let log := g.weight.log
    let setup := if g.table.isSome then log + g.weight + 28 else max 0 (log + g.weight - 25)
    ((restrictionsOf w.conditions).filter fun r => w.admits g r && isFit r).map fun r =>
      { source := g.source, setup, cost := .add log 43, found := 43
        plan := { extra := some columns }, bounds := { fixed := [r], found := 43 }
        needs := (g.after ++ r.needs).eraseDups }

/-- The ways to the rows of a table. Where rows have no numbers, they are found by indexes alone. -/
def ways : List Candidate :=
  match g.call with
  | some (cost, tables) =>
    [{ source := g.source, plan := {}, bounds := { found := g.weight }, cost, found := g.weight
       needs := (g.after ++ tables).eraseDups }]
  | none =>
    let byIndexes := g.base.indexes.flatMap (w.indexWays g)
    let isNumbered := g.table.all (·.hasNumbers)
    w.madeWays g ++
      match g.use with
      | .only name => (g.base.indexes.filter fun x => sameName x.name name).flatMap (w.indexWays g)
      | .none => if isNumbered then w.numberWays g else byIndexes
      | .any => (if isNumbered then w.numberWays g else []) ++ byIndexes

end Wish
/-! ## Going a way -/

/-- Some conditions of a query, by their numbers, in the order in which they are looked at when the
rows of a table are found: those by which they are found, those of which an index tells all, and
those that ask other queries about the row behind all others. -/
def Plan.checks (p : Plan) (source : Nat) (conditions : List (Condition × Nat)) : List Expr :=
  let formulas := fun cs : List (Condition × Nat) => cs.map (·.1.formula)
  let (used, rest) := conditions.partition fun (_, place) => p.used.contains place
  let (late, rest) := (formulas rest).partition (·.asksAbout)
  let (early, rest) := rest.partition fun e => p.index.any (·.tells source e)
  formulas used ++ early ++ rest ++ late

/-- Whether the first parts of an entry have given values. -/
def Index.startsWith (x : Index) (e : Encoding) (values entry : List Value) : Bool :=
  !values.contains .null && Index.compareParts e (x.parts.take values.length) entry values = .eq

namespace Table

variable (t : Table) (d : Database)

/-- The row that an entry of an index belongs to. -/
def rowOfIndex (x : Index) (all : Found SourceRow) (entry : List Value) : Except SqlError SourceRow :=
  let e := d.encoding
  let key := t.rowParts
  let wanted := t.rowOfEntry x entry
  let values := fun r => (key.mapM (t.partValue e r)).toOption
  let isOwn := fun r => match values r, values wanted with
    | some a, some b => Index.compareParts e key a b = .eq
    | _, _ => false
  match all.items.find? isOwn with
  | some r => return r
  | none => throw (.database .malformed)

/-- The rows of the table by a way. -/
def follow (p : Plan) (s : Setting) : Found SourceRow :=
  .after (p.equal.mapM (·.eval s)) fun given =>
    let e := d.encoding
    match p.index with
    | none =>
      let found := t.scan d
      match given with
      | [] => if p.isReversed then found.rearrange List.reverse else found
      | v :: _ =>
        let v := Affinity.apply e .integer v
        ⟨found.items.filter (·.id = v), none⟩
    | some x =>
      let affinities := x.parts.map fun p =>
        match p.value.column? with
        | some (some i) => (t.column i).affinity
        | some none => .integer
        | none => .blob
      let given := (affinities.zip given).map fun (a, v) => a.stored (a.apply e v)
      let entries := x.scan d
      let entries := { entries with items := entries.items.filter (x.startsWith e given) }
      let entries := if p.isReversed then entries.rearrange List.reverse else entries
      if p.isCovering then entries.mapE fun r => return t.rowOfEntry x r
      else
        let all := t.scan d
        entries.mapE (t.rowOfIndex d x all)

end Table
end Sql
end FlowAtlas
