import FlowAtlas.Sql.Eval

/-!
# Functions of the rows around a row

A window divides the rows of a query into parts and orders each of them. Around each row lies its
frame, a stretch of its part, and a function tells something of the rows in it (`Part.values`), or of
the place of the row itself.
-/

set_option autoImplicit false

namespace FlowAtlas
namespace Sql

open Database (Value Encoding)

/-! ## Frames -/

/-- The frame of a window that tells none: all rows up to those that stand equally in the order. -/
def WindowFrame.default : WindowFrame := ⟨.range, .unbounded, .current, none⟩

/-- The frames of the functions that tell the place of a row. -/
def placeFrames : List (String × WindowFrame) :=
  [("row_number", ⟨.rows, .unbounded, .current, none⟩),
    ("lag", ⟨.rows, .unbounded, .current, none⟩),
    ("rank", .default), ("dense_rank", .default),
    ("percent_rank", ⟨.groups, .current, .unbounded, none⟩),
    ("cume_dist", ⟨.groups, .behind (.number "1"), .unbounded, none⟩),
    ("ntile", ⟨.rows, .current, .unbounded, none⟩),
    ("lead", ⟨.rows, .unbounded, .unbounded, none⟩)]

/-- The frame of a function in a window. -/
def Window.frameOf (w : Window) (f : String) : WindowFrame :=
  ((placeFrames.lookup f).or w.frame).getD .default

/-- A function of the rows around a row. -/
structure WindowCall where
  function : String
  args : List Expr
  filter : Option Expr
  window : Window
  deriving BEq, Inhabited

namespace WindowCall

/-- The formula that uses the function. -/
def expr (c : WindowCall) : Expr := .windowed c.function c.args c.filter c.window

/-- Whether two functions are told in one go. -/
def isBeside (c d : WindowCall) : Bool :=
  c.window.parts == d.window.parts && c.window.order == d.window.order &&
    c.window.frameOf c.function == d.window.frameOf d.function

/-- What the rows are sorted by: those of a part together, in the order of the window. -/
def terms (c : WindowCall) : List SortTerm :=
  (c.window.parts.map fun e => ⟨e, false, none⟩) ++ c.window.order

end WindowCall

/-! ## Parts -/

/-- A row of a part: the values of its arguments and of the terms of the order, and whether it is
picked. -/
structure WindowRow where
  args : List Value
  keys : List Value
  isPicked : Bool
  deriving Inhabited

/-- The rows of a part, in their order. -/
structure Part where
  encoding : Encoding
  order : List SortTerm
  rows : Array WindowRow
  /-- The first and the last row, exclusively, of those that stand equally in the order. -/
  groups : Array (Nat × Nat)
  /-- The number of the group of each row. -/
  groupOf : Array Nat

namespace Part

/-- Rows that stand equally in the order, one group after another. -/
def groupsOf (isSame : WindowRow → WindowRow → Bool) (rows : List WindowRow) : List (Nat × Nat) :=
  let step := fun (groups : List (WindowRow × Nat × Nat)) (r : WindowRow) =>
    match groups with
    | [] => [(r, 0, 1)]
    | (s, first, last) :: rest =>
      if isSame s r then (s, first, last + 1) :: rest else (r, last, last + 1) :: groups
  ((rows.foldl step []).map (·.2)).reverse

/-- The part with some rows. -/
def ofRows (encoding : Encoding) (order : List SortTerm) (rows : List WindowRow) : Part :=
  let isSame := fun a b : WindowRow => compareKeys encoding order a.keys b.keys = .eq
  let groups := groupsOf (isSame · ·) rows
  let groupOf := groups.zipIdx.flatMap fun ((first, last), i) => List.replicate (last - first) i
  { encoding, order, rows := rows.toArray, groups := groups.toArray, groupOf := groupOf.toArray }

variable (p : Part)

/-- How many rows there are. -/
def size : Nat := p.rows.size

/-- The first row and the one behind the last row that stand equally with a row in the order. -/
def peers (i : Nat) : Nat × Nat := p.groups.getD (p.groupOf.getD i 0) (0, 0)

/-! ## Bounds -/

/-- A distance that is told for an end of a frame. -/
def distance (unit : FrameUnit) (word : String) (v : Value) : Except SqlError Value :=
  match unit, (numberOf? p.encoding v).getD v with
  | .range, .integer n => if 0 ≤ n then .ok (.integer n) else .error (.badOffset word "number")
  | .range, .real x =>
    if 0 ≤ Float.ofBits x then .ok (.real x) else .error (.badOffset word "number")
  | .range, _ => .error (.badOffset word "number")
  | _, v =>
    match Affinity.apply p.encoding .integer v with
    | .integer n => if 0 ≤ n then .ok (.integer n) else .error (.badOffset word "integer")
    | _ => .error (.badOffset word "integer")

/-- An end of a frame with its distance. -/
inductive Bound
  | unbounded
  | current
  /-- So far behind the row, or before it if that is negative. -/
  | away (isBefore : Bool) (distance : Value)

/-- The place of the row that is so many rows behind another one, or of the last one. -/
def rowAt (i : Int) : Nat := (max 0 (min i p.size)).toNat

/-- The place where a group begins, or where all of them end. -/
def groupAt (g : Int) : Nat := if g < 0 then 0 else (p.groups.getD g.toNat (p.size, p.size)).1

/-- The value of the order that is away from that of a row. What is no number stays as it is. -/
def valueAway (i : Nat) (isBefore : Bool) (distance : Value) : List Value :=
  let isDescending := p.order.any (·.isDescending)
  let op := if isBefore ≠ isDescending then BinaryOp.minus else .plus
  ((p.rows.getD i default).keys).map fun v =>
    match v with
    | .integer _ | .real _ => calculate p.encoding op v distance
    | v => v

/-- How many rows stand before some values in the order, or equally. -/
def before (values : List Value) (isEqualToo : Bool) : Nat :=
  (p.rows.toList.filter fun r =>
    let o := compareKeys p.encoding p.order r.keys values
    o = .lt || isEqualToo && o = .eq).length

/-- The place of an end of the frame around a row. The frame begins with the row there or, if it is
the other end, ends before it. -/
def place (unit : FrameUnit) (isLast : Bool) (i : Nat) : Bound → Nat
  | .unbounded => if isLast then p.size else 0
  | .current =>
    match unit with
    | .rows => if isLast then i + 1 else i
    | _ => if isLast then (p.peers i).2 else (p.peers i).1
  | .away isBefore distance =>
    let n := wholeOf p.encoding distance
    let n := (if isBefore then -n else n) + if isLast then 1 else 0
    match unit with
    | .rows => p.rowAt (i + n)
    | .groups => p.groupAt ((p.groupOf.getD i 0 : Nat) + n)
    | .range => p.before (p.valueAway i isBefore distance) isLast

/-- Whether a row is left out of the frame around another one. -/
def isExcluded (x : Option Exclusion) (i j : Nat) : Bool :=
  let isPeer := (p.peers i).1 ≤ j && j < (p.peers i).2
  match x with
  | none | some .nothing => false
  | some .row => i = j
  | some .group => isPeer
  | some .ties => isPeer && i ≠ j

/-! ## Functions -/

/-- An argument of a row. -/
def arg? (i j : Nat) : Option Value := (p.rows[i]?).bind fun r => r.args[j]?

/-- The value of a row that is so many rows away, or another one if there is no such row. -/
def shifted (sign : Int) (i : Nat) : Value :=
  let offset := (p.arg? i 1).getD (.integer 1)
  let n := calculate p.encoding (if sign < 0 then .minus else .plus) (.integer i) offset
  let found :=
    match offset, Affinity.apply p.encoding .integer n with
    | .null, _ => none
    | _, .integer n => if n < 0 then none else p.arg? n.toNat 0
    | _, _ => none
  found.getD ((p.arg? i 2).getD .null)

/-- The number of the share that a row has, if the rows are shared out as evenly as can be. -/
def share (shares : Nat) (i : Nat) : Nat :=
  let small := p.size / shares
  let large := p.size - shares * small
  if small = 0 then i + 1
  else if i < large * (small + 1) then 1 + i / (small + 1)
  else 1 + large + (i - large * (small + 1)) / small

/-- What a function tells of the place of a row, if it does that. -/
def placeValue? (f : String) (i : Nat) : Option (Except SqlError Value) :=
  let (first, last) := p.peers i
  let ratio := fun (a b : Nat) => realValue (Float.ofNat a / Float.ofNat b)
  match f with
  | "row_number" => some (.ok (.integer (i + 1)))
  | "rank" => some (.ok (.integer (first + 1)))
  | "dense_rank" => some (.ok (.integer (p.groupOf.getD i 0 + 1)))
  | "percent_rank" => some (.ok (if p.size < 2 then realValue 0 else ratio first (p.size - 1)))
  | "cume_dist" => some (.ok (ratio last p.size))
  | "ntile" =>
    let n := wholeOf p.encoding ((p.arg? 0 0).getD .null)
    some (if n ≤ 0 then .error .badShare else .ok (.integer (p.share n.toNat i)))
  | "lead" => some (.ok (p.shifted 1 i))
  | "lag" => some (.ok (p.shifted (-1) i))
  | _ => none

/-- The number of the row of a frame that is asked for. -/
def rowNumber (i : Nat) : Except SqlError Nat :=
  match Affinity.apply p.encoding .integer ((p.arg? i 1).getD .null) with
  | .integer n => if n ≤ 0 then .error .badPlace else .ok n.toNat
  | _ => .error .badPlace

/-- What a function tells of the rows of a frame. In a frame that moves, the least and the greatest
value are the last of their equals, and all rows count. -/
def frameValue (c : Collation) (f : String) (isMoving : Bool) (i : Nat) (frame : List Nat) :
    Except SqlError Value := do
  let value := fun j : Option Nat => (j.bind fun j => p.arg? j 0).getD .null
  match f with
  | "first_value" => return value frame.head?
  | "last_value" => return value frame.getLast?
  | "nth_value" => return value frame[(← p.rowNumber i) - 1]?
  | f =>
    let rows := frame.filterMap (p.rows[·]?)
    let rows := if isMoving then rows.reverse else rows.filter (·.isPicked)
    totalOf p.encoding c f (rows.map (·.args))

/-- A sum over a frame that moves along: rows are added at its end and lost at its start. -/
structure Sliding where
  sum : RunningSum := {}
  first : Nat := 0
  last : Nat := 0

/-- Move a frame along. -/
def slide (s : Sliding) (first last : Nat) : Sliding :=
  let fold := fun (f : RunningSum → Value → RunningSum) (sum : RunningSum) (a b : Nat) =>
    (List.range' a (b - a)).foldl (fun sum j =>
      match p.rows[j]? with
      | some r => if r.isPicked then f sum (r.args.headD .null) else sum
      | none => sum) sum
  let stop := max s.first (min first s.last)
  let sum := fold (fun s v => s.remove p.encoding v) s.sum s.first stop
  let sum := fold (fun s v => s.add p.encoding v) sum s.last last
  let sum := fold (fun s v => s.remove p.encoding v) sum stop (min first last)
  ⟨sum, max stop (min first last), max s.last last⟩

/-- What a function tells of the sum over the frame of each row, where each frame is given by its
ends. -/
def sums (f : String) (frames : List (Nat × Nat)) : Except SqlError (List Value) := do
  let step := fun ((s, done) : Sliding × List RunningSum) ((first, last) : Nat × Nat) =>
    let s := p.slide s first last
    (s, s.sum :: done)
  (((frames.foldl step ({}, [])).2).reverse).mapM fun s => (s.tell? f).getD (.ok .null)

/-- The bound of a frame with the value of its distance. -/
def boundOf (unit : FrameUnit) (word : String) (value : Expr → Except SqlError Value) :
    FrameBound → Except SqlError Bound
  | .unbounded => .ok .unbounded
  | .current => .ok .current
  | .before e => do return .away true (← p.distance unit word (← value e))
  | .behind e => do return .away false (← p.distance unit word (← value e))

/-- What a function tells for each row of the part. -/
def values (c : Collation) (f : String) (frame : WindowFrame)
    (value : Expr → Except SqlError Value) : Except SqlError (List Value) := do
  let all := List.range p.size
  match all.mapM (p.placeValue? f) with
  | some found => found.mapM id
  | none =>
    let first ← p.boundOf frame.unit "starting" value frame.first
    let last ← p.boundOf frame.unit "ending" value frame.last
    let ends := all.map fun i => (p.place frame.unit false i first, p.place frame.unit true i last)
    if (({} : RunningSum).tell? f).isSome && frame.exclusion.isNone then p.sums f ends
    else
      (all.zip ends).mapM fun (i, first, last) =>
        let inside := (List.range' first (last - first)).filter fun j =>
          !p.isExcluded frame.exclusion i j
        let isMoving := (f = "min" || f = "max") && frame.exclusion.isNone &&
          frame.first != .unbounded
        p.frameValue c f isMoving i inside

end Part
end Sql
end FlowAtlas
