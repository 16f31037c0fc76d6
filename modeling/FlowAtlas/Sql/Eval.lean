import FlowAtlas.Sql.Found
import FlowAtlas.Sql.Function
import FlowAtlas.Sql.Scope
import FlowAtlas.Sql.Sum

/-!
# Values of formulas

`Expr.eval` gives the value of a formula whose names are resolved, for the rows that are in view. A
function of all rows of a group takes them from the group that is in view. Queries are carried out
by what the setting holds for that.
-/

set_option autoImplicit false

namespace FlowAtlas
namespace Sql

open Database (Value Encoding)

/-! ## Rows in view -/

/-- A row of a table of a query. -/
structure SourceRow where
  /-- The number of the row, or nothing. -/
  id : Value := .null
  values : List Value
  deriving DecidableEq, Repr, Inhabited

/-- A row of each table of a query. -/
abbrev JoinedRow := List SourceRow

/-- What is counted of the changes that were made. -/
structure Tally where
  /-- The number of the row that was put in last. -/
  lastId : Int := 0
  /-- How many rows the last statement changed. -/
  changes : Int := 0
  /-- How many rows all statements changed. -/
  total : Int := 0
  deriving DecidableEq, Repr, Inhabited

/-- What is known where a formula is used. -/
structure Setting where
  encoding : Encoding
  /-- Values that are given for a statement. -/
  parameters : List Value := []
  /-- The rows in view, those of the innermost query first. -/
  rows : List JoinedRow := []
  /-- The rows of the group in view, if there is one. -/
  group : Option (List JoinedRow) := none
  /-- The values of the functions of the rows around the row in view. -/
  windows : List (Expr × Value) := []
  /-- Carry out a query, with the rows in view. -/
  query : List JoinedRow → Select → Found (List Value)
  tally : Tally := {}

namespace Setting

/-- The value of a column in view. A column of numbers of double precision has no whole numbers. -/
def value (s : Setting) (f : Field) : Value :=
  let row := (s.rows.getD f.level []).getD f.source { values := [] }
  let v := f.column.elim row.id fun i => row.values.getD i .null
  match f.affinity, v with
  | some .real, .integer n => realValue (Float.ofInt n)
  | _, v => v

/-- See rows instead of those of the innermost query. -/
def within (s : Setting) (r : JoinedRow) : Setting :=
  { s with rows := r :: s.rows.tail, group := none, windows := [] }

/-- See rows of a query further in. -/
def enter (s : Setting) (r : JoinedRow) : Setting :=
  { s with rows := r :: s.rows, group := none, windows := [] }

/-- The rows of a query, with the rows in view. -/
def rowsOf (s : Setting) (q : Select) : Except SqlError (List (List Value)) := (s.query s.rows q).all

/-- The first row of a query, if it has one. -/
def firstRow? (s : Setting) (q : Select) : Except SqlError (Option (List Value)) := do
  return (← ((s.query s.rows q).part 0 (some 1)).all).head?

/-- The value of a parameter. -/
def parameter (s : Setting) (text : String) : Value :=
  let n := ((String.ofList (text.toList.drop 1)).toNat?).getD 1
  s.parameters.getD (n - 1) .null

end Setting

/-! ## Literals -/

/-- The value of a number as it is written, or of its negative. -/
def numberValue (isNegative : Bool) (text : String) : Value :=
  match text.toList with
  | '0' :: x :: digits =>
    if x = 'x' || x = 'X' then
      let n : Int := ofBits (digits.foldl (fun n c => 16 * n + (Numeral.hexDigit? c).getD 0) 0)
      if isNegative then wholeOrReal (-n) (-Float.ofInt n) else .integer n
    else decimal (if isNegative then '-' :: text.toList else text.toList)
  | cs => decimal (if isNegative then '-' :: cs else cs)
where
  /-- The value of digits, with a fraction or an exponent. -/
  decimal (cs : List Char) : Value :=
    let t := NumberText.ofChars cs
    if t.isWhole && NumberText.isInt64 t.wholeValue then .integer t.wholeValue
    else realValue t.realValue

/-- What stands for a moment, of which only the form is known here. -/
def momentText (word : String) : String :=
  if word = "CURRENT_DATE" then "1970-01-01"
  else if word = "CURRENT_TIME" then "00:00:00"
  else "1970-01-01 00:00:00"

/-! ## Comparing -/

/-- Compare two values as their formulas ask for. Nothing can be compared with a missing value. -/
def compareValues? (e : Encoding) (a b : Expr) (x y : Value) : Option Ordering :=
  if x = .null || y = .null then none
  else
    let (x, y) := forComparison e a.affinity? b.affinity? x y
    some ((a.commonCollation b).compare e x y)

/-- Whether two values are the same, where missing ones are the same too. -/
def sameValues (e : Encoding) (a b : Expr) (x y : Value) : Bool :=
  let (x, y) := forComparison e a.affinity? b.affinity? x y
  (a.commonCollation b).compare e x y = .eq

/-- What a comparison says about an order. -/
def BinaryOp.holds (op : BinaryOp) (o : Ordering) : Bool :=
  match op with
  | .equal => o = .eq
  | .notEqual => o ≠ .eq
  | .less => o = .lt
  | .atMost => o ≠ .gt
  | .greater => o = .gt
  | .atLeast => o ≠ .lt
  | _ => false

/-- Whether rows of values are the same, where missing ones are the same too. -/
def sameRows (e : Encoding) : List Expr → List Expr → List Value → List Value → Bool
  | a :: as, b :: bs, x :: xs, y :: ys => sameValues e a b x y && sameRows e as bs xs ys
  | _, _, _, _ => true

/-- Compare rows of values, the first of which count most. -/
def compareRows? (e : Encoding) (op : BinaryOp) : List Expr → List Expr → List Value →
    List Value → Option Bool
  | a :: as, b :: bs, x :: xs, y :: ys =>
    match compareValues? e a b x y, as, op with
    | _, _, .is => some (sameRows e (a :: as) (b :: bs) (x :: xs) (y :: ys))
    | _, _, .isNot => some (!sameRows e (a :: as) (b :: bs) (x :: xs) (y :: ys))
    | none, _, .equal => if compareRows? e op as bs xs ys = some false then some false else none
    | none, _, .notEqual => if compareRows? e op as bs xs ys = some true then some true else none
    | none, _, _ => none
    | some o, [], _ => some (op.holds o)
    | some .eq, _, _ => compareRows? e op as bs xs ys
    | some o, _, _ => some (op.holds o)
  | _, _, _, _ => some (op.holds .eq)

/-- The value of an operation on two values. -/
def operate (e : Encoding) (op : BinaryOp) (a b : Expr) (x y : Value) : Value :=
  match op with
  | .or =>
    match truth? e x, truth? e y with
    | some true, _ | _, some true => ofTruth true
    | some false, some false => ofTruth false
    | _, _ => .null
  | .and =>
    match truth? e x, truth? e y with
    | some false, _ | _, some false => ofTruth false
    | some true, some true => ofTruth true
    | _, _ => .null
  | .is =>
    match b with
    | .truth t => ofTruth (truth? e x = some t)
    | _ => ofTruth (sameValues e a b x y)
  | .isNot =>
    match b with
    | .truth t => ofTruth (truth? e x ≠ some t)
    | _ => ofTruth (!sameValues e a b x y)
  | .equal | .notEqual | .less | .atMost | .greater | .atLeast =>
    ofTruth? ((compareValues? e a b x y).map op.holds)
  | .concat => if x = .null || y = .null then .null else concatenate e x y
  | _ => if x = .null || y = .null then .null else calculate e op x y

/-- The value of an operation on one value. -/
def operateOne (e : Encoding) (op : UnaryOp) (x : Value) : Value :=
  match op with
  | .isNull => ofTruth (x = .null)
  | .isNotNull => ofTruth (x ≠ .null)
  | .positive => x
  | .negative => negate e x
  | .complement => if x = .null then .null else .integer (-1 - wholeOf e x)
  | .not => ofTruth? ((truth? e x).map (!·))

/-- Whether a value is among others, none of which need be there. -/
def isAmong (found : List (Option Bool)) : Value :=
  if found.contains (some true) then ofTruth true
  else if found.contains none then .null
  else ofTruth false

/-! ## Groups -/

/-- Values without those that are the same as one before. -/
def distinctBy {α : Type} (isSame : α → α → Bool) (xs : List α) : List α :=
  xs.foldl (fun kept x => if kept.any (isSame x) then kept else kept ++ [x]) []

/-- The value of a function of all rows of a group, from its values in each row. -/
def totalOf (e : Encoding) (c : Collation) (f : String) (rows : List (List Value)) :
    Except SqlError Value := do
  let present := rows.filter (·.head? ≠ some .null)
  let vs := present.map (·.headD .null)
  match f, (RunningSum.ofValues e vs).tell? f with
  | _, some v => v
  | "count", none => return .integer present.length
  | "min", none => return if vs.isEmpty then .null else Function.extreme e c false vs
  | "max", none => return if vs.isEmpty then .null else Function.extreme e c true vs
  | "group_concat", none | "string_agg", none =>
    if vs.isEmpty then return .null
    let between := fun r : List Value => (r[1]?).elim (Bytes.ofText ",") (Texts.bytes e)
    let text := Texts.bytes e (vs.headD .null) ++
      present.tail.flatMap fun r => between r ++ Texts.bytes e (r.headD .null)
    return Texts.ofBytes e text
  | f, none => if Document.gatherers.contains f then Document.gathered e f rows else throw (.noFunction f)

/-- A value by which rows are told apart: a document as a text. -/
def plainKey (e : Encoding) (f : String) (v : Value) : Value :=
  if Document.gatherers.contains f then ((Document.binaryOf? v).bind Document.ofBinary?).elim v fun d => Document.whole e false d
  else v

/-! ## Order -/

/-- How two rows of values stand to each other by the terms of an order. -/
def compareKeys (e : Encoding) : List SortTerm → List Value → List Value → Ordering
  | t :: ts, x :: xs, y :: ys =>
    let nullsFirst := t.nullsFirst.getD (!t.isDescending)
    let o :=
      if x = .null && y = .null then Ordering.eq
      else if x = .null then if nullsFirst then .lt else .gt
      else if y = .null then if nullsFirst then .gt else .lt
      else
        let o := (t.key.collation?.getD .binary).compare e x y
        if t.isDescending then o.swap else o
    o.then (compareKeys e ts xs ys)
  | _, _, _ => .eq

/-- Things with the values of the terms of an order, in that order. -/
def sortByKeys {α : Type} (e : Encoding) (order : List SortTerm) (xs : List (List Value × α)) :
    List (List Value × α) :=
  if order.isEmpty then xs else xs.mergeSort fun a b => compareKeys e order a.1 b.1 ≠ .gt

/-! ## Formulas -/

/-- The collation by which a function compares its values. -/
def callCollation (args : List Expr) : Collation :=
  (args.findSome? Expr.collation?).getD .binary

mutual

/-- The value of a formula. -/
def Expr.eval (e : Expr) (s : Setting) : Except SqlError Value := do
  match e with
  | .null => return .null
  | .number t => return numberValue false t
  | .text t => return Texts.ofString s.encoding t
  | .blob bs => return .blob bs
  | .truth b => return ofTruth b
  | .moment w => return Texts.ofString s.encoding (momentText w)
  | .parameter t => return s.parameter t
  | .name n => throw (.noColumn n.column none)
  | .field f => return s.value f
  | .unary op a =>
    match op, a with
    | .negative, .number t => return numberValue true t
    | op, a => return operateOne s.encoding op (← a.eval s)
  | .binary op a b =>
    if 1 < a.width then
      let xs ← a.evalRow s
      return ofTruth? (compareRows? s.encoding op a.rowParts b.rowParts xs (← b.evalRow s))
    let x ← a.eval s
    if op = .and && truth? s.encoding x = some false then return ofTruth false
    if op = .or && truth? s.encoding x = some true then return ofTruth true
    match op with
    | .extract isValue =>
      return ← Document.call s.encoding (if isValue then "->>" else "->") [x, ← b.eval s]
    | _ => pure ()
    return operate s.encoding op a b x (← b.eval s)
  | .between a low high =>
    if 1 < a.width then
      let xs ← a.evalRow s
      let l := compareRows? s.encoding .atLeast a.rowParts low.rowParts xs (← low.evalRow s)
      let h := compareRows? s.encoding .atMost a.rowParts high.rowParts xs (← high.evalRow s)
      return operate s.encoding .and a a (ofTruth? l) (ofTruth? h)
    let x ← a.eval s
    let l := operate s.encoding .atLeast a low x (← low.eval s)
    let h := operate s.encoding .atMost a high x (← high.eval s)
    return operate s.encoding .and a a l h
  | .collate a _ => a.eval s
  | .cast a type => return (Affinity.ofType type).cast s.encoding (← a.eval s)
  | .call f args =>
    match f, args with
    | "last_insert_rowid", [] => return .integer s.tally.lastId
    | "changes", [] => return .integer s.tally.changes
    | "total_changes", [] => return .integer s.tally.total
    | "coalesce", args | "ifnull", args => Expr.evalFirst args s
    | "iif", [t, a, b] => if truth? s.encoding (← t.eval s) = some true then a.eval s else b.eval s
    | f, args => Function.call s.encoding (callCollation args) f (← Expr.evalAll args s)
  | .total f isDistinct args order pick =>
    let group := s.group.getD []
    let picked ← group.filterM fun r => do
      return (truth? s.encoding (← Expr.evalOption pick (.integer 1) (s.within r))) = some true
    let rows ← picked.mapM fun r => do
      return (← Expr.evalKeys order (s.within r), ← Expr.evalAll args (s.within r))
    let c := callCollation args
    let key := fun x : List Value × List Value => plainKey s.encoding f (x.2.headD .null)
    let isSame := fun x y => decide (c.compare s.encoding (key x) (key y) = .eq)
    let rows := if isDistinct then distinctBy isSame rows else rows
    let order := if f = "min" || f = "max" then [] else order
    totalOf s.encoding c f ((sortByKeys s.encoding order rows).map (·.2))
  | .windowed f args pick w => return (s.windows.lookup (.windowed f args pick w)).getD .null
  | .cases operand branches otherwise =>
    let found ← match operand with
      | none => Expr.evalBranches branches s fun _ v => truth? s.encoding v = some true
      | some o => do
        let x ← o.eval s
        Expr.evalBranches branches s fun c v => compareValues? s.encoding o c x v = some .eq
    match found with
    | some v => return v
    | none => Expr.evalOption otherwise .null s
  | .row _ => throw .misusedRow
  | .among a values =>
    let x ← a.eval s
    let ys ← Expr.evalAll values s
    return isAmong (ys.map fun y =>
      (compareValues? s.encoding a .null x y).map BinaryOp.equal.holds)
  | .within a q =>
    let rows ← s.rowsOf q
    let bs := Expr.columnsOf q
    if 1 < a.width then
      let xs ← a.evalRow s
      return isAmong (rows.map fun r => compareRows? s.encoding .equal a.rowParts bs xs r)
    let x ← a.eval s
    let b := bs.headD .null
    return isAmong (rows.map fun r =>
      (compareValues? s.encoding a b x (r.headD .null)).map BinaryOp.equal.holds)
  | .exists q => return ofTruth (← s.firstRow? q).isSome
  | .scalar q => return ((← s.firstRow? q).getD []).headD .null
  | .raise r t => throw (.raised r t)

/-- The values of a formula that stands for several ones. -/
def Expr.evalRow (e : Expr) (s : Setting) : Except SqlError (List Value) := do
  match e with
  | .row parts => Expr.evalAll parts s
  | .scalar q => return (← s.firstRow? q).getD ((Expr.columnsOf q).map fun _ => .null)
  | _ => return []

/-- The values of formulas. -/
def Expr.evalAll (es : List Expr) (s : Setting) : Except SqlError (List Value) := do
  match es with
  | [] => return []
  | e :: es => return (← e.eval s) :: (← Expr.evalAll es s)

/-- The values by which rows are sorted. -/
def Expr.evalKeys (ts : List SortTerm) (s : Setting) : Except SqlError (List Value) := do
  match ts with
  | [] => return []
  | ⟨e, _, _⟩ :: ts => return (← e.eval s) :: (← Expr.evalKeys ts s)

/-- The first value that is there. -/
def Expr.evalFirst (es : List Expr) (s : Setting) : Except SqlError Value := do
  match es with
  | [] => return .null
  | e :: es =>
    let v ← e.eval s
    if v = .null then Expr.evalFirst es s else return v

/-- The value of a formula, if there is one. -/
def Expr.evalOption (e : Option Expr) (otherwise : Value) (s : Setting) :
    Except SqlError Value := do
  match e with
  | none => return otherwise
  | some e => e.eval s

/-- The value of the first branch whose condition is fit, if one is. -/
def Expr.evalBranches (branches : List (Expr × Expr)) (s : Setting)
    (isFit : Expr → Value → Bool) : Except SqlError (Option Value) := do
  match branches with
  | [] => return none
  | (c, v) :: rest =>
    if isFit c (← c.eval s) then return some (← v.eval s) else Expr.evalBranches rest s isFit

end

/-- Whether a condition holds. -/
def Expr.isTrue (e : Expr) (s : Setting) : Except SqlError Bool := do
  return truth? s.encoding (← e.eval s) = some true

/-- Whether a condition holds or does not tell. -/
def Expr.isNotFalse (e : Expr) (s : Setting) : Except SqlError Bool := do
  return truth? s.encoding (← e.eval s) ≠ some false

end Sql
end FlowAtlas
