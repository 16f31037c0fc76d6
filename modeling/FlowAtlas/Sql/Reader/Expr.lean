import FlowAtlas.Sql.Expr
import FlowAtlas.Sql.Reader

/-!
# Reading formulas and queries

Operations bind in levels, from `OR`, the loosest, to the signs in front of a value, the tightest.
Formulas and queries hold each other, so their readers come in pairs (`Grammar`), and the pair for
one level of nesting is made from the pair for one less (`Grammar.ofDepth`).
-/

set_option autoImplicit false

namespace FlowAtlas
namespace Sql

/-! ## Operations -/

/-- The levels at which operations bind. -/
inductive Level
  | or
  | and
  | not
  | compare
  | order
  | escape
  | bits
  | sum
  | product
  | concat
  | collate
  | sign
  deriving DecidableEq, Repr, Inhabited

namespace Level

/-- The place of a level. -/
def rank : Level → Nat
  | or => 0
  | and => 1
  | not => 2
  | compare => 3
  | order => 4
  | escape => 5
  | bits => 6
  | sum => 7
  | product => 8
  | concat => 9
  | collate => 10
  | sign => 11

end Level

/-- The operations on two values that are written by a sign. -/
def signOps : List (String × Level × BinaryOp) :=
  [("=", .compare, .equal), ("==", .compare, .equal), ("<>", .compare, .notEqual),
    ("!=", .compare, .notEqual), ("<", .order, .less), ("<=", .order, .atMost),
    (">", .order, .greater), (">=", .order, .atLeast), ("&", .bits, .bitAnd),
    ("|", .bits, .bitOr), ("<<", .bits, .shiftLeft), (">>", .bits, .shiftRight),
    ("+", .sum, .plus), ("-", .sum, .minus), ("*", .product, .times), ("/", .product, .divide),
    ("%", .product, .remainder), ("||", .concat, .concat), ("->", .concat, .extract false),
    ("->>", .concat, .extract true)]

/-- The operations on two values that are written by a word. -/
def wordOps : List (String × Level × BinaryOp) := [("OR", .or, .or), ("AND", .and, .and)]

/-- The operation that a token writes. -/
def operation? (t : Token) : Option (Level × BinaryOp) :=
  if t.kind = .sign then signOps.lookup t.text
  else if t.kind = .word then wordOps.lookup t.keyword
  else none

/-- The words that compare a text with a pattern, and the functions that do so. -/
def patternOps : List (String × String) :=
  [("LIKE", "like"), ("GLOB", "glob"), ("REGEXP", "regexp"), ("MATCH", "match")]

/-- A formula that does not hold if another one does, if that is asked for. -/
def Expr.negatedIf (isNegated : Bool) (e : Expr) : Expr := if isNegated then .unary .not e else e

/-! ## The grammar -/

/-- Readers of formulas and queries. -/
structure Grammar where
  /-- A formula whose operations bind at least at a rank. It may have to stop before `AND`. -/
  expr : (rank : Nat) → (stopsAtAnd : Bool) → Reader Expr
  select : Reader Select

namespace Grammar

open Reader

variable (g : Grammar)

/-- Any formula. -/
def formula : Reader Expr := g.expr 0 false

/-- A formula as an operand, tighter than a level. -/
def tighter (l : Level) : Reader Expr := g.expr (l.rank + 1) false

/-- A formula in brackets. -/
def inBrackets : Reader Expr := bracketed g.formula

/-- Whether a query comes next. -/
def seesSelect : Reader Bool := seesAny ["SELECT", "VALUES", "WITH"]

/-- Formulas up to a closing bracket, or none. -/
def formulas : Reader (List Expr) := do
  if ← seesSign ")" then return [] else separated g.formula

/-! ## Names and types -/

/-- A name of a column, of one, two or three parts. -/
def columnName : Reader Name := do
  let a ← nameToken
  let quoted := fun t : Token => t.text.startsWith "\""
  if !(← sign? ".") then
    return { column := a.unquoted, isQuoted := quoted a, place := a.place }
  let b ← nameToken
  if !(← sign? ".") then
    return { table := some a.unquoted, column := b.unquoted, place := a.place }
  let c ← nameToken
  return { schema := some a.unquoted, table := some b.unquoted, column := c.unquoted
           place := a.place }

/-- A name of a table, with the name of its database if that is given. -/
def tableName : Reader (Option String × String) := do
  let a ← name
  if !(← sign? ".") then return (none, a)
  modify fun s => { s with databases := s.databases ++ [a] }
  return (some a, ← name)

/-- A number with or without a sign. -/
def signedNumber : Reader Unit := do
  if !(← sign? "-") then let _ ← sign? "+"
  let t ← peek
  if t.kind = .integer || t.kind = .real then let _ ← take else refuse

/-- The words of a type and the numbers behind them, if there is a type. -/
def typeTokens : Reader (List Token) := do
  let (_, tokens) ← spelled do
    let names ← many do if ← seesPlainName then return some (← take) else return none
    if !names.isEmpty then
      if ← sign? "(" then
        signedNumber
        if ← sign? "," then signedNumber
        sign ")"
  return tokens

/-- Whether windows come next that are given names. -/
def seesWindows : Reader Bool := do
  let next := ((← get).tokens.drop 1).take 2
  let isName := next.head?.any fun t => t.isName || t.kind = .text
  return (← sees "WINDOW") && isName && (next.drop 1).head?.any (·.keyword = "AS")

/-- The name behind a word that gives one, or a bare name. -/
def asName? : Reader (Option String) := do
  if ← seesWindows then return none
  if ← word? "AS" then return some (← name)
  else if ← seesPlainName then return some (← name)
  else return none

/-! ## Sorting -/

/-- What formulas are sorted by: a formula, its direction, and where rows without a value stand. -/
def sortTerm : Reader SortTerm := do
  let key ← g.formula
  let isDescending ← if ← word? "ASC" then pure false else word? "DESC"
  if !(← word? "NULLS") then return ⟨key, isDescending, none⟩
  if ← word? "FIRST" then return ⟨key, isDescending, some true⟩
  word "LAST"
  return ⟨key, isDescending, some false⟩

/-- What rows are sorted by. -/
def sortTerms : Reader (List SortTerm) := separated g.sortTerm

/-! ## Operands -/

/-- A query in brackets, the first of which was taken already. -/
def closedSelect : Reader Select := do
  let q ← g.select
  sign ")"
  return q

/-- What stands behind an opening bracket: a query, a formula or several. -/
def opened : Reader Expr := do
  if ← seesSelect then return .scalar (← g.closedSelect)
  let parts ← separated g.formula
  sign ")"
  match parts with
  | [e] => return e
  | parts => return .row parts

/-- A change of type behind its first word. -/
def castBody : Reader Expr := bracketed do
  let e ← g.formula
  word "AS"
  return .cast e (Token.castType (← typeTokens))

/-- A choice behind its first word. -/
def casesBody : Reader Expr := do
  let operand ← if ← sees "WHEN" then pure none else some <$> g.formula
  if !(← sees "WHEN") then refuse
  let branches ← many do
    if !(← word? "WHEN") then return none
    let condition ← g.formula
    word "THEN"
    return some (condition, ← g.formula)
  let otherwise ← if ← word? "ELSE" then some <$> g.formula else pure none
  word "END"
  return .cases operand branches otherwise

/-- How a change that is forbidden ends. -/
def resolutions : List (String × Resolution) :=
  [("ROLLBACK", .rollback), ("ABORT", .abort), ("FAIL", .fail), ("IGNORE", .ignore),
    ("REPLACE", .replace)]

/-- How a change that is forbidden ends. -/
def resolution : Reader Resolution := do
  match resolutions.lookup (← peek).keyword with
  | some r =>
    let _ ← take
    return r
  | none => refuse

/-- Giving up, behind its first word. -/
def raiseBody : Reader Expr := bracketed do
  if ← word? "IGNORE" then return .raise .ignore ""
  if ← sees "REPLACE" then refuse
  let r ← resolution
  sign ","
  return .raise r (← name)

/-- Whether rows of a group are picked by a formula. -/
def pick? : Reader (Option Expr) := do
  if (← sees "FILTER") && (← peekSecond).isSign "(" then
    let _ ← take
    bracketed do
      word "WHERE"
      some <$> g.formula
  else return none

/-! ## Windows -/

/-- The units of frames. -/
def frameUnits : List (String × FrameUnit) :=
  [("ROWS", .rows), ("RANGE", .range), ("GROUPS", .groups)]

/-- An end of a frame. One that is open lies on a side of its own. -/
def frameBound (openSide : String) : Reader FrameBound := do
  if ← word? "UNBOUNDED" then
    word openSide
    return .unbounded
  if ← word? "CURRENT" then
    word "ROW"
    return .current
  let e ← g.formula
  if ← word? "PRECEDING" then return .before e
  word "FOLLOWING"
  return .behind e

/-- What is left out of a frame, if that is said. -/
def exclusion? : Reader (Option Exclusion) := do
  if !(← word? "EXCLUDE") then return none
  if ← word? "NO" then
    word "OTHERS"
    return some .nothing
  if ← word? "CURRENT" then
    word "ROW"
    return some .row
  if ← word? "GROUP" then return some .group
  word "TIES"
  return some .ties

/-- Whether a frame cannot begin and end so. -/
def isUnsupported (first last : FrameBound) : Bool :=
  match first, last with
  | .current, .before _ | .behind _, .before _ | .behind _, .current => true
  | _, _ => false

/-- A frame, if one is told. -/
def frame? : Reader (Option WindowFrame) := do
  match frameUnits.lookup (← peek).keyword with
  | none => return none
  | some unit =>
    let _ ← take
    let isBetween ← word? "BETWEEN"
    let first ← g.frameBound "PRECEDING"
    let last ←
      if isBetween then
        word "AND"
        g.frameBound "FOLLOWING"
      else pure .current
    let exclusion ← exclusion?
    if isUnsupported first last then note .unsupportedFrame
    return some ⟨unit, first, last, exclusion⟩

/-- A window between brackets. -/
def window : Reader Window := bracketed do
  let t ← peek
  let isBase := (t.isName || t.kind = .text) && t.keyword ≠ "PARTITION" &&
    (frameUnits.lookup t.keyword).isNone
  let base ← if isBase then some <$> name else pure none
  let parts ←
    if ← word? "PARTITION" then
      word "BY"
      separated g.formula
    else pure []
  let order ←
    if ← word? "ORDER" then
      word "BY"
      g.sortTerms
    else pure []
  return ⟨base, false, parts, order, ← g.frame?⟩

/-- A window with what it takes over from one of the windows that have names. -/
def chained (known : List (String × Window)) (w : Window) : Except SqlError Window := do
  match w.base with
  | none => return w
  | some name =>
    match known.find? fun (n, _) => n.toLower = name.toLower with
    | none => throw (.noWindow name)
    | some (_, b) =>
      if w.isBase then return b
      if !w.parts.isEmpty then throw (.fixedWindow "PARTITION clause" name)
      if !b.order.isEmpty && !w.order.isEmpty then throw (.fixedWindow "ORDER BY clause" name)
      if b.frame.isSome then throw (.fixedWindow "frame specification" name)
      let order := if b.order.isEmpty then w.order else b.order
      return { w with base := none, parts := b.parts, order }

/-- Windows that are given names, the last one first. -/
def windowsFrom (known : List (String × Window)) : (fuel : Nat) → Reader (List (String × Window))
  | 0 => refuse
  | fuel + 1 => do
    let n ← name
    word "AS"
    let w ← g.window
    let known ←
      match chained known w with
      | .ok w => pure ((n, w) :: known)
      | .error e => do
        note e
        pure known
    if ← sign? "," then windowsFrom known fuel else return known

/-- Windows that are given names, if there are any. -/
def windows : Reader (List (String × Window)) := do
  if !(← seesWindows) then return []
  let _ ← take
  g.windowsFrom [] ((← left) + 1)

/-- The window of a function, if it has one. -/
def window? : Reader (Option Window) := do
  let next ← peekSecond
  if !(← sees "OVER") then return none
  if next.isSign "(" then
    let _ ← take
    return some (← g.window)
  if !(next.isName || next.kind = .text) then return none
  let _ ← take
  return some ⟨some (← name), true, [], [], none⟩

/-! ## Functions -/

/-- Functions of all rows of a group. -/
def totals : List String :=
  ["count", "sum", "total", "avg", "group_concat", "string_agg", "json_group_array",
    "json_group_object", "jsonb_group_array", "jsonb_group_object"]

/-- Whether a function is one of all rows of a group when it has so many arguments. -/
def isTotal (function : String) (args : Nat) : Bool :=
  totals.contains function || args = 1 && (function = "min" || function = "max")

/-- A function of a name, behind the opening bracket. -/
def callBody (function : String) : Reader Expr := do
  let isStar ← sign? "*"
  let isDistinct ← if isStar then pure false else if ← word? "ALL" then pure false
    else word? "DISTINCT"
  let args ← if isStar then pure [] else g.formulas
  let order ←
    if ← wordIf (!args.isEmpty) "ORDER" then
      word "BY"
      g.sortTerms
    else pure []
  sign ")"
  let pick ← g.pick?
  match ← g.window? with
  | some w =>
    if isDistinct then note .distinctWindow
    else if !order.isEmpty then note (.orderedScalar function)
    return .windowed function args pick w
  | none =>
    if isTotal function.toLower args.length || pick.isSome || !order.isEmpty then
      return .total function isDistinct args order pick
    else return .call function args

/-- A name of a column or a function. -/
def named : Reader Expr := do
  if (← peekSecond).isSign "(" && (← peek).isName then
    let t ← take
    let _ ← take
    g.callBody t.unquoted
  else return .name (← columnName)

/-- The bytes that pairs of digits of base sixteen write. -/
def bytesOf : List Char → Bytes
  | a :: b :: rest =>
    UInt8.ofNat ((Numeral.hexDigit? a).getD 0 * 16 + (Numeral.hexDigit? b).getD 0) :: bytesOf rest
  | _ => []

/-- A literal, if one comes next. -/
def literal? : Reader (Option Expr) := do
  let t ← peek
  let number := String.ofList (t.text.toList.filter (· ≠ '_'))
  let found := match t.kind with
    | .integer | .real => some (Expr.number number)
    | .blob => some (.blob (bytesOf (t.text.toList.drop 2)))
    | .parameter => some (.parameter t.text)
    | .word =>
      if t.keyword = "NULL" then some .null
      else if ["CURRENT_DATE", "CURRENT_TIME", "CURRENT_TIMESTAMP"].contains t.keyword then
        some (.moment t.keyword)
      else none
    | _ => none
  if found.isSome then let _ ← take
  return found

/-- A text or a name. -/
def textOrName : Reader Expr := do
  let t ← peek
  if t.kind = .text && !(← peekSecond).isSign "." then return .text (← take).unquoted
  else if t.isName || t.kind = .text then g.named
  else refuse

/-- An operand, with the signs in front of it. -/
def operand : Reader Expr := do
  if ← sign? "(" then return ← g.opened
  if ← sign? "-" then return .unary .negative (← g.expr Level.sign.rank false)
  if ← sign? "+" then return .unary .positive (← g.expr Level.sign.rank false)
  if ← sign? "~" then return .unary .complement (← g.expr Level.sign.rank false)
  if ← word? "NOT" then return .unary .not (← g.expr Level.not.rank false)
  if ← word? "CAST" then return ← g.castBody
  if ← word? "CASE" then return ← g.casesBody
  if ← word? "EXISTS" then
    sign "("
    return .exists (← g.closedSelect)
  if ← word? "RAISE" then return ← raiseBody
  match ← literal? with
  | some e => return e
  | none => g.textOrName

/-! ## Operations on operands -/

/-- All rows of a table, as a query. -/
def allRows (origin : Origin) : Select :=
  { named := [], rest := [], order := [], limit := none, offset := none
    first := {
      isDistinct := false, columns := [.all none], filter := none, groups := [], having := none
      windows := [], sources := [⟨origin, none, {}, none, none, .any⟩] } }

/-- Rows that are given by formulas. -/
def coresOf (rows : List (List Expr)) : List Core :=
  rows.map fun row => ⟨false, row.map fun e => .value e none "", [], none, [], none, []⟩

/-- Rows that are given by formulas, as a query. -/
def rowsOf (rows : List (List Expr)) : Select :=
  { named := [], first := (coresOf rows).headD default
    rest := (coresOf rows).tail.map fun c => (.unionAll, c), order := [], limit := none
    offset := none }

/-- What a value must be among, behind the word that says so. -/
def membership (a : Expr) : Reader Expr := do
  if ← sign? "(" then
    if ← seesSelect then return .within a (← g.closedSelect)
    let values ← g.formulas
    sign ")"
    match a, values with
    | _, [] => return .truth false
    | _, [.scalar q] => return .within a q
    | .row parts, values =>
      let rows := values.map fun
        | .row row => row
        | e => [e]
      match rows.find? (·.length ≠ parts.length) with
      | some row => note (.memberCount row.length parts.length)
      | none => pure ()
      return .within a (rowsOf rows)
    | a, values => return .among a values
  let (schema, table) ← tableName
  if ← sign? "(" then
    let args ← g.formulas
    sign ")"
    return .within a (allRows (.function table args))
  return .within a (allRows (.table schema table))

/-- A pattern, behind the word that says how it is compared. -/
def pattern (function : String) (a : Expr) : Reader Expr := do
  let p ← g.tighter .compare
  if ← word? "ESCAPE" then return .call function [p, a, ← g.tighter .compare]
  else return .call function [p, a]

/-- Two limits, behind the word that asks for them. -/
def limits (a : Expr) : Reader Expr := do
  let low ← g.expr 0 true
  word "AND"
  return .between a low (← g.tighter .compare)

/-- Being the same, behind the word for that. -/
def sameness (a : Expr) : Reader Expr := do
  let isNegated ← word? "NOT"
  let isDistinct ← word? "DISTINCT"
  if isDistinct then word "FROM"
  let b ← g.tighter .compare
  let isOther := isNegated ≠ isDistinct
  match b with
  | .null => return .unary (if isOther then .isNotNull else .isNull) a
  | b => return .binary (if isOther then .isNot else .is) a b

/-- A comparison that is written by a word, which may be negated. -/
def comparison? (a : Expr) (isNegated : Bool) : Reader (Option Expr) := do
  let t ← peek
  match patternOps.lookup t.keyword with
  | some function =>
    let _ ← take
    return some ((← g.pattern function a).negatedIf isNegated)
  | none =>
    if ← word? "BETWEEN" then return some ((← g.limits a).negatedIf isNegated)
    if ← word? "IN" then return some ((← g.membership a).negatedIf isNegated)
    if isNegated then
      word "NULL"
      return some (.unary .isNotNull a)
    if ← word? "ISNULL" then return some (.unary .isNull a)
    if ← word? "NOTNULL" then return some (.unary .isNotNull a)
    if ← word? "IS" then return some (← g.sameness a)
    return none

/-- One operation behind an operand, if one of at least a rank comes next. -/
def step? (rank : Nat) (stopsAtAnd : Bool) (a : Expr) : Reader (Option Expr) := do
  let t ← peek
  match operation? t with
  | some (l, op) =>
    if l.rank < rank || stopsAtAnd && op = .and then return none
    let _ ← take
    return some (.binary op a (← g.tighter l))
  | none =>
    if ← wordIf (rank ≤ Level.collate.rank) "COLLATE" then
      return some (.collate a (← plainName))
    if Level.compare.rank < rank then return none
    g.comparison? a (← word? "NOT")

/-- The operations behind an operand. -/
def stepsFrom (rank : Nat) (stopsAtAnd : Bool) : (fuel : Nat) → Expr → Reader Expr
  | 0, a => return a
  | fuel + 1, a => do
    match ← g.step? rank stopsAtAnd a with
    | none => return a
    | some b => stepsFrom rank stopsAtAnd fuel b

/-! ## Queries -/

/-- A part of what stands before the tables of a query. -/
def resultColumn : Reader ResultColumn := do
  if ← sign? "*" then return .all none
  let t ← peek
  let next := ((← get).tokens.drop 1).take 2
  if (t.isName || t.kind = .text) && next.map (·.text) = [".", "*"] then
    let table ← name
    sign "."
    sign "*"
    return .all (some table)
  let (e, tokens) ← spelled g.formula
  return .value e (← asName?) (Token.spelling tokens)

/-- The words that tell how a table is joined, up to the one that ends them. -/
def joinWords : Reader Join := do
  if !Token.joining.contains (← peek).keyword then
    word "JOIN"
    return {}
  let mut tokens := [← take]
  for _ in [1, 2] do
    if !(← sees "JOIN") then tokens := tokens ++ [← nameToken]
  word "JOIN"
  let ws := tokens.map (·.keyword)
  let has := ws.contains
  let isOuter := has "LEFT" || has "RIGHT" || has "FULL"
  let isInner := has "INNER" || has "CROSS"
  if !ws.all Token.joining.contains || isInner && (isOuter || has "OUTER") ||
      has "OUTER" && !isOuter then
    note (.unknownJoin (" ".intercalate (tokens.map (·.text))))
  return ⟨has "NATURAL", has "LEFT" || has "FULL", has "RIGHT" || has "FULL", has "CROSS"⟩

/-- How the next table of a query is joined, if there is one. -/
def join? : Reader (Option Join) := do
  if ← sign? "," then return some {}
  if (← sees "JOIN") || Token.joining.contains (← peek).keyword then return some (← joinWords)
  return none

/-- Which indexes may find the rows of a table, if that is told. -/
def indexUse : Reader IndexUse := do
  if ← word? "INDEXED" then
    word "BY"
    return .only (← name)
  if (← sees "NOT") && (← peekSecond).keyword = "INDEXED" then
    words ["NOT", "INDEXED"]
    return .none
  return .any

/-- A table that is named, or a function with a table as its value, with its other name. -/
def namedOrigin : Reader (Origin × Option String × IndexUse) := do
  let (schema, table) ← tableName
  if ← sign? "(" then
    let args ← g.formulas
    sign ")"
    return (.function table args, ← asName?, .any)
  let asName ← asName?
  return (.table schema table, asName, ← indexUse)

/-- A table of a query, joined in a way, with what its tables in brackets are read by. -/
def sourceWith (inner : Reader (List Source)) (join : Join) (isFirst : Bool) : Reader Source := do
  let (origin, asName, use) ←
    if ← sign? "(" then
      let origin ←
        if ← seesSelect then Origin.query <$> g.closedSelect
        else
          let sources ← inner
          sign ")"
          pure (.query { allRows default with first := { (allRows default).first with sources } })
      pure (origin, ← asName?, .any)
    else g.namedOrigin
  let condition ← if ← word? "ON" then some <$> g.formula else pure none
  let shared ←
    if ← wordIf condition.isNone "USING" then some <$> bracketed (separated name)
    else pure none
  if isFirst && condition.isSome then note (.missingJoin "ON")
  if isFirst && shared.isSome then note (.missingJoin "USING")
  return ⟨origin, asName, join, condition, shared, use⟩

/-- The tables of a query, where brackets may stand in brackets so often. -/
def sourcesFrom : (fuel : Nat) → Reader (List Source)
  | 0 => refuse
  | fuel + 1 => do
    let first ← g.sourceWith (sourcesFrom fuel) {} true
    let rest ← many do
      match ← join? with
      | none => return none
      | some join => return some (← g.sourceWith (sourcesFrom fuel) join false)
    return first :: rest

/-- What rows are sorted by, how many are left out, and how many there are at most. -/
structure Ending where
  order : List SortTerm := []
  limit : Option Expr := none
  offset : Option Expr := none

/-- The end of a query. -/
def ending : Reader Ending := do
  let order ←
    if ← word? "ORDER" then
      word "BY"
      g.sortTerms
    else pure []
  if !(← word? "LIMIT") then return { order }
  let a ← g.formula
  if ← word? "OFFSET" then return ⟨order, some a, some (← g.formula)⟩
  if ← sign? "," then return ⟨order, some (← g.formula), some a⟩
  return ⟨order, some a, none⟩

/-- One query of several, with its end. -/
def core : Reader (Core × Ending) := do
  word "SELECT"
  let isDistinct ← if ← word? "ALL" then pure false else word? "DISTINCT"
  let columns ← separated g.resultColumn
  let sources ← if ← word? "FROM" then g.sourcesFrom ((← left) + 1) else pure []
  let filter ← if ← word? "WHERE" then some <$> g.formula else pure none
  let groups ←
    if ← word? "GROUP" then
      word "BY"
      separated g.formula
    else pure []
  let having ← if ← word? "HAVING" then some <$> g.formula else pure none
  let windows ← g.windows
  return (⟨isDistinct, columns, sources, filter, groups, having, windows⟩, ← g.ending)

/-- Rows that are given by formulas, behind the word that says so. -/
def valueRows : Reader (List Core) := do
  let rows ← separated (bracketed (separated g.formula))
  let widths := rows.map List.length
  if widths.any (· ≠ widths.headD 0) then note .valueCounts
  return coresOf rows

/-- One query of several, or rows of formulas, with its end. -/
def cores : Reader (List Core × Ending) := do
  if ← word? "VALUES" then return (← g.valueRows, {})
  let (c, e) ← g.core
  return ([c], e)

/-- How the rows of the next query are put to those before, if there is one. -/
def compound? : Reader (Option CompoundOp) := do
  if ← word? "UNION" then return some (if ← word? "ALL" then .unionAll else .union)
  if ← word? "EXCEPT" then return some .except
  if ← word? "INTERSECT" then return some .intersect
  return none

/-- The name of a way to put rows together. -/
def compoundName : CompoundOp → String
  | .union => "UNION"
  | .unionAll => "UNION ALL"
  | .intersect => "INTERSECT"
  | .except => "EXCEPT"

/-- A query that is given a name. -/
def namedQuery : Reader NamedQuery := do
  let n ← name
  let columns ← if ← seesSign "(" then bracketed (separated name) else pure []
  word "AS"
  if ← word? "NOT" then word "MATERIALIZED" else let _ ← word? "MATERIALIZED"
  return ⟨n, columns, ← bracketed g.select⟩

/-- The queries that are given names, if there are any. -/
def namedQueries : Reader (List NamedQuery) := do
  if !(← word? "WITH") then return []
  let _ ← word? "RECURSIVE"
  let found ← separated g.namedQuery
  let isTwice := fun (n : NamedQuery) (i : Nat) => (found.take i).any fun o => o.name.toLower = n.name.toLower
  match found.zipIdx.find? fun (n, i) => isTwice n i with
  | some (n, _) => note (.namedTwice n.name)
  | none => pure ()
  return found

/-- A query. Only the last one of several may be sorted or cut. -/
def query : Reader Select := do
  let named ← g.namedQueries
  let (firsts, e) ← g.cores
  let parts ← many do
    match ← compound? with
    | none => return none
    | some op =>
      let (cs, e) ← g.cores
      return some (op, cs, e)
  let chain := fun (op : CompoundOp) (cs : List Core) =>
    cs.zipIdx.map fun (c, i) => (if i = 0 then op else CompoundOp.unionAll, c)
  let rest := (chain .unionAll firsts).drop 1 ++ parts.flatMap fun (op, cs, _) => chain op cs
  let endings := e :: parts.map fun (_, _, e) => e
  let early := (endings.zip parts).find? fun (e, _) => !e.order.isEmpty || e.limit.isSome
  match early with
  | some (e, op, _) =>
    note (.earlyClause (if e.order.isEmpty then "LIMIT" else "ORDER BY") (compoundName op))
  | none => pure ()
  let last := endings.getLast?.getD {}
  return ⟨named, firsts.headD default, rest, last.order, last.limit, last.offset⟩

/-! ## Nesting -/

/-- The grammar of what is nested at most so deep. -/
def ofDepth : Nat → Grammar
  | 0 => ⟨fun _ _ => refuse, refuse⟩
  | n + 1 =>
    let g := ofDepth n
    { expr := fun rank stopsAtAnd => do
        let a ← g.operand
        g.stepsFrom rank stopsAtAnd ((← left) + 1) a
      select := g.query }

end Grammar
end Sql
end FlowAtlas
