import FlowAtlas.Sql.Definition
import FlowAtlas.Sql.Reader.Expr

/-!
# Reading definitions

The statements that make tables, indexes, views and triggers. What a definition makes of a table is
put together while it is read (`TableReading`), since most of what can be wrong with it is noticed
then. What takes names of columns in formulas is left to later.
-/

set_option autoImplicit false

namespace FlowAtlas
namespace Sql

open Reader

/-- The grammar for what is left to read. -/
def Reader.grammar : Reader Grammar := return Grammar.ofDepth ((← left) + 2)

/-- Any formula. -/
def Reader.formula : Reader Expr := do (← grammar).formula

/-- A formula in brackets. -/
def Reader.formulaInBrackets : Reader Expr := do (← grammar).inBrackets

/-! ## Parts -/

namespace Grammar

/-- What becomes of a change that a rule forbids, if that is said. -/
def conflict? : Reader (Option Resolution) := do
  if !(← word? "ON") then return none
  word "CONFLICT"
  some <$> resolution

/-- What becomes of rows when the row goes that they belong to. -/
def parentAction : Reader ParentAction := do
  if ← word? "SET" then
    if ← word? "NULL" then return .setNull
    word "DEFAULT"
    return .setDefault
  if ← word? "CASCADE" then return .cascade
  if ← word? "RESTRICT" then return .restrict
  words ["NO", "ACTION"]
  return .none

/-- What becomes of rows in each case, on top of what was said already. -/
def parentActions : (fuel : Nat) → ParentRule → Reader ParentRule
  | 0, p => return p
  | fuel + 1, p => do
    if ← word? "MATCH" then
      let _ ← name
      parentActions fuel p
    else if ← word? "ON" then
      if ← word? "DELETE" then parentActions fuel { p with onDelete := ← parentAction }
      else if ← word? "UPDATE" then parentActions fuel { p with onUpdate := ← parentAction }
      else
        word "INSERT"
        let _ ← parentAction
        parentActions fuel p
    else return p

/-- Names in brackets, each of which may have a collation and a direction. -/
def markedNames : Reader (List String) := bracketed do
  separated do
    let n ← name
    if ← word? "COLLATE" then let _ ← plainName
    if !(← word? "ASC") then let _ ← word? "DESC"
    return n

/-- The table behind the word that refers to it, for some columns. -/
def parentBody (columns : List Nat) : Reader ParentRule := do
  let table ← name
  let parentColumns ← if ← seesSign "(" then some <$> markedNames else pure none
  parentActions ((← left) + 1) { columns, table, parentColumns }

/-- When a rule counts, behind the word for that. -/
def deferral : Reader Bool := do
  word "DEFERRABLE"
  if !(← word? "INITIALLY") then return false
  if ← word? "DEFERRED" then return true
  word "IMMEDIATE"
  return false

end Grammar

open Grammar

/-! ## Tables -/

/-- A table while its definition is read. -/
abbrev TableReading := StateT TableDefinition Reader

namespace TableReading

/-- Note what makes no sense unless a condition holds. -/
def require (condition : Bool) (e : SqlError) : TableReading Unit :=
  (Reader.require condition e : Reader Unit)

/-- Change the column that was named last. -/
def changeColumn (f : Column → Column) : TableReading Unit :=
  modify fun t => { t with columns := t.columns.modify (t.columns.length - 1) f }

/-- The column that was named last. -/
def column : TableReading Column := return (← get).columns.getLastD default

/-- The type of a column, where the words that tell of a formula may stand behind it. -/
def typeName (tokens : List Token) : String :=
  match tokens.reverse with
  | a :: b :: rest =>
    let isFormula := a.keyword = "ALWAYS" && b.keyword = "GENERATED"
    Token.columnType (if isFormula then rest.reverse else tokens)
  | _ => Token.columnType tokens

/-- A column with its type. -/
def addColumn (name : String) (type : String) : TableReading Unit := do
  let t ← get
  require (t.column? name).isNone (.duplicateColumn name)
  let c : Column := { name, type, affinity := .ofType type }
  set { t with columns := t.columns ++ [c] }

/-- The number of the column that was named last. -/
def lastColumn : TableReading Nat := return (← get).columns.length - 1

/-! ### Keys -/

/-- The name and the collation of a plain column in a rule. -/
def columnOf? : Expr → Option (String × Option String)
  | .collate e c => (columnOf? e).map fun (n, _) => (n, some c)
  | .name n => if n.table.isNone then some (n.column, none) else none
  | .text s => some (s, none)
  | _ => none

/-- The part of a rule that a term makes. -/
def partOf (term : SortTerm) : TableReading (Option IndexPart) := do
  match term.nullsFirst with
  | some isFirst => require false (.unsupportedNulls (if isFirst then "FIRST" else "LAST"))
  | none => pure ()
  match columnOf? term.key with
  | none =>
    require false .keyFormula
    return none
  | some (n, c) =>
    let t ← get
    match t.column? n with
    | none =>
      require false (.noColumn n none)
      return none
    | some i =>
      let column := t.columns.getD i default
      let field : Field :=
        { column := some i, affinity := column.affinity, collation := column.collation }
      return some ⟨.field field, c.elim column.collation .ofName, term.isDescending⟩

/-- Whether two rules are about the same columns. -/
def isSame (ps qs : List IndexPart) : Bool :=
  let sight := fun p : IndexPart =>
    match p.value with
    | .field f => (f.column, p.collation)
    | _ => (none, p.collation)
  ps.map sight = qs.map sight

/-- A rule that no two rows may have the same values. A second rule about the same columns is no
other one. -/
def addUnique (terms : List SortTerm) (resolution : Option Resolution) (isKey : Bool) :
    TableReading Unit := do
  let parts ← terms.mapM partOf
  let parts := parts.filterMap id
  let t ← get
  match t.unique.findIdx? fun r => isSame r.parts parts with
  | none => set { t with unique := t.unique ++ [(⟨parts, resolution, isKey⟩ : UniqueRule)] }
  | some i =>
    let r := t.unique.getD i default
    require (r.resolution = resolution || r.resolution.isNone || resolution.isNone)
      .conflictingRules
    let merged := { r with resolution := r.resolution.or resolution, isKey := r.isKey || isKey }
    set { t with unique := t.unique.set i merged }

/-- Let a column be part of the key. -/
def markKey (i : Nat) : TableReading Unit := do
  require ((← get).columns.getD i default).formula.isNone .formulaInKey
  modify fun t => { t with columns := t.columns.modify i ({ · with isInKey := true }) }

/-- The key of a table, by terms or by the column that was named last. A single column of whole
numbers is the number of the row. -/
def addKey (terms : Option (List SortTerm)) (resolution : Option Resolution)
    (isDescending isCounted : Bool) : TableReading Unit := do
  let t ← get
  if t.hasKey then
    require false (.secondKey t.name)
    return
  set { t with hasKey := true }
  let last ← lastColumn
  let places := match terms with
    | none => [some last]
    | some terms => terms.map fun term => (columnOf? term.key).bind fun (n, _) => t.column? n
  (places.filterMap id).forM markKey
  let number := match places with
    | [some i] =>
      if (t.columns.getD i default).type.toLower = "integer" && !isDescending then some i else none
    | _ => none
  let last := (t.columns.getD last default).name
  let own := terms.getD [(⟨.name { column := last }, isDescending, none⟩ : SortTerm)]
  if number.isSome then
    let isNumberDescending := own.any (·.isDescending)
    modify fun t => { t with
      numberColumn := number, numberResolution := resolution, isCounted, isNumberDescending }
  else if isCounted then require false .misplacedCount
  else addUnique own resolution true

/-! ### Values -/

/-- Whether a formula has no columns and no queries in it. -/
def isConstant : (fuel : Nat) → Expr → Bool
  | 0, _ => false
  | fuel + 1, e =>
    match e with
    | .name n => n.table.isNone && !n.isQuoted && ["true", "false"].contains n.column.toLower
    | .field _ | .total _ _ _ _ _ | .windowed _ _ _ _ | .within _ _ | .exists _ | .scalar _
    | .raise _ _ => false
    | .unary _ a | .collate a _ | .cast a _ => isConstant fuel a
    | .binary _ a b => isConstant fuel a && isConstant fuel b
    | .between a b c => isConstant fuel a && isConstant fuel b && isConstant fuel c
    | .call _ args | .row args => args.all (isConstant fuel)
    | .among a args => isConstant fuel a && args.all (isConstant fuel)
    | .cases a bs c =>
      a.all (isConstant fuel) && c.all (isConstant fuel) &&
        bs.all fun (b, d) => isConstant fuel b && isConstant fuel d
    | _ => true

/-- The value of the column that was named last where none is given, and how that is written. -/
def addDefault (e : Expr) (text : String) : TableReading Unit := do
  let c ← column
  if !isConstant 1000 e then require false (.variableDefault c.name)
  else if c.formula.isSome then require false .formulaDefault
  else changeColumn fun c => { c with default := some e, defaultText := text }

/-- A default value. -/
def defaultValue : Reader Expr := do
  if ← seesSign "(" then return ← formulaInBrackets
  let isNegative ← sign? "-"
  let isSigned ← if isNegative then pure true else sign? "+"
  let t ← peek
  if t.kind = .parameter then refuse
  let literal ←
    if t.kind = .text then some <$> (return Expr.text (← take).unquoted) else literal?
  match literal with
  | some e => return if isNegative then .unary .negative e else e
  | none =>
    if isSigned || !t.isPlainName then refuse
    let s := (← take).unquoted
    if t.kind = .word && s.toLower = "true" then return .truth true
    else if t.kind = .word && s.toLower = "false" then return .truth false
    else return .text s

/-- A default value behind the word for it. Brackets around it are no part of it. -/
def defaultBody : TableReading Unit := do
  let (e, tokens) ← (spelled defaultValue : Reader _)
  let isBracketed := tokens.head?.any (·.isSign "(")
  addDefault e (Token.spelling (if isBracketed then tokens.tail.dropLast else tokens))

/-- The formula of the column that was named last. -/
def formulaBody : TableReading Unit := do
  let value ← formulaInBrackets
  let t ← peek
  let kind ← if t.isPlainName && t.kind ≠ .text then some <$> (return (← take).text) else pure none
  let c ← column
  require (kind.all fun k => ["virtual", "stored"].contains k.toLower) (.formulaFault c.name)
  require c.default.isNone (.formulaFault c.name)
  require (!c.isInKey) .formulaInKey
  changeColumn fun c => { c with
    formula := some ⟨value, kind.any (·.toLower = "stored")⟩ }

/-! ### Rules -/

/-- A rule about rows of other tables. -/
def addParent (p : ParentRule) : TableReading Unit := do
  modify fun t => { t with parents := t.parents ++ [p] }

/-- Say when the last rule about rows of other tables counts. -/
def deferLast (isDeferred : Bool) : TableReading Unit := do
  modify fun t => { t with
    parents := t.parents.modify (t.parents.length - 1) ({ · with isDeferred }) }

/-- A rule about the column that was named last. The answer tells whether there was one. -/
def columnRule? : TableReading (Option Unit) := do
  if ← word? "CONSTRAINT" then
    let _ ← (name : Reader String)
  else if ← word? "DEFAULT" then defaultBody
  else if ← word? "NULL" then let _ ← (conflict? : Reader _)
  else if (← sees "NOT") && (← peekSecond).keyword = "DEFERRABLE" then
    word "NOT"
    let _ ← (deferral : Reader Bool)
    deferLast false
  else if ← word? "NOT" then
    word "NULL"
    let r ← conflict?
    changeColumn fun c => { c with required := some (r.getD .abort) }
  else if ← word? "PRIMARY" then
    word "KEY"
    let isDescending ← if ← word? "ASC" then pure false else word? "DESC"
    let r ← conflict?
    addKey none r isDescending (← word? "AUTOINCREMENT")
  else if ← word? "UNIQUE" then
    let c ← column
    let r ← conflict?
    addUnique [⟨.name { column := c.name }, false, none⟩] r false
  else if ← word? "CHECK" then
    let e ← formulaInBrackets
    modify fun t => { t with checks := t.checks ++ [e] }
  else if ← word? "REFERENCES" then
    let c ← column
    let p ← parentBody [← lastColumn]
    require ((p.parentColumns.getD ["one"]).length = 1) (.singleParent c.name p.table)
    addParent p
  else if ← sees "DEFERRABLE" then deferLast (← deferral)
  else if ← word? "COLLATE" then
    let n ← plainName
    changeColumn fun c => { c with collation := .ofName n }
    let i ← lastColumn
    modify fun t => { t with unique := t.unique.map fun r => { r with
      parts := r.parts.map fun p =>
        match p.value with
        | .field f => if f.column = some i then { p with collation := .ofName n } else p
        | _ => p } }
  else if ← word? "GENERATED" then
    (words ["ALWAYS", "AS"] : Reader Unit)
    formulaBody
  else if ← word? "AS" then formulaBody
  else return none
  return some ()

/-- The words that begin a rule for the whole table. -/
def ruleWords : List String := ["CONSTRAINT", "PRIMARY", "UNIQUE", "CHECK", "FOREIGN"]

/-- Whether a rule counts at the end only, if that is said. -/
def deferral? : Reader Bool := do
  if (← sees "NOT") && (← peekSecond).keyword = "DEFERRABLE" then
    word "NOT"
    let _ ← deferral
    return false
  if ← sees "DEFERRABLE" then deferral else return false

/-- The columns of names in a rule about rows of other tables. -/
def childColumns (names : List String) : TableReading (List Nat) := do
  let t ← get
  let found ← names.mapM fun n => do
    require (t.column? n).isSome (.unknownChildColumn n)
    return t.column? n
  return found.filterMap id

/-- A rule for the whole table, behind its first word. -/
def tableRule : TableReading Unit := do
  if ← word? "CONSTRAINT" then
    let _ ← (name : Reader String)
  else if ← word? "PRIMARY" then
    word "KEY"
    sign "("
    let terms ← (← grammar).sortTerms
    let isCounted ← word? "AUTOINCREMENT"
    sign ")"
    addKey (some terms) (← conflict?) false isCounted
  else if ← word? "UNIQUE" then
    let terms ← bracketed (← grammar).sortTerms
    addUnique terms (← conflict?) false
  else if ← word? "CHECK" then
    let e ← formulaInBrackets
    let _ ← (conflict? : Reader _)
    modify fun t => { t with checks := t.checks ++ [e] }
  else
    (words ["FOREIGN", "KEY"] : Reader Unit)
    let names ← markedNames
    word "REFERENCES"
    let p ← parentBody []
    let isDeferred ← deferral?
    require ((p.parentColumns.getD names).length = names.length) .parentCount
    addParent { p with columns := ← childColumns names, isDeferred }

/-- The rules for the whole table, which need no commas between them. -/
def tableRules : (fuel : Nat) → TableReading Unit
  | 0 => return ()
  | fuel + 1 => do
    tableRule
    let isMore ← sign? ","
    if isMore || (← seesAny ruleWords) then tableRules fuel

/-- The rules of a column. -/
def columnRules : (fuel : Nat) → TableReading Unit
  | 0 => return ()
  | fuel + 1 => do if (← columnRule?).isSome then columnRules fuel

/-- The columns of a table, and its rules. -/
def columnsFrom : (fuel : Nat) → TableReading Unit
  | 0 => refuse
  | fuel + 1 => do
    let n ← name
    addColumn n (typeName (← typeTokens))
    columnRules ((← left) + 1)
    if ← sign? "," then
      if ← seesAny ruleWords then tableRules ((← left) + 1) else columnsFrom fuel

/-- What is said of a table as a whole. -/
def options : (fuel : Nat) → TableReading Unit
  | 0 => return ()
  | fuel + 1 => do
    if ← word? "WITHOUT" then
      let t ← nameToken
      require (t.unquoted.toLower = "rowid") (.unknownOption t.text)
      modify ({ · with isKeyed := true })
    else
      let t ← peek
      if !(t.isName || t.kind = .text) then return
      let t ← take
      require (t.unquoted.toLower = "strict") (.unknownOption t.text)
      modify ({ · with isStrict := true })
    if ← sign? "," then
      let t ← peek
      if !(t.isName || t.kind = .text) then refuse
      options fuel

/-- The types that a table with types knows. -/
def strictTypes : List (String × Affinity) :=
  [("any", .blob), ("blob", .blob), ("int", .integer), ("integer", .integer), ("real", .real),
    ("text", .text)]

/-- Let the columns of a table with types have them, and its keys values. -/
def fixTypes : TableReading Unit := do
  let t ← get
  for c in t.columns do
    if c.type = "" then return ← require false (.missingType t.name c.name)
    if (strictTypes.lookup c.type.toLower).isNone then
      return ← require false (.unknownType t.name c.name c.type)
  let fixed := t.columns.zipIdx.map fun (c, i) => { c with
    affinity := (strictTypes.lookup c.type.toLower).getD .blob
    required := if c.isInKey && t.numberColumn ≠ some i then some (c.required.getD .abort)
      else c.required }
  set { t with columns := fixed }

/-- Let the rows of a table go by its key. -/
def fixKey : TableReading Unit := do
  let t ← get
  if t.isCounted then return ← require false .countedKeyed
  if !t.hasKey then return ← require false (.missingKey t.name)
  let required := t.columns.map fun c =>
    if c.isInKey then { c with required := some (c.required.getD .abort) } else c
  set { t with columns := required, numberColumn := none }
  match t.numberColumn with
  | none => pure ()
  | some i =>
    let name := (t.columns.getD i default).name
    addUnique [⟨.name { column := name }, t.isNumberDescending, none⟩] t.numberResolution true

/-- The end of a definition. -/
def finish : TableReading Unit := do
  if (← get).isStrict then fixTypes
  if (← get).isKeyed then fixKey
  let t ← get
  require (t.columns.any (·.formula.isNone)) .onlyFormulas

/-- What stands behind the name of a table. -/
def body : TableReading Unit := do
  sign "("
  columnsFrom ((← left) + 1)
  sign ")"
  options ((← left) + 1)
  finish

end TableReading

/-! ## Beginnings -/

/-- What a statement makes. -/
inductive Making
  | table
  | index (isUnique : Bool)
  | view
  | trigger
  | virtual
  deriving DecidableEq, Repr, Inhabited

/-- The beginning of a statement that makes something: what it is, whether that may be there, and
the name of a database and of the thing. -/
structure Beginning where
  making : Making
  isOptional : Bool
  schema : Option String
  name : Token
  deriving Repr, Inhabited

namespace Reader

/-- The thing that a statement makes. -/
def making : Reader Making := do
  word "CREATE"
  if ← word? "UNIQUE" then
    word "INDEX"
    return .index true
  if ← word? "INDEX" then return .index false
  if ← word? "VIRTUAL" then
    word "TABLE"
    return .virtual
  if !(← word? "TEMP") then let _ ← word? "TEMPORARY"
  if ← word? "TABLE" then return .table
  if ← word? "VIEW" then return .view
  word "TRIGGER"
  return .trigger

/-- The beginning of a statement that makes something. -/
def beginning : Reader Beginning := do
  let making ← making
  let isOptional ← word? "IF"
  if isOptional then words ["NOT", "EXISTS"]
  let a ← nameToken
  if ← sign? "." then return ⟨making, isOptional, some a.unquoted, ← nameToken⟩
  return ⟨making, isOptional, none, a⟩

/-- The end of a statement. -/
def theEnd : Reader Unit := do
  let t ← peek
  if t.text ≠ "" && !t.isSign ";" then refuse
  match (← get).fault with
  | some e => throw e
  | none => return

/-- What a whole text says. -/
def whole {α : Type} (part : Reader α) (text : String) : Except SqlError α := do
  let reader : Reader α := do
    let a ← part
    theEnd
    return a
  return (← reader.run { tokens := Token.ofText text }).1

/-! ## Indexes and views -/

/-- What stands behind the name of an index. -/
def indexBody (name : String) (isUnique : Bool) : Reader IndexDefinition := do
  word "ON"
  let table ← Reader.name
  let terms ← bracketed (← grammar).sortTerms
  let filter ← if ← word? "WHERE" then some <$> formula else pure none
  return ⟨name, table, terms, isUnique, filter⟩

/-- What stands behind the name of a view. -/
def viewBody (name : String) : Reader ViewDefinition := do
  let columns ← if ← seesSign "(" then some <$> Grammar.markedNames else pure none
  word "AS"
  return ⟨name, columns, ← (← grammar).select⟩

/-! ## Changes -/

/-- The name of the table of a change in a trigger. -/
def changedTable : Reader String := do
  let a ← name
  if !(← sign? ".") then return a
  let b ← name
  note .qualifiedInTrigger
  return b

/-- An index that a change in a trigger asks for, which it must not. -/
def askedIndex : Reader Unit := do
  if ← word? "INDEXED" then
    word "BY"
    let _ ← name
    note (.indexInTrigger "INDEXED BY")
  else if ← word? "NOT" then
    word "INDEXED"
    note (.indexInTrigger "NOT INDEXED")

/-- New values of columns. -/
def assignments : Reader (List (List String × Expr)) := separated do
  let names ← if ← seesSign "(" then bracketed (separated name) else pure [← name]
  sign "="
  return (names, ← formula)

/-- A condition, if there is one. -/
def condition? : Reader (Option Expr) := do
  if ← word? "WHERE" then some <$> formula else return none

/-- What is done about new rows that clash with others. -/
def upserts : (fuel : Nat) → Reader (List Upsert)
  | 0 => return []
  | fuel + 1 => do
    if !(← word? "ON") then return []
    word "CONFLICT"
    let target ← if ← seesSign "(" then some <$> bracketed (← grammar).sortTerms else pure none
    let targetFilter ← if target.isSome then condition? else pure none
    word "DO"
    let this ←
      if ← word? "NOTHING" then pure ⟨target, targetFilter, none, none⟩
      else
        words ["UPDATE", "SET"]
        let changes ← assignments
        pure ⟨target, targetFilter, some changes, ← condition?⟩
    if target.isNone then return [this] else return this :: (← upserts fuel)

/-- How a change that is forbidden ends, if that is said. -/
def resolution? : Reader (Option Resolution) := do
  if ← word? "OR" then some <$> Grammar.resolution else return none

/-- New rows, behind the words that say so. -/
def insertBody (resolution : Option Resolution) : Reader Change := do
  word "INTO"
  let table ← changedTable
  let columns ← if ← seesSign "(" then some <$> bracketed (separated name) else pure none
  let rows ← (← grammar).select
  return .insert resolution table columns rows (← upserts ((← left) + 1))

/-- A change of the rows of a table, or a query. -/
def change : Reader Change := do
  if ← word? "INSERT" then return ← insertBody (← resolution?)
  if ← word? "REPLACE" then return ← insertBody (some .replace)
  if ← word? "UPDATE" then
    let resolution ← resolution?
    let table ← changedTable
    askedIndex
    word "SET"
    let changes ← assignments
    let sources ← if ← word? "FROM" then (← grammar).sourcesFrom ((← left) + 1) else pure []
    return .update resolution table changes sources (← condition?)
  if ← word? "DELETE" then
    word "FROM"
    let table ← changedTable
    askedIndex
    return .delete table (← condition?)
  return .select (← (← grammar).select)

/-! ## Triggers -/

/-- What stands behind the name of a trigger up to its body. -/
def triggerHead (name : String) : Reader TriggerDefinition := do
  let time ←
    if ← word? "BEFORE" then pure TriggerTime.before
    else if ← word? "AFTER" then pure .after
    else if ← word? "INSTEAD" then
      word "OF"
      pure .insteadOf
    else pure .before
  let event ←
    if ← word? "DELETE" then pure TriggerEvent.delete
    else if ← word? "INSERT" then pure .insert
    else
      word "UPDATE"
      if ← word? "OF" then TriggerEvent.update <$> (some <$> separated Reader.name)
      else pure (.update none)
  word "ON"
  let (_, table) ← Grammar.tableName
  modify ({ · with databases := [] })
  if ← word? "FOR" then words ["EACH", "ROW"]
  let condition ← if ← word? "WHEN" then some <$> formula else pure none
  return ⟨name, table, time, event, condition, []⟩

/-- The body of a trigger, behind the word that begins it. -/
def triggerBody : Reader (List Change) := do
  let step : Reader Change := do
    let c ← change
    sign ";"
    return c
  let first ← step
  let rest ← many do if ← sees "END" then return none else some <$> step
  word "END"
  return first :: rest

end Reader
end Sql
end FlowAtlas
