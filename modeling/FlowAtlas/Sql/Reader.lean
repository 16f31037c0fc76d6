import FlowAtlas.Sql.Error
import FlowAtlas.Sql.Token

/-!
# Reading statements

A `Reader` takes tokens one after another. The first token that cannot go on is the one that a
failure names. What makes no sense for another reason is only noted, since it is noticed when the
next token is at hand: if that one cannot go on either, it is the one that counts.
-/

set_option autoImplicit false

namespace FlowAtlas
namespace Sql

/-- What is left to read, what made no sense, and the databases that tables were named in. -/
structure ReaderState where
  tokens : List Token
  fault : Option SqlError := none
  databases : List String := []
  deriving Repr, Inhabited

/-- A part of the grammar. -/
abbrev Reader := StateT ReaderState (Except SqlError)

namespace Reader

/-! ## Tokens -/

/-- What stands behind the last token: the end of the statement, without letters. -/
def stop : Token := { kind := .sign, text := "" }

/-- The next token. -/
def peek : Reader Token := do
  let t := (← get).tokens.headD stop
  if t.kind = .broken then throw (.unrecognized t.text)
  return t

/-- The token behind the next one. -/
def peekSecond : Reader Token := return ((← get).tokens.drop 1).headD stop

/-- Take the next token. What was noted before counts now. -/
def take : Reader Token := do
  let t ← peek
  match (← get).fault with
  | some e => throw e
  | none =>
    modify fun s => { s with tokens := s.tokens.drop 1 }
    return t

/-- Refuse the next token. -/
def refuse {α : Type} : Reader α := do
  let t ← peek
  throw (if t.text = "" then .incomplete else .near t.text)

/-- Note what makes no sense. -/
def note (e : SqlError) : Reader Unit := modify fun s => { s with fault := some e }

/-- Note what makes no sense unless a condition holds. -/
def require (condition : Bool) (e : SqlError) : Reader Unit := if condition then pure () else note e

/-! ## Words and signs -/

/-- Whether the next token is a keyword. -/
def sees (word : String) : Reader Bool := return (← peek).keyword = word

/-- Whether the next token is one of some keywords. -/
def seesAny (words : List String) : Reader Bool := return words.contains (← peek).keyword

/-- Whether the next token is a sign. -/
def seesSign (s : String) : Reader Bool := return (← peek).isSign s

/-- Take a keyword, if it comes next. -/
def word? (word : String) : Reader Bool := do
  let isNext ← sees word
  if isNext then let _ ← take
  return isNext

/-- Take a keyword, if it comes next and may do so. -/
def wordIf (mayCome : Bool) (expected : String) : Reader Bool :=
  if mayCome then word? expected else return false

/-- Take a sign, if it comes next. -/
def sign? (s : String) : Reader Bool := do
  let isNext ← seesSign s
  if isNext then let _ ← take
  return isNext

/-- Take a keyword, which must come next. -/
def word (word : String) : Reader Unit := do if !(← word? word) then refuse

/-- Take keywords, which must come next. -/
def words (expected : List String) : Reader Unit := expected.forM word

/-- Take a sign, which must come next. -/
def sign (s : String) : Reader Unit := do if !(← sign? s) then refuse

/-- A token that is a name or a text. -/
def nameToken : Reader Token := do
  let t ← peek
  if t.isName || t.kind = .text then take else refuse

/-- A name. -/
def name : Reader String := return (← nameToken).unquoted

/-- Whether a name comes next where words that tell of joins are none. -/
def seesPlainName : Reader Bool := do
  let t ← peek
  return t.isPlainName || t.kind = .text

/-- A name where words that tell of joins are none. -/
def plainName : Reader String := do if ← seesPlainName then name else refuse

/-! ## Lists -/

/-- How many tokens are left. -/
def left : Reader Nat := return (← get).tokens.length

/-- Parts between commas, at most so many. -/
def separatedFrom {α : Type} (part : Reader α) : (fuel : Nat) → Reader (List α)
  | 0 => refuse
  | fuel + 1 => do
    let a ← part
    if ← sign? "," then return a :: (← separatedFrom part fuel) else return [a]

/-- Parts between commas. -/
def separated {α : Type} (part : Reader α) : Reader (List α) := do
  separatedFrom part ((← left) + 1)

/-- Parts as long as one comes next, at most so many. -/
def manyFrom {α : Type} (part : Reader (Option α)) : (fuel : Nat) → Reader (List α)
  | 0 => return []
  | fuel + 1 => do
    match ← part with
    | none => return []
    | some a => return a :: (← manyFrom part fuel)

/-- Parts as long as one comes next. -/
def many {α : Type} (part : Reader (Option α)) : Reader (List α) := do
  manyFrom part ((← left) + 1)

/-- What stands between brackets. -/
def bracketed {α : Type} (part : Reader α) : Reader α := do
  sign "("
  let a ← part
  sign ")"
  return a

/-- A part together with the tokens that it takes. -/
def spelled {α : Type} (part : Reader α) : Reader (α × List Token) := do
  let before := (← get).tokens
  let a ← part
  return (a, before.take (before.length - (← left)))

end Reader
end Sql
end FlowAtlas
