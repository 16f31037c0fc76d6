import FlowAtlas.Database.Text
import FlowAtlas.Text.Numeral

/-!
# Documents in values

A value may hold a document: numbers and texts in arrays and objects, as JSON or in an extended form
of it. A `Document` keeps numbers and texts as they are written there. `Document.text` writes a
document as JSON, and `Lettering.decoded` gives the text that one in a document stands for.
-/

set_option autoImplicit false

namespace FlowAtlas
namespace Sql

/-- Characters that stand for the bytes of a text. -/
abbrev Letters := List Char

/-- How a text is kept in a document. -/
inductive Spelling
  /-- As it is written, without escapes. -/
  | plain
  /-- As it is written, with escapes. -/
  | escaped
  /-- As it is written, with what only the extended form admits. -/
  | extended
  /-- As it is. What has to be escaped is escaped when it is written. -/
  | raw
  deriving DecidableEq, Repr, Inhabited

/-- A text in a document. -/
structure Lettering where
  spelling : Spelling
  letters : Letters
  deriving DecidableEq, Repr, Inhabited

/-- A document. -/
inductive Document
  | null
  | truth (b : Bool)
  /-- A number as it is written, which may take the extended form. -/
  | number (isReal isExtended : Bool) (letters : Letters)
  | text (t : Lettering)
  | array (items : List Document)
  | object (members : List (Lettering × Document))
  deriving Repr, Inhabited

/-! ## Texts in documents -/

namespace Lettering

/-- The letters of a number in UTF-8. -/
def ofCode (n : Nat) : Letters := (Database.Encoding.utf8Bytes n).map fun b => Char.ofNat b.toNat

/-- The number that digits of base sixteen write. -/
def code (digits : Letters) : Nat :=
  digits.foldl (fun n c => 16 * n + (Numeral.hexDigit? c).getD 0) 0

/-- The character that an escape of one letter stands for. -/
def escapes : List (Char × Nat) :=
  [('b', 8), ('f', 12), ('n', 10), ('r', 13), ('t', 9), ('v', 11), ('0', 0), ('\'', 39), ('"', 34),
    ('/', 47), ('\\', 92)]

/-- What an escaped end of a line stands for, where some letters follow: nothing, unless it is the
last. -/
def lineEnd (rest : Letters) : Letters × Letters := (if rest.isEmpty then ['\x00'] else [], rest)

/-- The letters of a character that is told by its number, of which half may follow. -/
def ofHalf (n : Nat) (rest : Letters) : Letters × Letters :=
  match rest with
  | '\\' :: 'u' :: a :: b :: c :: d :: behind =>
    let m := code [a, b, c, d]
    if n / 1024 = 54 && m / 1024 = 55 then
      (ofCode (0x10000 + n % 1024 * 1024 + m % 1024), behind)
    else (ofCode n, rest)
  | _ => (ofCode n, rest)

/-- What an escape stands for, whose letters stand behind the mark for it, and what follows. -/
def escape : Letters → Letters × Letters
  | 'u' :: a :: b :: c :: d :: rest => ofHalf (code [a, b, c, d]) rest
  | 'x' :: a :: b :: rest => (ofCode (code [a, b]), rest)
  | '\r' :: '\n' :: rest | '\r' :: rest | '\n' :: rest | '\xe2' :: _ :: _ :: rest => lineEnd rest
  | c :: rest => (((escapes.lookup c).map ofCode).getD [], rest)
  | [] => ([], [])

/-- Letters without escapes, at most so many of which are looked at. -/
def unescaped : (fuel : Nat) → Letters → Letters
  | 0, _ | _, [] => []
  | fuel + 1, c :: rest =>
    if c = '\\' then
      let (meant, rest) := escape rest
      meant ++ unescaped fuel rest
    else c :: unescaped fuel rest

/-- Whether a text has no escapes. -/
def isPlain (t : Lettering) : Bool := t.spelling = .plain || t.spelling = .raw

/-- The text that one in a document stands for. -/
def decoded (t : Lettering) : Letters :=
  if t.isPlain then t.letters else unescaped t.letters.length t.letters

/-- Whether two texts in documents stand for the same one. Where there are escapes, what follows a
letter that is zero does not count. -/
def isSame (t u : Lettering) : Bool :=
  if t.isPlain && u.isPlain then t.letters = u.letters
  else t.decoded.takeWhile (· ≠ '\x00') = u.decoded.takeWhile (· ≠ '\x00')

/-- The escapes of letters that have one of their own. -/
def ownEscapes : List (Nat × Char) := [(8, 'b'), (9, 't'), (10, 'n'), (12, 'f'), (13, 'r')]

/-- A letter as it is written in JSON. -/
def written (c : Char) : Letters :=
  if c = '"' || c = '\\' then ['\\', c]
  else if 32 ≤ c.toNat then [c]
  else
    match ownEscapes.lookup c.toNat with
    | some d => ['\\', d]
    | none =>
      ['\\', 'u', '0', '0', Nat.digitChar (c.toNat / 16), Nat.digitChar (c.toNat % 16)]

/-- Letters with what only the extended form admits as they are written in JSON. -/
def respelled : Letters → Letters
  | [] => []
  | '\\' :: '\'' :: rest => '\'' :: respelled rest
  | '\\' :: 'v' :: rest => "\\u0009".toList ++ respelled rest
  | '\\' :: 'x' :: rest => "\\u00".toList ++ respelled rest
  | '\\' :: '0' :: rest => "\\u0000".toList ++ respelled rest
  | '\\' :: '\r' :: '\n' :: rest | '\\' :: '\r' :: rest | '\\' :: '\n' :: rest => respelled rest
  | '\\' :: '\xe2' :: _ :: _ :: rest => respelled rest
  | '\\' :: c :: rest => '\\' :: c :: respelled rest
  | c :: rest => written c ++ respelled rest

/-- Letters between quotation marks. -/
def quoted (letters : Letters) : Letters := '"' :: (letters ++ ['"'])

/-- The text as it is written in JSON. -/
def text (t : Lettering) : Letters :=
  match t.spelling with
  | .plain | .escaped => quoted t.letters
  | .extended => quoted (respelled t.letters)
  | .raw => quoted (t.letters.flatMap written)

end Lettering

namespace Document

/-! ## Numbers in documents -/

/-- A whole number of base sixteen in base ten. -/
def decimalText (letters : Letters) : Letters :=
  let (sign, digits) := match letters with
    | '-' :: rest => (['-'], rest)
    | '+' :: rest => ([], rest)
    | cs => ([], cs)
  let n := Lettering.code (digits.drop 2)
  sign ++ if n < Nat.pow 2 64 then Nat.toDigits 10 n else "9.0e999".toList

/-- A number with a digit behind each point. -/
def withFractions : Letters → Letters
  | [] => []
  | c :: rest =>
    if c = '.' && !rest.head?.any Char.isDigit then c :: '0' :: withFractions rest
    else c :: withFractions rest

/-- A number with digits on both sides of its point. -/
def pointedText (letters : Letters) : Letters :=
  let lead := fun cs : Letters =>
    if cs.head? = some '.' then '0' :: withFractions cs else withFractions cs
  match letters with
  | '-' :: rest => '-' :: lead rest
  | cs => lead cs

/-- A number as it is written in JSON. -/
def numberText (isReal isExtended : Bool) (letters : Letters) : Letters :=
  if !isExtended then letters else if isReal then pointedText letters else decimalText letters

/-- The number that is larger than all others. -/
def infinity (isNegative : Bool) : Document :=
  number true false ((if isNegative then "-9e999" else "9e999").toList)

/-! ## Writing -/

/-- A document without parts in JSON. -/
def wordOf : Document → Letters
  | null => "null".toList
  | truth b => (if b then "true" else "false").toList
  | number isReal isExtended letters => numberText isReal isExtended letters
  | text t => t.text
  | array _ | object _ => []

mutual

/-- The document in JSON before some letters. -/
def renderBefore (d : Document) (after : Letters) : Letters :=
  match d with
  | array items => '[' :: renderItems items (']' :: after)
  | object members => '\x7b' :: renderMembers members ('\x7d' :: after)
  | d => d.wordOf ++ after

/-- The items of an array in JSON before some letters. -/
def renderItems (items : List Document) (after : Letters) : Letters :=
  match items with
  | [] => after
  | [d] => d.renderBefore after
  | d :: ds => d.renderBefore (',' :: renderItems ds after)

/-- The members of an object in JSON before some letters. -/
def renderMembers (members : List (Lettering × Document)) (after : Letters) : Letters :=
  match members with
  | [] => after
  | [(t, d)] => t.text ++ ':' :: d.renderBefore after
  | (t, d) :: rest => t.text ++ ':' :: d.renderBefore (',' :: renderMembers rest after)

end

/-- The document in JSON. -/
def render (d : Document) : Letters := d.renderBefore []

/-- The start of a line that is so far in. -/
def indented (step : Letters) (depth : Nat) : Letters := (List.replicate depth step).flatten

mutual

/-- The document in JSON, each part on a line of its own, where lines begin further in by a step. -/
def pretty (step : Letters) (depth : Nat) : Document → Letters
  | array [] => ['[', ']']
  | object [] => ['\x7b', '\x7d']
  | array items =>
    '[' :: '\n' :: (prettyItems step (depth + 1) items ++ '\n' :: (indented step depth ++ [']']))
  | object members =>
    '\x7b' :: '\n' ::
      (prettyMembers step (depth + 1) members ++ '\n' :: (indented step depth ++ ['\x7d']))
  | d => d.wordOf

/-- The items of an array on lines of their own. -/
def prettyItems (step : Letters) (depth : Nat) : List Document → Letters
  | [] => []
  | [d] => indented step depth ++ pretty step depth d
  | d :: ds => indented step depth ++ pretty step depth d ++ ',' :: '\n' :: prettyItems step depth ds

/-- The members of an object on lines of their own. -/
def prettyMembers (step : Letters) (depth : Nat) : List (Lettering × Document) → Letters
  | [] => []
  | [(t, d)] => indented step depth ++ t.text ++ ':' :: ' ' :: pretty step depth d
  | (t, d) :: rest =>
    indented step depth ++ t.text ++ ':' :: ' ' :: (pretty step depth d ++
      ',' :: '\n' :: prettyMembers step depth rest)

end

/-- The name of the type of a document. -/
def typeName : Document → String
  | null => "null"
  | truth b => if b then "true" else "false"
  | number isReal _ _ => if isReal then "real" else "integer"
  | text _ => "text"
  | array _ => "array"
  | object _ => "object"

/-- Whether a document has parts. -/
def isContainer : Document → Bool
  | array _ | object _ => true
  | _ => false

end Document
end Sql
end FlowAtlas
