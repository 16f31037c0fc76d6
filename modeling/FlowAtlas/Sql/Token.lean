/-!
# Words of statements

The list of tables in a database keeps the statement that made each thing. `Token.ofText` splits
such a statement into tokens: words, names and texts in quotation marks, numbers and signs. Each
token keeps its spelling, what stands before it and its place, so that a message can quote it.
-/

set_option autoImplicit false

namespace FlowAtlas
namespace Sql

/-! ## Tokens -/

/-- The kind of a token. -/
inductive TokenKind
  /-- A name or keyword without quotation marks. -/
  | word
  /-- A name in quotation marks. -/
  | name
  | text
  | integer
  | real
  | blob
  /-- The place of a value that is given later. -/
  | parameter
  | sign
  /-- Blanks or a comment. -/
  | blank
  /-- What is no token. -/
  | broken
  deriving DecidableEq, Repr, Inhabited

/-- A piece of a statement. -/
structure Token where
  kind : TokenKind
  /-- The token as it is written. -/
  text : String
  /-- The blanks before it. -/
  before : String := ""
  /-- How many bytes of the statement stand before it. -/
  place : Nat := 0
  deriving DecidableEq, Repr, Inhabited

namespace Token

/-! ## Characters -/

/-- Whether a character may stand in a word. -/
def isInWord (c : Char) : Bool := c.isAlphanum || c = '_' || c = '$' || 0x80 ≤ c.toNat

/-- Whether a character may stand at the start of a word. -/
def isStart (c : Char) : Bool := isInWord c && !c.isDigit && c ≠ '$'

/-- Whether a character stands between tokens. -/
def isBlank (c : Char) : Bool := c = ' ' || c = '\t' || c = '\n' || c = '\x0c' || c = '\r'

/-- Whether a character is a digit of base sixteen. -/
def isHexDigit (c : Char) : Bool := c.isDigit || ('a' ≤ c && c ≤ 'f') || ('A' ≤ c && c ≤ 'F')

/-- How many characters at the start are of a sort. -/
def run (isIn : Char → Bool) (cs : List Char) : Nat := (cs.takeWhile isIn).length

/-! ## Quotation marks -/

/-- The characters behind an opening mark up to the closing one, where a doubled mark stands for
itself, if there is a closing one. -/
def quoted? (mark : Char) : List Char → Option (List Char)
  | c :: d :: rest =>
    if c ≠ mark then (quoted? mark (d :: rest)).map (c :: ·)
    else if d = mark then (quoted? mark rest).map (c :: ·)
    else some []
  | [c] => if c = mark then some [] else none
  | [] => none

/-- How many characters a quotation takes, with both marks, if there is a closing mark. -/
def quotation? (mark : Char) (cs : List Char) : Option Nat :=
  (quoted? mark cs).map fun inside => inside.length + (inside.filter (· = mark)).length + 2

/-- A quotation of a kind, or what is left if it does not end. -/
def scanQuotation (kind : TokenKind) (mark : Char) (rest : List Char) : TokenKind × Nat :=
  match quotation? mark rest with
  | some n => (kind, n)
  | none => (.broken, rest.length + 1)

/-! ## Numbers -/

/-- Digits may be set apart by single low lines. -/
def isDigitOrLine (c : Char) : Bool := c.isDigit || c = '_'

/-- Whether each low line stands between two digits, where the character before may be one. -/
def isLineSound (isDigit : Char → Bool) : (isBehindDigit : Bool) → List Char → Bool
  | _, [] => true
  | isBehindDigit, c :: rest =>
    (c ≠ '_' || isBehindDigit && rest.head?.any isDigit) && isLineSound isDigit (isDigit c) rest

/-- How many characters the exponent at the start takes. -/
def exponentSize : List Char → Nat
  | e :: c :: rest =>
    if e ≠ 'e' && e ≠ 'E' then 0
    else if c.isDigit then 2 + run isDigitOrLine rest
    else if (c = '+' || c = '-') && rest.head?.any Char.isDigit then 2 + run isDigitOrLine rest
    else 0
  | _ => 0

/-- A number at the start. -/
def scanNumber (cs : List Char) : TokenKind × Nat :=
  let isHex := match cs with
    | '0' :: x :: d :: _ => (x = 'x' || x = 'X') && isHexDigit d
    | _ => false
  let whole := if isHex then 2 + run (fun c => isHexDigit c || c = '_') (cs.drop 2)
    else run isDigitOrLine cs
  let fraction := match cs.drop whole with
    | '.' :: rest => if isHex then 0 else 1 + run isDigitOrLine rest
    | _ => 0
  let size := whole + fraction
  let size := size + if isHex then 0 else exponentSize (cs.drop size)
  let isWhole := size = whole
  let tail := run isInWord (cs.drop size)
  let isSound := isLineSound (if isHex then isHexDigit else Char.isDigit) false (cs.take size)
  if 0 < tail || !isSound then (.broken, size + tail)
  else (if isWhole then .integer else .real, size)

/-! ## Signs -/

/-- The signs of more than one character. -/
def longSigns : List String := ["->>", "->", "==", "<=", "<>", "<<", ">=", ">>", "!=", "||"]

/-- The signs of one character. -/
def shortSigns : List Char :=
  ['-', '(', ')', ';', '+', '*', '/', '%', '=', '<', '>', '|', ',', '&', '~', '.']

/-- How many characters a comment takes that begins behind a slash and a star. -/
def commentSize : List Char → Nat
  | '*' :: '/' :: _ => 2
  | _ :: rest => commentSize rest + 1
  | [] => 0

/-- A sign at the start. -/
def scanSign (cs : List Char) : TokenKind × Nat :=
  match longSigns.find? fun s => s.toList.isPrefixOf cs with
  | some s => (.sign, s.length)
  | none => if cs.head?.any shortSigns.contains then (.sign, 1) else (.broken, 1)

/-! ## Splitting -/

/-- A value that is given later, behind its mark. -/
def scanParameter (rest : List Char) : TokenKind × Nat :=
  let n := run isInWord rest
  (if n = 0 then .broken else .parameter, n + 1)

/-- A word, or bytes in base sixteen behind the letter x. -/
def scanWord (c : Char) (rest : List Char) : TokenKind × Nat :=
  match c, rest with
  | 'x', '\'' :: rest | 'X', '\'' :: rest =>
    let n := run isHexDigit rest
    if n % 2 = 0 && (rest.drop n).head? = some '\'' then (.blob, n + 3)
    else
      let n := run (· ≠ '\'') rest
      (.broken, min (n + 3) (rest.length + 2))
  | _, _ => (.word, 1 + run isInWord rest)

/-- The token at the start, and how many characters it takes. -/
def scan (c : Char) (rest : List Char) : TokenKind × Nat :=
  if isBlank c || c = '\ufeff' then (.blank, 1)
  else if isStart c then scanWord c rest
  else if c.isDigit then scanNumber (c :: rest)
  else
    match c, rest with
    | '-', '-' :: rest => (.blank, 2 + run (· ≠ '\n') rest)
    | '/', '*' :: d :: rest => (.blank, 2 + commentSize (d :: rest))
    | '\'', rest => scanQuotation .text '\'' rest
    | '"', rest => scanQuotation .name '"' rest
    | '\x60', rest => scanQuotation .name '\x60' rest
    | '[', rest =>
      let n := run (· ≠ ']') rest
      if n = rest.length then (.broken, n + 1) else (.name, n + 2)
    | '?', rest => (.parameter, 1 + run Char.isDigit rest)
    | '$', rest | '@', rest | ':', rest | '#', rest => scanParameter rest
    | '.', d :: rest => if d.isDigit then scanNumber (c :: d :: rest) else (.sign, 1)
    | c, rest => scanSign (c :: rest)

/-- The tokens of a statement, where some blanks stand before a place that was reached. -/
def split : (fuel : Nat) → (before : String) → (place : Nat) → List Char → List Token
  | 0, _, _, _ | _, _, _, [] => []
  | fuel + 1, before, place, c :: rest =>
    let (kind, n) := scan c rest
    let text := String.ofList ((c :: rest).take n)
    let next := place + text.utf8ByteSize
    let rest := rest.drop (n - 1)
    if kind = .blank then split fuel (before ++ text) next rest
    else ⟨kind, text, before, place⟩ :: split fuel "" next rest

/-- The tokens of a statement. -/
def ofText (s : String) : List Token := split s.length "" 0 s.toList

/-! ## Reading tokens -/

/-- The token as a word in capital letters, if it is one. -/
def keyword (t : Token) : String := if t.kind = .word then t.text.toUpper else ""

/-- Whether the token is a sign. -/
def isSign (t : Token) (s : String) : Bool := t.kind = .sign && t.text = s

/-- A token without its quotation marks. -/
def unquoted (t : Token) : String :=
  match t.text.toList with
  | '[' :: rest => String.ofList rest.dropLast
  | c :: rest =>
    if c = '\'' || c = '"' || c = '\x60' then String.ofList ((quoted? c rest).getD rest) else t.text
  | [] => ""

/-- The text of tokens, without the blanks before the first one. -/
def spelling : List Token → String
  | [] => ""
  | t :: rest => t.text ++ String.join (rest.map fun u => u.before ++ u.text)

/-- Whether a character opens a quotation. -/
def opensQuotation (c : Char) : Bool := c = '\'' || c = '"' || c = '\x60' || c = '['

/-- The quotation that a text begins with, without its marks, or all of the text. -/
def firstQuotation : List Char → List Char
  | '[' :: rest => (quoted? ']' rest).getD rest
  | c :: rest => if opensQuotation c then (quoted? c rest).getD rest else c :: rest
  | [] => []

/-- The name of the type that some tokens spell, which is one of numbers if they spell none. -/
def castType (tokens : List Token) : String :=
  let cs := firstQuotation (spelling tokens).toList
  if cs.isEmpty then "numeric" else String.ofList cs

/-- The name of the type of a column that some tokens spell. Marks are no part of it, whatever the
second one is. -/
def columnType (tokens : List Token) : String :=
  let cs := (spelling tokens).toList
  let inside := cs.tail.dropLast
  let isQuoted := 2 < cs.length && cs.head?.any opensQuotation && !inside.any opensQuotation
  String.ofList (firstQuotation (if isQuoted then inside else cs))

/-! ## Keywords -/

/-- Words that are no names unless they stand in quotation marks. -/
def reserved : List String :=
  ["ADD", "ALL", "ALTER", "AND", "AS", "AUTOINCREMENT", "BETWEEN", "CASE", "CHECK", "COLLATE",
    "COMMIT", "CONSTRAINT", "CREATE", "DEFAULT", "DEFERRABLE", "DELETE", "DISTINCT", "DROP", "ELSE",
    "ESCAPE", "EXCEPT", "EXISTS", "FOREIGN", "FROM", "GROUP", "HAVING", "IN", "INDEX", "INSERT",
    "INTERSECT", "INTO", "IS", "ISNULL", "JOIN", "LIMIT", "NOT", "NOTHING", "NOTNULL", "NULL", "ON",
    "OR", "ORDER", "PRIMARY", "REFERENCES", "RETURNING", "SELECT", "SET", "TABLE", "THEN", "TO",
    "TRANSACTION", "UNION", "UNIQUE", "UPDATE", "USING", "VALUES", "WHEN", "WHERE"]

/-- Words that tell how tables are joined. They are names in some places only. -/
def joining : List String := ["CROSS", "FULL", "INNER", "LEFT", "NATURAL", "OUTER", "RIGHT"]

/-- Whether the token can be a name where words that tell of joins are none. -/
def isPlainName (t : Token) : Bool :=
  match t.kind with
  | .word =>
    !reserved.contains t.keyword && !joining.contains t.keyword && t.keyword ≠ "INDEXED"
  | .name => true
  | _ => false

/-- Whether the token can be a name. -/
def isName (t : Token) : Bool :=
  match t.kind with
  | .word => !reserved.contains t.keyword
  | .name => true
  | _ => false

end Token
end Sql
end FlowAtlas
