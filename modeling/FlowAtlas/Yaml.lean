import FlowAtlas.Json.Token

/-!
# YAML text

`Json.yaml` writes a document in the block form of YAML: one line for each value, and indentation
in place of brackets. Most texts are written plainly, as they are. `Yaml.style` tells which must be
quoted: those that would read back as something else than a text, and those whose characters YAML
reserves or cannot show.
-/

set_option autoImplicit false

namespace FlowAtlas
namespace Yaml

/-! ## Texts that look like other values -/

/-- Texts that stand for nothing, for a truth value, or for a number without digits. -/
def reserved : List String :=
  ["", "~", "null", "Null", "NULL", "true", "True", "TRUE", "false", "False", "FALSE",
    ".inf", ".Inf", ".INF", "+.inf", "+.Inf", "+.INF", "-.inf", "-.Inf", "-.INF",
    ".nan", ".NaN", ".NAN"]

/-- A text without one sign at its head, and whether that sign is a minus. -/
def splitSign : List Char → Bool × List Char
  | '+' :: rest => (false, rest)
  | '-' :: rest => (true, rest)
  | rest => (false, rest)

/-- The number that a text writes behind `0x`, `0o` or `0b`. -/
def based? : List Char → Option Nat
  | '0' :: 'x' :: rest => Numeral.ofHex? rest
  | '0' :: 'o' :: rest => Numeral.ofDigits? 8 (fun c => (Numeral.decimalDigit? c).filter (· < 8)) rest
  | '0' :: 'b' :: rest => Numeral.ofDigits? 2 (fun c => (Numeral.decimalDigit? c).filter (· < 2)) rest
  | _ => none

/-- Whether a text writes a number of 128 bits in base two, eight or sixteen. -/
def isBasedNumber (s : List Char) : Bool :=
  let (isNegative, digits) := splitSign s
  match based? digits with
  | some n => if isNegative then n ≤ Nat.pow 2 127 else n < Nat.pow 2 128
  | none => false

/-- The exponent at the end of a number. -/
def exponent? : List Char → Option Int
  | [] => some 0
  | mark :: rest =>
    if mark = 'e' ∨ mark = 'E' then
      let (isNegative, digits) := splitSign rest
      (Numeral.ofDecimal? digits).map fun n => if isNegative then -(n : Int) else n
    else none

/-- The unsigned number `m * 10 ^ e` that a text writes in base ten, as `m` and `e`. -/
def decimal? (s : List Char) : Option (Nat × Int) := do
  let whole := s.takeWhile Char.isDigit
  let rest := s.dropWhile Char.isDigit
  let (fraction, rest) :=
    match rest with
    | '.' :: rest => (rest.takeWhile Char.isDigit, rest.dropWhile Char.isDigit)
    | rest => ([], rest)
  let m ← Numeral.ofDecimal? (whole ++ fraction)
  return (m, (← exponent? rest) - fraction.length)

/-- Whether `m * 10 ^ e` rounds to a number in double precision and not to infinity. -/
def isFinite (m : Nat) (e : Int) : Bool :=
  let digits : Int := (Nat.toDigits 10 m).length
  if m = 0 ∨ digits + e < 300 then true
  else if 320 < digits + e then false
  else if 0 ≤ e then m * Nat.pow 10 e.toNat < Nat.pow 2 1024 - Nat.pow 2 970
  else m < (Nat.pow 2 1024 - Nat.pow 2 970) * Nat.pow 10 (-e).toNat

/-- Whether a text writes a number in base ten. -/
def isDecimalNumber (s : List Char) : Bool :=
  match decimal? (splitSign s).2 with
  | some (m, e) => isFinite m e
  | none => false

/-- Whether a text is a run of digits behind a needless zero. -/
def isPaddedRun (s : List Char) : Bool :=
  match (splitSign s).2 with
  | '0' :: c :: rest => (c :: rest).all Char.isDigit
  | _ => false

/-- Whether a text would read back as another value than itself. -/
def looksForeign (s : List Char) : Bool :=
  reserved.contains (String.ofList s) || isBasedNumber s || isDecimalNumber s || isPaddedRun s

/-! ## Characters -/

/-- The characters that end a line. -/
def isBreak (c : Char) : Bool :=
  c == '\n' || c == '\r' || c == '\u0085' || c == '\u2028' || c == '\u2029'

/-- The characters that can stand in a text as they are. -/
def isPrintable (c : Char) : Bool :=
  c == '\n' || (' ' ≤ c && c ≤ '~') ||
    ('\u00a0' ≤ c && c != '\ufeff' && c != '\ufffe' && c != '\uffff')

/-- Whether a character, or the end of the text, sets words apart. -/
def isGap : Option Char → Bool
  | none => true
  | some c => c == ' ' || c == '\t' || c == '\x00' || isBreak c

/-- The characters that mean something at the head of a text. -/
def isLeadMark (c : Char) : Bool := "#,[]\x7b\x7d&*!|>'\"%@\u0060".toList.contains c

/-- The pairs of neighbours in a text, with `none` in front of it and behind it. -/
def neighbours (s : List Char) : List (Option Char × Option Char) :=
  (none :: s.map some).zip (s.map some ++ [none])

/-- Whether some pair of neighbours has a property. -/
def hasPair (s : List Char) (p : Option Char → Option Char → Bool) : Bool :=
  (neighbours s).any fun (a, b) => p a b

/-- Whether a text holds a mark where it would mean something. -/
def hasMark (s : List Char) : Bool :=
  "---".toList.isPrefixOf s || "...".toList.isPrefixOf s || s.head?.any isLeadMark ||
    ((s.head? == some '?' || s.head? == some '-') && isGap s[1]?) ||
    hasPair s (fun a b => a == some ':' && isGap b) ||
    hasPair s (fun a b => isGap a && b == some '#')

/-- Whether a text starts or ends with a blank or a line end. -/
def hasOuterGap (s : List Char) : Bool :=
  let outer := fun c => c == ' ' || isBreak c
  s.head?.any outer || s.getLast?.any outer

/-! ## Styles -/

/-- The ways to write a text. -/
inductive Style
  /-- As it is. -/
  | plain
  /-- Between single quotes, with single quotes doubled. -/
  | single
  /-- Between double quotes, with escapes. -/
  | double
  /-- On lines of its own. -/
  | literal
  deriving DecidableEq, Repr

/-- The way to write a text. -/
def style (s : List Char) : Style :=
  let isSpecial := s.any (!isPrintable ·) ||
    hasPair s fun a b => a == some ' ' && b.any isBreak
  let breakThenSpace := hasPair s fun a b => a.any isBreak && b == some ' '
  if isSpecial then .double
  else if s.contains '\n' then
    if s.getLast? == some ' ' then .double else .literal
  else if breakThenSpace then .double
  else if looksForeign s || hasMark s || hasOuterGap s || s.any isBreak then .single
  else .plain

/-- Blanks at the head of a line. -/
def indent (depth : Nat) : List Char := List.replicate depth ' '

/-- The text between single quotes, with single quotes doubled. Each line that is not empty starts
with the indentation, and so does the closing quote. -/
def quotedLines (depth : Nat) : (atStart : Bool) → List Char → List Char
  | atStart, [] => if atStart then indent depth else []
  | atStart, c :: rest =>
    if isBreak c then c :: quotedLines depth true rest
    else (if atStart then indent depth else []) ++
      (if c = '\'' then ['\'', '\''] else [c]) ++ quotedLines depth false rest

/-- A text between single quotes. -/
def quoteSingle (depth : Nat) (s : List Char) : List Char :=
  '\'' :: quotedLines depth false s ++ ['\'']

/-- Digits of `n` in base sixteen, in upper case. -/
def hexDigits : (width : Nat) → (n : Nat) → List Char
  | 0, _ => []
  | width + 1, n => hexDigits width (n / 16) ++ [(Nat.digitChar (n % 16)).toUpper]

/-- A character between double quotes. -/
def escape (c : Char) : List Char :=
  if c = '"' ∨ c = '\\' then ['\\', c]
  else if isPrintable c && !isBreak c then [c]
  else match [('\x00', '0'), ('\x07', 'a'), ('\x08', 'b'), ('\t', 't'), ('\n', 'n'), ('\x0b', 'v'),
      ('\x0c', 'f'), ('\r', 'r'), ('\x1b', 'e'), ('\u0085', 'N'), ('\u2028', 'L'),
      ('\u2029', 'P')].lookup c with
    | some letter => ['\\', letter]
    | none =>
      if c.toNat < 0x100 then '\\' :: 'x' :: hexDigits 2 c.toNat
      else '\\' :: 'u' :: hexDigits 4 c.toNat

/-- What stands behind the bar of a literal text: whether its first line starts with a blank, and
how many line ends close it. -/
def literalHints (s : List Char) : List Char :=
  let lead := if s.head?.any (fun c => c == ' ' || isBreak c) then ['2'] else []
  let breaks := (s.reverse.takeWhile isBreak).length
  let close := if breaks = 0 then ['-'] else if breaks = 1 && 1 < s.length then [] else ['+']
  lead ++ close

/-- The lines of a literal text, each that is not empty at the given depth. -/
def literalLines (depth : Nat) : (atStart : Bool) → List Char → List Char
  | atStart, [] => if atStart then [] else ['\n']
  | atStart, c :: rest =>
    if isBreak c then c :: literalLines depth true rest
    else (if atStart then indent depth else []) ++ c :: literalLines depth false rest

/-- A text in a given place, with the end of its line. -/
def scalar (depth : Nat) (s : List Char) : List Char :=
  match style s with
  | .plain => s ++ ['\n']
  | .single => quoteSingle depth s ++ ['\n']
  | .double => '"' :: s.flatMap escape ++ ['"', '\n']
  | .literal => '|' :: literalHints s ++ '\n' :: literalLines depth true s

end Yaml

/-! ## Documents -/

namespace Json

mutual

/-- A value behind the mark of a list item, and the rest of its lines. What continues it stands two
places to the right of the mark. -/
def yamlItem (depth : Nat) : Json → List Char
  | object [] => ['\x7b', '\x7d', '\n']
  | object ((k, v) :: members) =>
    k.flatMap Option.toList ++ ':' :: yamlValue (depth + 2) v ++ yamlMembers (depth + 2) members
  | array [] => ['[', ']', '\n']
  | array (v :: items) => '-' :: ' ' :: yamlItem (depth + 2) v ++ yamlItems (depth + 2) items
  | string t => Yaml.scalar (depth + 2) (t.flatMap Option.toList)
  | null => "null\n".toList
  | bool b => Token.text (.bool b) ++ ['\n']
  | integer n => Token.integerText n ++ ['\n']
  | real lexeme => lexeme ++ ['\n']

/-- The items of a list, each on a line of its own. -/
def yamlItems (depth : Nat) : List Json → List Char
  | [] => []
  | v :: items => Yaml.indent depth ++ '-' :: ' ' :: yamlItem depth v ++ yamlItems depth items

/-- A value behind a key and its colon. The items of a list stand as far left as the key. -/
def yamlValue (depth : Nat) : Json → List Char
  | object [] => [' ', '\x7b', '\x7d', '\n']
  | object (m :: members) => '\n' :: yamlMembers (depth + 2) (m :: members)
  | array [] => [' ', '[', ']', '\n']
  | array (v :: items) => '\n' :: yamlItems depth (v :: items)
  | string t => ' ' :: Yaml.scalar (depth + 2) (t.flatMap Option.toList)
  | null => " null\n".toList
  | bool b => ' ' :: Token.text (.bool b) ++ ['\n']
  | integer n => ' ' :: Token.integerText n ++ ['\n']
  | real lexeme => ' ' :: lexeme ++ ['\n']

/-- The members of an object, each on a line of its own. -/
def yamlMembers (depth : Nat) : List (JsonText × Json) → List Char
  | [] => []
  | (k, v) :: members =>
    Yaml.indent depth ++ k.flatMap Option.toList ++ ':' :: yamlValue depth v ++
      yamlMembers depth members

end

/-- Write a list or an object in block form. -/
def yaml : Json → String
  | object (m :: members) => String.ofList (yamlMembers 0 (m :: members))
  | array (v :: items) => String.ofList (yamlItems 0 (v :: items))
  | j => String.ofList (yamlItem 0 j)

end Json
end FlowAtlas
