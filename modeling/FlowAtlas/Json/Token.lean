import FlowAtlas.Json.Basic
import FlowAtlas.Text.Numeral

/-!
# The tokens of JSON text

`Token.scan` cuts a text into tokens, character by character, and refuses a text that holds anything
else. `Token.text` writes a token. Between tokens only four characters count as blank.
-/

set_option autoImplicit false

namespace FlowAtlas

/-- The pieces of JSON text. -/
inductive Token
  | openArray
  | closeArray
  | openObject
  | closeObject
  | comma
  | colon
  | null
  | bool (value : Bool)
  | integer (value : Int)
  | real (lexeme : List Char)
  | string (text : JsonText)
  deriving DecidableEq, Repr

/-! ## Numbers and words -/

namespace Token

/-- A non-empty run of digits at the head, and what follows it. -/
def digits? (cs : List Char) : Option (List Char × List Char) :=
  match cs.takeWhile Char.isDigit with
  | [] => none
  | ds => some (ds, cs.dropWhile Char.isDigit)

/-- What follows a fraction, if there is one. A point without digits is refused. -/
def afterFraction? : List Char → Option (List Char)
  | '.' :: rest => (digits? rest).map (·.2)
  | rest => some rest

/-- What follows the sign of an exponent, if there is one. -/
def afterSign : List Char → List Char
  | '+' :: rest => rest
  | '-' :: rest => rest
  | rest => rest

/-- What follows an exponent, if there is one. A mark without digits is refused. -/
def afterExponent? : List Char → Option (List Char)
  | 'e' :: rest => (digits? (afterSign rest)).map (·.2)
  | 'E' :: rest => (digits? (afterSign rest)).map (·.2)
  | rest => some rest

/-- The whole part of a number at the head, which has no needless zero in front, and what follows. -/
def whole? (cs : List Char) : Option (List Char × List Char) := do
  let (ds, rest) ← digits? cs
  if ds.head? = some '0' ∧ ds ≠ ['0'] then none else some (ds, rest)

/-- The number that a word writes. -/
def ofNumber? (word : List Char) : Option Token := do
  let isNegative := word.head? == some '-'
  let (ds, rest) ← whole? (if isNegative then word.drop 1 else word)
  if rest.isEmpty then
    let n ← Numeral.ofDecimal? ds
    if isNegative then return if n = 0 then real word else integer (-n) else return integer n
  else
    let rest ← afterFraction? rest
    let rest ← afterExponent? rest
    if rest.isEmpty then some (real word) else none

/-- The token that a word is. -/
def ofWord? (word : List Char) : Option Token :=
  if word = "null".toList then some null
  else if word = "true".toList then some (bool true)
  else if word = "false".toList then some (bool false)
  else ofNumber? word

/-- The characters of words and numbers. -/
def isWordChar (c : Char) : Bool := c.isAlphanum || c == '+' || c == '-' || c == '.'

/-- The characters that may stand between tokens. -/
def isBlank (c : Char) : Bool := c == ' ' || c == '\n' || c == '\t' || c == '\r'

/-- The token that a single character is. -/
def ofPunctuation? : Char → Option Token
  | '[' => some openArray
  | ']' => some closeArray
  | '\x7b' => some openObject
  | '\x7d' => some closeObject
  | ',' => some comma
  | ':' => some colon
  | _ => none

end Token

/-! ## Strings -/

namespace JsonText

/-- The codes that come first in a surrogate pair. -/
def isHigh (n : Nat) : Bool := 0xd800 ≤ n && n < 0xdc00

/-- The codes that come second in a surrogate pair. -/
def isLow (n : Nat) : Bool := 0xdc00 ≤ n && n < 0xe000

/-- The character of a code that stands for itself. -/
def ofCode (n : Nat) : Option Char :=
  if isHigh n || isLow n then none else some (Char.ofNat n)

/-- The characters that codes write. The two codes of a surrogate pair write one. -/
def ofCodes : List Nat → JsonText
  | high :: low :: rest =>
    if isHigh high && isLow low then
      some (Char.ofNat (0x10000 + (high - 0xd800) * 0x400 + (low - 0xdc00))) :: ofCodes rest
    else ofCode high :: ofCodes (low :: rest)
  | [n] => [ofCode n]
  | [] => []

/-- The code that a letter behind a backslash writes. -/
def escaped? : Char → Option Nat
  | '"' => some 0x22
  | '\\' => some 0x5c
  | '/' => some 0x2f
  | 'b' => some 0x08
  | 'f' => some 0x0c
  | 'n' => some 0x0a
  | 'r' => some 0x0d
  | 't' => some 0x09
  | _ => none

/-- Four digits in base sixteen behind `\u`. -/
def hexEscape (n : Nat) : List Char :=
  ['\\', 'u', Nat.digitChar (n / 0x1000 % 16), Nat.digitChar (n / 0x100 % 16),
    Nat.digitChar (n / 0x10 % 16), Nat.digitChar (n % 16)]

/-- A character as strings show it. Only quotes, backslashes and control characters change. -/
def escape : Option Char → List Char
  | none => hexEscape 0xd800
  | some '"' => ['\\', '"']
  | some '\\' => ['\\', '\\']
  | some '\x08' => ['\\', 'b']
  | some '\x0c' => ['\\', 'f']
  | some '\n' => ['\\', 'n']
  | some '\r' => ['\\', 'r']
  | some '\t' => ['\\', 't']
  | some c => if c < ' ' then hexEscape c.toNat else [c]

/-- A string between quotes. -/
def quoted (t : JsonText) : List Char := '"' :: t.flatMap escape ++ ['"']

end JsonText

/-! ## Scanning -/

/-- What the characters since the last token are part of. Lists hold the latest first. -/
inductive ScanMode
  | between
  | word (read : List Char)
  | string (codes : List Nat)
  /-- Behind a backslash. -/
  | escape (codes : List Nat)
  /-- Among the digits of a code, of which some are `left`. -/
  | digits (codes : List Nat) (value left : Nat)

/-- The tokens so far, the latest first, and what is being read. -/
structure Scanner where
  tokens : List Token := []
  mode : ScanMode := .between

namespace Scanner

/-- Read a character that stands behind finished tokens. -/
def start (tokens : List Token) (c : Char) : Option Scanner :=
  if Token.isBlank c then some ⟨tokens, .between⟩
  else if c = '"' then some ⟨tokens, .string []⟩
  else if Token.isWordChar c then some ⟨tokens, .word [c]⟩
  else (Token.ofPunctuation? c).map fun t => ⟨t :: tokens, .between⟩

/-- Read a character. -/
def step (s : Scanner) (c : Char) : Option Scanner :=
  match s.mode with
  | .between => start s.tokens c
  | .word read =>
    if Token.isWordChar c then some ⟨s.tokens, .word (c :: read)⟩
    else do start ((← Token.ofWord? read.reverse) :: s.tokens) c
  | .string codes =>
    if c = '"' then some ⟨.string (.ofCodes codes.reverse) :: s.tokens, .between⟩
    else if c = '\\' then some ⟨s.tokens, .escape codes⟩
    else if c < ' ' then none
    else some ⟨s.tokens, .string (c.toNat :: codes)⟩
  | .escape codes =>
    if c = 'u' then some ⟨s.tokens, .digits codes 0 3⟩
    else (JsonText.escaped? c).map fun n => ⟨s.tokens, .string (n :: codes)⟩
  | .digits codes value left => do
    let value := value * 16 + (← Numeral.hexDigit? c)
    match left with
    | 0 => some ⟨s.tokens, .string (value :: codes)⟩
    | left + 1 => some ⟨s.tokens, .digits codes value left⟩

/-- The tokens of a text that ends here. -/
def finish (s : Scanner) : Option (List Token) :=
  match s.mode with
  | .between => some s.tokens.reverse
  | .word read => do return ((← Token.ofWord? read.reverse) :: s.tokens).reverse
  | _ => none

end Scanner

namespace Token

/-- The tokens of a text. -/
def scan (text : List Char) : Option (List Token) :=
  text.foldlM Scanner.step {} >>= Scanner.finish

/-- A whole number in decimal. -/
def integerText (n : Int) : List Char :=
  (if n < 0 then ['-'] else []) ++ (Numeral.decimal n.natAbs).toList

/-- How a token is written. -/
def text : Token → List Char
  | openArray => ['[']
  | closeArray => [']']
  | openObject => ['\x7b']
  | closeObject => ['\x7d']
  | comma => [',']
  | colon => [':']
  | null => "null".toList
  | bool true => "true".toList
  | bool false => "false".toList
  | integer n => integerText n
  | real lexeme => lexeme
  | string t => t.quoted

end Token
end FlowAtlas
