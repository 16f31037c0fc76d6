import FlowAtlas.Json.Token

/-!
# JSON text

`Json.ofText?` reads a document and `Json.compact` writes one without any blanks, both by way of
tokens: `Json.ofTokens?` puts tokens together to a tree and `Json.tokens` takes a tree apart.
`Json.pretty` writes a document over many lines.
-/

set_option autoImplicit false

namespace FlowAtlas

/-! ## Reading -/

/-- An array or object that is still open, with what it holds so far, the latest first. -/
inductive OpenJson
  | array (items : List Json)
  /-- An object in which the value of `key` is due. -/
  | object (members : List (JsonText × Json)) (key : JsonText)

/-- What may come next in a document, and the arrays and objects around that place, from the inside
out. -/
inductive JsonReader
  /-- A value. -/
  | value (outer : List OpenJson)
  /-- The first value of an array, or its end. -/
  | firstItem (outer : List OpenJson)
  /-- The first key of an object, or its end. -/
  | firstKey (outer : List OpenJson)
  /-- A key. -/
  | key (members : List (JsonText × Json)) (outer : List OpenJson)
  /-- The colon behind a key. -/
  | colon (members : List (JsonText × Json)) (key : JsonText) (outer : List OpenJson)
  /-- What follows a finished value. -/
  | after (value : Json) (outer : List OpenJson)

namespace JsonReader

/-- Read the token that is a value or opens one. -/
def startValue (outer : List OpenJson) : Token → Option JsonReader
  | .openArray => some (firstItem outer)
  | .openObject => some (firstKey outer)
  | .null => some (after .null outer)
  | .bool b => some (after (.bool b) outer)
  | .integer n => some (after (.integer n) outer)
  | .real lexeme => some (after (.real lexeme) outer)
  | .string t => some (after (.string t) outer)
  | _ => none

/-- Read a token. -/
def step : JsonReader → Token → Option JsonReader
  | value outer, t => startValue outer t
  | firstItem outer, .closeArray => some (after (.array []) outer)
  | firstItem outer, t => startValue (.array [] :: outer) t
  | firstKey outer, .closeObject => some (after (.object []) outer)
  | firstKey outer, .string k => some (colon [] k outer)
  | key members outer, .string k => some (colon members k outer)
  | colon members k outer, .colon => some (value (.object members k :: outer))
  | after v (.array items :: outer), .comma => some (value (.array (v :: items) :: outer))
  | after v (.array items :: outer), .closeArray =>
    some (after (.array (v :: items).reverse) outer)
  | after v (.object members k :: outer), .comma => some (key ((k, v) :: members) outer)
  | after v (.object members k :: outer), .closeObject =>
    some (after (.object ((k, v) :: members).reverse) outer)
  | _, _ => none

/-- The document that ends here. -/
def finish : JsonReader → Option Json
  | after v [] => some v
  | _ => none

end JsonReader

namespace Json

/-- The document of which these are the tokens. -/
def ofTokens? (ts : List Token) : Option Json :=
  ts.foldlM JsonReader.step (.value []) >>= JsonReader.finish

/-- Read a document, which may have blanks around it and nothing else. -/
def ofText? (text : String) : Option Json := Token.scan text.toList >>= ofTokens?

/-! ## Writing -/

mutual

/-- The tokens of a document. -/
def tokens : Json → List Token
  | null => [.null]
  | bool b => [.bool b]
  | integer n => [.integer n]
  | real lexeme => [.real lexeme]
  | string t => [.string t]
  | array [] => [.openArray, .closeArray]
  | array (v :: items) => .openArray :: (v.tokens ++ itemTokens items)
  | object [] => [.openObject, .closeObject]
  | object ((k, v) :: members) =>
    .openObject :: .string k :: .colon :: (v.tokens ++ memberTokens members)

/-- The tokens of the values of an array behind the first, and of its end. -/
def itemTokens : List Json → List Token
  | [] => [.closeArray]
  | v :: items => .comma :: (v.tokens ++ itemTokens items)

/-- The tokens of the members of an object behind the first, and of its end. -/
def memberTokens : List (JsonText × Json) → List Token
  | [] => [.closeObject]
  | (k, v) :: members => .comma :: .string k :: .colon :: (v.tokens ++ memberTokens members)

end

/-- Write a document without blanks. -/
def compact (j : Json) : String := String.ofList (j.tokens.flatMap Token.text)

/-- A new line with two blanks for each array or object around it. -/
def newLine (depth : Nat) : List Char := '\n' :: List.replicate (2 * depth) ' '

mutual

/-- Write a document at some depth, each value and member on a line of its own. -/
def prettyAt (depth : Nat) : Json → List Char
  | array [] => "[]".toList
  | array (v :: items) =>
    '[' :: (newLine (depth + 1) ++ prettyAt (depth + 1) v ++ prettyItems depth items)
  | object [] => ['\x7b', '\x7d']
  | object ((k, v) :: members) =>
    '\x7b' :: (newLine (depth + 1) ++ k.quoted ++ ": ".toList ++ prettyAt (depth + 1) v ++
      prettyMembers depth members)
  | null => Token.text .null
  | bool b => Token.text (.bool b)
  | integer n => Token.text (.integer n)
  | real lexeme => Token.text (.real lexeme)
  | string t => t.quoted

/-- The values of an array behind the first, and its end. -/
def prettyItems (depth : Nat) : List Json → List Char
  | [] => newLine depth ++ [']']
  | v :: items =>
    ',' :: (newLine (depth + 1) ++ prettyAt (depth + 1) v ++ prettyItems depth items)

/-- The members of an object behind the first, and its end. -/
def prettyMembers (depth : Nat) : List (JsonText × Json) → List Char
  | [] => newLine depth ++ ['\x7d']
  | (k, v) :: members =>
    ',' :: (newLine (depth + 1) ++ k.quoted ++ ": ".toList ++ prettyAt (depth + 1) v ++
      prettyMembers depth members)

end

/-- Write a document over many lines. -/
def pretty (j : Json) : String := String.ofList (j.prettyAt 0)

end Json
end FlowAtlas
