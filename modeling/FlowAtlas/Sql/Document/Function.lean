import FlowAtlas.Sql.Document.Value

/-!
# Functions of documents

The functions that make documents of values, look into documents and change them. A function whose name
begins with `jsonb` has its document in binary form. `Document.call` gives the value of a function, and
`Document.gathered` makes one document of the rows of a group.
-/

set_option autoImplicit false

namespace FlowAtlas
namespace Sql
namespace Document

open Database (Value Encoding)

/-! ## Names -/

/-- Functions of a fixed number of arguments. -/
def fixed : List (String × List Nat) :=
  [("json", [1]), ("jsonb", [1]), ("json_array_length", [1, 2]), ("json_error_position", [1]),
    ("json_patch", [2]), ("jsonb_patch", [2]), ("json_pretty", [1, 2]), ("json_quote", [1]),
    ("json_type", [1, 2]), ("json_valid", [1, 2]), ("->", [2]), ("->>", [2])]

/-- Functions of any number of arguments. -/
def open_ : List String :=
  ["json_array", "jsonb_array", "json_extract", "jsonb_extract", "json_insert", "jsonb_insert",
    "json_object", "jsonb_object", "json_remove", "jsonb_remove", "json_replace", "jsonb_replace",
    "json_set", "jsonb_set"]

/-- Whether there is a function of documents of a name. -/
def isFunction (f : String) : Bool := (fixed.lookup f).isSome || open_.contains f

/-- Whether a function has its document in binary form. -/
def isBinaryName (f : String) : Bool := f.startsWith "jsonb"

/-- The name of a function that has its document as a text. -/
def plainName (f : String) : String := f.replace "jsonb" "json"

variable (e : Encoding)

/-! ## Parts -/

/-- The letters of a value as a text, up to the first one that is zero. -/
def letters (v : Value) : Letters := (Texts.characters e v).takeWhile (· ≠ '\x00')

/-- The failure of a path. -/
def badPath (path : Letters) : SqlError := .badPath (Text.lossy (Format.ofChars path))

/-- A path without the sign for the document that it begins with. -/
def behindRoot (path : Letters) : Except SqlError Letters :=
  match path with
  | '$' :: rest => .ok rest
  | path => .error (badPath path)

/-- A step that is told by a value where a path is expected: the place of an item or the name of a
member. -/
def shortPath (v : Value) (path : Letters) : Letters :=
  match v, path with
  | _, '$' :: rest => rest
  | .integer _, path => '[' :: (path ++ [']'])
  | _, path =>
    let isWord := path.all fun c => c.isAlphanum || c = '_'
    if isWord then '.' :: path
    else if path.head? = some '[' && 3 ≤ path.length && path.getLast? = some ']' then path
    else '.' :: '"' :: (path ++ ['"'])

/-- The part at a path, if there is one. -/
def partAt? (d : Document) (path rest : Letters) : Except SqlError (Option Document) :=
  match find d rest with
  | .ok p => .ok (some p.document)
  | .error .missing => .ok none
  | .error .unfit => .error (badPath path)

/-- The part at a path that a value tells, if there is one. -/
def partOf? (d : Document) (v : Value) : Except SqlError (Option Document) := do
  if v = .null then return none
  let path := letters e v
  partAt? d path (← behindRoot path)

/-- The parts at paths as they are written, unless one of the paths is nothing. -/
def partTexts? (d : Document) : List Value → Except SqlError (Option (List Letters))
  | [] => return some []
  | v :: vs => do
    if v = .null then return none
    let part ← partOf? e d v
    return (← partTexts? d vs).map (((part.getD null).render) :: ·)

/-! ## Making -/

/-- Letters between others, with commas between them. -/
def between (start stop : Char) (parts : List Letters) : Letters :=
  start :: ([','].intercalate parts ++ [stop])

/-- A document that is written, as a text or in binary form. -/
def written (isBinary : Bool) (cs : Letters) : Value :=
  if !isBinary then textValue e cs
  else
    match ofText cs with
    | .ok (d, _) => bytesValue d.binary
    | .error _ => .blob []

/-- The members of an object, where each second value belongs to the name before it. -/
def memberTexts : List Value → Except SqlError (List Letters)
  | .text name :: v :: rest => do
    let name : Lettering := ⟨.raw, Texts.characters e (.text name)⟩
    let text := name.text ++ ':' :: (← partText e v)
    return text :: (← memberTexts rest)
  | [] => return []
  | _ => throw .memberName

/-- A document with the changes that paths and values tell. A path that is nothing counts for
nothing. -/
def changed (change : Document → Change) : Document → List Value → Except SqlError Document
  | d, p :: v :: rest => do
    if p = .null then changed change d rest
    else
      let path := letters e p
      let steps ← behindRoot path
      let new ← asPart e v
      match edit (change new) d steps with
      | .ok found => changed change (found.getD d) rest
      | .error .missing => changed change d rest
      | .error .unfit => throw (badPath path)
  | d, _ => return d

/-- A document without what is found at paths, unless nothing is left of it or a path is nothing. -/
def without? : Document → List Value → Except SqlError (Option Document)
  | d, [] => return some d
  | d, p :: rest => do
    if p = .null then return none
    let path := letters e p
    let steps ← behindRoot path
    match edit .remove d steps with
    | .ok none => return none
    | .ok (some d) => without? d rest
    | .error .missing => without? d rest
    | .error .unfit => throw (badPath path)

/-! ## Looking -/

/-- In which forms a value may be a document, as bits of a number. -/
structure Forms where
  isText : Bool
  isExtended : Bool
  looksBinary : Bool
  isBinary : Bool

/-- The forms that a number tells. -/
def Forms.ofNat (n : Nat) : Forms :=
  ⟨n % 2 = 1, n / 2 % 2 = 1, n / 4 % 2 = 1, n / 8 % 2 = 1⟩

/-- Whether a value is a document in one of some forms. -/
def isDocument (forms : Forms) (v : Value) : Bool :=
  match binaryOf? v with
  | some cs => forms.looksBinary || forms.isBinary && (ofBinary? cs).isSome
  | none =>
    match ofText (Texts.characters e v) with
    | .ok (_, isExtended) => forms.isExtended || forms.isText && !isExtended
    | .error _ => false

/-- Where a text goes wrong, in characters from 1 on, or 0. -/
def faultPlace (v : Value) : Int :=
  match binaryOf? v with
  | some cs => if (ofBinary? cs).isSome then 0 else 1
  | none =>
    match ofText (Texts.characters e v) with
    | .ok _ => 0
    | .error n =>
      (((letters e v).take n).filter fun c => c.toNat / 64 ≠ 2).length + 1

/-- How many items a document has. -/
def itemCount : Document → Nat
  | array items => items.length
  | _ => 0

/-! ## All functions -/

/-- How far the parts of a document begin further in, if that is not told. -/
def indentation : Letters := [' ', ' ', ' ', ' ']

/-- The value of a function of a document. -/
def callOn (isBinary : Bool) (f : String) (d : Document) (args : List Value) :
    Except SqlError Value := do
  let valueOf := fun (isBinary : Bool) (part : Option Document) =>
    part.elim (Except.ok Value.null) (value e isBinary)
  match f, args with
  | "json", _ => return whole e isBinary d
  | "json_extract", [p] => valueOf isBinary (← partOf? e d p)
  | "json_extract", ps =>
    return (← partTexts? e d ps).elim .null fun parts => written e isBinary (between '[' ']' parts)
  | "->", [p] =>
    if p = .null then return .null
    let part ← partAt? d (letters e p) (shortPath p (letters e p))
    return part.elim .null (whole e false)
  | "->>", [p] =>
    if p = .null then return .null
    valueOf false (← partAt? d (letters e p) (shortPath p (letters e p)))
  | "json_type", [] => return Texts.ofString e d.typeName
  | "json_type", [p] => return (← partOf? e d p).elim .null fun d => Texts.ofString e d.typeName
  | "json_array_length", [] => return .integer d.itemCount
  | "json_array_length", [p] => return (← partOf? e d p).elim .null fun d => .integer d.itemCount
  | "json_pretty", args =>
    let step := match args with
      | [] | [.null] => indentation
      | v :: _ => letters e v
    return textValue e (d.pretty step 0)
  | "json_patch", [p] => return (← ofValue e p).elim .null fun p => whole e isBinary (d.merged p)
  | "json_insert", args => return whole e isBinary (← changed e .insert d args)
  | "json_replace", args => return whole e isBinary (← changed e .replace d args)
  | "json_set", args => return whole e isBinary (← changed e .set d args)
  | "json_remove", ps => return (← without? e d ps).elim .null (whole e isBinary)
  | f, _ => throw (.noFunction f)

/-- The value of a function. -/
def call (function : String) (args : List Value) : Except SqlError Value := do
  let isBinary := isBinaryName function
  let f := plainName function
  match f, args with
  | "json_array", vs => return written e isBinary (between '[' ']' (← vs.mapM (partText e)))
  | "json_object", vs =>
    if vs.length % 2 = 1 then throw .oddMembers
    return written e isBinary (between '\x7b' '\x7d' (← memberTexts e vs))
  | "json_quote", [v] => return textValue e (← partText e v)
  | "json_valid", [.null] | "json_error_position", [.null] => return .null
  | "json_valid", [v] => return ofTruth (isDocument e (.ofNat 1) v)
  | "json_valid", [v, n] =>
    let n := wholeOf e n
    if n < 1 || 15 < n then throw .badFlags
    return if v = .null then .null else ofTruth (isDocument e (.ofNat n.toNat) v)
  | "json_error_position", [v] => return .integer (faultPlace e v)
  | "json_extract", [_] | _, [] => return .null
  | f, v :: args =>
    if ["json_insert", "json_replace", "json_set"].contains f && args.length % 2 = 1 then
      throw (.evenArguments f)
    match ← ofValue e v with
    | none => return .null
    | some d => callOn e isBinary f d args

/-- One document of the rows of a group: an array of values, or an object of names and values. -/
def gathered (function : String) (rows : List (List Value)) : Except SqlError Value := do
  let isBinary := isBinaryName function && !rows.isEmpty
  if plainName function = "json_group_array" then
    return written e isBinary (between '[' ']' (← rows.mapM fun r => partText e (r.headD .null)))
  else
    let members ← rows.mapM fun r => do
      let name := if r.headD .null = .null then []
        else Lettering.text ⟨.raw, letters e (r.headD .null)⟩
      return name ++ ':' :: (← partText e (r.getD 1 .null))
    return written e isBinary (between '\x7b' '\x7d' members)

end Document
end Sql
end FlowAtlas
