import FlowAtlas.Sql.Document.Function
import FlowAtlas.Sql.Error
import FlowAtlas.Sql.Instant.Form
import FlowAtlas.Sql.Pattern

/-!
# Functions of values

The functions that formulas may use. `Function.kind?` tells with how many arguments a function can be
used, and `Function.call` gives its value.
-/

set_option autoImplicit false

namespace FlowAtlas
namespace Sql
namespace Function

open Database (Value Encoding)

/-! ## Names -/

/-- Functions of a fixed number of arguments. -/
def fixed : List (String × List Nat) :=
  [("abs", [1]), ("changes", [0]), ("glob", [2]), ("hex", [1]), ("ifnull", [2]), ("iif", [3]),
    ("instr", [2]), ("last_insert_rowid", [0]), ("length", [1]), ("like", [2, 3]),
    ("likelihood", [2]), ("likely", [1]), ("load_extension", [1, 2]), ("lower", [1]),
    ("ltrim", [1, 2]), ("nullif", [2]), ("octet_length", [1]), ("quote", [1]), ("random", [0]),
    ("randomblob", [1]), ("replace", [3]), ("round", [1, 2]), ("rtrim", [1, 2]), ("sign", [1]),
    ("soundex", [1]), ("sqlite_log", [2]), ("sqlite_source_id", [0]), ("sqlite_version", [0]),
    ("substr", [2, 3]), ("substring", [2, 3]), ("subtype", [1]), ("timediff", [2]),
    ("total_changes", [0]), ("trim", [1, 2]), ("typeof", [1]), ("unhex", [1, 2]),
    ("unicode", [1]), ("unlikely", [1]), ("upper", [1]), ("zeroblob", [1])]

/-- Functions of texts that are searched, which no text is here, by how they are called in messages. -/
def searching : List (String × String) :=
  [("bm25", "bm25"), ("highlight", "highlight"), ("match", "MATCH"), ("matchinfo", "matchinfo"),
    ("offsets", "offsets"), ("optimize", "optimize"), ("snippet", "snippet")]

/-- Those of a fixed number of arguments. -/
def fixedSearching : List (String × List Nat) :=
  [("match", [2]), ("matchinfo", [1, 2]), ("offsets", [1]), ("optimize", [1])]

/-- Functions of at least so many arguments. -/
def open_ : List (String × Nat) :=
  [("char", 0), ("coalesce", 2), ("concat", 1), ("concat_ws", 2), ("format", 0), ("printf", 0),
    ("max", 2), ("min", 2), ("date", 0), ("time", 0), ("datetime", 0), ("julianday", 0),
    ("unixepoch", 0), ("strftime", 0)]

/-- Functions that tell a date or a time of day. -/
def timing : List String :=
  ["date", "time", "datetime", "julianday", "unixepoch", "strftime", "timediff"]

/-- Functions of all rows of a group, with their numbers of arguments. -/
def totals : List (String × List Nat) :=
  [("count", [0, 1]), ("sum", [1]), ("total", [1]), ("avg", [1]), ("min", [1]), ("max", [1]),
    ("group_concat", [1, 2]), ("string_agg", [2]), ("json_group_array", [1]),
    ("json_group_object", [2]), ("jsonb_group_array", [1]), ("jsonb_group_object", [2])]

/-- Functions of the rows around a row, with their numbers of arguments. -/
def places : List (String × List Nat) :=
  [("row_number", [0]), ("rank", [0]), ("dense_rank", [0]), ("percent_rank", [0]),
    ("cume_dist", [0]), ("ntile", [1]), ("lead", [1, 2, 3]), ("lag", [1, 2, 3]),
    ("first_value", [1]), ("last_value", [1]), ("nth_value", [2])]

/-- What a function is a function of. -/
inductive Kind
  | values
  /-- All rows of a group. -/
  | total
  /-- The rows around a row. -/
  | place
  deriving DecidableEq, Repr, Inhabited

/-- The kind of a function, and whether it can be used with so many arguments, if it is known. -/
def kind? (function : String) (args : Nat) : Option (Kind × Bool) :=
  match places.lookup function, totals.lookup function, accepts? with
  | some counts, _, _ => some (.place, counts.contains args)
  | none, some counts, isFit =>
    if counts.contains args || isFit.isNone then some (.total, counts.contains args)
    else some (.values, isFit.getD false)
  | none, none, isFit => isFit.map fun b => (.values, b)
where
  /-- Whether there is a function of so many values. -/
  accepts? : Option Bool :=
    let counts := (fixed ++ fixedSearching ++ Document.fixed).lookup function
    match counts, open_.lookup function with
    | some counts, _ => some (counts.contains args)
    | none, some least => some (least ≤ args)
    | none, none =>
      if Document.open_.contains function || (searching.lookup function).isSome then some true
      else none

/-- Functions that do not always have the same value. -/
def changing : List String := ["changes", "last_insert_rowid", "random", "randomblob",
  "total_changes"]

/-! ## Texts -/

variable (e : Encoding)

/-- The characters of a value as a text. -/
def chars (v : Value) : List Char := (Texts.string e v).toList

/-- Characters as a text. -/
def ofChars (cs : List Char) : Value := Texts.ofString e (String.ofList cs)

/-- The last 32 bits of the whole number that a value is cut to, as a number. -/
def shortOf (v : Value) : Int := Int.bmod (wholeOf e v) (Nat.pow 2 32)

/-- A part of a row that begins at a place, where places count from 1, or from the back if they are
negative. A negative length asks for what stands before the place. -/
def part {α : Type} (xs : List α) (place : Int) (length : Option Int) : List α :=
  let size : Int := xs.length
  let start := if place < 0 then size + place else if 0 < place then place - 1 else -1
  let (first, stop) := match length with
    | none => (start, size)
    | some n => if n < 0 then (start + n, start) else (start, start + n)
  let first := max 0 first
  (xs.drop first.toNat).take (min size stop - first).toNat

/-- The place behind the part of a row up to where another row stands in it, or 0. -/
def placeIn {α : Type} [BEq α] (part : List α) : (whole : List α) → (place : Nat) → Nat
  | [], place => if part.isEmpty then place else 0
  | x :: rest, place => if part.isPrefixOf (x :: rest) then place else placeIn part rest (place + 1)

/-- Put a row in place of each part that is the same as another row. -/
def replaceAll (old new : List Char) : (fuel : Nat) → List Char → List Char
  | 0, cs => cs
  | _, [] => []
  | fuel + 1, c :: rest =>
    if old.isPrefixOf (c :: rest) then
      new ++ replaceAll old new fuel ((c :: rest).drop old.length)
    else c :: replaceAll old new fuel rest

/-- Take characters off the ends of a text. -/
def trimmed (atStart atEnd : Bool) (unwanted cs : List Char) : List Char :=
  let cs := if atStart then cs.dropWhile unwanted.contains else cs
  if atEnd then (cs.reverse.dropWhile unwanted.contains).reverse else cs

/-- A number of double precision as a statement would have it: with fifteen digits if they tell it,
or with all. -/
def quotedReal (x : Float) : String :=
  let sign := if x < 0 then "-" else ""
  if x.isInf then sign ++ "9.0e+999"
  else
    let short := RealForm.plain.text x
    let full : RealForm := { style := .exponent, precision := 20, isFull := true }
    let isTold := (NumberText.ofChars short).realValue == x.abs
    sign ++ String.ofList (if isTold then short else full.text x)

/-- The text that a value would be in a statement. -/
def quoted (v : Value) : String :=
  match v with
  | .null => "NULL"
  | .text _ => "'" ++ (String.ofList (Texts.start e v)).replace "'" "''" ++ "'"
  | .blob bs => "X'" ++ (Bytes.hex bs).toUpper ++ "'"
  | .real bits => quotedReal (Float.ofBits bits)
  | v => Texts.string e v

/-- The groups of letters that sound alike. -/
def soundGroups : List String := ["BFPV", "CGJKQSXZ", "DT", "L", "MN", "R"]

/-- The digit of a letter, or 0 for one that has no sound of its own. -/
def soundOf (c : Char) : Char :=
  (soundGroups.findIdx? fun g => g.toList.contains c.toUpper).elim '0' fun i =>
    Char.ofNat ('1'.toNat + i)

/-- The sound of a word as a letter and three digits. A letter that sounds as the one before it does
not count. -/
def sound (cs : List Char) : String :=
  match cs.dropWhile fun c => !c.isAlpha with
  | [] => "?000"
  | c :: rest =>
    let step := fun ((last, out) : Char × List Char) (d : Char) =>
      let k := if d.isAlpha then soundOf d else '0'
      (k, if k = '0' || k = last then out else out ++ [k])
    let codes := (rest.foldl step (soundOf c, [])).2
    String.ofList (c.toUpper :: (codes ++ ['0', '0', '0']).take 3)

/-! ## Numbers -/

/-- A number from here on has no fraction. -/
def fractionLimit : Float := 4503599627370496.0

/-- A number rounded to so many places behind the point, a half away from zero. -/
def rounded (x : Float) (places : Nat) : Float :=
  if x < -fractionLimit || fractionLimit < x then x
  else if places = 0 then Float.ofInt (wholeOfReal (x + if x < 0 then -0.5 else 0.5))
  else
    let f : RealForm := { style := .fixed, precision := places, isFull := true }
    let y := (NumberText.ofChars (f.text x)).realValue
    if x < 0 then -y else y

/-- The sign of a number. -/
def signOf (v : Value) : Value :=
  match v with
  | .integer n => .integer n.sign
  | .real bits =>
    let x := Float.ofBits bits
    .integer (if x < 0 then -1 else if 0 < x then 1 else 0)
  | _ => .null

/-! ## Functions of one value -/

/-- The value of a function of one value that is there. -/
def callOne (f : String) (v : Value) : Except SqlError Value := do
  match f with
  | "abs" =>
    match v with
    | .integer n => if n = -Int.pow 2 63 then throw .overflow else return .integer n.natAbs
    | v => return realValue (realOf e v).abs
  | "hex" => return Texts.ofString e (Bytes.hex (Texts.raw e v)).toUpper
  | "length" =>
    match v with
    | .blob bs => return .integer bs.length
    | v => return .integer (Texts.start e v).length
  | "octet_length" =>
    match v with
    | .blob bs => return .integer bs.length
    | v => return .integer (e.encode (Texts.string e v)).length
  | "lower" => return Texts.ofBytes e ((Texts.bytes e v).map lowerByte)
  | "upper" => return Texts.ofBytes e ((Texts.bytes e v).map upperByte)
  | "sign" => return signOf ((numberOf? e v).getD v)
  | "unicode" => return (chars e v).head?.elim .null fun c => .integer c.toNat
  | "zeroblob" => return .blob (List.replicate (wholeOf e v).toNat 0)
  | "randomblob" => return .blob (List.replicate (max 1 (wholeOf e v)).toNat 0)
  | _ => return .null

/-! ## All functions -/

/-- The blank that is taken off texts. -/
def blank : List Char := [' ']

/-- The bytes that pairs of digits of base sixteen write, where some characters may stand between
the pairs. -/
def unhex? (ignored : List Char) : List Char → Option Bytes
  | [] => some []
  | [c] => if ignored.contains c then some [] else none
  | a :: b :: rest =>
    match Numeral.hexDigit? a, Numeral.hexDigit? b with
    | some x, some y => (unhex? ignored rest).map (UInt8.ofNat (x * 16 + y) :: ·)
    | _, _ => if ignored.contains a then unhex? ignored (b :: rest) else none

/-- The greatest or the least of values, none of which may be missing. -/
def extreme (c : Collation) (isGreatest : Bool) (args : List Value) : Value :=
  if args.contains .null then .null
  else
    let better := fun a b => c.compare e b a = if isGreatest then .gt else .lt
    args.tail.foldl (fun a b => if better a b then b else a) (args.headD .null)

/-- The value of a function where each value is there. -/
def callAll (f : String) (args : List Value) : Except SqlError Value := do
  match f, args with
  | "glob", [p, v] => return ofTruth (Pattern.glob (chars e p) (chars e v))
  | "like", [p, v] => return ofTruth (Pattern.like (chars e p) (chars e v) none)
  | "like", [p, v, m] =>
    match chars e m with
    | [c] => return ofTruth (Pattern.like (chars e p) (chars e v) (some c))
    | _ => throw .badEscape
  | "instr", [v, w] =>
    match v, w with
    | .blob a, .blob b => return .integer (placeIn b a 1)
    | v, w => return .integer (placeIn (chars e w) (chars e v) 1)
  | "replace", [v, old, new] =>
    let cs := chars e v
    return ofChars e (replaceAll (chars e old) (chars e new) cs.length cs)
  | "round", [v] => return realValue (rounded (realOf e v) 0)
  | "round", [v, n] =>
    return realValue (rounded (realOf e v) (min 30 (shortOf e n).toNat))
  | "substr", v :: p :: n | "substring", v :: p :: n =>
    let length := n.head?.map (shortOf e)
    match v with
    | .blob [] => return .null
    | .blob bs => return .blob (part bs (shortOf e p) length)
    | v => return ofChars e (part (chars e v) (shortOf e p) length)
  | "trim", v :: t => return ofChars e (trimmed true true (t.head?.elim blank (chars e)) (chars e v))
  | "ltrim", v :: t =>
    return ofChars e (trimmed true false (t.head?.elim blank (chars e)) (chars e v))
  | "rtrim", v :: t =>
    return ofChars e (trimmed false true (t.head?.elim blank (chars e)) (chars e v))
  | "unhex", v :: t => return (unhex? (t.head?.elim [] (chars e)) (chars e v)).elim .null .blob
  | "likely", [v] | "unlikely", [v] | "likelihood", [v, _] => return v
  | f, [v] => callOne e f v
  | _, _ => throw (.noFunction f)

/-- The values that are there, as texts with a text between them. -/
def joined (between : String) (args : List Value) : Value :=
  Texts.ofString e (between.intercalate ((args.filter (· ≠ .null)).map (Texts.string e)))

/-- The version of the language. -/
def version : String := "3.46.0"

/-- The time and the mark of the version. -/
def versionMark : String :=
  "2024-05-23 13:25:27 96c92aba00c8375bc32fafcdf12429c58bd8aabfcadab6683e35bbb9cdebf19e"

/-- The number that tells that a value is a document. -/
def documentMark : Int := 74

/-- The value of a function. Values are compared by a collation. -/
def call (c : Collation) (f : String) (args : List Value) : Except SqlError Value := do
  match f, args with
  | "coalesce", args => return (args.find? (· ≠ .null)).getD .null
  | "ifnull", [v, w] => return if v = .null then w else v
  | "iif", [t, v, w] => return if (truth? e t).getD false then v else w
  | "nullif", [v, w] => return if c.compare e v w = .eq then .null else v
  | "typeof", [v] => return Texts.ofString e (typeName v)
  | "quote", [v] => return Texts.ofString e (quoted e v)
  | "max", args => return extreme e c true args
  | "min", args => return extreme e c false args
  | "char", args =>
    return ofChars e (args.map fun v =>
      let n := (wholeOf e v).toNat
      if n.isValidChar then Char.ofNat n else '\ufffd')
  | "concat", args => return joined e "" args
  | "format", form :: args | "printf", form :: args =>
    if form = .null then return .null
    return (Format.text? e (Texts.bytes e form) args).elim .null (Texts.ofBytes e)
  | "concat_ws", t :: args =>
    return if t = .null then .null else joined e (Texts.string e t) args
  | "soundex", [v] => return Texts.ofString e (sound (chars e v))
  | "replace", [v, old, new] =>
    if v = .null || old = .null then return .null
    if (chars e old).isEmpty then return ofChars e (chars e v)
    if new = .null then return .null
    callAll e "replace" [v, old, new]
  | "hex", [.null] => return Texts.ofString e ""
  | "zeroblob", [.null] => return .blob []
  | "random", [] => return .integer 0
  | "format", [] | "printf", [] => return .null
  | "sqlite_version", [] => return Texts.ofString e version
  | "sqlite_source_id", [] => return Texts.ofString e versionMark
  | "sqlite_log", _ => return .null
  | "load_extension", _ => throw .unauthorized
  | "subtype", [v] => return .integer (if (Document.binaryOf? v).isSome then documentMark else 0)
  | "likely", [v] | "unlikely", [v] => return v
  | f, args =>
    if (kind? f args.length).isNone then throw (.noFunction f)
    match searching.lookup f with
    | some name => throw (.unusable name)
    | none => pure ()
    if timing.contains f then return Instant.tell e f args
    if Document.isFunction f then return ← Document.call e f args
    if args.contains .null then return .null
    callAll e f args

end Function
end Sql
end FlowAtlas
