import FlowAtlas.Sql.Document

/-!
# Reading documents

`Document.ofText` reads a document in JSON or in its extended form, which admits comments, more
blanks, names without quotation marks, other numbers and a comma behind the last part. It tells
whether the extended form was needed, or else where the text goes wrong.
-/

set_option autoImplicit false

namespace FlowAtlas
namespace Sql
/-- What a text needs that needs one or the other. -/
def Spelling.with : Spelling → Spelling → Spelling
  | .extended, _ | _, .extended => .extended
  | .escaped, _ | _, .escaped => .escaped
  | s, _ => s

namespace Document

/-! ## What is noticed -/

/-- What is noticed in a text while it is read. -/
structure Notice where
  /-- Whether it takes the extended form. -/
  isExtended : Bool := false
  /-- What stands from the last mark on that was met in place of a part. -/
  mark : Option Letters := none

/-- Reading a text, which may fail with what stands from the fault on. -/
abbrev TextReader := ExceptT Letters (StateM Notice)

namespace TextReader

/-- Notice that the extended form is needed. -/
def extend : TextReader Unit := modify fun n => { n with isExtended := true }

/-- Notice that the extended form is needed in some case. -/
def extendIf (isNeeded : Bool) : TextReader Unit := if isNeeded then extend else pure ()

end TextReader

open TextReader

/-! ## Blanks -/

/-- Whether a letter is a blank of JSON. -/
def isBlank (c : Char) : Bool := c = ' ' || c = '\t' || c = '\n' || c = '\r'

/-- What stands behind the end of a comment. -/
def behindComment? : Letters → Option Letters
  | [] => none
  | '*' :: '/' :: rest => some rest
  | _ :: rest => behindComment? rest

/-- What stands behind the end of a line. -/
def behindLine : Letters → Letters
  | [] => []
  | '\xe2' :: '\x80' :: '\xa8' :: rest | '\xe2' :: '\x80' :: '\xa9' :: rest => rest
  | c :: rest => if c = '\n' || c = '\r' then rest else behindLine rest

/-- Whether a letter is the last one of three that are a blank, behind two that begin many. -/
def isBlankEnd (c : Char) : Bool :=
  0x80 ≤ c.toNat && c.toNat ≤ 0x8a || c = '\xa8' || c = '\xa9' || c = '\xaf'

/-- What stands behind a blank of the extended form or a comment. -/
def behindBlank? : Letters → Option Letters
  | '/' :: '*' :: rest => behindComment? rest
  | '/' :: '/' :: rest => some (behindLine rest)
  | '\x0b' :: rest | '\x0c' :: rest => some rest
  | '\xc2' :: '\xa0' :: rest => some rest
  | '\xe2' :: '\x80' :: c :: rest => if isBlankEnd c then some rest else none
  | '\xe1' :: '\x9a' :: '\x80' :: rest | '\xe2' :: '\x81' :: '\x9f' :: rest
  | '\xe3' :: '\x80' :: '\x80' :: rest | '\xef' :: '\xbb' :: '\xbf' :: rest => some rest
  | _ => none

/-- What stands behind blanks and comments, of which there are at most so many. -/
def skipBlanks : (fuel : Nat) → Letters → TextReader Letters
  | 0, cs => return cs
  | fuel + 1, cs => do
    let cs := cs.dropWhile isBlank
    match behindBlank? cs with
    | none => return cs
    | some rest =>
      extend
      skipBlanks fuel rest

/-! ## Texts -/

/-- Whether digits of base sixteen stand at the start, so many of them. -/
def hasHexDigits (count : Nat) (cs : Letters) : Bool :=
  let digits := cs.take count
  digits.length = count && digits.all fun c => (Numeral.hexDigit? c).isSome

/-- What an escape needs, whose letters stand behind the mark for it. -/
def escapeSpelling? (cs : Letters) : Option Spelling :=
  match cs with
  | [] => none
  | c :: rest =>
    if ['"', '\\', '/', 'b', 'f', 'n', 'r', 't'].contains c || c = 'u' && hasHexDigits 4 rest then
      some .escaped
    else if ['\'', '0', 'v', '\n', '\r'].contains c || c = 'x' && hasHexDigits 2 rest ||
        c = '\xe2' && (rest.take 2 = ['\x80', '\xa8'] || rest.take 2 = ['\x80', '\xa9']) then
      some .extended
    else none

/-- The letters of a text up to a mark with what they need, and what stands behind the mark. What is
read already comes from the back. -/
def textTo (mark : Char) (s : Spelling) (read : Letters) : Letters →
    Except Letters (Lettering × Letters)
  | [] => throw []
  | [c] => if c = mark then return (⟨s, read.reverse⟩, []) else throw []
  | c :: d :: rest =>
    if c = mark then return (⟨s, read.reverse⟩, d :: rest)
    else if c = '\\' then
      match escapeSpelling? (d :: rest) with
      | none => throw (d :: rest)
      | some t => textTo mark (s.with t) (d :: c :: read) rest
    else if c.toNat < 32 || c = '"' then textTo mark .extended (c :: read) (d :: rest)
    else textTo mark s (c :: read) (d :: rest)

/-- A text, of which a mark is the first letter. -/
def markedText (mark : Char) (rest : Letters) : TextReader (Lettering × Letters) := do
  extendIf (mark = '\'')
  let (l, rest) ← textTo mark .plain [] rest
  extendIf (l.spelling = .extended && mark = '"')
  return (l, rest)

/-! ## Words -/

/-- Words that stand for a document, whether that is so in the extended form only, where case does not
count. -/
def words : List (String × Bool × Document) :=
  [("true", false, truth true), ("false", false, truth false), ("null", false, null),
    ("inf", true, infinity false), ("infinity", true, infinity false), ("nan", true, null),
    ("qnan", true, null), ("snan", true, null)]

/-- What stands behind a word, which may count without regard to case. -/
def behindWord? (word : String) (isCaseless : Bool) (cs : Letters) : Option Letters :=
  let own := cs.take word.length
  let own := if isCaseless then own.map Char.toLower else own
  if own = word.toList then some (cs.drop word.length) else none

/-- The document that the word at the start stands for. -/
def word? (cs : Letters) : Option (Document × Bool × Letters) :=
  words.findSome? fun (word, isExtended, d) =>
    match behindWord? word isExtended cs with
    | some rest => if rest.head?.any Char.isAlphanum then none else some (d, isExtended, rest)
    | none => none

/-- Whether a letter may begin a name. -/
def isNameStart (c : Char) : Bool := c.isAlpha || c = '_' || c = '$' || 0x80 ≤ c.toNat

/-- The letters of a name, whether it has escapes, and what follows. What is read already comes from
the back. -/
def nameFrom (hasEscapes : Bool) (read : Letters) : Letters → Lettering × Letters
  | [] => (⟨if hasEscapes then .escaped else .plain, read.reverse⟩, [])
  | c :: rest =>
    let isEscape := c = '\\' && rest.head? = some 'u' && hasHexDigits 4 rest.tail
    let isOwn := isNameStart c && (behindBlank? (c :: rest)).isNone || !read.isEmpty && c.isDigit
    if isEscape || isOwn then nameFrom (hasEscapes || isEscape) (c :: read) rest
    else (⟨if hasEscapes then .escaped else .plain, read.reverse⟩, c :: rest)

/-! ## Numbers -/

/-- A number as it is written, of which some letters are read already, from the back. -/
structure Figures where
  read : Letters
  isReal : Bool := false
  hasExponent : Bool := false
  isExtended : Bool := false

namespace Figures

variable (f : Figures)

/-- Read one more letter. -/
def push (c : Char) : Figures := { f with read := c :: f.read }

/-- The number where its digits have to be complete, which a point at the end makes extended. -/
def complete? : Option Figures :=
  match f.read with
  | c :: rest =>
    if '0' ≤ c then some f
    else if c = '.' && rest.head?.any Char.isDigit then some { f with isExtended := true }
    else none
  | [] => none

/-- The number with an exponent, for which a letter stands, and what follows. The exponent has its
sign and its first digit. -/
def withExponent (mark : Char) (rest : Letters) : Except Letters (Figures × Letters) :=
  match f.complete?, f.hasExponent, rest with
  | some f, false, s :: behind =>
    let f := { f.push mark with isReal := true, hasExponent := true }
    if s.isDigit then return (f.push s, behind)
    else if s = '+' || s = '-' then
      match behind with
      | d :: behind => if d.isDigit then return ((f.push s).push d, behind) else throw rest
      | [] => throw rest
    else throw (mark :: rest)
  | _, _, _ => throw (mark :: rest)

/-- The number that goes on, at most so far, and what follows. -/
def goOn : (fuel : Nat) → Figures → Letters → Except Letters (Figures × Letters)
  | 0, _, cs => throw cs
  | fuel + 1, f, cs =>
    match cs with
    | '.' :: rest =>
      if f.isReal then throw cs else goOn fuel { f.push '.' with isReal := true } rest
    | c :: rest => do
      if c.isDigit then goOn fuel (f.push c) rest
      else if c = 'e' || c = 'E' then
        let (f, rest) ← f.withExponent c rest
        goOn fuel f rest
      else (f.complete?).elim (throw cs) fun f => return (f, cs)
    | [] => (f.complete?).elim (throw []) fun f => return (f, [])

/-- The number. -/
def document : Document :=
  let letters := f.read.reverse
  .number f.isReal f.isExtended (if letters.head? = some '+' then letters.tail else letters)

end Figures

/-- The digits of base sixteen at the start, behind a sign or none, if there are any. -/
def hexFigures? (cs : Letters) : Option (Figures × Letters) :=
  let (sign, rest) := match cs with
    | '+' :: rest => (['+'], rest)
    | '-' :: rest => (['-'], rest)
    | cs => ([], cs)
  match rest with
  | '0' :: x :: digits =>
    let isDigit := fun c => (Numeral.hexDigit? c).isSome
    if (x = 'x' || x = 'X') && digits.head?.any isDigit then
      let own := sign ++ '0' :: x :: digits.takeWhile isDigit
      some ({ read := own.reverse, isExtended := true }, digits.dropWhile isDigit)
    else none
  | _ => none

/-- The largest number or its negative behind a sign. -/
def behindInfinity? (rest : Letters) : Option Letters :=
  (behindWord? "infinity" true rest).or (behindWord? "inf" true rest)

/-- The number at the start. -/
def anyNumber (cs : Letters) : TextReader (Document × Letters) := do
  let rest := cs.tail
  let isSign := ['+', '-'].contains (cs.headD ' ')
  extendIf (cs.head? = some '+')
  match hexFigures? cs, if isSign then behindInfinity? rest else none with
  | some (f, rest), _ =>
    extend
    return (f.document, rest)
  | none, some rest =>
    extend
    return (infinity (cs.head? = some '-'), rest)
  | none, none =>
    let digits := if isSign then rest else cs
    if digits.head? = some '0' && digits.tail.head?.any Char.isDigit then
      throw rest
    let hasPoint := digits.head? = some '.'
    let isFit := if isSign then hasPoint || digits.head?.any Char.isDigit
      else !hasPoint || digits.tail.head?.any Char.isDigit
    if !isFit then throw cs
    let f : Figures :=
      { read := [cs.headD ' '], isReal := hasPoint && !isSign, isExtended := hasPoint }
    let (f, rest) ← f.goOn (cs.length + 1) rest
    extendIf f.isExtended
    return (f.document, rest)

/-! ## Documents -/

/-- What is met in a text. -/
inductive Piece
  | part (d : Document)
  /-- A letter that ends a part or stands between two. -/
  | mark (c : Char)
  | nothing

/-- No document has parts in more parts than this. -/
def depthLimit : Nat := 1000

mutual

/-- What is met next in a text, and what stands behind a part or from a mark on. -/
def piece (fuel depth : Nat) (cs : Letters) : TextReader (Piece × Letters) :=
  match fuel with
  | 0 => throw cs
  | fuel + 1 => do
    let cs ← skipBlanks fuel cs
    match cs with
    | [] => return (.nothing, [])
    | c :: rest =>
      if [',', ':', ']', '\x7d'].contains c then
        modify fun n => { n with mark := some cs }
        return (.mark c, cs)
      else if c = '[' || c = '\x7b' then
        if depthLimit ≤ depth then throw cs
        if c = '[' then
          let (ds, rest) ← items fuel (depth + 1) true rest
          return (.part (.array ds), rest)
        else
          let (ms, rest) ← members fuel (depth + 1) true rest
          return (.part (.object ms), rest)
      else if c = '"' || c = '\'' then
        let (l, rest) ← markedText c rest
        return (.part (.text l), rest)
      else if c.isDigit || ['+', '-', '.'].contains c then
        let (d, rest) ← anyNumber cs
        return (.part d, rest)
      else
        match word? cs with
        | some (d, isExtended, rest) =>
          extendIf isExtended
          return (.part d, rest)
        | none => throw cs

/-- Whether another part follows a part, before the letter that ends them all, and what stands
behind that. -/
def next (fuel depth : Nat) (close : Char) (cs : Letters) : TextReader (Bool × Letters) :=
  match fuel with
  | 0 => throw cs
  | fuel + 1 => do
    let cs := cs.dropWhile isBlank
    let met ←
      if cs.head? = some ',' || cs.head? = some close then pure (.mark (cs.headD ' '), cs)
      else tryCatch (piece fuel depth cs) fun _ => throw cs
    match met with
    | (.mark c, rest) =>
      if c = ',' then return (true, rest.tail)
      else if c = close then return (false, rest.tail)
      else throw cs
    | _ => throw cs

/-- The items of an array, and what stands behind it. -/
def items (fuel depth : Nat) (isFirst : Bool) (cs : Letters) :
    TextReader (List Document × Letters) :=
  match fuel with
  | 0 => throw cs
  | fuel + 1 => do
    match ← piece fuel depth cs with
    | (.part d, rest) =>
      let (goesOn, rest) ← next fuel depth ']' rest
      if !goesOn then return ([d], rest)
      let (ds, rest) ← items fuel depth false rest
      return (d :: ds, rest)
    | (.mark ']', rest) =>
      extendIf !isFirst
      return ([], rest.tail)
    | _ => throw cs

/-- The text that names a member, or none at the end of the object, and what follows. -/
def label (fuel depth : Nat) (cs : Letters) : TextReader (Option Lettering × Letters) :=
  match fuel with
  | 0 => throw cs
  | fuel + 1 => do
    let met ← tryCatch (Except.ok <$> piece fuel depth cs) fun fault => pure (.error fault)
    match met with
    | .ok (.part (.text l), rest) => return (some l, rest)
    | .ok (.part _, _) => throw cs
    | .ok (.mark '\x7d', rest) => return (none, rest.tail)
    | met =>
      let start ← skipBlanks fuel cs
      let (l, rest) := nameFrom false [] start
      if l.letters.isEmpty then
        throw (match met with
          | .error fault => fault
          | .ok _ => start)
      extend
      return (some l, rest)

/-- What stands behind a colon. -/
def behindColon (fuel depth : Nat) (cs : Letters) : TextReader Letters :=
  match fuel with
  | 0 => throw cs
  | fuel + 1 => do
    let cs := cs.dropWhile isBlank
    if cs.head? = some ':' then return cs.tail
    match ← piece fuel depth cs with
    | (.mark ':', rest) => return rest.tail
    | _ => throw cs

/-- The members of an object, and what stands behind it. -/
def members (fuel depth : Nat) (isFirst : Bool) (cs : Letters) :
    TextReader (List (Lettering × Document) × Letters) :=
  match fuel with
  | 0 => throw cs
  | fuel + 1 => do
    match ← label fuel depth cs with
    | (none, rest) =>
      extendIf !isFirst
      return ([], rest)
    | (some l, rest) =>
      let behind ← behindColon fuel depth rest
      match ← piece fuel depth behind with
      | (.part d, rest) =>
        let (goesOn, rest) ← next fuel depth '\x7d' rest
        if !goesOn then return ([(l, d)], rest)
        let (ms, rest) ← members fuel depth false rest
        return ((l, d) :: ms, rest)
      | _ => throw behind

end

/-- Read a document that is all of a text. -/
def wholeText (cs : Letters) : TextReader Document := do
  match ← piece (3 * cs.length + 3) 0 cs with
  | (.part d, rest) =>
    let rest ← skipBlanks cs.length rest
    if rest.isEmpty then return d
    throw ((← get).mark.getD cs)
  | _ => throw ((← get).mark.getD cs)

/-- The document that a text writes up to the first letter that is zero, and whether that takes the
extended form; or how many letters stand before a fault in it. -/
def ofText (cs : Letters) : Except Nat (Document × Bool) :=
  let cs := cs.takeWhile (· ≠ '\x00')
  match (wholeText cs).run {} with
  | (.ok d, n) => .ok (d, n.isExtended)
  | (.error rest, _) => .error (cs.length - rest.length)

end Document
end Sql
end FlowAtlas
