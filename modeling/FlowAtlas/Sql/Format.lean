import FlowAtlas.Sql.Value

/-!
# Texts with values put in

A form is a text in which `%` and a letter stand for a value. Between the two there may be flags, a
width, a precision behind a point, and letters for the size of the value, which count for nothing.
`Format.text?` puts values into a form, one after another; a value that is not given is nothing. A
letter that is not known ends the text.
-/

set_option autoImplicit false

namespace FlowAtlas
namespace Sql
namespace Format

open Database (Value Encoding)

/-! ## Directions -/

/-- How a value is put into a text. -/
structure Direction where
  isLeft : Bool := false
  /-- What stands before a number that is not negative. -/
  sign : Option Char := none
  isAlternate : Bool := false
  /-- Whether widths count characters, and numbers have as many digits as are known. -/
  isFull : Bool := false
  fillsZeros : Bool := false
  hasCommas : Bool := false
  width : Nat := 0
  precision : Option Nat := none
  /-- The letter that tells the kind of the value. -/
  letter : Char := '%'
  deriving DecidableEq, Repr, Inhabited

/-- Take a flag into account, if a character is one. -/
def Direction.flag? (d : Direction) (c : Char) : Option Direction :=
  match c with
  | '-' => some { d with isLeft := true }
  | '+' => some { d with sign := some '+' }
  | ' ' => some { d with sign := some ' ' }
  | '#' => some { d with isAlternate := true }
  | '!' => some { d with isFull := true }
  | '0' => some { d with fillsZeros := true }
  | ',' => some { d with hasCommas := true }
  | _ => none

/-- Take the flags at the start into account. -/
def flags (d : Direction) : List Char → Direction × List Char
  | [] => (d, [])
  | c :: rest =>
    match d.flag? c with
    | some d => flags d rest
    | none => (d, c :: rest)

/-- Numbers that tell a width or a precision are cut to so many values. -/
def sizeLimit : Nat := Nat.pow 2 31

/-- The number that digits tell. -/
def sizeOf (digits : List Char) : Nat := NumberText.ofDigits digits % sizeLimit

variable (e : Encoding)

/-- The next value, if there is one, and the others. -/
def next (args : List Value) : Value × List Value := (args.headD .null, args.tail)

/-- The short whole number that a value is. -/
def shortOf (v : Value) : Int := Int.bmod (wholeOf e v) (Nat.pow 2 32)

/-- The width at the start. A negative one among the values asks for the left side. -/
def widthOf (d : Direction) (args : List Value) : List Char → Direction × List Value × List Char
  | '*' :: rest =>
    let (v, args) := next args
    let n := shortOf e v
    let width := if n = -Int.pow 2 31 then 0 else n.natAbs
    ({ d with width, isLeft := d.isLeft || n < 0 }, args, rest)
  | cs => ({ d with width := sizeOf (cs.takeWhile Char.isDigit) }, args, cs.dropWhile Char.isDigit)

/-- The precision at the start, behind a point. -/
def precisionOf (d : Direction) (args : List Value) : List Char →
    Direction × List Value × List Char
  | '.' :: '*' :: rest =>
    let (v, args) := next args
    let n := shortOf e v
    ({ d with precision := if n = -Int.pow 2 31 then none else some n.natAbs }, args, rest)
  | '.' :: rest =>
    ({ d with precision := some (sizeOf (rest.takeWhile Char.isDigit)) }, args,
      rest.dropWhile Char.isDigit)
  | cs => (d, args, cs)

/-- What stands behind letters for the size of a value. -/
def withoutSize : List Char → List Char
  | 'l' :: 'l' :: rest | 'l' :: rest => rest
  | cs => cs

/-- The direction at the start, the values that are left, and what stands behind it. -/
def direction (args : List Value) (cs : List Char) : Direction × List Value × List Char :=
  let (d, cs) := flags {} cs
  let (d, args, cs) := widthOf e d args cs
  let (d, args, cs) := precisionOf e d args cs
  let cs := withoutSize cs
  ({ d with letter := cs.headD '\x00' }, args, cs.tail)

/-! ## Pieces -/

/-- A text that fills at least a width. -/
def Direction.fill (d : Direction) (width : Nat) (bs : Bytes) : Bytes :=
  let blanks := List.replicate (width - bs.length) (32 : UInt8)
  if d.isLeft then bs ++ blanks else blanks ++ bs

/-- Characters that stand for bytes. -/
def ofChars (cs : List Char) : Bytes := cs.map fun c => UInt8.ofNat c.toNat

/-- The letters behind a number that tells a place in a row. -/
def ordinalEnd (n : Nat) : List Char :=
  match n % 10, n / 10 % 10 with
  | _, 1 => ['t', 'h']
  | 1, _ => ['s', 't']
  | 2, _ => ['n', 'd']
  | 3, _ => ['r', 'd']
  | _, _ => ['t', 'h']

/-- A whole number without its sign, in a base. -/
def Direction.whole (d : Direction) (base : Nat) (sign : Option Char) (n : Nat) : List Char :=
  let digits := Nat.toDigits base n
  let digits := if d.letter = 'X' || d.letter = 'p' then digits.map Char.toUpper else digits
  let digits := digits ++ if d.letter = 'r' then ordinalEnd n else []
  let least := max (d.precision.getD 0) (if d.fillsZeros then d.width - sign.toList.length else 0)
  let digits := List.replicate (least - digits.length) '0' ++ digits
  let digits := if d.hasCommas && base = 10 && d.letter ≠ 'r' then RealForm.grouped digits
    else digits
  let mark := match d.letter with
    | 'o' => ['0']
    | 'x' | 'p' => ['0', 'x']
    | 'X' => ['0', 'X']
    | _ => []
  (if d.isAlternate && n ≠ 0 then mark else []) ++ sign.toList ++ digits

/-- A whole number with its sign. -/
def Direction.signed (d : Direction) (n : Int) : List Char :=
  d.whole 10 (if n < 0 then some '-' else d.sign) n.natAbs

/-- A number of double precision. -/
def Direction.real (d : Direction) (style : RealStyle) (x : Float) : List Char :=
  let f : RealForm :=
    { style, precision := d.precision.getD 6, isFull := d.isFull, isAlternate := d.isAlternate
      hasCommas := d.hasCommas, mark := if d.letter.isUpper then 'E' else 'e' }
  let sign := if x < 0 then some '-' else d.sign
  if x.isInf && !d.fillsZeros then sign.toList ++ ['I', 'n', 'f']
  else
    let text := if x.isInf then f.digitsText ⟨['9'], 1000⟩ else f.text x
    let zeros := if d.fillsZeros && !d.isLeft then d.width - text.length - sign.toList.length else 0
    sign.toList ++ List.replicate zeros '0' ++ text

/-- How many bytes go on with a character that began before. -/
def tails (bs : Bytes) : Nat := (bs.filter fun b => b / 64 = 2).length

/-- The bytes of so many characters at the start. -/
def firstCharacters : (count : Nat) → Bytes → Bytes
  | 0, _ | _, [] => []
  | count + 1, b :: rest =>
    let tail := if b < 0xc0 then [] else rest.takeWhile fun b => b / 64 = 2
    b :: (tail ++ firstCharacters count (rest.drop tail.length))
termination_by count => count

/-- As much of a text as is asked for. -/
def Direction.cut (d : Direction) (bs : Bytes) : Bytes :=
  match d.precision with
  | none => bs
  | some n => if d.isFull then firstCharacters n bs else bs.take n

/-- A text that fills at least the width, which may count characters. -/
def Direction.fillText (d : Direction) (bs : Bytes) : Bytes :=
  d.fill (if d.isFull then d.width + tails bs else d.width) bs

/-- A text with a mark doubled. -/
def doubled (mark : UInt8) (bs : Bytes) : Bytes := bs.flatMap fun b => if b = mark then [b, b] else [b]

/-- A text in which quotation marks are doubled, between such marks if that is asked for. -/
def Direction.quoted (d : Direction) (bs : Option Bytes) : Bytes :=
  match bs, d.letter with
  | none, 'Q' => d.cut (Bytes.ofText "NULL")
  | none, _ => d.cut (Bytes.ofText "(NULL)")
  | some bs, 'Q' => [39] ++ doubled 39 (d.cut bs) ++ [39]
  | some bs, 'w' => doubled 34 (d.cut bs)
  | some bs, _ => doubled 39 (d.cut bs)

/-- The first character of a text, as often as the precision says. -/
def Direction.character (d : Direction) (bs : Bytes) : Bytes :=
  let c := if bs.isEmpty then [0] else firstCharacters 1 bs
  let times := max 1 (d.precision.getD 1)
  let all := (List.replicate times c).flatten
  d.fill (d.width + (all.length - times)) all

/-! ## Putting in -/

/-- The bytes of a value as a text, up to the first one that is zero, if it is there. -/
def textOf? (v : Value) : Option Bytes :=
  if v = .null then none else some ((Texts.bytes e v).takeWhile (· ≠ 0))

/-- Put a value in. -/
def Direction.put? (d : Direction) (v : Value) : Option Bytes :=
  let fill := fun cs => d.fill d.width (ofChars cs)
  let bits := bitsOf (wholeOf e v)
  let x := realOf e v
  match d.letter with
  | 'd' | 'i' | 'r' => some (fill (d.signed (wholeOf e v)))
  | 'u' => some (fill (d.whole 10 none bits))
  | 'x' | 'X' | 'p' => some (fill (d.whole 16 none bits))
  | 'o' => some (fill (d.whole 8 none bits))
  | 'f' => some (fill (d.real .fixed x))
  | 'e' | 'E' => some (fill (d.real .exponent x))
  | 'g' | 'G' => some (fill (d.real .general x))
  | 's' | 'z' => some (d.fillText (d.cut ((textOf? e v).getD [])))
  | 'q' | 'Q' | 'w' => some (d.fillText (d.quoted (textOf? e v)))
  | 'c' => some (d.character ((textOf? e v).getD []))
  | _ => none

/-- No text has more bytes than this. -/
def lengthLimit : Nat := 1000000000

/-- Whether a value would be a text that is too long. -/
def Direction.isTooLong (d : Direction) : Bool :=
  let isText := ['s', 'z', 'q', 'Q', 'w', 'n'].contains d.letter
  lengthLimit < d.width || !isText && d.precision.any (lengthLimit < ·)

/-- Go on with a text, into which values are put. There is none as long as nothing was put in, or if
it is too long. -/
def go : (fuel : Nat) → (args : List Value) → (before : Option Bytes) → List Char → Option Bytes
  | 0, _, before, _ => before
  | fuel + 1, args, before, cs =>
    let add := fun bs : Bytes => some (before.getD [] ++ bs)
    let plain := cs.takeWhile (· ≠ '%')
    match cs.dropWhile (· ≠ '%') with
    | [] => if plain.isEmpty then before else add (ofChars plain)
    | [_] => add (ofChars cs)
    | _ :: rest =>
      let before := if plain.isEmpty then before else add (ofChars plain)
      let add := fun bs : Bytes => some (before.getD [] ++ bs)
      let (d, args, rest) := direction e args rest
      if d.isTooLong then none
      else if d.letter = '%' then go fuel args (add (d.fill d.width [37])) rest
      else if d.letter = 'n' then go fuel args (add []) rest
      else
        let (v, others) := next args
        match d.put? e v with
        | none => before
        | some bs => go fuel others (add bs) rest

/-- Values put into a form, if anything is put in. -/
def text? (form : Bytes) (args : List Value) : Option Bytes :=
  let cs := (form.takeWhile (· ≠ 0)).map fun b => Char.ofNat b.toNat
  go e (cs.length + 1) args none cs

end Format
end Sql
end FlowAtlas
