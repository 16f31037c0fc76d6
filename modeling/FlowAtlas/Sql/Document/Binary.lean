import FlowAtlas.Sql.Document

/-!
# The binary form of documents

In its binary form, a document is a head and the letters of a number or a text, or the binary forms of
its parts one after another, where the text that names a member stands before it. A head tells the
kind of the document and how many letters follow. `Document.binary` writes the form and
`Document.ofBinary?` reads it.
-/

set_option autoImplicit false

namespace FlowAtlas
namespace Sql

/-! ## Writing -/

/-- The letter of a number below 256. -/
def letterOf (n : Nat) : Char := Char.ofNat (n % 256)

/-- The head of something of a kind, of some size. -/
def binaryHead (kind size : Nat) : Letters :=
  if size < 12 then [letterOf (16 * size + kind)]
  else if size < Nat.pow 2 8 then [letterOf (16 * 12 + kind), letterOf size]
  else if size < Nat.pow 2 16 then
    [letterOf (16 * 13 + kind), letterOf (size / Nat.pow 2 8), letterOf size]
  else
    [letterOf (16 * 14 + kind), letterOf (size / Nat.pow 2 24), letterOf (size / Nat.pow 2 16),
      letterOf (size / Nat.pow 2 8), letterOf size]

/-- The kind of a text. -/
def Spelling.kind : Spelling → Nat
  | plain => 7
  | escaped => 8
  | extended => 9
  | raw => 10

/-- The binary form of a text. -/
def Lettering.binary (t : Lettering) : Letters :=
  binaryHead t.spelling.kind t.letters.length ++ t.letters

/-- How many letters something fills in binary form, without its head and with it. -/
def headedSize (size : Nat) : Nat := (binaryHead 0 size).length + size

namespace Document

mutual

/-- How many letters a document fills in binary form, without its head. -/
def bodySize : Document → Nat
  | null | truth _ => 0
  | number _ _ letters => letters.length
  | text t => t.letters.length
  | array items => itemsSize items
  | object members => membersSize members

/-- How many letters items fill. -/
def itemsSize : List Document → Nat
  | [] => 0
  | d :: ds => headedSize d.bodySize + itemsSize ds

/-- How many letters members fill. -/
def membersSize : List (Lettering × Document) → Nat
  | [] => 0
  | (t, d) :: rest => headedSize t.letters.length + headedSize d.bodySize + membersSize rest

end

/-- How many letters a document fills in binary form. -/
def size (d : Document) : Nat := headedSize d.bodySize

/-- The kind of a document. -/
def kind : Document → Nat
  | null => 0
  | truth b => if b then 1 else 2
  | number isReal isExtended _ => 3 + (if isReal then 2 else 0) + if isExtended then 1 else 0
  | text t => t.spelling.kind
  | array _ => 11
  | object _ => 12

mutual

/-- The binary form of a document before some letters. -/
def binaryBefore (d : Document) (after : Letters) : Letters :=
  binaryHead d.kind d.bodySize ++
    match d with
    | null | truth _ => after
    | number _ _ letters => letters ++ after
    | text t => t.letters ++ after
    | array items => binaryItems items after
    | object members => binaryMembers members after

/-- The binary forms of items one after another before some letters. -/
def binaryItems (items : List Document) (after : Letters) : Letters :=
  match items with
  | [] => after
  | d :: ds => d.binaryBefore (binaryItems ds after)

/-- The binary forms of members one after another before some letters. -/
def binaryMembers (members : List (Lettering × Document)) (after : Letters) : Letters :=
  match members with
  | [] => after
  | (t, d) :: rest => t.binary ++ d.binaryBefore (binaryMembers rest after)

end

/-- The binary form of a document. -/
def binary (d : Document) : Letters := d.binaryBefore []

/-! ## Reading -/

/-- The number that letters write, the first of which counts most. -/
def sizeOf (letters : Letters) : Nat := letters.foldl (fun n c => 256 * n + c.toNat) 0

/-- How many letters behind the first one tell a size, by the number that stands for it. -/
def sizeWidth (mark : Nat) : Nat :=
  if mark < 12 then 0 else if mark = 12 then 1 else if mark = 13 then 2 else if mark = 14 then 4
  else 8

/-- The kind that a head tells, the letters that belong to it, and what stands behind them. -/
def behindHead? : Letters → Option (Nat × Letters × Letters)
  | [] => none
  | c :: rest =>
    let mark := c.toNat / 16
    let width := sizeWidth mark
    let size := if mark < 12 then mark else sizeOf (rest.take width)
    let behind := rest.drop width
    if rest.length < width || behind.length < size then none
    else some (c.toNat % 16, behind.take size, behind.drop size)

/-- Whether letters look like a document in binary form. -/
def isBinary (letters : Letters) : Bool :=
  match behindHead? letters with
  | some (kind, own, []) => kind ≤ 12 && (2 < kind || own.isEmpty)
  | _ => false

/-- The spelling of a kind of texts. -/
def spellingOf? (kind : Nat) : Option Spelling :=
  [Spelling.plain, .escaped, .extended, .raw].find? (·.kind = kind)

/-- A document without parts, of a kind. -/
def simpleOf? (kind : Nat) (letters : Letters) : Option Document :=
  match kind, spellingOf? kind with
  | 0, _ => if letters.isEmpty then some null else none
  | 1, _ => if letters.isEmpty then some (truth true) else none
  | 2, _ => if letters.isEmpty then some (truth false) else none
  | _, some spelling => some (text ⟨spelling, letters⟩)
  | kind, none =>
    if kind ≤ 6 && !letters.isEmpty then
      some (number (5 ≤ kind) (kind = 4 || kind = 6) letters)
    else none

/-- Each second document is a member that the text before it names. -/
def membersOf? : List Document → Option (List (Lettering × Document))
  | [] => some []
  | text t :: d :: rest => (membersOf? rest).map ((t, d) :: ·)
  | _ => none

/-- The documents that letters write in binary form, where the fuel is more than the letters. -/
def allOfBinary? : (fuel : Nat) → Letters → Option (List Document)
  | 0, _ => none
  | fuel + 1, letters =>
    if letters.isEmpty then some []
    else do
      let (kind, own, rest) ← behindHead? letters
      let d ←
        if kind = 11 then (allOfBinary? fuel own).map array
        else if kind = 12 then ((allOfBinary? fuel own).bind membersOf?).map object
        else simpleOf? kind own
      return d :: (← allOfBinary? fuel rest)

/-- The document that letters write in binary form. -/
def ofBinary? (letters : Letters) : Option Document :=
  match allOfBinary? (letters.length + 1) letters with
  | some [d] => some d
  | _ => none

end Document
end Sql
end FlowAtlas
