import FlowAtlas.Database.Error
import FlowAtlas.Database.Number

/-!
# Pages of a tree

A page of a tree holds cells: the numbers of their places stand in order behind the description of
the page, and the cells themselves fill the page from its end. What is free between cells is chained
in order of place, and gaps of less than four bytes are only counted.

`Page.insert` and `Page.remove` put a cell in and take it out, and `Page.pack` moves the cells
together. Each keeps every byte that it need not touch.
-/

set_option autoImplicit false

namespace FlowAtlas
namespace Database

/-- What may fail on a database. -/
abbrev Attempt := Except DatabaseError

/-- A page, and where the description of its cells starts, which is behind the header of the file on
the first page. -/
structure Page where
  bytes : Array UInt8
  start : Nat := 0
  /-- How many bytes may be used, from the start of the page on. -/
  usable : Nat
  deriving DecidableEq, Repr, Inhabited

/-- What a page holds. -/
inductive PageKind
  | indexNode
  | tableNode
  | indexLeaf
  | tableLeaf
  deriving DecidableEq, Repr, Inhabited

namespace PageKind

/-- The code of a kind. -/
def code : PageKind → Nat
  | indexNode => 2
  | tableNode => 5
  | indexLeaf => 10
  | tableLeaf => 13

/-- Every kind. -/
def all : List PageKind := [indexNode, tableNode, indexLeaf, tableLeaf]

/-- The kind of a code. -/
def ofCode? (code : Nat) : Option PageKind := all.find? (·.code = code)

/-- Whether no pages hang below. -/
def isLeaf : PageKind → Bool
  | indexLeaf | tableLeaf => true
  | _ => false

/-- Whether the cells go by numbers of rows. -/
def isTable : PageKind → Bool
  | tableNode | tableLeaf => true
  | _ => false

/-- The kind of the lowest pages below a page of a kind. -/
def lowest : PageKind → PageKind
  | indexNode | indexLeaf => indexLeaf
  | tableNode | tableLeaf => tableLeaf

/-- The kind of a page above pages of a kind. -/
def above : PageKind → PageKind
  | indexNode | indexLeaf => indexNode
  | tableNode | tableLeaf => tableNode

end PageKind

namespace Page

/-! ## Bytes -/

/-- The byte at a place. -/
def byte (p : Page) (i : Nat) : Nat := (p.bytes.getD i 0).toNat

/-- The number of two bytes at a place. -/
def half (p : Page) (i : Nat) : Nat := p.byte i * 256 + p.byte (i + 1)

/-- The number of four bytes at a place. -/
def word (p : Page) (i : Nat) : Nat := p.half i * 65536 + p.half (i + 2)

/-- The bytes from a place on. -/
def slice (p : Page) (i size : Nat) : Bytes := (p.bytes.extract i (i + size)).toList

/-- Put bytes at a place. -/
def put (p : Page) (i : Nat) (bs : Bytes) : Page :=
  { p with bytes := (bs.foldl (fun (a, j) b => (a.setIfInBounds j b, j + 1)) (p.bytes, i)).1 }

/-- Put a number of one byte at a place. -/
def putByte (p : Page) (i n : Nat) : Page := p.put i (bigEndian 1 n)

/-- Put a number of two bytes at a place. -/
def putHalf (p : Page) (i n : Nat) : Page := p.put i (bigEndian 2 n)

/-- Put a number of four bytes at a place. -/
def putWord (p : Page) (i n : Nat) : Page := p.put i (bigEndian 4 n)

/-! ## Description -/

/-- What the page holds, if that is known. -/
def kind? (p : Page) : Option PageKind := PageKind.ofCode? (p.byte p.start)

/-- What the page holds. -/
def kind (p : Page) : PageKind := p.kind?.getD .tableLeaf

/-- How many bytes of a cell name a page below. -/
def childSize (p : Page) : Nat := if p.kind.isLeaf then 0 else 4

/-- Where the places of the cells stand. -/
def places (p : Page) : Nat := p.start + 8 + p.childSize

/-- How many cells there are. -/
def count (p : Page) : Nat := p.half (p.start + 3)

/-- Where the place of the next cell would stand. -/
def placesEnd (p : Page) : Nat := p.places + 2 * p.count

/-- Where the cells start. -/
def top (p : Page) : Nat :=
  match p.half (p.start + 5) with
  | 0 => 65536
  | n => n

/-- The first free block between cells. -/
def firstFree (p : Page) : Nat := p.half (p.start + 1)

/-- How many bytes are in gaps too small for a block. -/
def gaps (p : Page) : Nat := p.byte (p.start + 7)

/-- Set where the cells start. -/
def setTop (p : Page) (n : Nat) : Page := p.putHalf (p.start + 5) n

/-- Set how many cells there are. -/
def setCount (p : Page) (n : Nat) : Page := p.putHalf (p.start + 3) n

/-- The page below that holds what comes after the last cell. -/
def lastChild (p : Page) : Nat := p.word (p.start + 8)

/-- Set the page below that holds what comes after the last cell. -/
def setLastChild (p : Page) (n : Nat) : Page := p.putWord (p.start + 8) n

/-- The place of a cell. -/
def placeOf (p : Page) (i : Nat) : Nat := p.half (p.places + 2 * i) % p.bytes.size

/-- Make a page of a kind without cells. What else stands on the page stays. -/
def clear (p : Page) (kind : PageKind) : Page :=
  (((p.putByte p.start kind.code).put (p.start + 1) [0, 0, 0, 0]).putByte (p.start + 7) 0).setTop
    p.usable

/-! ## Cells -/

/-- What a cell says. -/
structure Cell where
  /-- The page below that holds what comes before the cell. -/
  child : Nat := 0
  /-- The number of the row, on pages of a table. -/
  row : Int := 0
  /-- The length of the content. -/
  length : Nat := 0
  /-- Where the content starts, counted from the start of the cell. -/
  content : Nat := 0
  /-- How much of the content is on the page. -/
  localSize : Nat := 0
  /-- The page with the rest of the content. -/
  more : Nat := 0
  /-- How many bytes the cell fills. -/
  size : Nat := 0
  deriving DecidableEq, Repr, Inhabited

/-- The most content of a cell that is kept on the page. -/
def maxLocal (usable : Nat) (isTable : Bool) : Nat :=
  if isTable then usable - 35 else (usable - 12) * 64 / 255 - 23

/-- The least content of a cell that is kept on the page when there is more. -/
def minLocal (usable : Nat) : Nat := (usable - 12) * 32 / 255 - 23

/-- How much of a content is kept on the page. -/
def localSize (usable : Nat) (isTable : Bool) (length : Nat) : Nat :=
  if length ≤ maxLocal usable isTable then length
  else
    let least := minLocal usable
    let size := least + (length - least) % (usable - 4)
    if size ≤ maxLocal usable isTable then size else least

/-- Read a cell of a page of a kind. -/
def cellOf (usable : Nat) (kind : PageKind) (byteAt : Nat → Nat) : Cell :=
  let wordAt := fun i => ((byteAt i * 256 + byteAt (i + 1)) * 256 + byteAt (i + 2)) * 256 +
    byteAt (i + 3)
  let child := if kind.isLeaf then 0 else wordAt 0
  let i := if kind.isLeaf then 0 else 4
  match kind with
  | .tableNode =>
    let (row, j) := Varint.decode byteAt i
    { child, row := signed 8 row, size := j }
  | _ =>
    let (length, i) := Varint.decode byteAt i
    let length := length % Nat.pow 2 32
    let (row, i) := if kind.isTable then Varint.decode byteAt i else (0, i)
    let size := localSize usable kind.isTable length
    if size = length then
      { child, row := signed 8 row, length, content := i, localSize := size
        size := max 4 (i + size) }
    else
      { child, row := signed 8 row, length, content := i, localSize := size
        more := wordAt (i + size), size := i + size + 4 }

/-- Read the cell at a place. -/
def cellAt (p : Page) (place : Nat) : Cell := cellOf p.usable p.kind fun i => p.byte (place + i)

/-- Read a cell by its number. -/
def cell (p : Page) (i : Nat) : Cell := p.cellAt (p.placeOf i)

/-- The bytes of a cell. -/
def cellBytes (p : Page) (i : Nat) : Bytes := p.slice (p.placeOf i) (p.cell i).size

/-- The page below with the number `i`. -/
def child (p : Page) (i : Nat) : Nat := if i < p.count then (p.cell i).child else p.lastChild

/-! ## Free space -/

/-- Add up the free blocks from one on. -/
def freeFrom (p : Page) : (fuel block : Nat) → Attempt Nat
  | 0, _ => .error .malformed
  | fuel + 1, block =>
    let next := p.half block
    let size := p.half (block + 2)
    if p.usable - 4 < block then .error .malformed
    else if block + size + 3 < next then return size + (← freeFrom p fuel next)
    else if 0 < next || p.usable < block + size then .error .malformed
    else .ok size

/-- How many bytes are free. -/
def free (p : Page) : Attempt Nat := do
  let blocks ←
    if p.firstFree = 0 then pure 0
    else if p.firstFree < p.top then throw .malformed
    else p.freeFrom p.usable p.firstFree
  let total := p.gaps + p.top + blocks
  if p.usable < total || total < p.placesEnd then .error .malformed
  else .ok (total - p.placesEnd)

/-! ## Packing -/

/-- Add to the places of the cells what a function says of each. -/
def movePlaces (p : Page) (shift : Nat → Nat) : Page :=
  (List.range p.count).foldl (fun q i =>
    let place := p.half (p.places + 2 * i)
    q.putHalf (p.places + 2 * i) (place + shift place)) p

/-- Move bytes to another place. -/
def copyWithin (p : Page) (source target size : Nat) : Page := p.put target (p.slice source size)

/-- Close one or two free blocks by moving what stands before them. The answer is where the cells
start then. -/
def closeBlocks (p : Page) (first second : Nat) : Attempt (Page × Nat) := do
  let size := p.half (first + 2)
  let size2 := if second = 0 then 0 else p.half (second + 2)
  let stop := if second = 0 then first + size else second + size2
  if first ≤ p.top || p.usable < stop || second ≠ 0 && second < first + size then throw .malformed
  let p := if second = 0 then p
    else p.copyWithin (first + size) (first + size + size2) (second - (first + size))
  let size := size + size2
  let top := p.top + size
  let p := p.copyWithin p.top top (first - p.top)
  return (p.movePlaces fun place =>
    if place < first then size else if place < second then size2 else 0, top)

/-- Put all cells anew, in order from the end of the page. The answer is where they start then. -/
def rewriteCells (p : Page) : Attempt (Page × Nat) :=
  (List.range p.count).foldlM (fun (q, top) i => do
    let place := p.half (p.places + 2 * i)
    let bs := p.cellBytes i
    if p.usable - 4 < place || p.usable < place + bs.length || top < p.top + bs.length then
      throw .malformed
    let top := top - bs.length
    return ((q.put top bs).putHalf (p.places + 2 * i) top, top)) (p, p.usable)

/-- Move the cells together at the end of the page, of which so many bytes are free. Few free blocks
are closed if the gaps beside them are at most so large, and otherwise all cells are put anew. -/
def pack (p : Page) (left : Nat) (maxGaps : Int) : Attempt Page := do
  let first := p.firstFree
  let second := p.half first
  let isOpen := p.gaps ≤ maxGaps && 0 < first
  if isOpen && (p.usable - 4 < first || p.usable - 4 < second) then throw .malformed
  let (p, top) ←
    if isOpen && (second = 0 || p.half second = 0) then p.closeBlocks first second
    else do
      let (q, top) ← p.rewriteCells
      pure (q.putByte (p.start + 7) 0, top)
  if p.gaps + top ≠ left + p.placesEnd then throw .malformed
  return ((p.setTop top).put (p.start + 1) [0, 0]).put p.placesEnd
    (List.replicate (top - p.placesEnd) 0)

/-! ## Room for a cell -/

/-- Look for a free block of some size, where `link` names the next one. A block that is hardly
larger is taken whole, and from one that is, the end. -/
def takeBlockFrom (p : Page) (size : Nat) : (fuel link : Nat) → Attempt (Option (Page × Nat))
  | 0, _ => .ok none
  | fuel + 1, link =>
    let block := p.half link
    let found := p.half (block + 2)
    let excess := found - size
    if p.usable - size < block then if p.usable - 4 < block then .error .malformed else .ok none
    else if found < size then
      if p.half block = 0 then .ok none
      else if p.half block ≤ block then .error .malformed
      else takeBlockFrom p size fuel block
    else if excess < 4 then
      .ok (if 57 < p.gaps then none
        else some ((p.putHalf link (p.half block)).putByte (p.start + 7) (p.gaps + excess), block))
    else if p.usable - size < block + excess then .error .malformed
    else .ok (some (p.putHalf (block + 2) excess, block + excess))

/-- Take room for a cell from the free blocks, if there are any. -/
def takeBlock (p : Page) (size : Nat) : Attempt (Option (Page × Nat)) :=
  if p.firstFree = 0 then .ok none else p.takeBlockFrom size p.usable (p.start + 1)

/-- Take room for a cell and its place on a page of which so many bytes are free. -/
def takeRoom (p : Page) (left size : Nat) : Attempt (Page × Nat) := do
  if p.top < p.placesEnd || p.usable < p.top then throw .malformed
  let taken ← if p.placesEnd + 2 ≤ p.top then p.takeBlock size else pure none
  match taken with
  | some (q, place) => if place ≤ p.placesEnd then throw .malformed else return (q, place)
  | none =>
    let isTight := p.top < p.placesEnd + 2 + size
    let p ← if isTight then p.pack left (min 4 (left - (size + 2))) else pure p
    let top := p.top - size
    return (p.setTop top, top)

/-- The last free block before a place, where `link` names the next one, and the one behind the
place. -/
def blocksAround (p : Page) (place : Nat) : (fuel link : Nat) → Attempt (Nat × Nat)
  | 0, _ => .error .malformed
  | fuel + 1, link =>
    let block := p.half link
    if block = 0 || place ≤ block then
      if p.usable - 4 < block then .error .malformed else .ok (link, block)
    else if block ≤ link then .error .malformed
    else blocksAround p place fuel block

/-- Give bytes back. Free blocks next to them become one with them. -/
def giveBack (p : Page) (place size : Nat) : Attempt Page := do
  let (link, next) ←
    if p.firstFree = 0 then pure (p.start + 1, 0) else p.blocksAround place p.usable (p.start + 1)
  let stop := place + size
  let isBefore := next ≠ 0 && next ≤ stop + 3
  let nextEnd := next + p.half (next + 2)
  if isBefore && (next < stop || p.usable < nextEnd) then throw .malformed
  let linkEnd := link + p.half (link + 2)
  let isBehind := p.start + 1 < link && place ≤ linkEnd + 3
  if isBehind && place < linkEnd then throw .malformed
  let gap := (if isBefore then next - stop else 0) + if isBehind then place - linkEnd else 0
  let first := if isBehind then link else place
  let (stop, next) := if isBefore then (nextEnd, p.half next) else (stop, next)
  let top := p.half (p.start + 5)
  if p.gaps < gap || first < top || first = top && link ≠ p.start + 1 then throw .malformed
  let p := p.putByte (p.start + 7) (p.gaps - gap)
  if first = top then return (p.putHalf (p.start + 1) next).setTop stop
  let p := if first = link then p else p.putHalf link first
  return (p.putHalf first next).putHalf (first + 2) (stop - first)

/-! ## Changing cells -/

/-- Open a place in the row of places. -/
def openPlace (p : Page) (i place : Nat) : Page :=
  let slot := p.places + 2 * i
  let p := (p.copyWithin slot (slot + 2) (2 * (p.count - i))).putHalf slot place
  p.setCount (p.count + 1)

/-- Put a cell in before the one with the number `i`, if there is room. -/
def insert? (p : Page) (i : Nat) (cell : Bytes) : Attempt (Option Page) := do
  let left ← p.free
  if left < cell.length + 2 then return none
  let (p, place) ← p.takeRoom left cell.length
  return some ((p.put place cell).openPlace i place)

/-- Take the cell with the number `i` out, which must end on the page. -/
def remove (p : Page) (i : Nat) : Attempt Page := do
  let size := (p.cell i).size
  if p.usable < p.half (p.places + 2 * i) + size then throw .malformed
  let p ← p.giveBack (p.placeOf i) size
  if p.count = 1 then
    return ((p.put (p.start + 1) [0, 0, 0, 0]).putByte (p.start + 7) 0).setTop p.usable
  let slot := p.places + 2 * i
  return (p.copyWithin (slot + 2) slot (2 * (p.count - 1 - i))).setCount (p.count - 1)

end Page
end Database
end FlowAtlas
