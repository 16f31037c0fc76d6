import FlowAtlas.Database.Balance
import FlowAtlas.Database.Moving
import FlowAtlas.Database.Tree

/-!
# Changing trees

Putting entries into trees, taking them out, and taking whole trees away. Rows of a table go by
their numbers, entries of an index by an order of their values that is told.
-/

set_option autoImplicit false

namespace FlowAtlas
namespace Database

namespace Edit

/-! ## Finding a place -/

/-- How an entry of an index stands to another one. -/
abbrev EntryOrder := List Value → List Value → Ordering

/-- What is looked for in a tree: the row of a number, or an entry, of which it is told how others
stand to it. -/
inductive Key
  | row (n : Int)
  | entry (standing : List Value → Ordering)

/-- How the cell of a page stands to a key. -/
def compareCell (key : Key) (p : Page) (i : Nat) : Edit Ordering := do
  match key with
  | .row n => return Ord.compare (p.cell i).row n
  | .entry standing =>
    match Record.decode? (← (← get).contentAt p (p.placeOf i)) with
    | some found => return standing found
    | none => throw .malformed

/-- The number of the first cell from number `i` on that does not come before a key, and whether it
is what is looked for. -/
def firstNotBefore (key : Key) (p : Page) : (fuel i : Nat) → Edit (Nat × Bool)
  | 0, i => return (i, false)
  | fuel + 1, i => do
    match ← compareCell key p i with
    | .lt => firstNotBefore key p fuel (i + 1)
    | o => return (i, o = .eq)

/-- A place in a tree: the page, the number of the cell on it, whether that is what was looked for,
and the way from the root, the nearest page first. -/
structure Place where
  node : Node
  index : Nat
  isFound : Bool
  path : List (Node × Nat)
  deriving Inhabited

/-- Look for a key below a page. -/
def seek (key : Key) (isTable : Bool) :
    (fuel n : Nat) → (path : List (Node × Nat)) → Edit Place
  | 0, _, _ => throw .malformed
  | fuel + 1, n, path => do
    let p ← page n
    if p.kind.isTable ≠ isTable then throw .malformed
    let (i, isFound) ← firstNotBefore key p p.count 0
    if p.kind.isLeaf || isFound && !isTable then
      return ⟨{ number := n, page := p }, i, isFound, path⟩
    else seek key isTable fuel (p.child i) (({ number := n, page := p }, i) :: path)

/-- The place of the last entry below a page. -/
def seekLast : (fuel n : Nat) → (path : List (Node × Nat)) → Edit Place
  | 0, _, _ => throw .malformed
  | fuel + 1, n, path => do
    let p ← page n
    if p.kind.isLeaf then return ⟨{ number := n, page := p }, p.count - 1, p.count ≠ 0, path⟩
    else seekLast fuel p.lastChild (({ number := n, page := p }, p.count) :: path)

/-! ## Contents -/

/-- Where the next page of a content is looked for behind a page, or behind none. In a database with
maps, it is the one behind. -/
def nearRest (d : Database) (previous : Nat) : Nat :=
  if !d.hasMap then previous
  else if d.isMapPage (previous + 1) then previous + 2
  else previous + 1

/-- Write a content to new pages, one after another. The answer is the first one. -/
def putRest (previous : Nat) : (fuel : Nat) → Bytes → Edit Nat
  | 0, _ => return 0
  | fuel + 1, content => do
    if content.isEmpty then return 0
    let number ← allocate (nearRest (← get) previous)
    putMapEntry number ⟨if previous = 0 then .firstRest else .rest, previous⟩
    let size := (← get).usable - 4
    setPage number ((((← get).page number).putWord 0 0).put 4 (content.take size))
    let next ← putRest number fuel (content.drop size)
    setPage number (((← get).page number).putWord 0 next)
    return number

/-- The cell of a leaf for an entry. What there is no room for goes to pages of its own. -/
def makeCell (isTable : Bool) (e : Entry) : Edit Bytes := do
  let length := e.content.length
  let size := Page.localSize (← get).usable isTable length
  let head := Varint.encode length ++
    if isTable then Varint.encode (unsigned 8 e.row) else []
  let cell := head ++ e.content.take size
  if size = length then return cell ++ List.replicate (4 - cell.length) 0
  else return cell ++ bigEndian 4 (← putRest 0 length (e.content.drop size))

/-- Free the pages with the rest of a content. -/
def releaseRest : (fuel n : Nat) → Edit Unit
  | 0, _ => return ()
  | fuel + 1, n => do
    let d ← get
    if n < 2 || !d.hasPage n then throw .malformed
    let next := (d.page n).word 0
    release n
    releaseRest fuel next

/-- Free the pages with the rest of the content of a cell. -/
def releaseCell (p : Page) (i : Nat) : Edit Unit :=
  let c := p.cell i
  let size := p.usable - 4
  releaseRest ((c.length - c.localSize + size - 1) / size) c.more

/-! ## Putting in and taking out -/

/-- Enough steps to go up from a leaf, with new roots on the way. -/
def maxSteps : Nat := 2 * maxDepth

/-- Put a cell in at a place. -/
def insertAt (isBulk : Bool) (place : Place) (cell : Bytes) : Edit Unit := do
  let node ← (place.node.insert place.index cell : Attempt Node)
  if node.extra.isEmpty then setTreePage node.number node.page
  else let _ ← settle isBulk maxSteps place.path node

/-- Put a cell in at a place, in place of the one that was looked for if that was found. -/
def replaceAt (place : Place) (cell : Bytes) : Edit Unit := do
  let old := place.node.page
  if !place.isFound then insertAt false place cell
  else
    releaseCell old place.index
    let c := old.cell place.index
    if c.size = cell.length && c.localSize = c.length then
      setPage place.node.number (old.put (old.placeOf place.index) cell)
    else
      let node ← (place.node.remove place.index : Attempt Node)
      insertAt false { place with node } cell

/-- Put a row into the table at a root, in place of any row of that number. -/
def putRow (root : Nat) (e : Entry) : Edit Unit := do
  let place ← seek (.row e.row) true maxDepth root []
  let old := place.node.page
  let isSameSize := place.isFound && (old.cell place.index).length = e.content.length &&
    (old.cell place.index).localSize = e.content.length
  if isSameSize then
    let c := old.cell place.index
    setPage place.node.number (old.put (old.placeOf place.index + c.content) e.content)
  else replaceAt place (← makeCell true e)

/-- Put an entry into the index at a root. -/
def putEntry (root : Nat) (order : EntryOrder) (values : List Value) : Edit Unit := do
  let place ← seek (.entry (order · values)) false maxDepth root []
  let cell ← makeCell false ⟨0, Record.encode values⟩
  if place.node.page.kind.isLeaf then replaceAt place cell
  else throw .malformed

/-- Put an entry into the index at a root behind all that are there. -/
def pushEntry (root : Nat) (values : List Value) : Edit Unit := do
  let place ← seekLast maxDepth root []
  let cell ← makeCell false ⟨0, Record.encode values⟩
  insertAt true { place with index := place.node.page.count } cell

/-- Take the entry at a place out. One on a page with pages below gives way to the entry before it,
which comes from a leaf. -/
def removeAt (place : Place) : Edit Unit := do
  let p := place.node.page
  releaseCell p place.index
  let rest ← (place.node.remove place.index : Attempt Node)
  if p.kind.isLeaf then
    let _ ← settle false maxSteps place.path rest
  else
    let child := p.child place.index
    let leaf ← seekLast maxDepth child []
    let l := leaf.node.page
    let cell := bigEndian 4 child ++ l.cellBytes leaf.index
    let node ← (rest.insert place.index cell : Attempt Node)
    let shorter ← (leaf.node.remove leaf.index : Attempt Node)
    let left ← settle false maxSteps (leaf.path ++ (node, place.index) :: place.path) shorter
    if place.path.length < left then
      let _ ← settle false maxSteps place.path node

/-- Take the row of a number out of the table at a root, if it is there. -/
def removeRow (root : Nat) (row : Int) : Edit Unit := do
  let place ← seek (.row row) true maxDepth root []
  if place.isFound then removeAt place

/-- Take the entry of some values out of the index at a root, if it is there. -/
def removeEntry (root : Nat) (order : EntryOrder) (values : List Value) : Edit Unit := do
  let place ← seek (.entry (order · values)) false maxDepth root []
  if place.isFound then removeAt place

/-! ## Whole trees -/

/-- Make an empty tree. The answer is its root. -/
def plant (kind : PageKind) : Edit Nat := do
  let n ← allocateRoot
  setPage n (((← get).page n).clear kind)
  return n

/-- Free the pages below a page with some work, and those behind its cells. -/
def clearBelow (free : Nat → Edit Unit) (p : Page) : Edit Unit := do
  for i in List.range p.count do
    if !p.kind.isLeaf then free (p.child i)
    releaseCell p i
  if !p.kind.isLeaf then free p.lastChild

/-- Free the pages below a page and the page itself. -/
def freeTree : (fuel n : Nat) → Edit Unit
  | 0, _ => throw .malformed
  | fuel + 1, n => do
    clearBelow (freeTree fuel) (← page n)
    release n

/-- Take all entries out of a tree. -/
def clear (n : Nat) : Edit Unit := do
  let p ← page n
  clearBelow (freeTree maxDepth) p
  setPage n (p.clear p.kind.lowest)

/-- Free a tree. Its root is made a page without cells first. The answer is the root that moved to
its place, if one did. -/
def uproot (n : Nat) : Edit (Option Nat) := do
  clear n
  releaseRoot n

end Edit
end Database
end FlowAtlas
