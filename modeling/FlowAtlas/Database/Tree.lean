import FlowAtlas.Database.Basic
import FlowAtlas.Database.Value

/-!
# Reading trees

The cells of a tree, in order. A tree is read as far as it makes sense: what is wrong with a page
stands in the row of cells where that page would be, behind all that comes before it.
-/

set_option autoImplicit false

namespace FlowAtlas
namespace Database

/-- An entry of a tree. -/
structure Entry where
  /-- The number of the row, in the tree of a table. -/
  row : Int
  /-- What is stored. -/
  content : Bytes
  deriving DecidableEq, Repr, Inhabited

/-- No tree is deeper than this. -/
def maxDepth : Nat := 20

variable (d : Database)

/-- Read the rest of a content along the pages from `n` on. -/
def restOf : (fuel n size : Nat) → Attempt Bytes
  | 0, _, _ => .error .malformed
  | fuel + 1, n, size =>
    if size = 0 then .ok []
    else if !d.hasPage n then .error .malformed
    else do
      let p := d.page n
      let taken := min size (d.usable - 4)
      return p.slice 4 taken ++ (← restOf fuel (p.word 0) (size - taken))

/-- The content of a cell at a place of a page. All of a page may hold one that has no rest
elsewhere. -/
def contentAt (p : Page) (place : Nat) : Attempt Bytes := do
  let c := p.cellAt place
  let isWhole := c.localSize = c.length
  let limit := if isWhole then d.pageSize else d.usable
  if limit < place + c.content + c.localSize then throw .malformed
  let start := p.slice (place + c.content) c.localSize
  if isWhole then return start
  else return start ++ (← d.restOf (d.count + 1) c.more (c.length - c.localSize))

/-- The entry in a cell of a page. -/
def entryOf (p : Page) (i : Nat) : Attempt Entry :=
  return ⟨(p.cell i).row, ← d.contentAt p (p.placeOf i)⟩

/-- What could be read, in order, and what is wrong with the rest. -/
structure Reading (α : Type) where
  items : List α
  fault : Option DatabaseError
  deriving DecidableEq, Repr, Inhabited

/-- A way through a tree, which keeps the entries that it met, the last one first. -/
abbrev Walk := ExceptT DatabaseError (StateM (List Entry))

/-- Meet the entries below a page, which must be of a tree of the same sort and hold cells. -/
def visit (isTable : Bool) : (fuel n : Nat) → Walk Unit
  | 0, _ => throw .malformed
  | fuel + 1, n => do
    let p ← ExceptT.mk (pure (d.treePage n))
    if p.kind.isTable ≠ isTable || p.count = 0 then throw .malformed
    for i in List.range p.count do
      if !p.kind.isLeaf then visit isTable fuel (p.child i)
      if p.kind.isLeaf || !isTable then
        let e ← ExceptT.mk (pure (d.entryOf p i))
        modify (e :: ·)
    if !p.kind.isLeaf then visit isTable fuel p.lastChild

/-- Meet the entries of the tree at a root. Only a root may have no cells. -/
def visitRoot (isTable : Bool) (root : Nat) : Walk Unit := do
  let p ← ExceptT.mk (pure (d.treePage root))
  if p.kind.isTable ≠ isTable then throw .malformed
  if p.count ≠ 0 then d.visit isTable maxDepth root
  else if !p.kind.isLeaf then
    if root = 1 then d.visit isTable (maxDepth - 1) p.lastChild else throw .malformed

/-- The entries of the tree at a root. -/
def entries (isTable : Bool) (root : Nat) : Reading Entry :=
  let (outcome, met) := (d.visitRoot isTable root).run.run []
  match outcome with
  | .ok () => ⟨met.reverse, none⟩
  | .error e => ⟨met.reverse, some e⟩

/-! ## Rows -/

/-- A row of a table. -/
structure Row where
  id : Int
  values : List Value
  deriving DecidableEq, Repr, Inhabited

/-- The row in an entry. -/
def Row.ofEntry? (e : Entry) : Option Row := (Record.decode? e.content).map (⟨e.row, ·⟩)

/-- The rows in entries, up to the first one that is none. -/
def rowsOf (fault : Option DatabaseError) : List Entry → Reading Row
  | [] => ⟨[], fault⟩
  | e :: rest =>
    match Row.ofEntry? e with
    | none => ⟨[], some .malformed⟩
    | some r =>
      let read := rowsOf fault rest
      ⟨r :: read.items, read.fault⟩

/-- The rows of the table at a root. -/
def rows (root : Nat) : Reading Row :=
  let read := d.entries true root
  rowsOf read.fault read.items

end Database
end FlowAtlas
