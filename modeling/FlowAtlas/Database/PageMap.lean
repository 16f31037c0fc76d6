import FlowAtlas.Database.Basic

/-!
# Maps of pages

A database may tell what each of its pages is there for, and on which other page it is named. Then
every so many pages, the first one is a map of those behind it: five bytes for each. Such a database
can move a page, since the place is known where the page is named.
-/

set_option autoImplicit false

namespace FlowAtlas
namespace Database

/-- What a page is there for. -/
inductive PageRole
  /-- It is the root of a tree. -/
  | root
  /-- It is not in use. -/
  | free
  /-- It has what there was no room for behind a cell. -/
  | firstRest
  /-- It has what there was no room for on another page of that sort. -/
  | rest
  /-- It hangs below another page of a tree. -/
  | child
  deriving DecidableEq, Repr

namespace PageRole

/-- The number of the role. -/
def code : PageRole → Nat
  | root => 1
  | free => 2
  | firstRest => 3
  | rest => 4
  | child => 5

/-- The role of a number. -/
def ofCode? (n : Nat) : Option PageRole := [root, free, firstRest, rest, child].find? (·.code = n)

end PageRole

/-- What a map tells of a page: what it is there for, and the page on which it is named. -/
structure MapEntry where
  role : PageRole
  parent : Nat := 0
  deriving DecidableEq, Repr

variable (d : Database)

/-- Whether the database has maps. -/
def hasMap : Bool := d.header .pageMap ≠ 0

/-- The map of a page. -/
def mapPageOf (n : Nat) : Nat := (n - 2) / (d.usable / 5 + 1) * (d.usable / 5 + 1) + 2

/-- Whether a page is a map. -/
def isMapPage (n : Nat) : Bool := 2 ≤ n && d.mapPageOf n = n

/-- The place of a page on its map. -/
def mapPlace (n : Nat) : Nat := 5 * (n - d.mapPageOf n - 1)

namespace Edit

/-- What the map tells of a page. -/
def mapEntry (n : Nat) : Edit MapEntry := do
  let d ← get
  let p := d.page (d.mapPageOf n)
  match PageRole.ofCode? (p.byte (d.mapPlace n)) with
  | some role => return ⟨role, p.word (d.mapPlace n + 1)⟩
  | none => throw .malformed

/-- Let the map tell something of a page, if there are maps. -/
def putMapEntry (n : Nat) (e : MapEntry) : Edit Unit := do
  let d ← get
  if !d.hasMap then return
  let map := d.mapPageOf n
  if n ≤ map then throw .malformed
  let place := d.mapPlace n
  setPage map (((d.page map).putByte place e.role.code).putWord (place + 1) e.parent)

/-- Let the map tell of all pages that are named on a page of a tree. -/
def mapChildren (n : Nat) : Edit Unit := do
  let d ← get
  if !d.hasMap then return
  let p := d.page n
  if p.kind?.isNone then throw .malformed
  for i in List.range p.count do
    let c := p.cell i
    if c.localSize < c.length then putMapEntry c.more ⟨.firstRest, n⟩
    if !p.kind.isLeaf then putMapEntry (p.child i) ⟨.child, n⟩
  if !p.kind.isLeaf then putMapEntry p.lastChild ⟨.child, n⟩

/-- Put a page of a tree in place of another. -/
def setTreePage (n : Nat) (p : Page) : Edit Unit := do
  setPage n p
  mapChildren n

end Edit
end Database
end FlowAtlas
