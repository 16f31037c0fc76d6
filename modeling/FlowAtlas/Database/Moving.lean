import FlowAtlas.Database.Free

/-!
# Moving pages

In a database with maps, a page can be moved to the place of a free one. The page on which it is
named then names the new place, and so do the maps for the pages that it names itself.
-/

set_option autoImplicit false

namespace FlowAtlas
namespace Database

/-- The page with another number in place of one that it names for some role. -/
def Page.rename? (p : Page) (role : PageRole) (old new : Nat) : Option Page :=
  let places := (List.range p.count).map p.placeOf
  let rest := fun place =>
    let c := p.cellAt place
    c.localSize < c.length && c.more = old
  match role with
  | .rest => if p.word 0 = old then some (p.putWord 0 new) else none
  | .firstRest =>
    (places.find? rest).map fun place => p.putWord (place + (p.cellAt place).size - 4) new
  | _ =>
    match places.find? fun place => p.word place = old with
    | some place => some (p.putWord place new)
    | none => if p.lastChild = old then some (p.setLastChild new) else none

namespace Edit

/-- What a page held before the change. -/
def before (n : Nat) : Edit Page := do
  let d ← get
  return { d.blank with bytes := d.before.getD (n - 1) d.blank.bytes }

/-- Move a page of some role to another place. What stays behind is what was there before the
change. -/
def relocate (n : Nat) (e : MapEntry) (new : Nat) : Edit Unit := do
  let d ← get
  if n < 3 || !d.hasPage n then throw .malformed
  setPage new (d.page n)
  setPage n (← before n)
  let next := (d.page n).word 0
  match e.role with
  | .child | .root => mapChildren new
  | _ => if next ≠ 0 then putMapEntry next ⟨.rest, new⟩
  if e.role ≠ .root then
    match ((← get).page e.parent).rename? e.role n new with
    | none => throw .malformed
    | some p => setPage e.parent p
    putMapEntry new e

/-- A place for a new root, which stands behind all others in a database with maps. What stood there
is moved away. -/
def allocateRoot : Edit Nat := do
  let d ← get
  let last := d.header .pageMap
  if last = 0 then return ← allocate 1
  if d.count < last then throw .malformed
  let root := if d.isMapPage (last + 1) then last + 2 else last + 1
  let free ← allocateAt root
  if free ≠ root then
    let e ← mapEntry root
    if e.role = .root || e.role = .free then throw .malformed
    relocate root e free
  putMapEntry root { role := .root }
  setHeader .pageMap root
  return root

/-- Give the place of a root back. In a database with maps, the last root takes it; that one is the
answer. -/
def releaseRoot (n : Nat) : Edit (Option Nat) := do
  let d ← get
  let last := d.header .pageMap
  if last = 0 then
    release n
    return none
  if n ≠ last then relocate last { role := .root } n
  release last
  setHeader .pageMap (if d.isMapPage (last - 1) then last - 2 else last - 1)
  return if n = last then none else some last

end Edit
end Database
end FlowAtlas
