import FlowAtlas.Database.PageMap

/-!
# Free pages

Pages that are not in use are listed: a page of the list names the next one and as many free pages
as it has room for. A page that is taken into use comes from the list, or stands behind the last one
of the database.
-/

set_option autoImplicit false

namespace FlowAtlas
namespace Database
namespace Edit

/-! ## Taking into use -/

/-- The number in a row that is nearest to a number, by its place. Of two, the first. -/
def nearest (near : Nat) (row : List Nat) : Nat :=
  let distance := fun n : Nat => ((n : Int) - near).natAbs
  (row.zipIdx.foldl (fun (best, i) (n, j) =>
    if distance n < distance best then (n, j) else (best, i)) (row.headD 0, 0)).2

/-- Put a page of zeros behind the last one. -/
def append : Edit Nat := do
  let n := (← get).count + 1
  modify fun d => { d.setPage n d.blank with count := n }
  return n

/-- Take a new page into use. A map of further pages comes before it where one is due. -/
def allocateNew : Edit Nat := do
  let n ← append
  let d ← get
  let n ← if d.hasMap && d.isMapPage n then append else pure n
  setHeader .pageCount n
  return n

/-- Take one of the free pages that a page of the list names. Its bytes are zero unless it was in
use when the change began. -/
def takeNamed (listPage i : Nat) : Edit Nat := do
  let d ← get
  let p := d.page listPage
  let size := p.word 4
  let n := p.word (8 + 4 * i)
  if !d.hasPage n || n < 2 then throw .malformed
  setPage listPage ((p.putWord (8 + 4 * i) (p.word (4 + 4 * size))).putWord 4 (size - 1))
  if d.freed.contains n then modify fun d => { d with freed := d.freed.filter (· ≠ n) }
  else modify fun d => d.setPage n d.blank
  return n

/-- The free pages that a page of the list names. -/
def namedOn (d : Database) (listPage : Nat) : Attempt (List Nat) :=
  let p := d.page listPage
  if !d.hasPage listPage || d.usable / 4 - 2 < p.word 4 then .error .malformed
  else .ok ((List.range (p.word 4)).map fun i => p.word (8 + 4 * i))

/-- Take a page into use, near another one if free pages are listed and that is asked for. -/
def allocate (near : Nat) : Edit Nat := do
  let d ← get
  let free := d.header .freeCount
  if d.count ≤ free then throw .malformed
  if free = 0 then return ← allocateNew
  let listPage := d.header .firstFree
  let named ← (namedOn d listPage : Attempt (List Nat))
  setHeader .freeCount (free - 1)
  if named.isEmpty then
    setHeader .firstFree ((d.page listPage).word 0)
    return listPage
  takeNamed listPage (if near = 0 then 0 else nearest near named)

/-- Let the list go on with another page behind one of its pages, or at its start. -/
def setNext (previous : Option Nat) (n : Nat) : Edit Unit := do
  match previous with
  | none => setHeader .firstFree n
  | some listPage => setPage listPage (((← get).page listPage).putWord 0 n)

/-- Take a page of the list itself into use. The first page that it names takes its place. -/
def takeListPage (previous : Option Nat) (listPage : Nat) (named : List Nat) : Edit Unit := do
  let d ← get
  let p := d.page listPage
  match named with
  | [] => setNext previous (p.word 0)
  | n :: rest =>
    if !d.hasPage n || n < 2 then throw .malformed
    let q := ((d.page n).putWord 0 (p.word 0)).putWord 4 rest.length
    setPage n (q.put 8 (rest.flatMap (bigEndian 4)))
    modify fun d => { d with freed := d.freed.filter (· ≠ n) }
    setNext previous n

/-- Take a free page into use that the list names from a page on. -/
def takeWanted (wanted : Nat) : (fuel : Nat) → (previous : Option Nat) → (listPage : Nat) → Edit Nat
  | 0, _, _ => throw .malformed
  | fuel + 1, previous, listPage => do
    let d ← get
    let named ← (namedOn d listPage : Attempt (List Nat))
    if listPage = wanted then
      takeListPage previous listPage named
      return wanted
    match named.idxOf? wanted with
    | some i => takeNamed listPage i
    | none => takeWanted wanted fuel (some listPage) ((d.page listPage).word 0)

/-- Take a page into use that is asked for, if it is free, or else another one. -/
def allocateAt (wanted : Nat) : Edit Nat := do
  let d ← get
  let free := d.header .freeCount
  if d.count ≤ free then throw .malformed
  let isListed ← if free = 0 || d.count < wanted then pure false
    else (·.role == .free) <$> mapEntry wanted
  if !isListed then return ← allocate wanted
  setHeader .freeCount (free - 1)
  takeWanted wanted (free + 1) none (d.header .firstFree)

/-! ## Giving back -/

/-- Put a page on the list of free pages. -/
def release (n : Nat) : Edit Unit := do
  let d ← get
  if !d.hasPage n || n < 2 then throw .malformed
  let free := d.header .freeCount
  setHeader .freeCount (free + 1)
  putMapEntry n { role := .free }
  let listPage := d.header .firstFree
  let p := d.page listPage
  if free ≠ 0 then
    if !d.hasPage listPage || d.usable / 4 - 2 < p.word 4 then throw .malformed
    if p.word 4 < d.usable / 4 - 8 then
      setPage listPage ((p.putWord (8 + 4 * p.word 4) n).putWord 4 (p.word 4 + 1))
      modify fun d => { d with freed := n :: d.freed }
      return
  setPage n (((d.page n).putWord 0 (if free = 0 then 0 else listPage)).putWord 4 0)
  setHeader .firstFree n

end Edit
end Database
end FlowAtlas
