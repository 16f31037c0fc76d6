import FlowAtlas.Database.Moving

/-!
# Changing databases

`Database.change` begins a change, which makes the first page if need be, and completes it, which
numbers the change in the header. A database that gives up free pages at once moves its last pages
into their places then.
-/

set_option autoImplicit false

namespace FlowAtlas
namespace Database

/-! ## Beginning -/

/-- The mark at the start of the header. -/
def mark : Bytes := Bytes.ofText "SQLite format 3" ++ [0]

/-- The header of a new database. -/
def newHeader (pageSize : Nat) : Bytes :=
  mark ++ bigEndian 2 pageSize ++ [1, 1, 0, 64, 32, 32] ++
    bigEndian 4 0 ++ bigEndian 4 1 ++ List.replicate 68 0

/-- Begin a change. -/
def start (d : Database) : Attempt Database :=
  if d.isReadOnly then .error .readOnly
  else
    let d := { d with before := d.pages, freed := [], isFirstWritten := false }
    if d.count = 0 then
      let p := ({ d.blank with start := 100 }.put 0 (newHeader d.pageSize)).clear .tableLeaf
      .ok { d.setPage 1 p with count := 1 }
    else if d.header .pageCount = d.count then .ok d
    else .ok (d.setHeader .pageCount d.count)

/-! ## Giving up free pages -/

/-- How many pages a database with maps has without its free ones. -/
def shrunkCount (d : Database) : Nat :=
  let perMap := d.usable / 5
  let free := d.header .freeCount
  let maps := (free + d.mapPageOf d.count + perMap - d.count) / perMap
  let n := d.count - free - maps
  if d.isMapPage n then n - 1 else n

namespace Edit

/-- Take a free page into use whose number is at most `limit`. -/
def allocateWithin (limit : Nat) : (fuel : Nat) → Edit Nat
  | 0 => throw .malformed
  | fuel + 1 => do
    if (← get).header .freeCount = 0 then throw .malformed
    let n ← allocate 0
    if n ≤ limit then return n else allocateWithin limit fuel

/-- Move the pages behind `limit` into the places of free ones, the last one first, as long as there
are free ones. -/
def moveBelow (limit : Nat) : (behind : Nat) → Edit Unit
  | 0 => return ()
  | behind + 1 => do
    let d ← get
    let n := limit + behind + 1
    if !d.isMapPage n then
      let free := d.header .freeCount
      if free = 0 then return
      let e ← mapEntry n
      if e.role = .root then throw .malformed
      if e.role ≠ .free then relocate n e (← allocateWithin limit (free + 1))
    moveBelow limit behind

/-- Give up the free pages of a database that does so at once. -/
def shrink : Edit Unit := do
  let d ← get
  if !d.hasMap || d.header .isGradual ≠ 0 then return
  if d.isMapPage d.count then throw .malformed
  let count := d.shrunkCount
  if d.count < count then throw .malformed
  moveBelow count (d.count - count)
  if d.header .freeCount ≠ 0 then
    setHeader .firstFree 0
    setHeader .freeCount 0
    setHeader .pageCount count
    modify fun d => { d with
      count, pages := d.pages.extract 0 count, freed := d.freed.filter (· ≤ count) }

end Edit

/-! ## Completing -/

/-- The version of the layout of files that is written into the header. -/
def writerVersion : Nat := 3046000

/-- Let pages that were freed hold what they held before the change. -/
def restoreFreed (d : Database) : Database :=
  d.freed.foldl (fun d n =>
    d.setPage n { d.blank with bytes := d.before.getD (n - 1) d.blank.bytes }) d

/-- Number the change in the header. -/
def numberChange (d : Database) (changes : Nat) : Database :=
  let changes := (changes + 1) % Nat.pow 2 32
  ((d.setHeader .changes changes).setHeader .countedAt changes).setHeader .writer writerVersion

/-- Complete a change. A log takes all pages that were written, and the first page, if it is one of
them, gets one number for all changes in the log; else freed pages are left alone, and each change
gets a number, unless it wrote nothing. -/
def complete (d : Database) (changes : Nat) : Attempt Database := do
  let ((), d) ← Edit.shrink.run d
  if !d.isFirstWritten && d.pages = d.before then return d
  match d.loggedAt with
  | none => return d.restoreFreed.numberChange changes
  | some logged => return if d.isFirstWritten then d.numberChange logged else d

/-- Carry out a change. -/
def change {α : Type} (d : Database) (edit : Edit α) : Attempt (α × Database) := do
  let (a, after) ← edit.run (← d.start)
  return (a, ← after.complete (d.header .changes))

end Database
end FlowAtlas
