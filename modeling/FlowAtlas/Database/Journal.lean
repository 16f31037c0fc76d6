import FlowAtlas.Database.Image

/-!
# Journals

While a database is changed, a journal keeps the pages that change as they were before. A journal
that is left behind tells of a change that was cut short, and `Journal.restore` takes that change
back. The journal has heads, each of which tells how many pages follow, and the first one how many
pages the database had. Where a journal breaks off or makes no sense, it ends.

A change of several databases at once has a file of its own, which the journals of all of them name
at their ends (`Journal.commonFile?`). The change is complete when that file is gone.
-/

set_option autoImplicit false

namespace FlowAtlas
namespace Database

/-- Bytes with others in their place from `start` on. A gap is filled up with zeros. -/
def overwrite (bs : Bytes) (start : Nat) (new : Bytes) : Bytes :=
  (bs ++ List.replicate (start - bs.length) 0).take start ++ new ++ bs.drop (start + new.length)

namespace Journal

/-- What stands at the start of each head. -/
def mark : Bytes := [0xd9, 0xd5, 0x05, 0xf9, 0x20, 0xa1, 0x63, 0xd7]

/-- What the heads of a journal have in common. -/
structure Form where
  /-- The first head takes so many bytes, and every other one stands at a multiple of that. -/
  sector : Nat
  pageSize : Nat
  /-- How many pages the database had. -/
  pages : Nat
  deriving DecidableEq, Repr

/-- A power of two. -/
def isPower (n : Nat) : Bool := n = Nat.pow 2 n.log2

/-- The size of a head that is expected before the first one is read. -/
def expectedSector : Nat := 512

/-- No database has more bytes than this. -/
def sizeLimit : Nat := Nat.pow 2 24

/-- The form of a journal, if it has a first head. A head may leave the size of pages to the
database. -/
def form? (journal : Bytes) (pageSize : Nat) : Option Form :=
  let told := wordAt journal 24
  let f : Form := ⟨wordAt journal 20, if told = 0 then pageSize else told, wordAt journal 16⟩
  let isSound := isPageSize f.pageSize && 32 ≤ f.sector && f.sector ≤ 65536 && isPower f.sector &&
    f.pages * f.pageSize ≤ sizeLimit
  if expectedSector ≤ journal.length && journal.take 8 = mark && isSound then some f else none

/-- The sum that guards a page: a seed, and every two hundredth byte from the back. -/
def sum (seed : Nat) (page : Bytes) : Nat :=
  let bytes := (List.range ((page.length - 1) / 200)).map fun k =>
    (page.getD (page.length - 200 * (k + 1)) 0).toNat
  bytes.foldl (· + ·) seed % Nat.pow 2 32

/-- The page that no database has, since locks stand at its place. -/
def lockPage (pageSize : Nat) : Nat := Nat.pow 2 30 / pageSize + 1

/-- Put back up to `n` pages from a place on. The answer tells where the journal goes on, if it
does. -/
def restorePages (f : Form) (journal : Bytes) (seed : Nat) :
    (n place : Nat) → Bytes → Bytes × Option Nat
  | 0, place, file => (file, some place)
  | n + 1, place, file =>
    let number := wordAt journal place
    let page := (journal.drop (place + 4)).take f.pageSize
    let next := place + f.pageSize + 8
    if journal.length < next - 4 ∨ number = 0 ∨ number = lockPage f.pageSize then (file, none)
    else if f.pages < number then restorePages f journal seed n next file
    else if journal.length < next ∨ wordAt journal (next - 4) ≠ sum seed page then (file, none)
    else restorePages f journal seed n next (overwrite file ((number - 1) * f.pageSize) page)

/-- Put back the pages behind up to so many heads from a place on. A head that does not know how
many pages follow leaves that to the length of the journal. -/
def restoreHeads (f : Form) (journal : Bytes) : (heads place : Nat) → Bytes → Bytes
  | 0, _, file => file
  | heads + 1, place, file =>
    let start := (place + f.sector - 1) / f.sector * f.sector
    if journal.length < start + f.sector ∨ (journal.drop start).take 8 ≠ mark then file
    else
      let told := wordAt journal (start + 8)
      let n :=
        if told = Nat.pow 2 32 - 1 then (journal.length - f.sector) / (f.pageSize + 8) else told
      match restorePages f journal (wordAt journal (start + 12)) n (start + f.sector) file with
      | (file, none) => file
      | (file, some place) => restoreHeads f journal heads place file

/-- The contents of a file with so many pages. What is less than a page short of that stays so. -/
def resize (f : Form) (file : Bytes) : Bytes :=
  let size := f.pages * f.pageSize
  if file.length + f.pageSize ≤ size then file ++ List.replicate (size - file.length) 0
  else file.take size

/-- The contents of the file of a database before the change that a journal tells of. -/
def restore (journal file : Bytes) : Bytes :=
  let h : Page := { bytes := (file.take 100).toArray, usable := 100 }
  let told := toldPageSize h
  match form? journal (if isPageSize told then told else 4096) with
  | none => file
  | some f => restoreHeads f journal (journal.length / f.sector) 0 (resize f file)

/-! ## Changes of several databases -/

/-- Bytes up to the first zero byte. -/
def upToZero (bs : Bytes) : Bytes := bs.takeWhile (· ≠ 0)

/-- The name of a file has fewer bytes than this. -/
def nameLimit : Nat := 513

/-- The sum that guards a name. -/
def nameSum (name : Bytes) : Int :=
  name.foldl (fun sum b => sum + signed 1 b.toNat) 0

/-- The name of the file of a change of several databases, if a journal ends with one. -/
def commonFile? (journal : Bytes) : Option Bytes :=
  let stop := journal.length - 16
  let size := wordAt journal stop
  let name := (journal.drop (stop - size)).take size
  let isNamed := 16 ≤ journal.length && size ≤ stop && size < nameLimit &&
    journal.drop (stop + 8) = mark &&
    (wordAt journal (stop + 4) : Int) = nameSum name % Int.pow 2 32
  if isNamed && upToZero name ≠ [] then some (upToZero name) else none

/-- The names of journals in the file of a change, each up to a zero byte. -/
def namesIn (file : Bytes) : List Bytes := file.splitOn 0

end Journal
end Database
end FlowAtlas
