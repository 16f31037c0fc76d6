import FlowAtlas.Database.Commit

/-!
# Databases in files

`Database.ofBytes` reads the contents of a file and `Database.toBytes` writes them. A file of at
most one byte is a database without pages. The header tells the size of the pages; the number of pages in
it counts only if the change that wrote it was the last one.
-/

set_option autoImplicit false

namespace FlowAtlas
namespace Database

/-- Whether the contents of a file are too short to be any. -/
def isBlank (bs : Bytes) : Bool := bs.length ≤ 1

/-- The rows of `size` bytes in an array, the last one filled up with zeros. -/
def split (size : Nat) (bytes : Array UInt8) : Array (Array UInt8) :=
  ((List.range ((bytes.size + size - 1) / size)).map fun i =>
    let row := bytes.extract (i * size) ((i + 1) * size)
    row ++ Array.replicate (size - row.size) 0).toArray

/-- Whether a number can be the size of pages. -/
def isPageSize (n : Nat) : Bool := (List.range 8).any fun k => n = Nat.pow 2 (k + 9)

/-- The size of pages that a header tells. -/
def toldPageSize (h : Page) : Nat := h.byte 16 * 256 + h.byte 17 * 65536

/-- Read the contents of a file. -/
def ofBytes (bs : Bytes) : Attempt Database := do
  if isBlank bs then return {}
  let bytes := bs.toArray
  let h : Page := { bytes := bytes.extract 0 100, usable := 100 }
  let pageSize := toldPageSize h
  let usable := pageSize - h.byte 20
  if h.slice 0 16 ≠ mark || 2 < h.byte 19 || h.slice 21 3 ≠ [64, 32, 32] then throw .notADatabase
  if !isPageSize pageSize then throw .notADatabase
  let pages := split pageSize bytes
  let told := h.word HeaderField.pageCount.place
  let isTold := told ≠ 0 && h.word HeaderField.changes.place = h.word HeaderField.countedAt.place
  let count := if isTold then told else pages.size
  if pages.size < count then throw .malformed
  if usable < 480 then throw .notADatabase
  return { pageSize, usable, pages, count, isReadOnly := 2 < h.byte 18 }

/-- Whether changes to the database in a file are to go to a log first. -/
def asksForLog (bs : Bytes) : Bool := bs.take 16 = mark && bs[19]? = some 2

/-- The contents of the file of a database that had other contents before. A last page that was cut
short stays so unless it changed, and pages that were given up are left out. -/
def toBytes (d : Database) (old : Bytes) : Bytes :=
  let oldPages := split d.pageSize old.toArray
  let changed := (List.range d.pages.size).filter fun i => d.pages[i]? ≠ oldPages[i]?
  let changedSize := d.pageSize * changed.getLast?.elim 0 (· + 1)
  let size := if d.pages.size < oldPages.size then d.pageSize * d.pages.size
    else max old.length changedSize
  ((d.pages.foldl (· ++ ·) #[]).extract 0 size).toList

end Database
end FlowAtlas
