import FlowAtlas.Database.Page

/-!
# Databases

A database is a row of pages of one size. The first one starts with a header, behind which stands
the root of the list of tables. A change to a database is an `Edit`.
-/

set_option autoImplicit false

namespace FlowAtlas

/-- The pages of a database, and what is known of a change that is under way. -/
structure Database where
  pageSize : Nat := 4096
  /-- How many bytes of a page may be used. -/
  usable : Nat := 4096
  /-- The pages, of which the first `count` are in use. -/
  pages : Array (Array UInt8) := #[]
  count : Nat := 0
  isReadOnly : Bool := false
  /-- How many changes there were when the log was started to which changes go first, if there is
  one. -/
  loggedAt : Option Nat := none
  /-- Whether the change wrote the first page. -/
  isFirstWritten : Bool := false
  /-- The pages before the change. -/
  before : Array (Array UInt8) := #[]
  /-- The pages that the change put on the list of free pages. -/
  freed : List Nat := []
  deriving DecidableEq, Repr, Inhabited

namespace Database

/-! ## Pages -/

/-- A page, whatever it holds. -/
def page (d : Database) (n : Nat) : Page :=
  { bytes := d.pages.getD (n - 1) #[], start := if n = 1 then 100 else 0, usable := d.usable }

/-- A page of zeros. -/
def blank (d : Database) : Page := { bytes := Array.replicate d.pageSize 0, usable := d.usable }

/-- Whether a page is in use. -/
def hasPage (d : Database) (n : Nat) : Bool := 0 < n && n ≤ d.count

/-- A page of a tree. -/
def treePage (d : Database) (n : Nat) : Attempt Page :=
  let p := d.page n
  if !d.hasPage n || p.kind?.isNone || (d.pageSize - 8) / 6 < p.count then .error .malformed
  else .ok p

/-- Put a page in place of another. -/
def setPage (d : Database) (n : Nat) (p : Page) : Database :=
  let pages := d.pages ++ Array.replicate (n - d.pages.size) d.blank.bytes
  { d with
    pages := pages.setIfInBounds (n - 1) p.bytes
    isFirstWritten := d.isFirstWritten || n = 1 }

/-! ## The header -/

/-- Numbers in the header of the first page, by their places. -/
inductive HeaderField
  /-- How many changes there were. -/
  | changes
  /-- How many pages there are. -/
  | pageCount
  /-- The first page of the list of free pages. -/
  | firstFree
  /-- How many pages are free. -/
  | freeCount
  /-- How many changes to the list of tables there were. -/
  | schemaChanges
  /-- The form of the list of tables. -/
  | schemaForm
  /-- The encoding of texts. -/
  | encoding
  /-- A number for the user. -/
  | userVersion
  /-- How many pages are best kept at hand. -/
  | pagesAtHand
  /-- A number for the program that the database belongs to. -/
  | application
  /-- The last root of a database with maps of its pages, and zero for any other one. -/
  | pageMap
  /-- Whether a database with maps keeps its free pages. -/
  | isGradual
  /-- The number of the change that wrote the number of pages. -/
  | countedAt
  /-- The version of the writer. -/
  | writer
  deriving DecidableEq, Repr

/-- Where a number stands in the header. -/
def HeaderField.place : HeaderField → Nat
  | changes => 24
  | pageCount => 28
  | firstFree => 32
  | freeCount => 36
  | schemaChanges => 40
  | schemaForm => 44
  | pagesAtHand => 48
  | pageMap => 52
  | encoding => 56
  | userVersion => 60
  | isGradual => 64
  | application => 68
  | countedAt => 92
  | writer => 96

/-- A number in the header. A database without pages has zeros. -/
def header (d : Database) (f : HeaderField) : Nat := (d.page 1).word f.place

/-- Set a number in the header. -/
def setHeader (d : Database) (f : HeaderField) (n : Nat) : Database :=
  d.setPage 1 ((d.page 1).putWord f.place n)

/-- The number for the user. -/
def userVersion (d : Database) : Int := signed 4 (d.header .userVersion)

/-! ## Edits -/

/-- A change to a database. -/
abbrev Edit := StateT Database Attempt

namespace Edit

/-- A page of a tree. -/
def page (n : Nat) : Edit Page := do (← get).treePage n

/-- Put a page in place of another. What stands before the description of its cells stays. -/
def setPage (n : Nat) (p : Page) : Edit Unit :=
  modify fun d =>
    let start := (d.page n).bytes.extract 0 p.start
    d.setPage n { p with bytes := start ++ p.bytes.extract p.start p.bytes.size }

/-- Set a number in the header. -/
def setHeader (f : HeaderField) (n : Nat) : Edit Unit := modify (·.setHeader f n)

end Edit

end Database
end FlowAtlas
