import FlowAtlas.Database.Journal

/-!
# Logs of changes

A log keeps the pages of a database that changed, frame by frame, until they are put into the file.
Each frame is guarded by sums over all that stands before it, and the last frame of a change tells
how many pages the database has then. `Log.replay` puts the changes that are complete into the file.
-/

set_option autoImplicit false

namespace FlowAtlas
namespace Database
namespace Log

/-- The length of the head of a log. -/
def headSize : Nat := 32

/-- The length of the head of a frame. -/
def frameHeadSize : Nat := 24

/-- What stands at the start of a log whose sums are over words with the least significant byte
first. One more stands there if it is the most significant one. -/
def mark : Nat := 0x377f0682

/-- The version of the layout of logs. -/
def version : Nat := 3007000

/-- Two sums over pairs of words, each of which takes the other one in. -/
def sums (isBigEndian : Bool) : Nat × Nat → Bytes → Nat × Nat
  | (s, t), a :: b :: c :: d :: e :: f :: g :: h :: rest =>
    let word := fun bs : Bytes => if isBigEndian then ofBigEndian bs else Bytes.toNat bs
    let s := (s + word [a, b, c, d] + t) % Nat.pow 2 32
    let t := (t + word [e, f, g, h] + s) % Nat.pow 2 32
    sums isBigEndian (s, t) rest
  | s, _ => s

/-- A frame of a log. -/
structure Frame where
  /-- The number of the page. -/
  number : Nat
  /-- How many pages the database has, if the frame completes a change, else zero. -/
  pages : Nat
  page : Bytes
  deriving DecidableEq, Repr

/-- Whether a frame completes a change. -/
def Frame.isLast (f : Frame) : Bool := f.pages ≠ 0

/-- What guards the frames of a log. -/
structure Guard where
  isBigEndian : Bool
  /-- What each frame repeats. -/
  salt : Bytes
  pageSize : Nat
  deriving DecidableEq, Repr

/-- The frames at the start of what follows bytes with some sums. -/
def frames (g : Guard) (before : Nat × Nat) (bs : Bytes) : List Frame :=
  if _h : bs.length < frameHeadSize + g.pageSize then []
  else
    let page := (bs.drop frameHeadSize).take g.pageSize
    let after := sums g.isBigEndian before (bs.take 8 ++ page)
    if wordAt bs 0 = 0 ∨ (bs.drop 8).take 8 ≠ g.salt ∨ (wordAt bs 16, wordAt bs 20) ≠ after then []
    else ⟨wordAt bs 0, wordAt bs 4, page⟩ :: frames g after (bs.drop (frameHeadSize + g.pageSize))
termination_by bs.length
decreasing_by simp only [List.length_drop, frameHeadSize] at *; omega

/-- What guards the frames of a log, if the log has a head. -/
def guard? (log : Bytes) : Option Guard :=
  let g : Guard := ⟨wordAt log 0 % 2 = 1, (log.drop 16).take 8, wordAt log 8⟩
  if headSize < log.length ∧ wordAt log 0 / 2 * 2 = mark ∧ isPageSize g.pageSize then some g
  else none

/-- The frames of a log that belong to complete changes. One of another version cannot be used, and
what is no log has none. -/
def complete? (log : Bytes) : Option (List Frame) :=
  match guard? log with
  | none => some []
  | some g =>
    let before := sums g.isBigEndian (0, 0) (log.take 24)
    if (wordAt log 24, wordAt log 28) ≠ before then some []
    else if wordAt log 4 ≠ version then none
    else some ((frames g before (log.drop headSize)).reverse.dropWhile (!·.isLast)).reverse

/-- Whether a log is long enough for a head, and has another one than it should have: one without
salt, if it has none. -/
def isForeign (log : Bytes) : Bool :=
  headSize ≤ log.length && (guard? log).isNone && (log.drop 16).take 8 ≠ List.replicate 8 0

/-- The contents of a file once the frames of complete changes are put into it. -/
def replay (fs : List Frame) (file : Bytes) : Bytes :=
  match fs.getLast? with
  | none => file
  | some last =>
    let put := fun (file : Bytes) (f : Frame) =>
      if last.pages < f.number then file
      else overwrite file ((f.number - 1) * f.page.length) f.page
    let size := last.pages * last.page.length
    let file := (fs.foldl put file).take size
    file ++ List.replicate (size - file.length) 0

end Log
end Database
end FlowAtlas
