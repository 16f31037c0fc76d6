import FlowAtlas.Bytes
import FlowAtlas.Module.Instance
import FlowAtlas.Text.Character

/-!
# Module logs

A module log has a line for each load and unload:

```text
(12,30,4) Loaded module NAME: 0x1000 - 0x1fff
```

The three numbers count the records that the streams held at that moment, the last two are the first
and last address of the range. The name may hold anything, even a text that looks like a range.

* `ModuleEvent.line` writes a line, and `LogLine.ofText?` takes one apart without reading its
  numbers, which may still be too large.
* `ModuleLog.read` follows the events of a whole log. Lines of any other form are passed over.
-/

set_option autoImplicit false

namespace FlowAtlas

/-- A load or an unload, as a log tells it. -/
structure ModuleEvent where
  counters : StreamCounters
  isLoad : Bool
  name : String
  start : UInt64
  stop : UInt64
  deriving DecidableEq, Repr, Inhabited

/-- The line of an event. -/
def ModuleEvent.line (e : ModuleEvent) : String :=
  "(" ++ Numeral.decimal e.counters.block.toNat ++ "," ++ Numeral.decimal e.counters.edge.toNat ++
    "," ++ Numeral.decimal e.counters.crossModuleEdge.toNat ++ ") " ++
    (if e.isLoad then "Loaded" else "Unloaded") ++ " module " ++ e.name ++ ": " ++
    Numeral.hex e.start.toNat ++ " - " ++ Numeral.hex e.stop.toNat

/-! ## The parts of a line -/

/-- The parts of a line, with its numbers as written. -/
structure LogLine where
  block : List Char
  edge : List Char
  crossModuleEdge : List Char
  isLoad : Bool
  name : List Char
  start : List Char
  stop : List Char
  deriving DecidableEq, Repr, Inhabited

namespace LogLine

/-- What follows a fixed text at the head of a line. -/
def after? (literal cs : List Char) : Option (List Char) :=
  if literal.isPrefixOf cs then some (cs.drop literal.length) else none

/-- A non-empty run of characters at the head of a line, and what follows it. -/
def run? (p : Char → Bool) (cs : List Char) : Option (List Char × List Char) :=
  match cs.takeWhile p with
  | [] => none
  | found => some (found, cs.dropWhile p)

/-- Whether a character is a hexadecimal digit. -/
def isHexDigit (c : Char) : Bool := (Numeral.hexDigit? c).isSome

/-- Split `NAME: 0xSTART - 0xSTOP` at its last range, beginning at the end. -/
def nameAndRange? (cs : List Char) : Option (List Char × List Char × List Char) := do
  let (stop, rest) ← run? isHexDigit cs.reverse
  let rest ← after? "x0 - ".toList rest
  let (start, rest) ← run? isHexDigit rest
  let rest ← after? "x0 :".toList rest
  if rest.isEmpty then none else some (rest.reverse, start.reverse, stop.reverse)

/-- Take a line without blanks at its ends apart. Digits of every script pass for digits here. -/
def ofText? (cs : List Char) : Option LogLine := do
  let cs ← after? ['('] cs
  let (block, cs) ← run? Text.isDecimalDigit cs
  let cs ← after? [','] cs
  let (edge, cs) ← run? Text.isDecimalDigit cs
  let cs ← after? [','] cs
  let (crossModuleEdge, cs) ← run? Text.isDecimalDigit cs
  let cs ← after? ") ".toList cs
  let (isLoad, cs) ←
    match after? "Loaded".toList cs with
    | some cs => some (true, cs)
    | none => (after? "Unloaded".toList cs).map (false, ·)
  let cs ← after? " module ".toList cs
  let (name, start, stop) ← nameAndRange? cs
  return { block, edge, crossModuleEdge, isLoad, name, start, stop }

end LogLine

/-! ## Reading a log -/

/-- What is wrong with a log. Lines count from one. -/
inductive ModuleLogError
  /-- The log cannot be read. -/
  | io (cause : String)
  /-- An unload without an open load. -/
  | unmatchedUnload (line : Nat) (unit : String) (start : UInt64)
  /-- A range that ends before it starts. -/
  | invertedRange (line : Nat) (unit : String) (start stop : UInt64)
  /-- A number that is none or needs more than 64 bits. -/
  | badNumber (line : Nat) (value : String)
  deriving DecidableEq, Repr

/-- The wording of the fault. -/
def ModuleLogError.message : ModuleLogError → String
  | io cause => "failed to read module log: " ++ cause
  | unmatchedUnload line unit start =>
    "line " ++ Numeral.decimal line ++ ": unload of " ++ unit ++ " at " ++
      Numeral.hex start.toNat ++ " has no matching load"
  | invertedRange line unit start stop =>
    "line " ++ Numeral.decimal line ++ ": module " ++ unit ++ " has inverted range " ++
      Numeral.hex start.toNat ++ " - " ++ Numeral.hex stop.toNat
  | badNumber line value =>
    "line " ++ Numeral.decimal line ++ ": unparseable number '" ++ value ++ "'"

namespace ModuleLog

/-- What a log has told so far: the units by number, and the loads and unloads. -/
structure State where
  units : UnitTable
  history : ModuleHistory := {}
  deriving Inhabited

/-- Reading one more line of a log, or stopping with what was learnt before. -/
abbrev Reading := EStateM ModuleLogError State

/-- The 64-bit number that digits write. -/
def number (line : Nat) (read? : List Char → Option Nat) (digits : List Char) :
    Except ModuleLogError UInt64 :=
  match (read? digits).bind Numeral.word? with
  | some w => .ok w
  | none => .error (.badNumber line (String.ofList digits))

/-- The event of a line: its numbers are read in the order in which they stand. -/
def eventOfLine (line : Nat) (l : LogLine) : Except ModuleLogError ModuleEvent := do
  let block ← number line Numeral.ofDecimal? l.block
  let edge ← number line Numeral.ofDecimal? l.edge
  let crossModuleEdge ← number line Numeral.ofDecimal? l.crossModuleEdge
  let start ← number line Numeral.ofHex? l.start
  let stop ← number line Numeral.ofHex? l.stop
  let name := String.ofList (Text.trim l.name)
  if start ≤ stop then
    return { counters := { block, edge, crossModuleEdge }, isLoad := l.isLoad, name, start, stop }
  else throw (.invertedRange line name start stop)

/-- Follow one event. A load numbers its unit, an unload must find it. -/
def apply (line : Nat) (e : ModuleEvent) : Reading Unit := fun s =>
  if e.isLoad then
    let (unit, units) := s.units.intern (.parse e.name)
    .ok () ⟨units, s.history.load unit e.start e.stop e.counters⟩
  else
    match (s.units.lookup? e.name).bind fun unit => s.history.unload? unit e.start e.counters with
    | some history => .ok () { s with history }
    | none => .error (.unmatchedUnload line e.name e.start) s

/-- Follow one line. -/
def readLine (line : Nat) (bs : Bytes) : Reading Unit :=
  match bs.text? with
  | none => throw (.io "stream did not contain valid UTF-8")
  | some text =>
    match LogLine.ofText? (Text.trim text.toList) with
    | none => pure ()
    | some l =>
      match eventOfLine line l with
      | .ok e => apply line e
      | .error cause => throw cause

/-- Follow lines, the first of which has the given number. -/
def readLines : (line : Nat) → List Bytes → Reading Unit
  | _, [] => pure ()
  | line, bs :: rest => do
    readLine line bs
    readLines (line + 1) rest

/-- Read a log, and number the units that it loads behind those that have numbers already. After an
error the units numbered until then remain. -/
def read (units : UnitTable) (log : Bytes) : Except ModuleLogError AddressMap × UnitTable :=
  match readLines 1 log.lines { units } with
  | .ok () s => (.ok s.history.freeze, s.units)
  | .error cause s => (.error cause, s.units)

end ModuleLog
end FlowAtlas
