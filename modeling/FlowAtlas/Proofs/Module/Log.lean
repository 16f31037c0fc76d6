import FlowAtlas.Module.Log
import FlowAtlas.Proofs.SoftwareUnit
import FlowAtlas.Proofs.Stateful
import FlowAtlas.Proofs.Text.Lines
import FlowAtlas.Proofs.Text.Numeral

/-!
# What a module log comes to

`ModuleLog.read_log` says that reading a log is feeding its events to a history, one after the
other.  The lines of a log are the lines of events and any number of others, which are blank or of
any other form than the line of an event.  These are passed over, but they count.

* `LogEntry` is what a line stands for, and `LogEntry.log` the log with these lines.  The names of
  events may be anything that a line can hold and that has no blanks at its ends (`Fits`).
* `ModuleHistory.follow?` is the history after an event, with the names numbered, and
  `LogEntry.replay` follows the events of a log up to the first unload without an open stay.
-/

set_option autoImplicit false

namespace FlowAtlas

/-!
## The lines of a module log

`LogLine.text` puts the parts of a line together, and `LogLine.ofText?` takes a line apart.  The
main theorem `ofText?_eq_some_iff` is that the two are inverse on well-formed parts, and that nothing
else is taken apart.  A name may hold what looks like a range: a line is split at its last range
(`nameAndRange?_eq_some_iff`), and no other range of it reaches to the end.

* `IsRun` is what the runs of digits in a line are made of.
* `ModuleEvent.parts` gives the parts of the line of an event.  They are well-formed unless the name
  is empty (`wellFormed_parts`), and say what the event says (`eventOfLine_parts`).
-/

namespace Text

variable {cs : List Char}

/-- A text that neither begins nor ends with a blank has nothing to be cut off. -/
theorem trim_eq_self (hfirst : ∀ c ∈ cs.head?, isBlank c = false)
    (hlast : ∀ c ∈ cs.getLast?, isBlank c = false) : trim cs = cs := by
  have hdrop : ∀ l : List Char, (∀ c ∈ l.head?, isBlank c = false) → l.dropWhile isBlank = l := by
    intro l hl
    cases l with
    | nil => rfl
    | cons c l =>
      refine List.dropWhile_cons_of_neg ?_
      rw [hl c rfl]
      exact Bool.false_ne_true
  rw [List.getLast?_eq_head?_reverse] at hlast
  rw [trim, hdrop cs hfirst, hdrop cs.reverse hlast, List.reverse_reverse]

end Text

namespace LogLine

variable {p : Char → Bool} {literal found rest cs name start stop : List Char} {l : LogLine}

/-! ### Fixed texts and runs -/

theorem after?_eq_some_iff : after? literal cs = some rest ↔ cs = literal ++ rest := by
  rw [after?]
  split
  · rename_i h
    obtain ⟨t, rfl⟩ := List.isPrefixOf_iff_prefix.1 h
    rw [List.drop_left, Option.some_inj, List.append_right_inj]
  · rename_i h
    constructor
    · exact fun hnone => absurd hnone (Option.some_ne_none rest).symm
    · rintro rfl
      exact absurd (List.isPrefixOf_iff_prefix.2 (List.prefix_append literal rest)) h

@[simp] theorem after?_append (literal rest : List Char) :
    after? literal (literal ++ rest) = some rest := after?_eq_some_iff.2 rfl

/-- A non-empty text of such characters only. -/
structure IsRun (p : Char → Bool) (cs : List Char) : Prop where
  ne_nil : cs ≠ []
  forall_mem : ∀ c ∈ cs, p c = true

theorem IsRun.reverse (h : IsRun p cs) : IsRun p cs.reverse :=
  ⟨List.reverse_ne_nil_iff.2 h.ne_nil, fun c hc => h.forall_mem c (List.mem_reverse.1 hc)⟩

theorem IsRun.not_mem (h : IsRun p cs) {c : Char} (hc : p c = false) : c ∉ cs := by
  intro hmem
  rw [h.forall_mem c hmem] at hc
  cases hc

/-- A run ends where a character of another sort follows. -/
theorem run?_append (h : IsRun p found) (hrest : ∀ c ∈ rest.head?, p c = false) :
    run? p (found ++ rest) = some (found, rest) := by
  have htake : rest.takeWhile p = [] ∧ rest.dropWhile p = rest := by
    cases rest with
    | nil => exact ⟨rfl, rfl⟩
    | cons c rest =>
      have hc : ¬p c = true := by
        rw [hrest c rfl]
        exact Bool.false_ne_true
      exact ⟨List.takeWhile_cons_of_neg hc, List.dropWhile_cons_of_neg hc⟩
  rw [run?, List.takeWhile_append_of_pos h.forall_mem, List.dropWhile_append_of_pos h.forall_mem,
    htake.1, htake.2, List.append_nil]
  cases found with
  | nil => exact absurd rfl h.ne_nil
  | cons c found => rfl

theorem of_run?_eq_some (h : run? p cs = some (found, rest)) :
    IsRun p found ∧ cs = found ++ rest := by
  rw [run?] at h
  cases htake : cs.takeWhile p with
  | nil =>
    rw [htake] at h
    cases h
  | cons c taken =>
    rw [htake] at h
    cases h
    refine ⟨⟨List.cons_ne_nil c taken, fun d hd => ?_⟩, ?_⟩
    · rw [← htake] at hd
      exact List.all_eq_true.1 List.all_takeWhile d hd
    · rw [← htake, List.takeWhile_append_dropWhile]

/-! ### Name and range -/

/-- **A text is split at its last range**, whatever ranges the name may hold. -/
theorem nameAndRange?_eq_some_iff : nameAndRange? cs = some (name, start, stop) ↔
    name ≠ [] ∧ IsRun isHexDigit start ∧ IsRun isHexDigit stop ∧
      cs = name ++ (": 0x".toList ++ (start ++ (" - 0x".toList ++ stop))) := by
  -- the text is taken apart from its end, where the marks of the range are spelled backwards
  have hmark : (": 0x".toList).reverse = "x0 :".toList := by decide
  have hmark' : (" - 0x".toList).reverse = "x0 - ".toList := by decide
  rw [nameAndRange?]
  constructor
  · intro h
    simp only [Option.bind_eq_bind, Option.bind_eq_some_iff] at h
    obtain ⟨⟨stop', rest₁⟩, hstop, rest₂, hrest₂, ⟨start', rest₃⟩, hstart, rest₄, hrest₄, h⟩ := h
    obtain ⟨hstop, hcs⟩ := of_run?_eq_some hstop
    obtain ⟨hstart, hrest₃⟩ := of_run?_eq_some hstart
    rw [after?_eq_some_iff] at hrest₂ hrest₄
    dsimp only at hrest₂ hrest₄ hrest₃
    split at h
    · cases h
    · rename_i hname
      cases h
      refine ⟨?_, hstart.reverse, hstop.reverse, ?_⟩
      · rwa [Ne, List.reverse_eq_nil_iff, ← List.isEmpty_iff]
      · rw [hrest₂, hrest₃, hrest₄, ← hmark, ← hmark', List.reverse_eq_iff] at hcs
        simpa only [List.reverse_append, List.reverse_reverse, List.append_assoc] using hcs
  · rintro ⟨hname, hstart, hstop, rfl⟩
    have hreverse : (name ++ (": 0x".toList ++ (start ++ (" - 0x".toList ++ stop)))).reverse =
        stop.reverse ++ ("x0 - ".toList ++ (start.reverse ++ ("x0 :".toList ++ name.reverse))) := by
      simp only [List.reverse_append, hmark, hmark', List.append_assoc]
    have hx : isHexDigit 'x' = false := by decide
    have hrest : ∀ c ∈ ("x0 - ".toList ++ (start.reverse ++ ("x0 :".toList ++ name.reverse))).head?,
        isHexDigit c = false := by
      rintro c ⟨⟩
      exact hx
    have hrest' : ∀ c ∈ ("x0 :".toList ++ name.reverse).head?, isHexDigit c = false := by
      rintro c ⟨⟩
      exact hx
    have hempty : name.reverse.isEmpty = false := by
      rwa [List.isEmpty_eq_false_iff, Ne, List.reverse_eq_nil_iff]
    rw [hreverse, run?_append hstop.reverse hrest]
    simp only [Option.bind_eq_bind, Option.bind_some, after?_append,
      run?_append hstart.reverse hrest', hempty, List.reverse_reverse, Bool.false_eq_true, if_false]

/-! ### Whole lines -/

/-- The line with these parts. -/
def text (l : LogLine) : List Char :=
  ['('] ++ (l.block ++ ([','] ++ (l.edge ++ ([','] ++ (l.crossModuleEdge ++ (") ".toList ++
    ((if l.isLoad then "Loaded" else "Unloaded").toList ++ (" module ".toList ++
      (l.name ++ (": 0x".toList ++ (l.start ++ (" - 0x".toList ++ l.stop))))))))))))

/-- The numbers have digits, and there is a name. -/
structure WellFormed (l : LogLine) : Prop where
  block : IsRun Text.isDecimalDigit l.block
  edge : IsRun Text.isDecimalDigit l.edge
  crossModuleEdge : IsRun Text.isDecimalDigit l.crossModuleEdge
  name : l.name ≠ []
  start : IsRun isHexDigit l.start
  stop : IsRun isHexDigit l.stop

theorem ofText?_text (h : l.WellFormed) : ofText? l.text = some l := by
  have hcomma : ∀ rest, ∀ c ∈ ([','] ++ rest).head?, Text.isDecimalDigit c = false := by
    rintro rest c ⟨⟩
    decide
  have hclose : ∀ rest, ∀ c ∈ (") ".toList ++ rest).head?, Text.isDecimalDigit c = false := by
    rintro rest c ⟨⟩
    decide
  have hunload : ∀ rest, after? "Loaded".toList ("Unloaded".toList ++ rest) = none :=
    fun rest => rfl
  have hrange := nameAndRange?_eq_some_iff.2 ⟨h.name, h.start, h.stop, rfl⟩
  rw [ofText?, text, after?_append]
  simp only [Option.bind_eq_bind, Option.bind_some, after?_append, run?_append h.block (hcomma _),
    run?_append h.edge (hcomma _), run?_append h.crossModuleEdge (hclose _)]
  cases hload : l.isLoad with
  | true =>
    simp only [if_true, after?_append, Option.bind_some, hrange]
    rw [← hload]
    rfl
  | false =>
    simp only [Bool.false_eq_true, if_false, hunload, after?_append, Option.map_some,
      Option.bind_some, hrange]
    rw [← hload]
    rfl

theorem of_ofText?_eq_some (h : ofText? cs = some l) : l.WellFormed ∧ cs = l.text := by
  simp only [ofText?, Option.bind_eq_bind, Option.bind_eq_some_iff, after?_eq_some_iff] at h
  obtain ⟨cs₁, rfl, ⟨block, cs₂⟩, hrun₁, cs₃, hcs₂, ⟨edge, cs₄⟩, hrun₃, cs₅, hcs₄, ⟨cross, cs₆⟩,
    hrun₅, cs₇, hcs₆, h⟩ := h
  obtain ⟨hblock, rfl⟩ := of_run?_eq_some hrun₁
  obtain ⟨hedge, rfl⟩ := of_run?_eq_some hrun₃
  obtain ⟨hcross, rfl⟩ := of_run?_eq_some hrun₅
  dsimp only at hcs₂ hcs₄ hcs₆
  have hverb : ∃ isLoad cs₈, cs₇ = (if isLoad then "Loaded" else "Unloaded").toList ++ cs₈ ∧
      ((after? " module ".toList cs₈).bind fun cs =>
        (nameAndRange? cs).bind fun r =>
          some (⟨block, edge, cross, isLoad, r.1, r.2.1, r.2.2⟩ : LogLine)) = some l := by
    cases hload : after? "Loaded".toList cs₇ with
    | some cs₈ =>
      rw [hload] at h
      exact ⟨true, cs₈, after?_eq_some_iff.1 hload, h⟩
    | none =>
      rw [hload] at h
      obtain ⟨⟨isLoad, cs₈⟩, hunload, h⟩ := Option.bind_eq_some_iff.1 h
      obtain ⟨cs, hcs, heq⟩ := Option.map_eq_some_iff.1 hunload
      cases heq
      exact ⟨false, cs₈, after?_eq_some_iff.1 hcs, h⟩
  obtain ⟨isLoad, cs₈, hcs₇, hparts⟩ := hverb
  simp only [Option.bind_eq_some_iff, after?_eq_some_iff] at hparts
  obtain ⟨cs₉, rfl, ⟨name, start, stop⟩, hrange, hparts⟩ := hparts
  obtain ⟨hname, hstart, hstop, rfl⟩ := nameAndRange?_eq_some_iff.1 hrange
  cases hparts
  rw [hcs₂, hcs₄, hcs₆, hcs₇]
  exact ⟨⟨hblock, hedge, hcross, hname, hstart, hstop⟩, rfl⟩

/-- **A line is taken apart exactly when it has well-formed parts, and into these.** -/
theorem ofText?_eq_some_iff : ofText? cs = some l ↔ l.WellFormed ∧ cs = l.text := by
  constructor
  · exact of_ofText?_eq_some
  · rintro ⟨h, rfl⟩
    exact ofText?_text h

/-! ### Blanks -/

theorem isBlank_of_isHexDigit {c : Char} (h : isHexDigit c = true) : Text.isBlank c = false := by
  have hc : 48 ≤ c.toNat ∧ c.toNat ≤ 102 := by
    rw [isHexDigit, Numeral.hexDigit?] at h
    simp only [Char.le_def, UInt32.le_iff_toNat_le] at h
    show 48 ≤ c.val.toNat ∧ c.val.toNat ≤ 102
    split at h
    · rename_i hdigit
      exact ⟨hdigit.1, Nat.le_trans hdigit.2 (by decide)⟩
    · split at h
      · rename_i hdigit
        exact ⟨Nat.le_trans (by decide) hdigit.1, hdigit.2⟩
      · split at h
        · rename_i hdigit
          exact ⟨Nat.le_trans (by decide) hdigit.1, Nat.le_trans hdigit.2 (by decide)⟩
        · cases h
  rw [Bool.eq_false_iff]
  intro hblank
  simp only [Text.isBlank, Text.blankRanges, List.any_cons, List.any_nil, Bool.or_false,
    Bool.or_eq_true, Bool.and_eq_true, decide_eq_true_eq] at hblank
  omega

/-- A line has no blanks at its ends, with a parenthesis and a digit there. -/
theorem trim_text (h : l.WellFormed) : Text.trim l.text = l.text := by
  refine Text.trim_eq_self ?_ ?_
  · rintro c ⟨⟩
    decide
  · intro c hc
    simp only [text, ← List.append_assoc] at hc
    rw [List.getLast?_append, List.getLast?_eq_some_getLast h.stop.ne_nil, Option.some_or] at hc
    cases hc
    exact isBlank_of_isHexDigit (h.stop.forall_mem _ (List.getLast_mem h.stop.ne_nil))

/-! ### Line feeds -/

theorem mem_text_of_mem_name {c : Char} (h : c ∈ l.name) : c ∈ l.text := by
  simp [text, h]

theorem newline_not_mem_text (h : l.WellFormed) (hname : '\n' ∉ l.name) : '\n' ∉ l.text := by
  have hdecimal : Text.isDecimalDigit '\n' = false := by decide
  have hhex : isHexDigit '\n' = false := by decide
  have hverb : '\n' ∉ (if l.isLoad then "Loaded" else "Unloaded").toList := by
    cases l.isLoad <;> decide
  have hcomma : '\n' ∉ [','] := by decide
  simp only [text, List.mem_append, not_or]
  exact ⟨by decide, h.block.not_mem hdecimal, hcomma, h.edge.not_mem hdecimal, hcomma,
    h.crossModuleEdge.not_mem hdecimal, by decide, hverb, by decide, hname, by decide,
    h.start.not_mem hhex, by decide, h.stop.not_mem hhex⟩

end LogLine

/-! ### The line of an event -/

namespace ModuleEvent

variable {e : ModuleEvent}

/-- The parts of the line of an event. -/
def parts (e : ModuleEvent) : LogLine where
  block := Nat.toDigits 10 e.counters.block.toNat
  edge := Nat.toDigits 10 e.counters.edge.toNat
  crossModuleEdge := Nat.toDigits 10 e.counters.crossModuleEdge.toNat
  isLoad := e.isLoad
  name := e.name.toList
  start := Nat.toDigits 16 e.start.toNat
  stop := Nat.toDigits 16 e.stop.toNat

theorem toList_line (e : ModuleEvent) : e.line.toList = e.parts.text := by
  -- an equation for `line` would be looked for by unfolding the appends, which takes long
  delta line
  simp only [LogLine.text, parts, String.toList_append, Numeral.toList_decimal,
    Numeral.toList_hex, List.append_assoc]
  rfl

theorem wellFormed_parts (h : e.name ≠ "") : e.parts.WellFormed where
  block := ⟨Nat.toDigits_ne_nil, fun _ => Numeral.isDecimalDigit_of_mem_toDigits⟩
  edge := ⟨Nat.toDigits_ne_nil, fun _ => Numeral.isDecimalDigit_of_mem_toDigits⟩
  crossModuleEdge := ⟨Nat.toDigits_ne_nil, fun _ => Numeral.isDecimalDigit_of_mem_toDigits⟩
  name := fun hname => h (String.toList_eq_nil_iff.1 hname)
  start := ⟨Nat.toDigits_ne_nil, fun _ => Numeral.isSome_hexDigit?_of_mem_toDigits⟩
  stop := ⟨Nat.toDigits_ne_nil, fun _ => Numeral.isSome_hexDigit?_of_mem_toDigits⟩

/-- The numbers in the line of an event are those of the event. -/
theorem eventOfLine_parts (hname : Text.trim e.name.toList = e.name.toList)
    (hrange : e.start ≤ e.stop) (line : Nat) : ModuleLog.eventOfLine line e.parts = .ok e := by
  have hdecimal : ∀ w : UInt64, ModuleLog.number line Numeral.ofDecimal? (Nat.toDigits 10 w.toNat) =
      .ok w := fun w => by
    rw [ModuleLog.number, Numeral.ofDecimal?_toDigits, Option.bind_some, Numeral.word?_toNat]
  have hhex : ∀ w : UInt64, ModuleLog.number line Numeral.ofHex? (Nat.toDigits 16 w.toNat) =
      .ok w := fun w => by
    rw [ModuleLog.number, Numeral.ofHex?_toDigits, Option.bind_some, Numeral.word?_toNat]
  rw [ModuleLog.eventOfLine, parts]
  dsimp only
  rw [hdecimal, hdecimal, hdecimal, hhex, hhex, hname, String.ofList_toList]
  show (if e.start ≤ e.stop then _ else _) = _
  rw [if_pos hrange]
  rfl

end ModuleEvent

/-! ## Logs -/

/-- The event can be told by a log. -/
structure ModuleEvent.Fits (e : ModuleEvent) : Prop where
  start_le_stop : e.start ≤ e.stop
  name_ne : e.name ≠ ""
  newline_not_mem : '\n' ∉ e.name.toList
  head_not_blank : ∀ c ∈ e.name.toList.head?, Text.isBlank c = false
  last_not_blank : ∀ c ∈ e.name.toList.getLast?, Text.isBlank c = false

/-- Units and history after an event: a load numbers its unit, and an unload looks for it.  There is
nothing after an unload without an open stay. -/
def ModuleHistory.follow? (h : ModuleHistory) (units : UnitTable) (e : ModuleEvent) :
    Option (UnitTable × ModuleHistory) :=
  if e.isLoad then
    let (unit, units) := units.intern (.parse e.name)
    some (units, h.load unit e.start e.stop e.counters)
  else do
    let unit ← units.lookup? e.name
    let h ← h.unload? unit e.start e.counters
    return (units, h)

/-- A unit that has a number is found by its name. -/
theorem UnitTable.lookup?_intern (t : UnitTable) (u : SoftwareUnit) :
    (t.intern u).2.lookup? u.name = some (t.intern u).1 := by
  rw [intern]
  cases h : t.lookup? u.name with
  | some id => exact h
  | none => exact Std.HashMap.getElem?_insert_self

/-- What a line of a log stands for. -/
inductive LogEntry
  /-- The line of an event. -/
  | event (e : ModuleEvent)
  /-- Any other line. -/
  | other (text : String)

namespace LogEntry

variable {entries : List LogEntry} {line : Nat} {units : UnitTable} {history : ModuleHistory}

/-- The line itself. -/
def text : LogEntry → String
  | event e => e.line
  | other text => text

/-- The entry can stand in a log: its event fits, or it is a line of another form than that of an
event.  A blank line is one of those. -/
def Fits : LogEntry → Prop
  | event e => e.Fits
  | other text => '\n' ∉ text.toList ∧
      ∀ l : LogLine, l.WellFormed → Text.trim text.toList ≠ l.text

theorem Fits.newline_not_mem {x : LogEntry} (h : x.Fits) : '\n' ∉ x.text.toList := by
  cases x with
  | other text => exact h.1
  | event e =>
    have he : e.Fits := h
    rw [text, ModuleEvent.toList_line]
    exact LogLine.newline_not_mem_text (ModuleEvent.wellFormed_parts he.name_ne) he.newline_not_mem

/-- The log with these lines.  One that ends in a line feed has an empty line at its end. -/
def log (entries : List LogEntry) : Bytes :=
  Bytes.ofText ("\n".intercalate (entries.map text))

/-- What the events come to if they are followed in order, with the units numbered on the way. -/
def replay (line : Nat) (units : UnitTable) (history : ModuleHistory) :
    List LogEntry → Except ModuleLogError AddressMap × UnitTable
  | [] => (.ok history.freeze, units)
  | other _ :: rest => replay (line + 1) units history rest
  | event e :: rest =>
    match history.follow? units e with
    | some (units, history) => replay (line + 1) units history rest
    | none => (.error (.unmatchedUnload line e.name e.start), units)

end LogEntry

namespace ModuleLog

open LogEntry (replay)

variable {entries : List LogEntry} {line : Nat} {units : UnitTable} {history : ModuleHistory}
  {e : ModuleEvent} {x : LogEntry} {lines : List Bytes}

/-! ## Single lines -/

/-- A line of another form than that of an event is passed over. -/
theorem readLine_other {text : String}
    (h : ∀ l : LogLine, l.WellFormed → Text.trim text.toList ≠ l.text) :
    readLine line (Bytes.ofText text) = pure () := by
  have hnone : LogLine.ofText? (Text.trim text.toList) = none := by
    cases hl : LogLine.ofText? (Text.trim text.toList) with
    | none => rfl
    | some l =>
      obtain ⟨hwell, htext⟩ := LogLine.of_ofText?_eq_some hl
      exact absurd htext (h l hwell)
  rw [readLine, Bytes.text?_ofText]
  dsimp only
  rw [hnone]

/-- The line of an event is read as the event. -/
theorem readLine_event (h : e.Fits) : readLine line (Bytes.ofText e.line) = apply line e := by
  have hwell := ModuleEvent.wellFormed_parts h.name_ne
  have hname := Text.trim_eq_self h.head_not_blank h.last_not_blank
  have hevent := ModuleEvent.eventOfLine_parts hname h.start_le_stop line
  rw [readLine, Bytes.text?_ofText]
  dsimp only
  rw [ModuleEvent.toList_line, LogLine.trim_text hwell, LogLine.ofText?_text hwell]
  dsimp only
  rw [hevent]

/-- An event is followed in the history, unless nothing follows it. -/
theorem apply_eq (line : Nat) (e : ModuleEvent) (units : UnitTable) (history : ModuleHistory) :
    apply line e ⟨units, history⟩ =
      match history.follow? units e with
      | some (units, history) => .ok () ⟨units, history⟩
      | none => .error (.unmatchedUnload line e.name e.start) ⟨units, history⟩ := by
  rw [apply, ModuleHistory.follow?]
  cases e.isLoad with
  | true => rfl
  | false =>
    simp only [Bool.false_eq_true, if_false]
    cases units.lookup? e.name with
    | none => rfl
    | some unit =>
      simp only [Option.bind_some, Option.bind_eq_bind]
      cases history.unload? unit e.start e.counters with
      | none => rfl
      | some history => rfl

/-! ## Whole logs -/

/-- What is left of a log when all its lines are read. -/
def outcome : EStateM.Result ModuleLogError State Unit →
    Except ModuleLogError AddressMap × UnitTable
  | .ok () s => (.ok s.history.freeze, s.units)
  | .error cause s => (.error cause, s.units)

theorem read_eq (units : UnitTable) (log : Bytes) :
    read units log = outcome (readLines 1 log.lines { units }) := rfl

/-- The lines of a log are read as what they stand for. -/
theorem outcome_readLines (h : ∀ x ∈ entries, x.Fits) :
    outcome (readLines line (entries.map fun x => Bytes.ofText x.text) ⟨units, history⟩) =
      replay line units history entries := by
  induction entries generalizing line units history with
  | nil => rfl
  | cons x entries ih =>
    obtain ⟨hx, hentries⟩ := List.forall_mem_cons.1 h
    rw [List.map_cons, readLines]
    cases x with
    | other text =>
      have hline : readLine line (Bytes.ofText text) = pure () := readLine_other hx.2
      rw [LogEntry.text, hline, pure_bind]
      exact ih hentries
    | event e =>
      have hline : readLine line (Bytes.ofText e.line) = apply line e := readLine_event hx
      have happly := apply_eq line e units history
      rw [LogEntry.text, hline, replay]
      cases hfollow : history.follow? units e with
      | none =>
        rw [hfollow] at happly
        rw [EStateM.bind_of_error happly]
        rfl
      | some next =>
        rw [hfollow] at happly
        rw [EStateM.bind_of_ok happly]
        exact ih hentries

/-- An empty line at the end does not count. -/
theorem readLines_concat_nil (lines : List Bytes) (line : Nat) :
    readLines line (lines ++ [[]]) = readLines line lines := by
  induction lines generalizing line with
  | nil =>
    have hempty : Bytes.ofText "" = [] := by
      rw [Bytes.ofText_eq]
      rfl
    have hblank : readLine line (Bytes.ofText "") = pure () := by
      refine readLine_other fun l _ h => ?_
      cases h
    rw [List.nil_append, readLines, readLines, ← hempty, hblank, pure_bind]
    rfl
  | cons bs lines ih => rw [List.cons_append, readLines, readLines, ih]

/-- **Reading a log is following its events.**  Lines of other forms are passed over.  The first
unload that finds no open stay is told by the number of its line, and the units that were numbered
before it remain. -/
theorem read_log (h : ∀ x ∈ entries, x.Fits) (units : UnitTable) :
    read units (LogEntry.log entries) = replay 1 units {} entries := by
  have hfeed : ∀ bs ∈ entries.map fun x => Bytes.ofText x.text, 0x0a ∉ bs := by
    intro bs hbs
    obtain ⟨x, hx, rfl⟩ := List.mem_map.1 hbs
    exact Bytes.newline_not_mem_ofText (h x hx).newline_not_mem
  have hmap : (entries.map LogEntry.text).map Bytes.ofText =
      entries.map fun x => Bytes.ofText x.text := List.map_map
  rw [← outcome_readLines h, read_eq, LogEntry.log, Bytes.ofText_intercalate, hmap]
  generalize entries.map (fun x => Bytes.ofText x.text) = lines at hfeed
  rw [Bytes.lines_intercalate hfeed]
  split
  · rename_i hlast
    obtain ⟨lines, rfl⟩ := List.getLast?_eq_some_iff.1 hlast
    rw [List.dropLast_concat, readLines_concat_nil]
  · rfl

/-! ## A log with an unload too many -/

/-- A module whose name looks like a range is loaded and unloaded, and unloaded again.  In between
stand an empty line, a remark, and a line without a name. -/
def unloadedTwice : List LogEntry :=
  let name := "a: 0x1 - 0x2"
  let stop : UInt64 := 0xffffffffffffffff
  [.event ⟨⟨0, 0, stop⟩, true, name, 0x1000, stop⟩, .other "", .other "  # a remark",
    .other "(1,2,3) Loaded module : 0x1 - 0x2", .event ⟨⟨5, 5, 5⟩, false, name, 0x1000, stop⟩,
    .event ⟨⟨6, 6, 6⟩, false, name, 0x1000, stop⟩]

/-- The second unload is refused by the number of its line, and the unit keeps its number. -/
theorem read_unloadedTwice : (∀ x ∈ unloadedTwice, x.Fits) ∧
    read .initial (LogEntry.log unloadedTwice) =
      (.error (.unmatchedUnload 6 "a: 0x1 - 0x2" 0x1000),
        (UnitTable.initial.intern (.parse "a: 0x1 - 0x2")).2) := by
  have hother : ∀ text : String, '\n' ∉ text.toList →
      LogLine.ofText? (Text.trim text.toList) = none → (LogEntry.other text).Fits := by
    intro text hfeed hnone
    refine ⟨hfeed, fun l hl htext => ?_⟩
    rw [htext, LogLine.ofText?_text hl] at hnone
    cases hnone
  have hevent : ∀ counters isLoad, (LogEntry.event
      ⟨counters, isLoad, "a: 0x1 - 0x2", 0x1000, 0xffffffffffffffff⟩).Fits := by
    intro counters isLoad
    have hrange : (0x1000 : UInt64) ≤ 0xffffffffffffffff := by decide
    have hname : "a: 0x1 - 0x2" ≠ "" := by decide
    have hfeed : '\n' ∉ "a: 0x1 - 0x2".toList := by decide
    have hfirst : ∀ c ∈ "a: 0x1 - 0x2".toList.head?, Text.isBlank c = false := by
      rintro c ⟨⟩
      decide
    have hlast : ∀ c ∈ "a: 0x1 - 0x2".toList.getLast?, Text.isBlank c = false := by
      rintro c ⟨⟩
      decide
    exact ⟨hrange, hname, hfeed, hfirst, hlast⟩
  have hfits : ∀ x ∈ unloadedTwice, x.Fits := by
    simp only [unloadedTwice, List.forall_mem_cons]
    exact ⟨hevent _ _, hother _ (by decide) (by decide), hother _ (by decide) (by decide),
      hother _ (by decide) (by decide), hevent _ _, hevent _ _, List.forall_mem_nil _⟩
  refine ⟨hfits, (read_log hfits .initial).trans ?_⟩
  have hlookup := UnitTable.initial.lookup?_intern (.parse "a: 0x1 - 0x2")
  rw [SoftwareUnit.name_parse] at hlookup
  simp only [unloadedTwice, replay, ModuleHistory.follow?, if_true]
  rw [hlookup]
  simp [ModuleHistory.load, ModuleHistory.unload?, ModuleHistory.closeFirst?,
    ModuleInstance.loadedAt, ModuleInstance.unload, ModuleInstance.isLoaded, PerStream.map,
    PerStream.zipWith, PerStream.toList, StreamWindow.openAt, StreamWindow.openEnd]

end ModuleLog
end FlowAtlas
