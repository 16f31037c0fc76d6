import FlowAtlas.Bytes

/-!
# Showing bytes as a text

`Text.lossy` shows bytes as the text of which they are the UTF-8 form. What is no such form shows as
replacement characters: one for the longest start of a form at that place, or for a single byte
where no form starts.
-/

set_option autoImplicit false

namespace FlowAtlas
namespace Text

/-- Shown for bytes that are no text. -/
def replacement : Char := '\ufffd'

/-- Whether a byte lies in a range. -/
def inRange (first last b : UInt8) : Bool := first ≤ b && b ≤ last

/-- What may follow the first byte of a form of several bytes: a test for each later byte. -/
def continuation? (b : UInt8) : Option (List (UInt8 → Bool)) :=
  let rest := inRange 0x80 0xbf
  if inRange 0xc2 0xdf b then some [rest]
  else if b == 0xe0 then some [inRange 0xa0 0xbf, rest]
  else if b == 0xed then some [inRange 0x80 0x9f, rest]
  else if inRange 0xe1 0xef b then some [rest, rest]
  else if b == 0xf0 then some [inRange 0x90 0xbf, rest, rest]
  else if b == 0xf4 then some [inRange 0x80 0x8f, rest, rest]
  else if inRange 0xf1 0xf3 b then some [rest, rest, rest]
  else none

/-- How many bytes pass the tests one after another. -/
def matching : List (UInt8 → Bool) → Bytes → Nat
  | p :: ps, b :: bs => if p b then matching ps bs + 1 else 0
  | _, _ => 0

/-- The characters that bytes show as. -/
def lossyChars : Bytes → List Char
  | [] => []
  | b :: bs =>
    if b < 0x80 then Char.ofNat b.toNat :: lossyChars bs
    else
      match continuation? b with
      | none => replacement :: lossyChars bs
      | some tests =>
        let n := matching tests bs
        let shown := if n = tests.length then ((Bytes.text? (b :: bs.take n)).map String.toList).getD []
          else [replacement]
        shown ++ lossyChars (bs.drop n)
termination_by bs => bs.length
decreasing_by
  · exact Nat.lt_succ_self _
  · exact Nat.lt_succ_self _
  · rw [List.length_drop]
    exact Nat.lt_succ_of_le (Nat.sub_le ..)

/-- The place of the first byte that is no part of a text, and how many bytes from there on belong
together, unless these are only the start of a form at the end. -/
def firstFault? (place : Nat) : Bytes → Option (Nat × Option Nat)
  | [] => none
  | b :: bs =>
    if b < 0x80 then firstFault? (place + 1) bs
    else
      match continuation? b with
      | none => some (place, some 1)
      | some tests =>
        let n := matching tests bs
        if n = tests.length then firstFault? (place + n + 1) (bs.drop n)
        else some (place, if bs.length = n then none else some (n + 1))
termination_by bs => bs.length
decreasing_by
  · exact Nat.lt_succ_self _
  · rw [List.length_drop]
    exact Nat.lt_succ_of_le (Nat.sub_le ..)

/-- The text that bytes show as. -/
def lossy (bs : Bytes) : String := String.ofList (lossyChars bs)

end Text
end FlowAtlas
