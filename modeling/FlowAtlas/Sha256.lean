import FlowAtlas.Bytes

/-!
# SHA-256

The digest of the secure hash standard over 256 bits. A message is padded to whole blocks of sixteen
words, and `Sha256.compress` works the blocks into a state of eight words one after another.
-/

set_option autoImplicit false

namespace FlowAtlas
namespace Sha256

/-- The eight working words. -/
structure State where
  a : UInt32
  b : UInt32
  c : UInt32
  d : UInt32
  e : UInt32
  f : UInt32
  g : UInt32
  h : UInt32
  deriving DecidableEq, Repr, Inhabited

namespace State

/-- The state before the first block. -/
def initial : State :=
  ⟨0x6a09e667, 0xbb67ae85, 0x3c6ef372, 0xa54ff53a, 0x510e527f, 0x9b05688c, 0x1f83d9ab, 0x5be0cd19⟩

/-- Add two states word by word. -/
def add (s t : State) : State :=
  ⟨s.a + t.a, s.b + t.b, s.c + t.c, s.d + t.d, s.e + t.e, s.f + t.f, s.g + t.g, s.h + t.h⟩

/-- The words in order. -/
def toList (s : State) : List UInt32 := [s.a, s.b, s.c, s.d, s.e, s.f, s.g, s.h]

end State

/-- The constants of the sixty-four rounds. -/
def roundConstants : List UInt32 :=
  [ 0x428a2f98, 0x71374491, 0xb5c0fbcf, 0xe9b5dba5, 0x3956c25b, 0x59f111f1, 0x923f82a4, 0xab1c5ed5,
    0xd807aa98, 0x12835b01, 0x243185be, 0x550c7dc3, 0x72be5d74, 0x80deb1fe, 0x9bdc06a7, 0xc19bf174,
    0xe49b69c1, 0xefbe4786, 0x0fc19dc6, 0x240ca1cc, 0x2de92c6f, 0x4a7484aa, 0x5cb0a9dc, 0x76f988da,
    0x983e5152, 0xa831c66d, 0xb00327c8, 0xbf597fc7, 0xc6e00bf3, 0xd5a79147, 0x06ca6351, 0x14292967,
    0x27b70a85, 0x2e1b2138, 0x4d2c6dfc, 0x53380d13, 0x650a7354, 0x766a0abb, 0x81c2c92e, 0x92722c85,
    0xa2bfe8a1, 0xa81a664b, 0xc24b8b70, 0xc76c51a3, 0xd192e819, 0xd6990624, 0xf40e3585, 0x106aa070,
    0x19a4c116, 0x1e376c08, 0x2748774c, 0x34b0bcb5, 0x391c0cb3, 0x4ed8aa4a, 0x5b9cca4f, 0x682e6ff3,
    0x748f82ee, 0x78a5636f, 0x84c87814, 0x8cc70208, 0x90befffa, 0xa4506ceb, 0xbef9a3f7, 0xc67178f2 ]

/-- Turn a word to the right, by more than no and less than all of its bits. -/
def rotate (x : UInt32) (n : UInt32) : UInt32 := (x >>> n) ||| (x <<< (32 - n))

/-! ## One block -/

/-- The word that follows sixteen words of the schedule. -/
def nextWord (w : List UInt32) : UInt32 :=
  let x := w.getD 1 0
  let y := w.getD 14 0
  (rotate y 17 ^^^ rotate y 19 ^^^ (y >>> 10)) + w.getD 9 0 +
    (rotate x 7 ^^^ rotate x 18 ^^^ (x >>> 3)) + w.getD 0 0

/-- The first `n` words of the schedule that goes on from sixteen words. -/
def schedule : (n : Nat) → List UInt32 → List UInt32
  | n + 1, w :: rest => w :: schedule n (rest ++ [nextWord (w :: rest)])
  | _, _ => []

/-- One round, with the sum of its constant and its word of the schedule. -/
def round (s : State) (kw : UInt32) : State :=
  let choice := (s.e &&& s.f) ^^^ (~~~s.e &&& s.g)
  let majority := (s.a &&& s.b) ^^^ (s.a &&& s.c) ^^^ (s.b &&& s.c)
  let t₁ := s.h + (rotate s.e 6 ^^^ rotate s.e 11 ^^^ rotate s.e 25) + choice + kw
  let t₂ := (rotate s.a 2 ^^^ rotate s.a 13 ^^^ rotate s.a 22) + majority
  ⟨t₁ + t₂, s.a, s.b, s.c, s.d + t₁, s.e, s.f, s.g⟩

/-- Work a block of sixteen words into the state. -/
def compress (s : State) (block : List UInt32) : State :=
  s.add ((roundConstants.zipWith (· + ·) (schedule 64 block)).foldl round s)

/-! ## Messages -/

/-- A message with a one bit, zero bits and its length in bits behind it, as whole blocks. -/
def pad (message : Bytes) : Bytes :=
  message ++ 0x80 :: List.replicate ((119 - message.length % 64) % 64) 0 ++
    (Bytes.ofNat 8 (8 * message.length)).reverse

/-- Bytes as words, the most significant byte first. -/
def words : Bytes → List UInt32
  | a :: b :: c :: d :: rest =>
    (a.toUInt32 <<< 24 ||| b.toUInt32 <<< 16 ||| c.toUInt32 <<< 8 ||| d.toUInt32) :: words rest
  | _ => []

/-- Work words into the state block by block. Those of the block that is not yet full wait, the
latest first. -/
def absorb : State → (waiting : List UInt32) → List UInt32 → State
  | s, _, [] => s
  | s, waiting, w :: rest =>
    if waiting.length = 15 then absorb (compress s (w :: waiting).reverse) [] rest
    else absorb s (w :: waiting) rest

/-- The digest of a message. -/
def digest (message : Bytes) : Bytes :=
  (absorb .initial [] (words (pad message))).toList.flatMap fun w =>
    (Bytes.ofNat 4 w.toNat).reverse

/-- The digest of a message in lower-case digits of base sixteen. -/
def hexDigest (message : Bytes) : String := Bytes.hex (digest message)

end Sha256
end FlowAtlas
