/-!
# Tag words

Every trace record begins with tag words: 64 bits that hold, from the low end, a block's address
in 40 bits, then an ordinal, a kind and a version of one byte each.
-/

set_option autoImplicit false

namespace FlowAtlas

/-- The parts of a tag word. -/
structure TagWord where
  /-- The address of a block. A tag word has room for its low 40 bits. -/
  tag : UInt64
  ordinal : UInt8
  kind : UInt8
  version : UInt8
  deriving DecidableEq, Repr, Inhabited

namespace TagWord

/-- Addresses stay below this. -/
def tagLimit : UInt64 := UInt64.pow 2 40

/-- The low 40 bits of an address. -/
def clip (tag : UInt64) : UInt64 := tag % tagLimit

/-- The tag word of these parts, with the address cut to its low 40 bits. -/
def new (tag : UInt64) (ordinal kind version : UInt8) : TagWord :=
  ⟨clip tag, ordinal, kind, version⟩

/-- Take a word apart. -/
def decode (w : UInt64) : TagWord :=
  ⟨clip w, UInt8.ofNat (w.toNat / Nat.pow 2 40), UInt8.ofNat (w.toNat / Nat.pow 2 48),
    UInt8.ofNat (w.toNat / Nat.pow 2 56)⟩

/-- Put a word together. Of the address only the low 40 bits are kept. -/
def encode (t : TagWord) : UInt64 :=
  UInt64.ofNat ((clip t.tag).toNat + Nat.pow 2 40 * t.ordinal.toNat + Nat.pow 2 48 * t.kind.toNat +
    Nat.pow 2 56 * t.version.toNat)

end TagWord
end FlowAtlas
