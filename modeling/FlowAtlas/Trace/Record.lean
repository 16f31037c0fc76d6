import FlowAtlas.Bytes
import FlowAtlas.Graph.Node
import FlowAtlas.Trace.TagWord

/-!
# Trace records

A trace is three streams of records of fixed size: the basic blocks that ran (`NodeRecord`), the
transfers between them (`EdgeRecord`), and the transfers that left a module (`CrossRecord`). What
such a stream needs of its records is the class `Record`.

An edge whose ordinal is `EdgeRecord.skipOrdinal` says nothing. Its kind byte may hold anything.
-/

set_option autoImplicit false

namespace FlowAtlas

/-- A kind byte that stands for no kind. -/
inductive UnknownKind
  | node (code : UInt8)
  | edge (code : UInt8)
  deriving DecidableEq, Repr

/-- Values with a form of a fixed number of bytes. -/
class Record (α : Type) where
  /-- How many bytes the form has. -/
  size : Nat
  size_pos : 0 < size
  /-- What messages call a stream of such values. -/
  stream : String
  /-- Read a value from as many bytes as its form has. -/
  decode : Bytes → Except UnknownKind α
  /-- The form of a value. -/
  encode : α → Bytes

/-! ## Blocks -/

/-- One basic block that ran. -/
structure NodeRecord where
  tag : UInt64
  version : UInt8
  kind : NodeKind
  hash : UInt64
  deriving DecidableEq, Repr, Inhabited

namespace NodeRecord

/-- The record of a block whose address is cut to its low 40 bits. -/
def new (tag : UInt64) (version : UInt8) (kind : NodeKind) (hash : UInt64) : NodeRecord :=
  ⟨TagWord.clip tag, version, kind, hash⟩

/-- Read a tag word and a hash. -/
def decode (bs : Bytes) : Except UnknownKind NodeRecord :=
  let t := TagWord.decode (bs.word 0)
  match NodeKind.ofCode? t.kind with
  | some kind => .ok ⟨t.tag, t.version, kind, bs.word 1⟩
  | none => .error (.node t.kind)

/-- Write a tag word of ordinal zero and the hash. -/
def encode (r : NodeRecord) : Bytes :=
  Bytes.ofWord (TagWord.encode (.new r.tag 0 r.kind.code r.version)) ++ Bytes.ofWord r.hash

instance : Record NodeRecord where
  size := 16
  size_pos := Nat.succ_pos _
  stream := "block"
  decode := decode
  encode := encode

end NodeRecord

/-! ## Edges -/

/-- One end of a recorded edge. -/
structure Endpoint where
  tag : UInt64
  version : UInt8
  deriving DecidableEq, Repr, Inhabited

/-- The end at an address that is cut to its low 40 bits. -/
def Endpoint.new (tag : UInt64) (version : UInt8) : Endpoint := ⟨TagWord.clip tag, version⟩

/-- One transfer between blocks. -/
structure EdgeRecord where
  source : Endpoint
  target : Endpoint
  kind : EdgeKind
  ordinal : UInt8
  deriving DecidableEq, Repr, Inhabited

namespace EdgeRecord

/-- The ordinal of records to be passed over. -/
def skipOrdinal : UInt8 := 0xff

/-- Whether the record is to be passed over. -/
def isSkipped (r : EdgeRecord) : Bool := r.ordinal = skipOrdinal

/-- Read two tag words. Kind and ordinal are those of the first; an unknown kind is an error unless
the record is to be passed over, where it counts as indirect. -/
def decode (bs : Bytes) : Except UnknownKind EdgeRecord :=
  let source := TagWord.decode (bs.word 0)
  let target := TagWord.decode (bs.word 1)
  let record := fun kind : EdgeKind =>
    (⟨⟨source.tag, source.version⟩, ⟨target.tag, target.version⟩, kind, source.ordinal⟩ : EdgeRecord)
  match EdgeKind.ofCode? source.kind with
  | some kind => .ok (record kind)
  | none => if source.ordinal = skipOrdinal then .ok (record .indirect) else .error (.edge source.kind)

/-- Write two tag words, with kind and ordinal in both. -/
def encode (r : EdgeRecord) : Bytes :=
  let word := fun e : Endpoint =>
    Bytes.ofWord (TagWord.encode (.new e.tag r.ordinal r.kind.code e.version))
  word r.source ++ word r.target

instance : Record EdgeRecord where
  size := 16
  size_pos := Nat.succ_pos _
  stream := "edge"
  decode := decode
  encode := encode

end EdgeRecord

/-! ## Edges between modules -/

/-- One transfer that left a module. The sign of the signature tells callbacks apart, its magnitude
is the signature hash. -/
structure CrossRecord where
  edge : EdgeRecord
  signature : Int64
  deriving DecidableEq, Repr, Inhabited

namespace CrossRecord

/-- The record of a transfer with this signature hash, of which 63 bits are kept. As zero has no
negative form, a callback of hash zero is no callback. -/
def new (edge : EdgeRecord) (hash : UInt64) (isCallback : Bool) : CrossRecord :=
  let magnitude := (hash % UInt64.pow 2 63).toInt64
  ⟨edge, if isCallback then -magnitude else magnitude⟩

/-- Whether the transfer is a callback. -/
def isCallback (r : CrossRecord) : Bool := r.signature < 0

/-- The magnitude of the signature. -/
def signatureHash (r : CrossRecord) : UInt64 :=
  if r.isCallback then 0 - r.signature.toUInt64 else r.signature.toUInt64

/-- Read an edge and a signature. -/
def decode (bs : Bytes) : Except UnknownKind CrossRecord := do
  let edge ← EdgeRecord.decode bs
  return ⟨edge, (bs.word 2).toInt64⟩

/-- Write the edge and the signature. -/
def encode (r : CrossRecord) : Bytes :=
  r.edge.encode ++ Bytes.ofWord r.signature.toUInt64

instance : Record CrossRecord where
  size := 24
  size_pos := Nat.succ_pos _
  stream := "cross-module-edge"
  decode := decode
  encode := encode

end CrossRecord
end FlowAtlas
