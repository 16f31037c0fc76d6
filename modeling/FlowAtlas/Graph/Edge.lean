import FlowAtlas.Text.Numeral

/-!
# Edges of a control-flow graph

`EdgeKind` is the kind of a control transfer, numbered as trace and export files number it, and
`Edge` a transfer between two nodes of one graph.
-/

set_option autoImplicit false

namespace FlowAtlas

/-- The kind of a control transfer. -/
inductive EdgeKind
  | indirect
  | direct
  | callContinuation
  | unexpectedReturn
  | moduleEntry
  | crossCustomModule
  deriving DecidableEq, Repr, Inhabited

namespace EdgeKind

/-- Every kind, in the order of its number in files. -/
def all : List EdgeKind :=
  [indirect, direct, callContinuation, unexpectedReturn, moduleEntry, crossCustomModule]

/-- The number that stands for the kind in files. -/
def code : EdgeKind → UInt8
  | indirect => 0
  | direct => 1
  | callContinuation => 2
  | unexpectedReturn => 3
  | moduleEntry => 4
  | crossCustomModule => 5

/-- The kind that a number stands for. -/
def ofCode? (code : UInt8) : Option EdgeKind := all[code.toNat]?

/-- The kind's name in messages and reports. -/
def text : EdgeKind → String
  | indirect => "indirect"
  | direct => "direct"
  | callContinuation => "call_continuation"
  | unexpectedReturn => "unexpected_return"
  | moduleEntry => "module_entry"
  | crossCustomModule => "cross_custom_module"

end EdgeKind

/-- The place of a node in its graph. Places have 32 bits: a graph is assumed to have fewer than 2³²
nodes. -/
structure NodeId where
  index : Nat
  deriving DecidableEq, Hashable, Repr, Inhabited

/-- `n` and the place. -/
def NodeId.text (n : NodeId) : String := "n" ++ Numeral.decimal n.index

/-- The place of an edge in its graph, which is assumed to have fewer than 2³² edges. -/
structure EdgeId where
  index : Nat
  deriving DecidableEq, Hashable, Repr, Inhabited

/-- A control transfer between two nodes of one graph. The ordinal tells the call sites or branch
targets of its source apart. -/
structure Edge where
  source : NodeId
  target : NodeId
  kind : EdgeKind
  ordinal : UInt8
  deriving DecidableEq, Repr, Inhabited

end FlowAtlas
