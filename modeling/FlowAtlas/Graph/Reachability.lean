import FlowAtlas.Graph.Basic

/-!
# What a trace never reached

`Reachability.analyze` follows the edges of a graph from given roots and lists the nodes that they
do not lead to. Among those it names the *missed entries*: nodes through which the rest of the
unreachable part may have been entered.

* `flood` marks what can be reached inside a permitted part of the graph without going through
  nodes that were marked before.
* `claimEntries` walks the unreachable nodes in ascending order. A node that no other node leads to
  is a missed entry, and so is the first node of a part that none of these leads to.
-/

set_option autoImplicit false

namespace FlowAtlas

namespace Graph

/-- The nodes that the edges of a node lead to. -/
def successors (g : Graph) (n : NodeId) : List NodeId :=
  (g.outgoing n).map fun e => (g.edge e).target

/-- Whether no edge from another node arrives. -/
def isHead (g : Graph) (n : NodeId) : Bool :=
  (g.node n).edges.incoming.all fun e => (g.edge e).source = n

/-- Mark every permitted node that a path of permitted, unmarked nodes joins to a pending node. -/
def flood (g : Graph) (allowed : NodeId → Bool) (marked : Array Bool) :
    List NodeId → Array Bool
  | [] => marked
  | n :: pending =>
    if h : n.index < marked.size then
      if marked[n.index] = false ∧ allowed n = true then
        flood g allowed (marked.set n.index true) (g.successors n ++ pending)
      else flood g allowed marked pending
    else flood g allowed marked pending
termination_by pending => (marked.count false, pending.length)
decreasing_by
  · rename_i hfree
    have hpos : 0 < marked.count false :=
      Array.count_pos_iff.2 (hfree.1 ▸ Array.getElem_mem h)
    apply Prod.Lex.left
    rw [Array.count_set, if_pos (by simp [hfree.1]), if_neg (by simp)]
    omega
  · exact Prod.Lex.right _ (by simp)
  · exact Prod.Lex.right _ (by simp)

/-- Nothing is marked. -/
def unmarked (g : Graph) : Array Bool := Array.replicate g.nodes.size false

end Graph

/-- The nodes that roots do not lead to, in ascending order. -/
structure Reachability where
  unreachable : List NodeId
  /-- Unreachable nodes from which all others can be reached. -/
  missedEntries : List NodeId
  deriving DecidableEq, Repr, Inhabited

namespace Reachability

/-- Choose the missed entries among unreachable nodes, given in ascending order: the heads, and every
other node that is not marked when its turn comes. What a chosen node leads to is marked. -/
def claimEntries (g : Graph) (inside : NodeId → Bool) (marked : Array Bool) :
    List NodeId → List NodeId
  | [] => []
  | n :: rest =>
    if g.isHead n then n :: claimEntries g inside marked rest
    else if marked.getD n.index false then claimEntries g inside marked rest
    else n :: claimEntries g inside (g.flood inside marked [n]) rest

/-- Find what the roots do not lead to. -/
def analyze (g : Graph) (roots : List NodeId) : Reachability :=
  let reached := g.flood (fun _ => true) g.unmarked roots
  let inside := fun n : NodeId => !reached.getD n.index true
  let unreachable := g.nodeIds.filter inside
  let heads := unreachable.filter g.isHead
  ⟨unreachable, claimEntries g inside (g.flood inside g.unmarked heads) unreachable⟩

end Reachability
end FlowAtlas
