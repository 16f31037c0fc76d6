import FlowAtlas.Ledger.Basic
import FlowAtlas.Load.Files

/-!
# Recording loads

Every load can be put on record, with the totals of its clusters if it succeeded. The record never
changes the outcome of the load: what the ledger refuses is left out.
-/

set_option autoImplicit false

namespace FlowAtlas

/-- The ledger's entry for a load. -/
def LoadRun.ofResult (t : TraceLayout) (traceHash : Option String) (startedAt finishedAt : String) :
    Except LoadError ProcessGraph → LoadRun
  | .ok _ => ⟨t.process, t.dir, traceHash, .succeeded, none, startedAt, finishedAt⟩
  | .error e => ⟨t.process, t.dir, traceHash, .failed, some e.message, startedAt, finishedAt⟩

namespace Ledger

/-- Put a load on record. The answer is its number, if the ledger took it. -/
def record (t : TraceLayout) (traceHash : Option String) (startedAt finishedAt : String)
    (result : Except LoadError ProcessGraph) (l : Ledger) : Option Int × Ledger :=
  match l.insert (.ofResult t traceHash startedAt finishedAt result) with
  | .error _ => (none, l)
  | .ok (id, l) =>
    match result with
    | .error _ => (some id, l)
    | .ok g =>
      match l.putTotals id (g.summary.clusters.map .ofSummary) with
      | .ok l => (some id, l)
      | .error _ => (some id, l)

variable {m : Type → Type} [Monad m] [FileSystem m] [Clock m]

/-- Load the trace at a layout and put the load on record. -/
def runTrace (config : ClusterConfig) (t : TraceLayout) (traceHash : Option String) (l : Ledger) :
    m (Except LoadError ProcessGraph × Ledger) := do
  let startedAt ← Clock.now
  let outcome ← t.load config
  let finishedAt ← Clock.now
  return (outcome.result, (l.record t traceHash startedAt finishedAt outcome.result).2)

end Ledger
end FlowAtlas
