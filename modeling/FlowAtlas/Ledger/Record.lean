import FlowAtlas.Json.Stored
import FlowAtlas.Process
import FlowAtlas.Text.LowerCase

/-!
# What the ledger keeps

A `LoadRun` tells of one load of a trace, whether it succeeded or not, and `ClusterTotals` are the
numbers of one cluster of a load that did. Both have a stored form.
-/

set_option autoImplicit false

namespace FlowAtlas

/-! ## Outcomes -/

/-- How a load ended. -/
inductive RunStatus
  | succeeded
  | failed
  deriving DecidableEq, Repr, Inhabited

namespace RunStatus

/-- Every outcome. -/
def all : List RunStatus := [succeeded, failed]

/-- The name of an outcome. -/
def text : RunStatus → String
  | succeeded => "succeeded"
  | failed => "failed"

/-- Read the name of an outcome in letters of any case. A name that means nothing is the error, in
lower case. -/
def ofText (s : String) : Except String RunStatus :=
  let lowered := Text.lower s
  match all.find? (·.text == lowered) with
  | some status => .ok status
  | none => .error lowered

/-- What is said of a name that means nothing. -/
def unknownMessage (lowered : String) : String := "unknown load run status '" ++ lowered ++ "'"

/-- Write an outcome. -/
def toJson (s : RunStatus) : Json := .ofString s.text

/-- Read an outcome. Its name must be in lower case. -/
def ofJson? (j : Json) : Option RunStatus := j.named? text all

instance : Stored RunStatus := ⟨toJson, ofJson?⟩

end RunStatus

/-! ## Runs -/

/-- One load of a trace. -/
structure LoadRun where
  process : String
  traceDir : String
  /-- The digest of the trace files, if they could be read. -/
  traceHash : Option String
  status : RunStatus
  /-- Why the load failed. -/
  error : Option String
  startedAt : String
  finishedAt : String
  deriving DecidableEq, Repr, Inhabited

namespace LoadRun

/-- The members of a stored run. One that tells of no error has no such member. -/
def members (r : LoadRun) : List (String × Json) :=
  [("process", .ofString r.process), ("trace_dir", .ofString r.traceDir),
    ("trace_hash", .ofOption .ofString r.traceHash), ("status", r.status.toJson)] ++
    Json.optional "error" .ofString r.error ++
    [("started_at", .ofString r.startedAt), ("finished_at", .ofString r.finishedAt)]

/-- Write a run. -/
def toJson (r : LoadRun) : Json := .record r.members

/-- Read a run. -/
def ofJson? (j : Json) : Option LoadRun := do
  let r ← JsonRecord.ofJson? ["process", "trace_dir", "trace_hash", "status", "error", "started_at",
    "finished_at"] j
  let process ← (r.get "process").required Json.string?
  let traceDir ← (r.get "trace_dir").required Json.string?
  let traceHash ← (r.get "trace_hash").optional Json.string?
  let status ← (r.get "status").required RunStatus.ofJson?
  let error ← (r.get "error").orElse none (Json.option? Json.string?)
  let startedAt ← (r.get "started_at").required Json.string?
  let finishedAt ← (r.get "finished_at").required Json.string?
  return ⟨process, traceDir, traceHash, status, error, startedAt, finishedAt⟩

instance : Stored LoadRun := ⟨toJson, ofJson?⟩

end LoadRun

/-! ## Totals -/

/-- The numbers of one cluster of a load. -/
structure ClusterTotals where
  cluster : String
  nodes : Int
  edges : Int
  executableBlocks : Int
  entryPoints : Int
  exitPoints : Int
  unreachable : Int
  missedEntries : Int
  deriving DecidableEq, Repr, Inhabited

namespace ClusterTotals

/-- The totals in a summary. -/
def ofSummary (s : ClusterSummary) : ClusterTotals :=
  ⟨s.name, s.nodes, s.edges, s.executableBlocks, s.entryPoints, s.exitPoints, s.unreachable,
    s.missedEntries⟩

/-- Write totals. -/
def toJson (t : ClusterTotals) : Json :=
  .record [("cluster", .ofString t.cluster), ("nodes", .integer t.nodes),
    ("edges", .integer t.edges), ("executable_blocks", .integer t.executableBlocks),
    ("entry_points", .integer t.entryPoints), ("exit_points", .integer t.exitPoints),
    ("unreachable", .integer t.unreachable), ("missed_entries", .integer t.missedEntries)]

/-- Read a whole number of 64 bits with sign. -/
def int64? (j : Json) : Option Int := j.intIn? (-Int.pow 2 63) (Int.pow 2 63)

/-- Read totals. -/
def ofJson? (j : Json) : Option ClusterTotals := do
  let r ← JsonRecord.ofJson? ["cluster", "nodes", "edges", "executable_blocks", "entry_points",
    "exit_points", "unreachable", "missed_entries"] j
  let cluster ← (r.get "cluster").required Json.string?
  let nodes ← (r.get "nodes").required int64?
  let edges ← (r.get "edges").required int64?
  let executableBlocks ← (r.get "executable_blocks").required int64?
  let entryPoints ← (r.get "entry_points").required int64?
  let exitPoints ← (r.get "exit_points").required int64?
  let unreachable ← (r.get "unreachable").required int64?
  let missedEntries ← (r.get "missed_entries").required int64?
  return ⟨cluster, nodes, edges, executableBlocks, entryPoints, exitPoints, unreachable,
    missedEntries⟩

instance : Stored ClusterTotals := ⟨toJson, ofJson?⟩

end ClusterTotals
end FlowAtlas
