import FlowAtlas.Cluster.Config
import FlowAtlas.Module.Log
import FlowAtlas.Trace.Layout
import FlowAtlas.Trace.Stream

/-!
# Failures of a load

A load goes through stages; the error of a stage that does not finish is the error of the load.
-/

set_option autoImplicit false

namespace FlowAtlas

/-- The stages of a load. -/
inductive LoadStage
  | moduleLog
  | nodes
  | edges
  | crossModuleEdges
  | validate
  deriving DecidableEq, Repr

/-- What messages call a stage. -/
def LoadStage.text : LoadStage → String
  | moduleLog => "module log"
  | nodes => "node stream"
  | edges => "edge stream"
  | crossModuleEdges => "cross-module edge stream"
  | validate => "validation"

/-- Why a trace does not load. -/
inductive LoadError
  /-- A trace file cannot be opened. -/
  | io (stage : LoadStage) (path : String) (cause : FileError)
  /-- The module log is faulty. -/
  | moduleLog (cause : ModuleLogError)
  /-- A record stream is faulty. -/
  | trace (cause : TraceError)
  /-- The records contradict each other. -/
  | graph (stage : LoadStage) (cluster : String) (cause : CrossingError)
  /-- The clusters are badly configured. -/
  | config (cause : ConfigError)
  /-- There is no single trace. -/
  | layout (cause : TraceLayoutError)
  deriving DecidableEq, Repr

/-- The wording of the failure. -/
def LoadError.message : LoadError → String
  | io stage path cause =>
    "failed to open " ++ stage.text ++ " at " ++ path ++ ": " ++ cause.message
  | moduleLog cause => "module log: " ++ cause.message
  | trace cause => cause.message
  | graph stage cluster cause =>
    stage.text ++ " failed in cluster '" ++ cluster ++ "': " ++ cause.message
  | config cause => cause.message
  | layout cause => cause.message

end FlowAtlas
