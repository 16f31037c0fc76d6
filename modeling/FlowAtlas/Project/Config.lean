import FlowAtlas.Cluster.Config
import FlowAtlas.Files.System
import FlowAtlas.Json.Stored
import FlowAtlas.Project.Layout

/-!
# Settings of a project

The settings are one JSON document. The directory of cluster files and the name of the default
cluster may be left out.
-/

set_option autoImplicit false

namespace FlowAtlas

/-- The settings of the ledger of a project. -/
structure LedgerConfig where
  /-- The file of the ledger. -/
  path : String
  deriving DecidableEq, Repr, Inhabited

/-- The settings of a project. Paths start at the root of the project unless they are absolute. -/
structure ProjectConfig where
  name : String
  description : Option String
  configVersion : String
  ledger : LedgerConfig
  clustersDir : String
  defaultCluster : String
  deriving DecidableEq, Repr, Inhabited

/-- Why there are no settings. -/
inductive ProjectConfigError
  | unreadable (path : String) (cause : FileError)
  /-- The document is not that of settings. -/
  | malformed
  deriving DecidableEq, Repr

namespace ProjectConfigError

/-- The wording of the failure, without what lies behind it. -/
def message : ProjectConfigError → String
  | unreadable path _ => "Failed to read project config at " ++ path
  | malformed => "Failed to parse project config JSON"

/-- The wording of the failure and of what lies behind it, the outermost first. -/
def chain (e : ProjectConfigError) : List String :=
  match e with
  | unreadable _ cause => [e.message, cause.message]
  | malformed => [e.message]

end ProjectConfigError

namespace LedgerConfig

/-- Write settings of a ledger. -/
def toJson (c : LedgerConfig) : Json := .record [("path", .ofString c.path)]

/-- Read settings of a ledger. -/
def ofJson? (j : Json) : Option LedgerConfig := do
  let r ← JsonRecord.ofJson? ["path"] j
  let path ← (r.get "path").required Json.string?
  return ⟨path⟩

instance : Stored LedgerConfig := ⟨toJson, ofJson?⟩

end LedgerConfig

namespace ProjectConfig

/-- The directory of cluster files unless another one is set. -/
def defaultClustersDir : String := "clusters"

/-- The settings of a new project. -/
def new (name ledgerPath : String) : ProjectConfig :=
  ⟨name, none, "0.1.0", ⟨ledgerPath⟩, defaultClustersDir, ClusterConfig.defaultName⟩

/-- Write settings. -/
def toJson (c : ProjectConfig) : Json :=
  .record [("name", .ofString c.name), ("description", .ofOption .ofString c.description),
    ("config_version", .ofString c.configVersion),
    ("db", c.ledger.toJson),
    ("clusters_dir", .ofString c.clustersDir), ("default_cluster", .ofString c.defaultCluster)]

/-- Read settings. -/
def ofJson? (j : Json) : Option ProjectConfig := do
  let r ← JsonRecord.ofJson? ["name", "description", "config_version", "db", "clusters_dir",
    "default_cluster"] j
  let name ← (r.get "name").required Json.string?
  let description ← (r.get "description").optional Json.string?
  let configVersion ← (r.get "config_version").required Json.string?
  let ledger ← (r.get "db").required LedgerConfig.ofJson?
  let clustersDir ← (r.get "clusters_dir").orElse defaultClustersDir Json.string?
  let defaultCluster ← (r.get "default_cluster").orElse ClusterConfig.defaultName Json.string?
  return ⟨name, description, configVersion, ledger, clustersDir, defaultCluster⟩

instance : Stored ProjectConfig := ⟨toJson, ofJson?⟩

/-- Read the settings in the file of a project. -/
def ofLayout {m : Type → Type} [Monad m] [FileSystem m] (p : ProjectLayout) :
    m (Except ProjectConfigError ProjectConfig) := do
  match ← FileSystem.readText p.configFile with
  | .error e => return .error (.unreadable p.configFile e)
  | .ok text =>
    match Stored.ofText? text with
    | some c => return .ok c
    | none => return .error .malformed

end ProjectConfig
end FlowAtlas
