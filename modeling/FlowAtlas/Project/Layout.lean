import FlowAtlas.Files.Path

/-!
# Where the files of a project are

A project is a directory. What the tool keeps for itself lies in a directory of its own below it;
cluster files and exports have directories beside that one.
-/

set_option autoImplicit false

namespace FlowAtlas

/-- The directories and files of a project. -/
structure ProjectLayout where
  root : String
  deriving DecidableEq, Repr, Inhabited

namespace ProjectLayout

/-- The directory of what the tool keeps for itself. -/
def metaDir (p : ProjectLayout) : String := Path.join p.root ".stitch"

/-- The file of settings. -/
def configFile (p : ProjectLayout) : String := Path.join p.metaDir "project.json"

/-- The file of the ledger, unless the settings name another one. -/
def ledgerFile (p : ProjectLayout) : String := Path.join p.metaDir "graphs.db"

/-- The directory of cluster files, unless the settings name another one. -/
def clustersDir (p : ProjectLayout) : String := Path.join p.root "clusters"

/-- The directory of exports. -/
def exportsDir (p : ProjectLayout) : String := Path.join p.root "exports"

/-- The path of the ledger as seen from the root. -/
def relativeLedgerFile (p : ProjectLayout) : String :=
  (Path.strip? p.root p.ledgerFile).getD p.ledgerFile

/-- A path of the settings, which starts at the root unless it is absolute. -/
def resolve (p : ProjectLayout) (path : String) : String := Path.join p.root path

/-- The directory of the exports of one process. -/
def processExportDir (p : ProjectLayout) (process : String) : String :=
  Path.join p.exportsDir process

/-- The name of a project that was given none: that of its directory. -/
def defaultName (root : String) : String := (Path.fileName? root).getD "unnamed-project"

end ProjectLayout
end FlowAtlas
