import FlowAtlas.Database.Log
import FlowAtlas.Files.Path
import FlowAtlas.Files.System
import FlowAtlas.Ledger.Pages
import FlowAtlas.Ledger.Recording

/-!
# Ledgers on disk

A ledger that outlives the program is a database in a file, which is read anew for each operation
and written after each change. Opening a ledger makes the file if need be and brings the ledger to
the latest layout.

Two files may stand beside the database. A journal tells of a change that was cut short, and is
taken back. A log tells of changes that are not in the file yet; they are put there, and until the
ledger is closed, what is known of the database is kept in memory.

The file is looked for under an absolute path without detours, which is `LedgerFile.path?`.
-/

set_option autoImplicit false

namespace FlowAtlas

/-- A ledger in a file that is in use. -/
structure LedgerFile where
  file : String
  /-- The database, if its changes go to a log first. -/
  logged : Option Database := none
  tally : Sql.Tally := {}
  deriving DecidableEq, Repr, Inhabited

/-- Work with a ledger in a file. What is known of the ledger is kept when a step fails. -/
abbrev LedgerWork (m : Type → Type) := ExceptT LedgerError (StateT LedgerFile m)

namespace LedgerFile

/-! ## The file -/

/-- The path of the file has at most this many bytes. -/
def pathLimit : Nat := 504

/-- No path that is met while detours are taken out has more bytes than this. -/
def detourLimit : Nat := 511

/-- The absolute path that leads along names. -/
def pathAlong (names : List String) : String := String.join (names.map ("/" ++ ·))

variable {m : Type → Type} [Monad m] [FileSystem m]

/-- Go on along the names of a path, from those that lead to a directory. A step up leaves the last
name out, whether it leads to a directory or is there at all, but a name that cannot be looked up
leads nowhere. -/
def follow : (names : List String) → (rest : List String) → m (Option (List String))
  | names, [] => return some names
  | names, name :: rest => do
    if name = "" ∨ name = "." then follow names rest
    else if name = ".." then follow names.dropLast rest
    else
      let path := pathAlong (names ++ [name])
      if detourLimit < path.utf8ByteSize then return none
      else
        match ← FileSystem.canonical path with
        | .ok _ => follow (names ++ [name]) rest
        | .error .notFound => follow (names ++ [name]) rest
        | .error _ => return none

/-- The absolute path without detours of the file of a ledger. -/
def path? (path : String) : m (Option String) := do
  let path := Path.join (← FileSystem.currentDir) path
  match ← follow [] ((path.toList.splitOn '/').map String.ofList) with
  | none => return none
  | some names =>
    let found := pathAlong names
    return if names.isEmpty || pathLimit < found.utf8ByteSize then none else some found

/-- The place of the first NUL byte in a path. -/
def nul? (path : String) : Option Nat := (Bytes.ofText path).findIdx? (· = 0)

/-- The contents of a file, which is made if need be. -/
def readOrMake (file : String) : m (Except FileError Bytes) := do
  match ← FileSystem.read file with
  | .error .notFound => return (← FileSystem.write file []).map fun () => []
  | found => return found

/-- Find the file of a ledger, and make it if need be. -/
def ofPath (path : String) : m (Except LedgerError LedgerFile) := do
  match nul? path with
  | some position => return .error (.nulInPath position)
  | none =>
    match ← path? path with
    | none => return .error (.cannotOpen path)
    | some file =>
      match ← readOrMake file with
      | .error _ => return .error (.cannotOpen path)
      | .ok _ => return .ok { file }

/-! ## Journals -/

/-- The file that stands beside the file of a ledger while that is written. -/
def journalPath (file : String) : String := file ++ "-journal"

/-- What stands at a path whose name is told as bytes: the contents of a file, or nothing if it is a
directory. A file without contents counts as none. -/
def told? (name : Bytes) : m (Option (Option Bytes)) := do
  match name.text? with
  | none | some "" => return none
  | some path =>
    match ← FileSystem.read path with
    | .ok [] => return none
    | .ok contents => return some (some contents)
    | .error .isADirectory => return some none
    | .error _ => return none

/-- Whether one of some journals is there that belongs to the change of several databases. -/
def isAwaited (common : Bytes) : List Bytes → m (Except LedgerError Bool)
  | [] => return .ok false
  | name :: rest => do
    match ← told? name with
    | none => isAwaited common rest
    | some none => return .error .cannotRead
    | some (some journal) =>
      if Database.Journal.commonFile? journal = some common then return .ok true
      else isAwaited common rest

/-- Do away with the file of a change of several databases, unless another journal needs it. -/
def endCommon (common : Bytes) : m (Except LedgerError Unit) := do
  match ← told? common with
  | none => return .ok ()
  | some none => return .error .cannotRead
  | some (some contents) =>
    match ← isAwaited common (Database.Journal.namesIn contents) with
    | .error e => return .error e
    | .ok true => return .ok ()
    | .ok false =>
      let _ ← (FileSystem.remove ((common.text?).getD "") : m _)
      return .ok ()

/-- Take back the change that a journal tells of, and do away with the journal. The answer is what
the file holds then. Beside a file without contents, no journal tells anything, and a journal whose
change of several databases is complete takes nothing back. One that starts with a zero byte is done
with, and stays beside a file with contents, where every journal must be readable; one without
contents is none. -/
def takeBack (file : String) (contents : Bytes) : m (Except LedgerError Bytes) := do
  let isNew := Database.isBlank contents
  match ← FileSystem.read (journalPath file) with
  | .error .isADirectory => return if isNew then .ok contents else .error .cannotRead
  | .error _ | .ok [] => return .ok contents
  | .ok journal@(first :: _) =>
    if !isNew && first = 0 then return .ok contents
    let common := if isNew then none else Database.Journal.commonFile? journal
    let isComplete ← match common with
      | none => pure isNew
      | some name => Option.isNone <$> (told? name : m _)
    let before := if isComplete then contents else Database.Journal.restore journal contents
    if before ≠ contents then let _ ← (FileSystem.write file before : m _)
    let _ ← (FileSystem.remove (journalPath file) : m _)
    match common with
    | none => return .ok before
    | some name => return (← (endCommon name : m _)).map fun () => before

/-! ## Logs -/

/-- The file of a log of changes. -/
def logPath (file : String) : String := file ++ "-wal"

/-- The file of what is shared by those that use a log. -/
def sharedPath (file : String) : String := file ++ "-shm"

/-- The length of what is shared. -/
def sharedSize : Nat := 32768

/-- How a database is changed. -/
inductive WriteMode
  /-- The file is written after a journal. -/
  | journaled
  /-- The file is written after a log. -/
  | logged
  /-- The file is not written. -/
  | fixed
  deriving DecidableEq, Repr

/-- Put a log into the file and do away with it. The answer is what the file holds then. If what is
shared is a directory, nothing can be written, and no foreign log can be read. -/
def putLog (file : String) (contents log : Bytes) :
    m (Except LedgerError (Bytes × WriteMode)) := do
  let isFixed ← FileSystem.isDir (sharedPath file)
  if isFixed && Database.Log.isForeign log then return .error .cannotShare
  match Database.Log.complete? log with
  | none =>
    if !isFixed then
      let _ ← (FileSystem.write (sharedPath file) (List.replicate sharedSize 0) : m _)
    return .error .cannotWrite
  | some frames =>
    let after := Database.Log.replay frames contents
    if isFixed then
      if log = [] then let _ ← (FileSystem.write (logPath file) [] : m _)
      return .ok (after, .fixed)
    if after ≠ contents then let _ ← (FileSystem.write file after : m _)
    let _ ← (FileSystem.remove (logPath file) : m _)
    let _ ← (FileSystem.remove (sharedPath file) : m _)
    return .ok (after, .logged)

/-- Take a log into account. The answer is what the file holds then. A log beside a file without
contents belongs to something else and is taken away, and one without contents is none unless the
database asks for one. -/
def enterLog (file : String) (contents : Bytes) :
    m (Except LedgerError (Bytes × WriteMode)) := do
  let isNew := Database.isBlank contents
  match ← FileSystem.read (logPath file) with
  | .error .isADirectory => return .error (if isNew then .cannotRemove else .cannotWrite)
  | found =>
    let log := found.toOption.getD []
    if isNew then
      if log ≠ [] then let _ ← (FileSystem.remove (logPath file) : m _)
      return .ok (contents, .journaled)
    else if log ≠ [] || Database.asksForLog contents then putLog file contents log
    else return .ok (contents, .journaled)

/-! ## Reading and writing -/

/-- Give the file of a ledger new contents. A journal stands beside it meanwhile, so that one of the
two is whole at any time. -/
def write (file : String) (mode : WriteMode) (contents : Bytes) : m (Except LedgerError Unit) := do
  if mode = .journaled then
    match ← FileSystem.write (journalPath file) contents with
    | .error _ => return .error .cannotWrite
    | .ok () => pure ()
  match ← FileSystem.write file contents with
  | .error _ => return .error .cannotWrite
  | .ok () =>
    if mode = .journaled then let _ ← (FileSystem.remove (journalPath file) : m _)
    return .ok ()

/-- A step that may fail. -/
def step {α : Type} (x : m (Except LedgerError α)) : LedgerWork m α :=
  ExceptT.mk (fun l => return (← x, l))

/-- The database, with what the file holds and how it is changed. -/
def read : LedgerWork m (Database × Bytes × WriteMode) := do
  let l ← get
  match l.logged with
  | some d => return (d, [], .logged)
  | none =>
    let contents ← step ((·.mapError fun _ => .cannotOpen l.file) <$> readOrMake l.file)
    let contents ← step (takeBack l.file contents)
    let (contents, mode) ← step (enterLog l.file contents)
    let d ← step (return LedgerPages.ofDatabase (Database.ofBytes contents))
    match mode with
    | .journaled => return (d, contents, mode)
    | .fixed => return ({ d with isReadOnly := true }, contents, mode)
    | .logged =>
      let d := { d with loggedAt := some (d.header .changes) }
      set { l with logged := some d }
      return (d, [], mode)

/-- Look something up in the database. -/
def inspect {α : Type} (look : Sql.Tally → Database → Except LedgerError α) : LedgerWork m α := do
  let (d, _) ← read
  let tally := (← get).tally
  step (return look tally d)

/-- Write a database, if it changed. What was written and taken back leaves no journal. -/
def keep (o : Sql.Outcome) (d : Database) (contents : Bytes) (mode : WriteMode) :
    LedgerWork m Unit := do
  let file := (← get).file
  if o.database.pages ≠ d.pages then
    step (write file mode (o.database.toBytes contents))
    if mode = .logged then modify ({ · with logged := some o.database })
  else if o.isUndone && mode = .journaled then
    step (write (journalPath file) .fixed [])
    let _ ← (FileSystem.remove (journalPath file) : m _)

/-- Change the database. -/
def update (change : Sql.Tally → Database → Sql.Outcome) : LedgerWork m Unit := do
  let (d, contents, mode) ← read
  let o := change (← get).tally d
  modify ({ · with tally := o.tally })
  keep o d contents mode
  match o.fault with
  | some f => step (return .error (.statement f.error f.text))
  | none => return

/-- The statements of a ledger are carried out on the database in its file. -/
instance : SqlEngine (LedgerWork m) where
  carryOut script := update (LedgerPages.carryOut script)
  ask query := inspect (LedgerPages.ask query)
  lastRow := return (← get).tally.lastId
  version := inspect fun _ d => .ok d.userVersion

/-! ## Operations -/

/-- Bring the ledger to the latest layout. Only a ledger of an earlier one is written. -/
def migrate : LedgerWork m Unit := LedgerTables.migrate

/-- Open the ledger in a file, which is made if need be. -/
def openAt (path : String) : m (Except LedgerError LedgerFile) := do
  match ← ofPath path with
  | .error e => return .error e
  | .ok l =>
    let (done, l) ← migrate.run.run l
    return done.map fun () => l

/-- The loads of a process, or of all. -/
def list (process : Option String) : LedgerWork m (List StoredRun) :=
  LedgerTables.list process

/-- The totals of a load by the name of the cluster. -/
def totalsOf (run : Int) : LedgerWork m (List ClusterTotals) :=
  LedgerTables.totalsOf run

/-- Put a load on record. The answer is its number, if the ledger took it. -/
def record (t : TraceLayout) (traceHash : Option String) (startedAt finishedAt : String)
    (result : Except LoadError ProcessGraph) : StateT LedgerFile m (Option Int) := do
  let run := LoadRun.ofResult t traceHash startedAt finishedAt result
  match ← (LedgerTables.insert run : LedgerWork m Int).run with
  | .error _ => return none
  | .ok id =>
    match result with
    | .error _ => return some id
    | .ok g =>
      let totals := g.summary.clusters.map ClusterTotals.ofSummary
      let _ ← (LedgerTables.putTotals id totals : LedgerWork m Unit).run
      return some id

/-- Take a table away. -/
def dropTable (name : String) : LedgerWork m Unit :=
  update (LedgerPages.dropTable name)

/-- Change the version of the layout, and nothing else. -/
def setVersion (version : Int) : LedgerWork m Unit :=
  update (LedgerPages.setVersion version)

/-- Do one piece of work on the ledger in a file, which is made if need be. -/
def perform {α : Type} (path : String) (work : LedgerWork m α) : m (Except LedgerError α) := do
  match ← ofPath path with
  | .error e => return .error e
  | .ok l => work.run.run' l

end LedgerFile
end FlowAtlas
