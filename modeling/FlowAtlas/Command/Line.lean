import FlowAtlas.Report.Load

/-!
# Command lines

`Command.ofArguments` reads a command line: the name of a command and its options, each of which may
be given once. Options start with two hyphens, and the value of an option follows it or stands
behind an equals sign; only directories of traces may be several. Where a command line means
nothing, nothing is done.
-/

set_option autoImplicit false

namespace FlowAtlas

/-- What the tool is asked to do. -/
inductive Command
  /-- Set up a project. -/
  | initProject (root : String) (name : Option String)
  /-- Tell of a project. -/
  | projectInfo (root : String) (json : Bool)
  /-- Tell of the clusters of a project. -/
  | listClusters (root : String) (json : Bool)
  /-- Load traces. -/
  | load (root : String) (traces : List String) (format : ReportFormat) (isExporting : Bool)
      (isRecording : Bool)
  /-- Tell of the loads in the ledger. -/
  | listRuns (root : String) (process : Option String) (json : Bool)
  deriving DecidableEq, Repr

/-- Why there is no command to carry out. -/
inductive LineStop
  | version
  | help
  /-- The command line means nothing. -/
  | misuse
  deriving DecidableEq, Repr

/-! ## Options -/

/-- How many values an option takes. -/
inductive OptionArity
  | none
  | one
  | some
  deriving DecidableEq, Repr

/-- The options of a command by name, without the hyphens. -/
abbrev OptionTable := List (String × OptionArity)

/-- The options so far with their values, and one that waits for values, the latest first. -/
structure OptionReader where
  found : List (String × List String) := []
  waiting : Option (String × OptionArity × List String) := none
  deriving Repr

namespace OptionReader

/-- Whether an option was given. -/
def has (r : OptionReader) (name : String) : Bool := r.found.any (·.1 == name)

/-- Every value of an option. -/
def values (r : OptionReader) (name : String) : List String :=
  (r.found.filter (·.1 == name)).flatMap (·.2)

/-- The value of an option. -/
def value? (r : OptionReader) (name : String) : Option String := (r.values name).head?

/-- Finish the option that waits for values. It must have one, and it may be given again only if it
takes several. -/
def settle (r : OptionReader) : Except LineStop OptionReader :=
  match r.waiting with
  | none => .ok r
  | some (name, arity, values) =>
    if values.isEmpty || (r.has name && arity != .some) then .error .misuse
    else .ok { found := r.found ++ [(name, values.reverse)] }

/-- Read an option that takes no value. -/
def setFlag (r : OptionReader) (name : String) : Except LineStop OptionReader := do
  let r ← r.settle
  if r.has name then .error .misuse else .ok { found := r.found ++ [(name, [])] }

/-- Read a value. -/
def setValue (r : OptionReader) (value : String) : Except LineStop OptionReader :=
  match r.waiting with
  | none => .error .misuse
  | some (name, arity, values) =>
    let r : OptionReader := { r with waiting := some (name, arity, value :: values) }
    if arity = .some then .ok r else r.settle

/-- Read an option by its name, with the value behind the equals sign if there is one. -/
def setLong (table : OptionTable) (isTop : Bool) (r : OptionReader) (name : String)
    (attached : Option String) : Except LineStop OptionReader :=
  if name = "help" ∨ (name = "version" ∧ isTop) then
    if attached.isSome then .error .misuse
    else do
      let _ ← r.settle
      .error (if name = "help" then .help else .version)
  else
    match table.lookup name, attached with
    | none, _ => .error .misuse
    | some .none, none => r.setFlag name
    | some .none, some _ => .error .misuse
    | some arity, none => do
      let r ← r.settle
      return { r with waiting := some (name, arity, []) }
    | some arity, some value => do
      let r ← r.settle
      OptionReader.settle { r with waiting := some (name, arity, [value]) }

/-- Read options of one letter behind one hyphen. -/
def setShort (isTop : Bool) : OptionReader → List Char → Except LineStop OptionReader
  | r, [] => .ok r
  | r, 'v' :: rest => do setShort isTop (← r.setFlag "verbose") rest
  | r, 'h' :: _ => do
    let _ ← r.settle
    .error .help
  | r, 'V' :: _ => do
    let _ ← r.settle
    .error (if isTop then .version else .misuse)
  | _, _ => .error .misuse

/-- Whether an argument is no value: it starts with a hyphen and goes on. -/
def isOption (argument : String) : Bool :=
  argument.toList.head? == some '-' && 1 < argument.length

/-- Read an argument that starts with a hyphen and goes on, other than two hyphens alone. -/
def setOption (table : OptionTable) (isTop : Bool) (r : OptionReader) (argument : String) :
    Except LineStop OptionReader :=
  match argument.toList with
  | '-' :: '-' :: rest =>
    let name := rest.takeWhile (· != '=')
    let attached := (rest.dropWhile (· != '=')).tail?
    setLong table isTop r (String.ofList name) (attached.map String.ofList)
  | _ :: rest => setShort isTop r rest
  | [] => .error .misuse

/-- Read the arguments behind the name of a command. Nothing may follow two hyphens alone. -/
def ofArguments (table : OptionTable) : OptionReader → List String → Except LineStop OptionReader
  | r, [] => r.settle
  | r, argument :: rest =>
    if argument = "--" then if rest.isEmpty then r.settle else .error .misuse
    else if isOption argument then do ofArguments table (← r.setOption table false argument) rest
    else do ofArguments table (← r.setValue argument) rest

end OptionReader

/-! ## Commands -/

namespace Command

/-- The options of every command. -/
def commonOptions : OptionTable := [("verbose", .none)]

/-- The options of a command. -/
def options? : String → Option OptionTable
  | "init-project" => some [("root", .one), ("name", .one)]
  | "project-info" => some [("root", .one), ("json", .none)]
  | "list-clusters" => some [("root", .one), ("json", .none)]
  | "load" => some [("root", .one), ("trace", .some), ("json", .none), ("yaml", .none),
      ("export", .none), ("no-record", .none)]
  | "list-runs" => some [("root", .one), ("process", .one), ("json", .none)]
  | _ => none

/-- The command of a name with its options. -/
def ofOptions (name : String) (r : OptionReader) : Except LineStop Command :=
  let root := (r.value? "root").getD "."
  match name with
  | "init-project" => .ok (.initProject root (r.value? "name"))
  | "project-info" => .ok (.projectInfo root (r.has "json"))
  | "list-clusters" => .ok (.listClusters root (r.has "json"))
  | "list-runs" => .ok (.listRuns root (r.value? "process") (r.has "json"))
  | "load" =>
    let traces := r.values "trace"
    if traces.isEmpty || (r.has "json" && r.has "yaml") then .error .misuse
    else
      let format := if r.has "json" then .json else if r.has "yaml" then .yaml else .text
      .ok (.load root traces format (r.has "export") (!r.has "no-record"))
  | _ => .error .misuse

/-- Read the name of a command and what follows it. -/
def ofName (name : String) (rest : List String) : Except LineStop Command :=
  if name = "help" then
    let isTopic := match rest with
      | [] => true
      | [topic] => (options? topic).isSome || topic = "help"
      | _ => false
    .error (if isTopic then .help else .misuse)
  else
    match options? name with
    | none => .error .misuse
    | some table => do
      ofOptions name (← OptionReader.ofArguments (table ++ commonOptions) {} rest)

/-- Read the options in front of the name of a command, and the rest. -/
def ofTop : OptionReader → List String → Except LineStop Command
  | _, [] => .error .misuse
  | r, argument :: rest =>
    if argument = "--" then .error .misuse
    else if OptionReader.isOption argument then do
      ofTop (← r.setOption commonOptions true argument) rest
    else ofName argument rest

/-- Read a command line. -/
def ofArguments (arguments : List String) : Except LineStop Command := ofTop {} arguments

end Command
end FlowAtlas
