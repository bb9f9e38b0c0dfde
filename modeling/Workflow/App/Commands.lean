import Workflow.App.Site
import Workflow.App.Server
import Workflow.Config.Discovery
import Workflow.Config.Print
import Workflow.Machine.File
import Workflow.Json.Read
/-! # The program's commands

* `validate` checks a definitions file and lists its machines with their number of states.
* `run` runs one machine of a definitions file from its start (or a given state) on an input
  given inline, read from a file, or `{}`, prints the result document, and fails unless the
  run succeeded.
* `config show` prints where the configuration came from, the server address, the queue
  transport and the configuration as TOML; `config which` lists the places looked at and
  the warnings.
* `serve` checks the address to listen on, loads and checks the definitions, builds the
  registry and binds the address; it serves from then on.

The definitions file is the one given, else the configured one.  A command fails with a
`Failure`: an error and the errors that caused it, outermost first.  Its one-line form joins
them with `: `; its report names the error and lists the causes under `Caused by:`.
-/

namespace Workflow

open Json

/-- An error and the errors that caused it, outermost first. -/
structure Failure where
  causes : List String
deriving DecidableEq, Repr, Inhabited

namespace Failure

/-- One error without a cause. -/
def single (message : String) : Failure := ⟨[message]⟩

/-- The errors on one line. -/
def joined (f : Failure) : String := ": ".intercalate f.causes

/-- A text indented by four blanks on every line, or numbered in a column of five
followed by `: ` and indented by seven on the lines after its first. -/
def indented (number : Option Nat) (text : String) : String :=
  let lines := text.splitOn "\n"
  let first := match number with
    | some n =>
      let t := toString n
      String.ofList (List.replicate (5 - t.length) ' ') ++ t ++ ": "
    | none => "    "
  let more := if number.isSome then "       " else "    "
  match lines with
  | [] => first
  | l :: ls => first ++ l ++ String.join (ls.map fun x => "\n" ++ more ++ x)

/-- The report of an error: the error, then its causes under `Caused by:`, numbered when
there are several. -/
def report (f : Failure) : String :=
  match f.causes with
  | [] => ""
  | [e] => e
  | e :: cs =>
    let numbered := cs.length > 1
    e ++ "\n\nCaused by:" ++ String.join (cs.zipIdx.map fun (c, i) =>
      "\n" ++ indented (if numbered then some i else none) c)

end Failure

/-- The failure of a configuration error: its words, then what it wraps. -/
def Config.ConfigError.failure (e : Config.ConfigError) : Failure := ⟨e.message :: e.cause.toList⟩

/-- The failure of a definition error: its words, then what it wraps. -/
def DefinitionError.failure (e : DefinitionError) : Failure := ⟨e.message :: e.cause.toList⟩

/-- The computations of a command: they change the site and may fail. -/
abbrev AppM := ExceptT Failure (StateM Site)

/-- What every command knows: whether to say more, and the configuration with where it came
from. -/
structure Setting where
  verbose : Bool := false
  loaded : Config.Loaded

/-- The journal target of definition loading. -/
def definitionTarget : String := "stately_engine::definition"

/-- The journal target of the serve command. -/
def serveTarget : String := "stately::commands::serve"

/-- The journal target of the server. -/
def serverTarget : String := "stately_server"

namespace App

/-- Say an event. -/
def note (e : Event) : AppM Unit := (say e : StateM Site Unit)

/-- Print a line. -/
def printLine (text : String) : AppM Unit := (Site.print (text ++ "\n") : StateM Site Unit)

/-- Fail with an error. -/
def fail {α : Type} (message : String) : AppM α := throw (Failure.single message)

/-- The configuration: the named file alone, or the layers found. -/
def loadConfig (h : Host) (explicit : Option String) : Except Failure Config.Loaded :=
  match explicit with
  | some path => (Config.loadExplicit h path).mapError Config.ConfigError.failure
  | none => .ok (Config.discover h none)

/-- The definitions file: the one given, else the configured one. -/
def definitionsPath (given : Option String) (c : Config.Settings) : AppM String :=
  match given.orElse fun _ => c.definitionsPath with
  | some p => pure p
  | none => fail "no definitions file: pass --definitions or set [definitions] path"

/-- Load a definitions file. -/
def loadDefinitions (path : String) : AppM Catalog := do
  match Catalog.fromFile (← get).host path with
  | .error e => throw ⟨("loading definitions from " ++ path) :: e.failure.causes⟩
  | .ok c =>
    note ⟨.debug, definitionTarget,
      "Loaded " ++ toString c.entries.length ++ " state machine(s) from " ++ path, []⟩
    note ⟨.debug, commandsTarget, "Definitions loaded",
      [("path", path), ("machines", quotedList c.keys)]⟩
    return c

/-- The registry of a configuration. -/
def buildRegistry (c : Config.Settings) : AppM (Registry Site) := do
  match ← ((c.registry).run : StateM Site _) with
  | .ok r => pure r
  | .error e => throw e.failure

/-- `validate`: check the definitions and list the machines. -/
def validate (s : Setting) (definitions : Option String) : AppM Unit := do
  let path ← definitionsPath definitions s.loaded.settings
  let catalog ← loadDefinitions path
  match catalog.validate with
  | .error e => throw e.failure
  | .ok () => pure ()
  for key in catalog.keys do
    match catalog.find key with
    | some (_, entry) =>
      let states := toString entry.machine.states.length
      match entry.name with
      | some name =>
        if s.verbose then printLine ("  ✓ " ++ key ++ " (" ++ name ++ ", " ++ states ++ " states)")
        else printLine ("  ✓ " ++ key ++ " (" ++ states ++ " states)")
      | none => printLine ("  ✓ " ++ key ++ " (" ++ states ++ " states)")
    | none => pure ()
  printLine (toString catalog.keys.length ++ " state machine(s) valid in " ++ path)

/-- What `run` is asked to do. -/
structure RunRequest where
  definitions : Option String := none
  machine : String
  input : Option String := none
  inputFile : Option String := none
  startAt : Option String := none
deriving Repr, Inhabited

/-- The input of a run: inline, else from a file, else `{}`. -/
def readInput (inline file : Option String) : AppM Value := do
  let raw ← match inline, file with
    | some raw, _ => pure raw
    | none, some path =>
      match (← get).host.readText path with
      | .ok t => pure t
      | .error e => throw ⟨["reading input from " ++ path, e.message]⟩
    | none, none => return .obj []
  match Value.parse raw with
  | .ok v => pure v
  | .error e => throw ⟨["input is not valid JSON", e.message]⟩

/-- How many turns a run of a command may take. -/
def runTurns : Nat := 1000000

/-- `run`: run one machine and print its result. -/
def run (s : Setting) (r : RunRequest) : AppM Unit := do
  let config := s.loaded.settings
  let path ← definitionsPath r.definitions config
  let catalog ← loadDefinitions path
  let (key, entry) ← match catalog.find r.machine with
    | some found => pure found
    | none => fail ("no state machine named '" ++ r.machine ++ "' in " ++ path ++
        " (available: " ++ ", ".intercalate catalog.keys ++ ")")
  let input ← readInput r.input r.inputFile
  let machineName := entry.name.getD key
  let startAt := r.startAt.getD entry.machine.startAt
  let reg ← buildRegistry config
  let ctx := Context.start machineName entry.machine startAt input (← get).clock
  match ← (Execute.run reg.onSite runTurns ctx : StateM Site _) with
  | none => fail "run did not finish"
  | some o =>
    printLine o.wireValue.renderPretty
    if !o.isSuccess then
      let status := match o.status with
        | .succeeded => "Succeeded"
        | .failed => "Failed"
        | .unsupported => "Unsupported"
      fail ("execution " ++ o.arn ++ " finished with status " ++ status)

/-- `config show`: the configuration and where it came from. -/
def configShow (s : Setting) : AppM Unit := do
  let loaded := s.loaded
  match loaded.loadedFrom with
  | [] => printLine "# No config files loaded (using defaults)"
  | paths => for p in paths do printLine ("# from " ++ p)
  let server := loaded.settings.serverOrDefault
  printLine ("# server: " ++ server.bind ++ ":" ++ toString server.port)
  let transport := match loaded.settings.sqsOrDefault.transport with
    | .memory => "Memory"
    | .http => "Http"
  printLine ("# sqs transport: " ++ transport)
  printLine ""
  (Site.print loaded.settings.toToml : StateM Site Unit)

/-- `config which`: the places looked at, in order of precedence, and the warnings. -/
def configWhich (s : Setting) : AppM Unit := do
  let loaded := s.loaded
  printLine "Config file search order (later overrides earlier):\n"
  for src in loaded.sources do
    printLine ("  " ++ (if src.loaded then "✓ loaded" else "· not found") ++ " " ++ src.path)
  printLine ""
  match loaded.loadedFrom.length with
  | 0 => printLine "No config files found. Create ./stately.toml to configure handlers."
  | n => printLine (toString n ++ " config file(s) loaded.")
  for w in loaded.warnings do printLine ("warning: " ++ w)

/-- What `serve` is asked to do. -/
structure ServeRequest where
  port : Option Nat := none
  bind : Option String := none
  definitions : Option String := none
deriving Repr, Inhabited

/-- Bind the server to an address, saying that it starts; the failure to bind otherwise. -/
def listen (addr : SocketAddr) (machines : Nat) : AppM Unit := do
  match Server.bindTo addr with
  | .error e => fail e.message
  | .ok () =>
    note ⟨.info, serverTarget, "Starting server",
      [("address", addr.display), ("machines", toString machines)]⟩

/-- `serve`: check everything, then bind the address; the address served on. -/
def serve (s : Setting) (r : ServeRequest) : AppM SocketAddr := do
  let config := s.loaded.settings
  let server := config.serverOrDefault
  let port := r.port.getD server.port
  let bind := r.bind.getD server.bind
  let text := bind ++ ":" ++ toString port
  let addr ← match SocketAddr.parse text with
    | some a => pure a
    | none => throw ⟨["invalid bind address " ++ text, "invalid socket address syntax"]⟩
  let path ← definitionsPath r.definitions config
  let catalog ← loadDefinitions path
  if let .error e := catalog.validate then
    note ⟨.warn, serveTarget, "Definitions failed validation", [("path", path), ("error", e.message)]⟩
  let _ ← buildRegistry config
  note ⟨.info, serveTarget, "Loaded state machines",
    [("definitions", path), ("machines", quotedList catalog.keys), ("verbose", toString s.verbose)]⟩
  listen addr catalog.keys.length
  return addr

end App

end Workflow
