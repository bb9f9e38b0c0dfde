import Workflow.Text.Blank
/-! # Configuration

The configuration of the program, as layers of settings that merge:

* `server`: the port and address to listen on (8014 and `127.0.0.1` by default);
* `definitions`: the file holding the machine definitions;
* `services.sqs`: how queue messages are delivered, in memory (keeping `memory_capacity`
  per queue) or over HTTP (with a request timeout);
* `handlers`: named commands that run tasks, each with arguments, a working directory,
  environment variables and a timeout (30 s by default);
* `logging`: the console log level (`info` by default) and a directory for JSON logs.

Every section is optional, so a layer may say only what it changes.  Merging a layer on top
replaces each section it gives as a whole, and adds or replaces its handlers by name
(`merge`).  The empty configuration is neutral for merging, and merging is associative.
-/

namespace Workflow.Config

/-- The default port. -/
def defaultPort : Nat := 8014

/-- The default address. -/
def defaultBind : String := "127.0.0.1"

/-- The default handler timeout, in seconds. -/
def defaultHandlerTimeout : Nat := 30

/-- The default timeout of HTTP queue requests, in seconds. -/
def defaultQueueTimeout : Nat := 10

/-- The default number of messages a memory queue keeps per URL. -/
def defaultQueueCapacity : Nat := 1000

/-- Where the server listens. -/
structure Server where
  port : Nat := defaultPort
  bind : String := defaultBind
deriving DecidableEq, Repr, Inhabited

/-- Where definitions are read from. -/
structure Definitions where
  path : Option String := none
deriving DecidableEq, Repr, Inhabited

/-- How queue messages are delivered. -/
inductive Transport where
  | memory
  | http
deriving DecidableEq, Repr, Inhabited

/-- The name of a transport. -/
def Transport.name : Transport → String
  | .memory => "memory"
  | .http => "http"

/-- The queue service settings. -/
structure Sqs where
  transport : Transport := .memory
  timeoutSecs : Nat := defaultQueueTimeout
  memoryCapacity : Nat := defaultQueueCapacity
deriving DecidableEq, Repr, Inhabited

/-- The built-in service settings. -/
structure Services where
  sqs : Sqs := {}
deriving DecidableEq, Repr, Inhabited

/-- A command that handles tasks. -/
structure Handler where
  command : String
  args : List String := []
  cwd : Option String := none
  env : List (String × String) := []
  timeoutSecs : Option Nat := none
deriving DecidableEq, Repr, Inhabited

/-- Logging settings. -/
structure Logging where
  level : String := "info"
  jsonDir : Option String := none
deriving DecidableEq, Repr, Inhabited

/-- Handlers by name, in name order. -/
abbrev Handlers := List (String × Handler)

/-- A configuration layer. -/
structure Settings where
  server : Option Server := none
  definitions : Option Definitions := none
  services : Option Services := none
  handlers : Handlers := []
  logging : Option Logging := none
deriving DecidableEq, Repr, Inhabited

/-- Why a configuration cannot be used. -/
inductive ConfigError where
  /-- A file could not be read. -/
  | readFile (path reason : String)
  /-- A text is not a valid configuration; the reason as the format's tools write it. -/
  | parse (reason : String)
  /-- A handler cannot be run. -/
  | invalidHandler (name reason : String)
deriving DecidableEq, Repr

namespace ConfigError

/-- The words for an error. -/
def message : ConfigError → String
  | .readFile p r => "failed to read config file '" ++ p ++ "': " ++ r
  | .parse r => "failed to parse config: " ++ r
  | .invalidHandler n r => "handler '" ++ n ++ "' is invalid: " ++ r

/-- The error a configuration error wraps, if any: the failure of reading or parsing. -/
def cause : ConfigError → Option String
  | .readFile _ r => some r
  | .parse r => some r
  | .invalidHandler .. => none

/-- The name of the kind of error. -/
def kind : ConfigError → String
  | .readFile .. => "ReadFile"
  | .parse .. => "Parse"
  | .invalidHandler .. => "InvalidHandler"

end ConfigError

/-- Insert a binding into a list sorted by name, replacing one of the same name. -/
def insertSorted {α : Type} (k : String) (v : α) : List (String × α) → List (String × α)
  | [] => [(k, v)]
  | (k', v') :: rest =>
    if k < k' then (k, v) :: (k', v') :: rest
    else if k = k' then (k, v) :: rest
    else (k', v') :: insertSorted k v rest

/-- Bindings in reading order, as a list sorted by name where the later of equal names wins. -/
def sortedOf {α : Type} (kvs : List (String × α)) : List (String × α) :=
  kvs.foldl (fun acc (k, v) => insertSorted k v acc) []

namespace Handler

/-- The timeout, in seconds. -/
def timeout (h : Handler) : Nat := h.timeoutSecs.getD defaultHandlerTimeout

/-- Check that a handler can be run: a command that is not blank, a timeout above zero. -/
def validate (h : Handler) (name : String) : Except ConfigError Unit :=
  if h.command.toList.all Text.isBlank then .error (.invalidHandler name "command is empty")
  else if h.timeoutSecs == some 0 then
    .error (.invalidHandler name "timeout_secs must be greater than zero")
  else .ok ()

end Handler

namespace Settings

/-- The empty layer. -/
def empty : Settings := {}

/-- `other` on top of `base`: its sections replace, its handlers add or replace by name. -/
def merge (base other : Settings) : Settings where
  server := other.server.orElse fun _ => base.server
  definitions := other.definitions.orElse fun _ => base.definitions
  services := other.services.orElse fun _ => base.services
  handlers := other.handlers.foldl (fun acc (k, v) => insertSorted k v acc) base.handlers
  logging := other.logging.orElse fun _ => base.logging

/-- The server settings, defaults applied. -/
def serverOrDefault (c : Settings) : Server := c.server.getD {}

/-- The queue settings, defaults applied. -/
def sqsOrDefault (c : Settings) : Sqs := (c.services.map Services.sqs).getD {}

/-- The logging settings, defaults applied. -/
def loggingOrDefault (c : Settings) : Logging := c.logging.getD {}

/-- The definitions file, if one is set. -/
def definitionsPath (c : Settings) : Option String := c.definitions.bind Definitions.path

/-- Check every handler, in name order; the first problem is the answer. -/
def validate (c : Settings) : Except ConfigError Unit :=
  c.handlers.forM fun (name, h) => h.validate name

end Settings

end Workflow.Config
