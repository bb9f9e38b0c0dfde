import Workflow.Config.Basic
import Workflow.Json.Value
import Workflow.Toml.Print
/-! # Writing a configuration

A configuration is written as a JSON object (`Settings.toValue`) or as a TOML document
(`Settings.toToml`).  Both leave out what is not set: a missing section, an empty handler
list, a handler's empty arguments and environment, and every optional value that is absent.
Sections come in the order `server`, `definitions`, `services`, `handlers`, `logging`, and
the fields of each in the order they are declared.
-/

namespace Workflow.Config

open Json Toml

/-- A JSON number of a count. -/
def natValue (n : Nat) : Value := .num (.int n)

/-- The fields that are present, in order. -/
def present {α : Type} (fs : List (String × Option α)) : List (String × α) :=
  fs.filterMap fun (k, v) => v.map fun x => (k, x)

/-- Some list, unless it is empty. -/
def nonEmpty {α : Type} (xs : List α) : Option (List α) := if xs.isEmpty then none else some xs

namespace Server

/-- The server settings as JSON. -/
def toValue (s : Server) : Value := .obj [("port", natValue s.port), ("bind", .str s.bind)]

/-- The server settings as a TOML table. -/
def toOut (s : Server) : List (String × Out) := [("port", .int s.port), ("bind", .str s.bind)]

end Server

namespace Definitions

/-- The definitions settings as JSON. -/
def toValue (d : Definitions) : Value := .obj (present [("path", d.path.map Value.str)])

/-- The definitions settings as a TOML table. -/
def toOut (d : Definitions) : List (String × Out) := present [("path", d.path.map Out.str)]

end Definitions

namespace Sqs

/-- The queue settings as JSON. -/
def toValue (q : Sqs) : Value :=
  .obj [("transport", .str q.transport.name), ("timeout_secs", natValue q.timeoutSecs),
    ("memory_capacity", natValue q.memoryCapacity)]

/-- The queue settings as a TOML table. -/
def toOut (q : Sqs) : List (String × Out) :=
  [("transport", .str q.transport.name), ("timeout_secs", .int q.timeoutSecs),
    ("memory_capacity", .int q.memoryCapacity)]

end Sqs

namespace Handler

/-- A handler as JSON. -/
def toValue (h : Handler) : Value :=
  .obj (("command", .str h.command) :: present [
    ("args", (nonEmpty h.args).map fun xs => .arr (xs.map Value.str)),
    ("cwd", h.cwd.map Value.str),
    ("env", (nonEmpty h.env).map fun kvs => .obj (kvs.map fun (k, v) => (k, .str v))),
    ("timeout_secs", h.timeoutSecs.map natValue)])

/-- A handler as a TOML table. -/
def toOut (h : Handler) : List (String × Out) :=
  ("command", .str h.command) :: present [
    ("args", (nonEmpty h.args).map fun xs => .array (xs.map Out.str)),
    ("cwd", h.cwd.map Out.str),
    ("env", (nonEmpty h.env).map fun kvs => .table (kvs.map fun (k, v) => (k, .str v))),
    ("timeout_secs", h.timeoutSecs.map fun n => .int n)]

end Handler

namespace Logging

/-- The logging settings as JSON. -/
def toValue (l : Logging) : Value :=
  .obj (("level", .str l.level) :: present [("json_dir", l.jsonDir.map Value.str)])

/-- The logging settings as a TOML table. -/
def toOut (l : Logging) : List (String × Out) :=
  ("level", .str l.level) :: present [("json_dir", l.jsonDir.map Out.str)]

end Logging

namespace Settings

/-- A configuration as JSON. -/
def toValue (c : Settings) : Value :=
  .obj (present [
    ("server", c.server.map Server.toValue),
    ("definitions", c.definitions.map Definitions.toValue),
    ("services", c.services.map fun s => .obj [("sqs", s.sqs.toValue)]),
    ("handlers", (nonEmpty c.handlers).map fun hs => .obj (hs.map fun (n, h) => (n, h.toValue))),
    ("logging", c.logging.map Logging.toValue)])

/-- A configuration as the root table of a TOML document. -/
def toOut (c : Settings) : List (String × Out) :=
  present [
    ("server", c.server.map fun s => .table s.toOut),
    ("definitions", c.definitions.map fun d => .table d.toOut),
    ("services", c.services.map fun s => .table [("sqs", .table s.sqs.toOut)]),
    ("handlers", (nonEmpty c.handlers).map fun hs => .table (hs.map fun (n, h) => (n, .table h.toOut))),
    ("logging", c.logging.map fun l => .table l.toOut)]

/-- A configuration as a TOML document. -/
def toToml (c : Settings) : String := Toml.render c.toOut

/-- The timeout of every handler, in name order. -/
def handlerTimeouts (c : Settings) : List (String × Nat) := c.handlers.map fun (n, h) => (n, h.timeout)

end Settings

end Workflow.Config
