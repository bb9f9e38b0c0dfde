import Workflow.Config.Basic
import Workflow.Decode.Toml
/-! # Reading configuration

Typed readers for the configuration, written once for every document format (`Decoder`),
and `Settings.ofToml`, which reads a TOML text.  Every section fills what it leaves out
with its defaults; a handler must give its `command`.  Unknown keys are ignored.  Ports are
16-bit, timeouts and capacities 64-bit; paths are texts.
-/

namespace Workflow.Config

open Decode

section
variable {m : Type → Type} [Monad m] [Decoder m]

/-- A path. -/
def pathText : m String := Decoder.text "path string"

/-- The largest 64-bit unsigned number. -/
def u64Max : Nat := Nat.pow 2 64 - 1

/-- How to read the server section. -/
def Server.spec : RecordSpec m Server Server where
  name := "ServerConfig"
  fields := ["port", "bind"]
  required := []
  init := {}
  read s i := match i with
    | 0 => do return { s with port := ← Decoder.unsigned (Nat.pow 2 16 - 1) "u16" }
    | _ => do return { s with bind := ← Decoder.string }
  build := id

/-- How to read the definitions section. -/
def Definitions.spec : RecordSpec m Definitions Definitions where
  name := "DefinitionsConfig"
  fields := ["path"]
  required := []
  init := {}
  read _ _ := do return { path := ← Decoder.option pathText }
  build := id

/-- A transport, by name. -/
def Transport.decode : m Transport := do
  match ← Decoder.unitVariant with
  | "memory" => return .memory
  | "http" => return .http
  | other => Decoder.fault (.custom ("unknown variant `" ++ other ++ "`, expected `memory` or `http`"))

/-- How to read the queue section. -/
def Sqs.spec : RecordSpec m Sqs Sqs where
  name := "SqsConfig"
  fields := ["transport", "timeout_secs", "memory_capacity"]
  required := []
  init := {}
  read s i := match i with
    | 0 => do return { s with transport := ← Transport.decode }
    | 1 => do return { s with timeoutSecs := ← Decoder.unsigned u64Max "u64" }
    | _ => do return { s with memoryCapacity := ← Decoder.unsigned u64Max "usize" }
  build := id

/-- How to read the services section. -/
def Services.spec : RecordSpec m Services Services where
  name := "ServicesConfig"
  fields := ["sqs"]
  required := []
  init := {}
  read _ _ := do return { sqs := ← Decoder.record Sqs.spec }
  build := id

/-- How to read a handler. -/
def Handler.spec : RecordSpec m Handler Handler where
  name := "HandlerConfig"
  fields := ["command", "args", "cwd", "env", "timeout_secs"]
  required := ["command"]
  init := { command := "" }
  read h i := match i with
    | 0 => do return { h with command := ← Decoder.string }
    | 1 => do return { h with args := ← Decoder.seq Decoder.string }
    | 2 => do return { h with cwd := ← Decoder.option pathText }
    | 3 => do return { h with env := sortedOf (← Decoder.map Decoder.string) }
    | _ => do return { h with timeoutSecs := ← Decoder.option (Decoder.unsigned u64Max "u64") }
  build := id

/-- How to read the logging section. -/
def Logging.spec : RecordSpec m Logging Logging where
  name := "LoggingConfig"
  fields := ["level", "json_dir"]
  required := []
  init := {}
  read l i := match i with
    | 0 => do return { l with level := ← Decoder.string }
    | _ => do return { l with jsonDir := ← Decoder.option pathText }
  build := id

/-- How to read a configuration layer. -/
def Settings.spec : RecordSpec m Settings Settings where
  name := "StatelyConfig"
  fields := ["server", "definitions", "services", "handlers", "logging"]
  required := []
  init := {}
  read c i := match i with
    | 0 => do return { c with server := ← Decoder.option (Decoder.record Server.spec) }
    | 1 => do return { c with definitions := ← Decoder.option (Decoder.record Definitions.spec) }
    | 2 => do return { c with services := ← Decoder.option (Decoder.record Services.spec) }
    | 3 => do return { c with handlers := sortedOf (← Decoder.map (Decoder.record Handler.spec)) }
    | _ => do return { c with logging := ← Decoder.option (Decoder.record Logging.spec) }
  build := id

end

/-- A configuration layer from TOML text. -/
def Settings.ofToml (text : String) : Except ConfigError Settings :=
  match Toml.parse text with
  | .error e => .error (.parse (e.render text))
  | .ok root =>
    match decodeToml (Decoder.record Settings.spec) root with
    | .ok c => .ok c
    | .error e => .error (.parse (e.render text))

end Workflow.Config
