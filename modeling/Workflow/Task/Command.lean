import Workflow.Task.Envelope
import Workflow.Shell.Run
import Workflow.Text.Blank
import Workflow.Journal
import Workflow.Decode.Text
/-! # Handlers that run a program

A command handler runs a program once per call.  The program reads the request envelope as
compact JSON (`{"input":…,"context":{"executionArn","stateName","retryCount",
"environment"}}`) and answers with a reply envelope on its output.  Its environment is the
host's, then the handler's own variables, then the state's `environment`, later ones
winning.

The call fails with a named failure, its message starting `handler '<name>': `:

* `HandlerSpawnError` when the program cannot be started (`failed to spawn <command>: …`);
* `States.Timeout` when it runs for the whole timeout or longer (`timed out after <n>ms`);
* `HandlerProcessError` when it exits with another status than zero, or is killed
  (`exited with code <n>`, `-1` for a signal, followed by what it wrote to its error output);
* `HandlerProtocolError` when its output, read leniently as UTF-8 and trimmed, is not a
  reply envelope (`invalid output envelope: …`).

A reply whose status is `ok` gives its output (`null` when there is none); any other reply
is the failure it names (`HandlerError` and `handler reported an error` by default), with
its trace.
-/

namespace Workflow

open Json Exec Text

/-- A handler that runs a program. -/
structure CommandHandler where
  name : String
  command : String
  args : List String := []
  cwd : Option String := none
  env : List (String × String) := []
  /-- How long the program may run, in milliseconds. -/
  timeoutMs : Nat := 30000
deriving Repr, Inhabited

/-- The journal target of handlers. -/
def handlerTarget : String := "stately_engine::handler"

/-- What one call of a command handler came to. -/
structure CommandRun where
  result : Except TaskError Value
  /-- What the call said in the journal. -/
  events : List Event := []
  /-- How long the program ran, in milliseconds. -/
  elapsedMs : Nat := 0

/-- The request envelope as the program reads it: compact, fields in their fixed order. -/
def Envelope.wireText (e : Envelope) : String :=
  (Value.obj [("input", e.input), ("context", Value.obj [
    ("executionArn", .str e.context.executionArn), ("stateName", .str e.context.stateName),
    ("retryCount", Value.ofNat e.context.retryCount),
    ("environment", Value.obj (e.context.environment.map fun (k, v) => (k, .str v)))])]).render

namespace CommandHandler

/-- A failure of this handler, its message naming the handler. -/
def failure (c : CommandHandler) (kind message : String) : TaskError :=
  .fail kind ("handler '" ++ c.name ++ "': " ++ message)

/-- The result of a program's reply text. -/
def readReply (c : CommandHandler) (stdout : String) : Except TaskError Value :=
  match Decode.decodeText Reply.decode (trim stdout) with
  | .error e => .error (c.failure "HandlerProtocolError" ("invalid output envelope: " ++ e.message))
  | .ok r =>
    if r.isOk then .ok (r.output.getD .null)
    else
      let err := TaskError.fail (r.errorType.getD "HandlerError")
        (r.error.getD "handler reported an error")
      .error (match r.trace with
        | some t => err.withTrace t
        | none => err)

/-- Call the handler on a host with an input and the invocation facts. -/
def call (c : CommandHandler) (h : Host) (input : Value) (inv : Invocation) : CommandRun :=
  let stdin := bytesOf (Envelope.wireText ⟨input, inv⟩)
  let launch : Launch :=
    { program := c.command, args := c.args, env := h.env ++ c.env ++ inv.environment,
      cwd := h.absolute (c.cwd.getD h.cwd), stdin }
  match start h launch with
  | .error e => { result := .error (c.failure "HandlerSpawnError"
      ("failed to spawn " ++ c.command ++ ": " ++ e.message)) }
  | .ok o =>
    if o.elapsedMs ≥ c.timeoutMs then
      { result := .error (c.failure "States.Timeout" ("timed out after " ++ toString c.timeoutMs ++ "ms")),
        events := [⟨.warn, handlerTarget, "Handler timed out",
          [("handler", c.name), ("timeout_ms", toString c.timeoutMs)]⟩],
        elapsedMs := c.timeoutMs }
    else
      let stderr := lossyUtf8 o.stderr
      let events : List Event := if stderr.isEmpty then [] else
        [⟨.debug, handlerTarget, "Handler stderr", [("handler", c.name), ("stderr", trim stderr)]⟩]
      let result := match o.exit with
        | .code 0 => c.readReply (lossyUtf8 o.stdout)
        | e =>
          let code := match e with
            | .code n => toString n
            | .signal _ => "-1"
          let detail := if (trim stderr).isEmpty then "" else ": " ++ trim stderr
          .error (c.failure "HandlerProcessError" ("exited with code " ++ code ++ detail))
      { result, events, elapsedMs := o.elapsedMs }

end CommandHandler

end Workflow
