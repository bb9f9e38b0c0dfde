import Workflow.Task.Basic
import Workflow.Decode.Class
/-! # Handler envelopes

A handler that runs as its own process reads a **request envelope** on its input,
`{"input": …, "context": {"executionArn", "stateName", "retryCount", "environment"}}`, and
writes a **reply envelope**, `{"status", "output", "error", "errorType", "trace"}`.  A reply
is a success exactly when its status is `ok`; the other fields are optional, and a `null`
output counts as none.
-/

namespace Workflow

open Json Decode

/-- What a handler process reads: the effective input and the invocation facts. -/
structure Envelope where
  input : Value
  context : Invocation
deriving DecidableEq, Repr

/-- What a handler process writes back. -/
structure Reply where
  status : String := ""
  output : Option Value := none
  error : Option String := none
  errorType : Option String := none
  trace : Option String := none
deriving DecidableEq, Repr, Inhabited

namespace Reply

/-- Whether the handler succeeded. -/
def isOk (r : Reply) : Bool := r.status == "ok"

/-- A successful reply carrying an output. -/
def ok (output : Value) : Reply := { status := "ok", output := some output }

/-- A failed reply with an error name and message. -/
def failure (errorType message : String) : Reply :=
  { status := "error", error := some message, errorType := some errorType }

/-- The reply as a value, every field present. -/
def toValue (r : Reply) : Value :=
  let text : Option String → Value
    | some s => .str s
    | none => .null
  .obj [("error", text r.error), ("errorType", text r.errorType),
    ("output", r.output.getD .null), ("status", .str r.status), ("trace", text r.trace)]

end Reply

/-- The envelope as a value. -/
def Envelope.toValue (e : Envelope) : Value :=
  .obj [("context", e.context.toValue), ("input", e.input)]

section
variable {m : Type → Type} [Monad m] [Decoder m]

/-- How to read the invocation facts. -/
def Invocation.spec : RecordSpec m Invocation Invocation where
  name := "InvocationContext"
  fields := ["executionArn", "stateName", "retryCount", "environment"]
  required := ["executionArn", "stateName", "retryCount"]
  init := {}
  read c i := match i with
    | 0 => do return { c with executionArn := ← Decoder.string }
    | 1 => do return { c with stateName := ← Decoder.string }
    | 2 => do return { c with retryCount := ← Decoder.unsigned (Nat.pow 2 32 - 1) "u32" }
    | _ => do return { c with environment := ← Decoder.map Decoder.string }
  build := id

/-- How to read a request envelope. -/
def Envelope.spec : RecordSpec m (Value × Invocation) Envelope where
  name := "HandlerInput"
  fields := ["input", "context"]
  required := ["input", "context"]
  init := (.null, {})
  read e i := match i with
    | 0 => do return (← Decoder.value, e.2)
    | _ => do return (e.1, ← Decoder.record Invocation.spec)
  build e := ⟨e.1, e.2⟩

/-- How to read a reply envelope. -/
def Reply.spec : RecordSpec m Reply Reply where
  name := "HandlerOutput"
  fields := ["status", "output", "error", "errorType", "trace"]
  required := ["status"]
  init := {}
  read r i := match i with
    | 0 => do return { r with status := ← Decoder.string }
    | 1 => do return { r with output := ← Decoder.option Decoder.value }
    | 2 => do return { r with error := ← Decoder.option Decoder.string }
    | 3 => do return { r with errorType := ← Decoder.option Decoder.string }
    | _ => do return { r with trace := ← Decoder.option Decoder.string }
  build := id

/-- A request envelope. -/
def Envelope.decode : m Envelope := Decoder.record Envelope.spec

/-- A reply envelope. -/
def Reply.decode : m Reply := Decoder.record Reply.spec

end

end Workflow
