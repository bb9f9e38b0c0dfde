import Workflow.Exec.Basic
import Workflow.Decode.Text
import Workflow.Json.Print
/-! # The passthrough handler

A handler program that answers with its input.  It reads a request envelope on its input:
a map (or a sequence) with an optional `input` and an optional `context`, any values, both
`null` when left out.  It answers `{"status":"ok","output":<input>}`.

When the variable `PASSTHROUGH_FAIL` is set, even to the empty text, it answers an error of
that type instead, `asked to fail in state <stateName>` (`unknown` when the context has no
text `stateName`).  Input that is not an envelope is answered with an `InvalidInput` error
quoting the reader's fault.  The answer is compact JSON with no line end, and the program
always exits with status zero.
-/

namespace Workflow.Exec

open Json Decode

/-- What the passthrough handler reads: any input and any context. -/
structure PassRequest where
  input : Value := .null
  context : Value := .null
deriving Repr, Inhabited

/-- How to read a passthrough request. -/
def PassRequest.spec : RecordSpec Reader PassRequest PassRequest where
  name := "HandlerInput"
  fields := ["input", "context"]
  required := []
  init := {}
  read r i := match i with
    | 0 => do return { r with input := ← Decoder.value }
    | _ => do return { r with context := ← Decoder.value }
  build := id

/-- The answer of the passthrough handler, with its fields in the order it writes them. -/
def passAnswer (status : String) (output : Option Value) (error errorType : Option String) :
    String :=
  let fields : List (String × Value) :=
    [("status", .str status)] ++ (output.map (fun v => ("output", v))).toList ++
      (error.map (fun e => ("error", .str e))).toList ++
      (errorType.map (fun t => ("errorType", .str t))).toList
  (Value.obj fields).render

/-- The answer to a request text, failing with the given type when one is set. -/
def passReply (raw : String) (failWith : Option String) : String :=
  match decodeText (Decoder.record PassRequest.spec) raw with
  | .error e => passAnswer "error" none (some ("Invalid input JSON: " ++ e.message)) (some "InvalidInput")
  | .ok req =>
    match failWith with
    | some t =>
      let state := match req.context.field? "stateName" with
        | some (.str s) => s
        | _ => "unknown"
      passAnswer "error" none (some ("asked to fail in state " ++ state)) (some t)
    | none => passAnswer "ok" (some req.input) none none

/-- The passthrough handler run on its input bytes in an environment. -/
def passthrough (stdin : List UInt8) (env : List (String × String)) : Outcome :=
  let text := match Host.decodeUtf8 stdin with
    | some raw => passReply raw (lookupVar env "PASSTHROUGH_FAIL")
    | none =>
      passAnswer "error" none (some "Failed to read stdin: stream did not contain valid UTF-8")
        (some "InvalidInput")
  { stdout := bytesOf text }

end Workflow.Exec
