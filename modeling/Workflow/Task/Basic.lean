import Workflow.Json.Value
import Workflow.Json.Print
/-! # Tasks

A Task state hands its work to the outside world: to a built-in **service** when its resource
starts with `arn:aws:states:::`, else to a **handler** by name.  A handler also gets the
**invocation** facts: the run, the state, the retries spent and the state's environment.

A task fails with a `TaskError`: a named failure the handler reported (with a message and
maybe a trace), or no service or handler under the name asked for.  Task failures are the
only errors that retry and catch rules see.
-/

namespace Workflow

open Json

/-- The resource prefix that selects a built-in service. -/
def servicePrefix : String := "arn:aws:states:::"

/-- Whether a resource names a built-in service. -/
def isServiceResource (resource : String) : Bool := resource.startsWith servicePrefix

/-- Why a task failed. -/
inductive TaskError where
  /-- The handler or service ran and reported a named failure. -/
  | failed (name message : String) (trace : Option String)
  /-- No service answers to the resource. -/
  | unknownService (resource : String)
  /-- No handler has the name. -/
  | unknownHandler (handler : String)
deriving DecidableEq, Repr, Inhabited

namespace TaskError

/-- A named failure without a trace. -/
def fail (name message : String) : TaskError := .failed name message none

/-- The error name that retry and catch rules match. -/
def name : TaskError → String
  | .failed n _ _ => n
  | .unknownService _ => "UnknownServiceError"
  | .unknownHandler _ => "UnknownHandlerError"

/-- The error as one line. -/
def display : TaskError → String
  | .failed n m _ => n ++ ": " ++ m
  | .unknownService r => "No service integration registered for resource '" ++ r ++ "'"
  | .unknownHandler h => "No handler registered as '" ++ h ++ "'"

/-- The message without the name: a failure's own message, else the whole line. -/
def message : TaskError → String
  | .failed _ m _ => m
  | e => e.display

/-- The trace a failure carries. -/
def trace : TaskError → Option String
  | .failed _ _ t => t
  | _ => none

/-- A failure with a trace attached; the other errors carry none and stay as they are. -/
def withTrace (t : String) : TaskError → TaskError
  | .failed n m _ => .failed n m (some t)
  | e => e

end TaskError

/-- What a handler is told about the call besides its input. -/
structure Invocation where
  executionArn : String := ""
  stateName : String := ""
  retryCount : Nat := 0
  environment : List (String × String) := []
deriving DecidableEq, Repr, Inhabited

/-- The invocation as the handler sees it. -/
def Invocation.toValue (i : Invocation) : Value :=
  .obj [("environment", Value.object (i.environment.map fun (k, v) => (k, .str v))),
    ("executionArn", .str i.executionArn), ("retryCount", Value.ofNat i.retryCount),
    ("stateName", .str i.stateName)]

/-- What a Task state asks of the outside world. -/
inductive TaskCall where
  /-- Call the built-in service for a resource. -/
  | service (resource : String) (input : Value)
  /-- Call a handler by name. -/
  | handler (name : String) (input : Value) (invocation : Invocation)
deriving DecidableEq, Repr

end Workflow
