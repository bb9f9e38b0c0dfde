import Workflow.Task.Basic
import Workflow.Path.Basic
import Workflow.Choice.Rule
/-! # Run errors

What can stop a run or send it elsewhere, each with its error name (what retry and catch
rules match, and what a failed run reports as `Error`) and its message.  Only task failures
are recoverable; every other error ends the run.

A `Report` is the payload of an error: `{Error, Cause: {errorType, errorMessage, trace?}}`.
A catch rule merges it into the state input, and a failed run returns it.
-/

namespace Workflow

open Json

/-- Why a state could not go on. -/
inductive RunError where
  /-- A task failed. -/
  | task (e : TaskError)
  /-- The output filter selected nothing. -/
  | outputMissing (state path : String)
  /-- A Wait state has no valid duration. -/
  | invalidWait (state reason : String)
  /-- The state's kind cannot run. -/
  | unsupported (state kind : String)
  /-- A transition names no state of the machine. -/
  | stateNotFound (name : String)
  /-- A state that does not end the run has no `Next`. -/
  | missingTransition (state : String)
  /-- The input filter, parameters, result placement or output filter failed. -/
  | path (state : String) (e : PathError)
  /-- A catch rule matched, but placing the error payload failed. -/
  | catchMerge (state caught : String) (e : PathError)
  /-- A Choice state's rules could not pick a branch. -/
  | choice (state : String) (e : Choice.ChoiceError)
deriving Repr

namespace RunError

/-- Whether retry and catch rules may handle the error: only task failures. -/
def isRecoverable : RunError → Bool
  | .task _ => true
  | _ => false

/-- The error name. -/
def name : RunError → String
  | .task e => e.name
  | .outputMissing .. => "InvalidOutputPathError"
  | .invalidWait .. => "InvalidWaitTimeError"
  | .unsupported .. => "UnsupportedStateTypeError"
  | .stateNotFound _ => "StateNotFoundError"
  | .missingTransition _ => "MissingTransitionError"
  | .path .. | .catchMerge .. => "InvalidPathError"
  | .choice .. => "States.NoChoiceMatched"

/-- The error as one line. -/
def display : RunError → String
  | .task e => e.display
  | .outputMissing s p =>
    "State '" ++ s ++ "': OutputPath '" ++ p ++ "' does not match any value in the state output"
  | .invalidWait s r => "State '" ++ s ++ "': invalid wait time: " ++ r
  | .unsupported s k => "State '" ++ s ++ "': unsupported state type '" ++ k ++ "'"
  | .stateNotFound n => "State not found: " ++ n
  | .missingTransition s => "State '" ++ s ++ "' has no Next and is not an End state"
  | .path s e => "State '" ++ s ++ "': " ++ e.message
  | .catchMerge s c e => "State '" ++ s ++ "': could not merge caught error '" ++ c ++ "': " ++ e.message
  | .choice s e => "State '" ++ s ++ "': " ++ e.message

/-- The message without the name: a task's own message, else the whole line. -/
def message : RunError → String
  | .task e => e.message
  | e => e.display

/-- The trace a task failure carries. -/
def trace : RunError → Option String
  | .task e => e.trace
  | _ => none

end RunError

/-- The payload of an error: its name, and a cause with a type, a message and maybe a trace. -/
structure Report where
  error : String
  errorType : String
  errorMessage : String
  trace : Option String := none
deriving DecidableEq, Repr, Inhabited

namespace Report

/-- The payload as a value. -/
def toValue (r : Report) : Value :=
  let cause := [("errorMessage", Value.str r.errorMessage), ("errorType", .str r.errorType)] ++
    (match r.trace with
      | some t => [("trace", .str t)]
      | none => [])
  .obj [("Cause", .obj cause), ("Error", .str r.error)]

/-- The payload as its document is written: `Error` before `Cause`, and the cause's type
before its message and trace. -/
def wireValue (r : Report) : Value :=
  let cause := [("errorType", Value.str r.errorType), ("errorMessage", .str r.errorMessage)] ++
    (match r.trace with
      | some t => [("trace", .str t)]
      | none => [])
  .obj [("Error", .str r.error), ("Cause", .obj cause)]

end Report

/-- The payload of a run error. -/
def RunError.report (e : RunError) : Report :=
  ⟨e.name, e.name, e.message, e.trace⟩

end Workflow
