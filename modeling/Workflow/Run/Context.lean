import Workflow.Machine.Basic
import Workflow.Run.Error
/-! # Run context

The record of one run: its identifier, the machine, the state it is in, the value entering
that state and the retries spent on it.  The identifier is
`<machine name>-<first state>-<start in milliseconds>`.

`advance` moves to a state of the machine with a new input and no retries spent; it does not
move when the state does not exist.  `recordRetry` counts one more retry.
-/

namespace Workflow

open Json

/-- The identifier of a run of a machine from a state, started at a time in milliseconds. -/
def executionArn (machineName startState : String) (startMillis : Int) : String :=
  machineName ++ "-" ++ startState ++ "-" ++ toString startMillis

/-- Where a run is. -/
structure Context where
  arn : String
  machineName : String
  machine : Machine
  current : String
  startMillis : Int
  retries : Nat := 0
  input : Value
deriving Repr

namespace Context

/-- A run of a machine about to enter a state with an input. -/
def start (machineName : String) (machine : Machine) (startState : String) (input : Value)
    (startMillis : Int) : Context :=
  { arn := executionArn machineName startState startMillis, machineName, machine,
    current := startState, startMillis, input }

/-- The definition of the current state. -/
def currentState (c : Context) : Except RunError State :=
  match c.machine.state? c.current with
  | some s => .ok s
  | none => .error (.stateNotFound c.current)

/-- One more retry spent on the current state. -/
def recordRetry (c : Context) : Context := { c with retries := c.retries + 1 }

/-- Move to a state with an input, no retries spent; a name that is no state fails. -/
def advance (c : Context) (next : String) (input : Value) : Except RunError Context :=
  if c.machine.hasState next then .ok { c with current := next, input, retries := 0 }
  else .error (.stateNotFound next)

@[simp] theorem recordRetry_retries (c : Context) : c.recordRetry.retries = c.retries + 1 := rfl

theorem advance_retries {c c' : Context} {next : String} {input : Value}
    (h : c.advance next input = .ok c') : c'.retries = 0 ∧ c'.current = next ∧ c'.input = input := by
  unfold advance at h
  split at h
  · cases h; exact ⟨rfl, rfl, rfl⟩
  · cases h

end Context

end Workflow
