import Workflow.Run.Context
import Workflow.Run.Wait
import Workflow.Path.Filter
import Workflow.Journal
/-! # Running a machine

A run goes from state to state until a state ends it.  Each state goes through the same
pipeline:

input filter → parameters → the state's work → result placement → output filter → next

* Parallel states and states of an unknown kind cannot run; a Fail state ends the run with
  its error name (`States.Fail` when it sets none) and cause.
* A Choice state picks the next state from its rules on the filtered input, and hands on its
  own input unchanged.
* A Task state asks the outside world (`Invoker`): a service when its resource names one,
  else its handler, else it fails with `States.Runtime`.  A Pass state's result is its
  `Result`, or `{}`.  A Wait state needs a valid duration and produces no result.
* A state that ends the run succeeds with its output; any other goes to its `Next`.

When a state fails, only a task failure can be recovered: the first retry rule that accepts
the error name retries the state while fewer retries than its limit are spent; otherwise the
first catch rule that accepts it places the error payload into the state's input and goes to
its `Next`.  Every other failure ends the run, as `UNSUPPORTED` for a kind that cannot run
and `FAILED` otherwise, reporting the input of the state the run stopped in.

Runs are bounded by a number of turns (`Execute.run`); one turn handles one state.  A turn
that waits says for how long, in whole milliseconds rounded up; `Execute.loop` lets the
world wait, and a scheduler of several runs can order them by it instead.
-/

namespace Workflow

open Json

/-- The outside world as a run sees it: it answers task calls, tells the time in
milliseconds since 1970, and lets the run wait for some milliseconds; it may change as it
does. -/
structure Invoker (σ : Type) where
  call : TaskCall → StateM σ (Except TaskError Value)
  now : StateM σ Int
  pause : Nat → StateM σ Unit := fun _ => pure ()

/-- What a state asks the run to do next. -/
inductive Step where
  | advance (next : String) (output : Value)
  | succeed (output : Value)
  | fail (report : Report)
deriving Repr

/-- How a run ended. -/
inductive Status where
  | succeeded
  | failed
  | unsupported
deriving DecidableEq, Repr

/-- The status as written in a result. -/
def Status.label : Status → String
  | .succeeded => "SUCCEEDED"
  | .failed => "FAILED"
  | .unsupported => "UNSUPPORTED"

/-- The result of a finished run: the output when it succeeded; otherwise the error and the
input of the state it stopped in. -/
structure Outcome where
  arn : String
  status : Status
  output : Option Value := none
  error : Option Report := none
  lastInput : Option Value := none
deriving Repr

namespace Outcome

/-- Whether the run succeeded. -/
def isSuccess (o : Outcome) : Bool := o.status == .succeeded

/-- The result as a value. -/
def toValue (o : Outcome) : Value :=
  let opt (k : String) : Option Value → List (String × Value)
    | some v => [(k, v)]
    | none => []
  .obj ((opt "error" (o.error.map Report.toValue)) ++ [("executionArn", .str o.arn)] ++
    opt "lastInput" o.lastInput ++ opt "output" o.output ++ [("status", .str o.status.label)])

/-- The result as its document is written: the identifier, the status, then the output,
the error and the last input where there are any. -/
def wireValue (o : Outcome) : Value :=
  let opt (k : String) : Option Value → List (String × Value)
    | some v => [(k, v)]
    | none => []
  .obj ([("executionArn", .str o.arn), ("status", .str o.status.label)] ++ opt "output" o.output ++
    opt "error" (o.error.map Report.wireValue) ++ opt "lastInput" o.lastInput)

end Outcome

/-- The journal target of the run loop. -/
def executorTarget : String := "stately_engine::executor"

/-- The journal target of branch selection. -/
def choiceTarget : String := "stately_engine::choice"

/-- The payload of a Fail state. -/
def State.failReport (s : State) : Report :=
  let name := s.failError.getD "States.Fail"
  ⟨name, name, s.failCause.getD "", none⟩

/-- What a handler is told when a state calls it from a context. -/
def Context.invocation (ctx : Context) (s : State) : Invocation :=
  ⟨ctx.arn, ctx.current, ctx.retries, s.environment⟩

/-- The call a Task state makes from a context with its effective input: the service its
resource names, else its handler; a state with neither fails with `States.Runtime`. -/
def State.taskCall (s : State) (ctx : Context) (input : Value) : Except TaskError TaskCall :=
  let byHandler : Except TaskError TaskCall :=
    match s.handlerName with
    | none => .error (.fail "States.Runtime"
        ("Task state '" ++ ctx.current ++ "' has neither a Resource nor a handler"))
    | some h => .ok (.handler h input (ctx.invocation s))
  match s.resource with
  | some r => if isServiceResource r then .ok (.service r input) else byHandler
  | none => byHandler

/-- A state's effective input: its input filter, then its parameters. -/
def State.effectiveInput (s : State) (name : String) (input : Value) : Except RunError Value := do
  let filtered ← (inputFilter input s.inputPath).mapError (.path name)
  (applyParameters filtered s.parameters).mapError (.path name)

/-- The value a state's result leaves: placed into the state's input for a Task, Pass or
Parallel state, else the input as it was. -/
def State.place (s : State) (name : String) (input : Value) :
    Option Value → Except RunError Value
  | some r =>
    if s.producesResult then (placeResult input s.resultPath r).mapError (.path name)
    else .ok input
  | none => .ok input

/-- Where a state goes with its output: the end of the run, or its `Next`. -/
def State.transition (s : State) (name : String) (output : Value) : Except RunError Step :=
  if s.isTerminal then .ok (.succeed output)
  else
    match s.next with
    | some next => .ok (.advance next output)
    | none => .error (.missingTransition name)

/-- The end of a state's pipeline once its work is done: result placement, the output filter,
and where to go. -/
def State.conclude (s : State) (name : String) (input : Value) (result : Option Value) :
    Except RunError Step := do
  let data ← s.place name input result
  let output ← (outputFilter data s.outputPath).mapError fun e => match e with
    | .noMatch p => .outputMissing name p
    | other => .path name other
  s.transition name output

namespace Execute

variable {σ : Type} [Journal σ]

/-- The computations of a run: they change the world and may stop with a run error. -/
abbrev RunM (σ : Type) := ExceptT RunError (StateM σ)

/-- A result of a pure step, its fault turned into a run error. -/
def lift {ε α : Type} (f : ε → RunError) : Except ε α → RunM σ α
  | .ok a => pure a
  | .error e => throw (f e)

/-- Say an event from the run loop. -/
def note (level : Level) (message : String) (fields : List (String × String)) : RunM σ Unit :=
  (say ⟨level, executorTarget, message, fields⟩ : StateM σ Unit)

/-- A Task state's work: the one call it makes, and the answer. -/
def invokeTask (inv : Invoker σ) (ctx : Context) (s : State) (input : Value) : RunM σ Value := do
  let call ← lift .task (s.taskCall ctx input)
  lift .task (← (inv.call call : StateM σ _))

/-- The branch a Choice state takes, said in the journal. -/
def branch (s : State) (name : String) (input : Value) : RunM σ String := do
  let b ← lift (.choice name) (Choice.choose s.choices s.defaultState input)
  match b with
  | .rule index next =>
    (say ⟨.debug, choiceTarget, "Choice rule matched",
      [("rule", toString index), ("next", quoted next)]⟩ : StateM σ Unit)
  | .fallback next =>
    (say ⟨.debug, choiceTarget, "No choice rule matched, using Default", [("next", next)]⟩ :
      StateM σ Unit)
  return b.target

/-- Milliseconds of a wait, rounded up. -/
def waitMillis (nanos : Nat) : Nat := (nanos + 999999) / 1000000

/-- A state's own work on its effective input: the result it produces, and how long it
waited first if it is a Wait state. -/
def work (inv : Invoker σ) (ctx : Context) (s : State) (effective : Value) :
    RunM σ (Option Value × Option Nat) :=
  match s.kind with
  | .task => do pure (some (← invokeTask inv ctx s effective), none)
  | .pass => pure (some (s.result.getD (.obj [])), none)
  | .wait => do
    let nanos ← lift (fun p => .invalidWait ctx.current p.message)
      (waitNanos s effective (← (inv.now : StateM σ Int)))
    note .debug "Waiting" [("state", ctx.current), ("wait_ms", toString (nanos / 1000000))]
    pure (none, some (waitMillis nanos))
  | _ => pure (none, none)

/-- One state's pipeline, from its input to what the run does next, and how long it waited
first if it is a Wait state. -/
def step (inv : Invoker σ) (ctx : Context) (s : State) : RunM σ (Step × Option Nat) := do
  let name := ctx.current
  match s.kind with
  | .parallel | .unknown => throw (.unsupported name s.kind.name)
  | .fail => return (.fail s.failReport, none)
  | _ => pure ()
  let effective ← lift id (s.effectiveInput name ctx.input)
  if s.kind == .choice then
    let next ← branch s name effective
    return (.advance next ctx.input, none)
  let (result, waited) ← work inv ctx s effective
  return (← lift id (s.conclude name ctx.input result), waited)

/-- Retry or catch a failure of the current state, giving the context to go on with, or the
error that ends the run. -/
def recover (ctx : Context) (s : State) (e : RunError) : RunM σ Context := do
  if !e.isRecoverable then throw e
  let name := e.name
  if let some (_, retrier) := s.retrierFor name then
    if ctx.retries < retrier.attempts then
      let ctx := ctx.recordRetry
      note .warn "Task failed, retrying"
        [("execution_arn", ctx.arn), ("state", ctx.current), ("retry", toString ctx.retries),
          ("max_attempts", toString retrier.attempts), ("error", e.display)]
      return ctx
  match s.catcherFor name with
  | some (_, catcher) =>
    let merged ← lift (.catchMerge ctx.current name)
      (placeResult ctx.input catcher.resultPath e.report.toValue)
    note .warn "Task failed, caught"
      [("execution_arn", ctx.arn), ("state", ctx.current), ("next", catcher.next),
        ("error", e.display)]
    lift id (ctx.advance catcher.next merged)
  | none => throw e

/-- The outcome of a run that stops with an error in a context. -/
def finish (ctx : Context) (e : RunError) : StateM σ Outcome := do
  say ⟨.error, executorTarget, "Execution failed",
    [("execution_arn", ctx.arn), ("state", ctx.current), ("error_name", e.name),
      ("error", e.display)]⟩
  let status := match e with
    | .unsupported .. => Status.unsupported
    | _ => Status.failed
  return ⟨ctx.arn, status, none, some e.report, some ctx.input⟩

/-- How one turn ends: in a new context, after the wait it asked for if any; with the output
of a state that ends the run; with the payload of a Fail state; or stopped by a run error. -/
inductive Ending where
  | moved (ctx : Context) (wait : Option Nat)
  | succeeded (output : Value)
  | failed (report : Report)
  | stopped (e : RunError)

/-- Say that the run enters the current state. -/
def enter (ctx : Context) (s : State) : StateM σ Unit := do
  say ⟨.info, executorTarget, "Entering state",
    [("execution_arn", ctx.arn), ("state", ctx.current), ("state_type", s.kind.name),
      ("retry", toString ctx.retries)]⟩
  say ⟨.debug, executorTarget, "State input",
    [("execution_arn", ctx.arn), ("input", ctx.input.render)]⟩

/-- Act on what a state's pipeline gave: go where it says, end, or recover from its failure. -/
def settle (ctx : Context) (s : State) : Except RunError (Step × Option Nat) → StateM σ Ending
  | .ok (.advance next output, waited) => do
    say ⟨.debug, executorTarget, "State output",
      [("execution_arn", ctx.arn), ("next", next), ("output", output.render)]⟩
    match ctx.advance next output with
    | .ok ctx' => return .moved ctx' waited
    | .error e => return .stopped e
  | .ok (.succeed output, _) => return .succeeded output
  | .ok (.fail report, _) => return .failed report
  | .error e => do
    match ← (recover ctx s e).run with
    | .ok ctx' => return .moved ctx' none
    | .error fatal => return .stopped fatal

/-- One turn up to how it ends: enter the current state, run its pipeline, act on it. -/
def attempt (inv : Invoker σ) (ctx : Context) : StateM σ Ending :=
  match ctx.currentState with
  | .error e => return .stopped e
  | .ok s => do
    enter ctx s
    settle ctx s (← (step inv ctx s).run)

/-- What one turn leads to: the next context, after the wait the turn asked for if any, or
the end of the run. -/
inductive Turn where
  | next (ctx : Context) (wait : Option Nat)
  | done (o : Outcome)

/-- One turn: how it ends, with the end of the run reported. -/
def turn (inv : Invoker σ) (ctx : Context) : StateM σ Turn := do
  match ← attempt inv ctx with
  | .moved ctx' wait => return .next ctx' wait
  | .succeeded output =>
    say ⟨.info, executorTarget, "Execution succeeded",
      [("execution_arn", ctx.arn), ("state", ctx.current)]⟩
    return .done ⟨ctx.arn, .succeeded, some output, none, none⟩
  | .failed report =>
    say ⟨.error, executorTarget, "Execution failed at Fail state",
      [("execution_arn", ctx.arn), ("state", ctx.current), ("error", report.error),
        ("cause", report.errorMessage)]⟩
    return .done ⟨ctx.arn, .failed, none, some report, some ctx.input⟩
  | .stopped e => return .done (← finish ctx e)

/-- Let the world wait where a turn asks to. -/
def rest (inv : Invoker σ) : Option Nat → StateM σ Unit
  | some ms => inv.pause ms
  | none => pure ()

/-- Run for at most `fuel` turns, letting the world wait where a turn asks to; nothing when
the turns run out first. -/
def loop (inv : Invoker σ) : Nat → Context → StateM σ (Option Outcome)
  | 0, _ => return none
  | fuel + 1, ctx => do
    match ← turn inv ctx with
    | .done o => return some o
    | .next ctx' wait =>
      rest inv wait
      loop inv fuel ctx'

/-- Say that a run started. -/
def announce (ctx : Context) : StateM σ Unit :=
  say ⟨.info, executorTarget, "Execution started",
    [("execution_arn", ctx.arn), ("state_machine", ctx.machineName), ("state", ctx.current)]⟩

/-- Run from a context for at most `fuel` turns, saying first that the run started. -/
def run (inv : Invoker σ) (fuel : Nat) (ctx : Context) : StateM σ (Option Outcome) := do
  announce ctx
  loop inv fuel ctx

end Execute

end Workflow
