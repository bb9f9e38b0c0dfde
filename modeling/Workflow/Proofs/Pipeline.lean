import Workflow.Proofs.Turn
/-! # The data flow of one state

Each turn runs the current state's pipeline (`Execute.step`) on the value `v` that entered
the state.  This module writes that pipeline down once more as a plain function of the state,
the context and what the outside world answers (`State.dataFlow`), in the terms the states
are documented in, and proves that the pipeline computes it (`step_dataFlow`):

* a Parallel state or a state of an unknown kind cannot run, and a Fail state ends the run
  with its error name (`States.Fail` when it sets none) and cause (empty when it sets none);
  neither looks at a path field, and neither changes the world;
* every other state first narrows `v` to its effective input `e`: the input filter, then the
  parameters; a failure there is a path error (`InvalidPathError`);
* a Choice state goes where its rules send `e`, handing on `v` itself, with neither result
  placement nor output filter;
* a Task state calls the built-in service its resource names, when the resource carries the
  service prefix, and else the handler named by `handler`, else by its resource; the answer
  `r` is placed into `v` (not into `e`) at `ResultPath`;
* a Pass state places its `Result`, or `{}`, into `v` the same way;
* a Wait state, once its duration is read from `e`, and a Succeed state keep `v`;
* then the output filter picks what leaves, and the state ends the run when it is an end
  state or a Succeed state, and goes to its `Next` otherwise.
-/

namespace Workflow

open Json

namespace State

/-- The call a Task state makes with its effective input: the service its resource names when
the resource carries the service prefix; otherwise its handler, named by `handler` and else by
the resource; with neither, a `States.Runtime` failure. -/
def callFor (s : State) (ctx : Context) (e : Value) : Except TaskError TaskCall :=
  match s.resource.filter isServiceResource, s.handler.orElse (fun _ => s.resource) with
  | some r, _ => .ok (.service r e)
  | none, some h =>
    .ok (.handler h e
      { executionArn := ctx.arn, stateName := ctx.current, retryCount := ctx.retries,
        environment := s.environment })
  | none, none =>
    .error (.fail "States.Runtime"
      ("Task state '" ++ ctx.current ++ "' has neither a Resource nor a handler"))

/-- How a state that is done with its work leaves: the output filter picks the output (a
selection that finds nothing is `InvalidOutputPathError`); an end state or a Succeed state
ends the run with it, any other goes to its `Next`, which it must have. -/
def leave (s : State) (name : String) (data : Value) : Except RunError Step := do
  let out ← (outputFilter data s.outputPath).mapError fun e => match e with
    | .noMatch p => .outputMissing name p
    | other => .path name other
  if s.isEnd || s.kind == .succeed then return .succeed out
  match s.next with
  | some next => return .advance next out
  | none => throw (.missingTransition name)

/-- **The data flow of one state**, from the value `v` that entered it, given what the outside
world answers a task call and the time it tells: what the state asks the run to do next, and
for a Wait state how long it waited, in milliseconds rounded up. -/
def dataFlow (s : State) (ctx : Context) (answer : TaskCall → Except TaskError Value) (now : Int) :
    Except RunError (Step × Option Nat) :=
  let v := ctx.input
  let name := ctx.current
  let effective := (inputFilter v s.inputPath >>= fun f => applyParameters f s.parameters).mapError
    (.path name)
  match s.kind with
  | .parallel | .unknown => .error (.unsupported name s.kind.name)
  | .fail =>
    let error := s.failError.getD "States.Fail"
    .ok (.fail ⟨error, error, s.failCause.getD "", none⟩, none)
  | .choice => do
    let e ← effective
    let b ← (Choice.choose s.choices s.defaultState e).mapError (.choice name)
    return (.advance b.target v, none)
  | .task => do
    let e ← effective
    let call ← (s.callFor ctx e).mapError .task
    let r ← (answer call).mapError .task
    let data ← (placeResult v s.resultPath r).mapError (.path name)
    return (← s.leave name data, none)
  | .pass => do
    let _ ← effective
    let data ← (placeResult v s.resultPath (s.result.getD (.obj []))).mapError (.path name)
    return (← s.leave name data, none)
  | .wait => do
    let e ← effective
    let nanos ← (waitNanos s e now).mapError fun p => .invalidWait name p.message
    return (← s.leave name v, some (Execute.waitMillis nanos))
  | .succeed => do
    let _ ← effective
    return (← s.leave name v, none)

variable {s : State} {ctx : Context} {name : String} {v : Value}

theorem effectiveInput_eq :
    s.effectiveInput name v =
      (inputFilter v s.inputPath >>= fun f => applyParameters f s.parameters).mapError (.path name) := by
  unfold effectiveInput
  cases inputFilter v s.inputPath <;> rfl

/-- A Task state's call, as `taskCall` makes it, is the one `callFor` describes. -/
theorem taskCall_eq_callFor (e : Value) : s.taskCall ctx e = s.callFor ctx e := by
  unfold taskCall callFor handlerName Context.invocation
  cases hh : s.handler <;> cases hr : s.resource with
  | none => simp
  | some r => by_cases hsv : isServiceResource r = true <;> simp [hsv, Option.filter]

/-- The end of a pipeline, for a state that is not a Fail state, is result placement and then
`leave`. -/
theorem conclude_eq_leave (hk : s.kind ≠ .fail) (result : Option Value) :
    s.conclude name v result = (s.place name v result >>= s.leave name) := by
  have hterm : s.isTerminal = (s.isEnd || s.kind == .succeed) := by
    simp [isTerminal, hk]
  unfold conclude leave transition
  rw [hterm]
  cases s.place name v result <;> rfl

theorem bind_leave_map (x : Except RunError Value) (wt : Option Nat) :
    (x >>= s.leave name).map (·, wt) = (do let data ← x; return (← s.leave name data, wt)) := by
  cases x with
  | error e => rfl
  | ok data => cases s.leave name data <;> rfl

end State

namespace Execute

variable {σ : Type} [Journal σ] {inv : Invoker σ} {ctx : Context} {s : State} {w : σ}
  {eff : Value}

/-- A working state's pipeline, as a value: the effective input, the state's work, and the end
of the pipeline. -/
theorem step_fst_of_works (hk : s.kind.works = true) :
    ((step inv ctx s).run.run w).1 = (s.effectiveInput ctx.current ctx.input >>= fun eff =>
      ((work inv ctx s eff).run.run w).1 >>= fun p =>
        (s.conclude ctx.current ctx.input p.1).map (·, p.2)) := by
  rw [step_of_works hk]
  cases s.effectiveInput ctx.current ctx.input with
  | error e => rfl
  | ok eff =>
    show _ = (((work inv ctx s eff).run.run w).1 >>= fun p =>
      (s.conclude ctx.current ctx.input p.1).map (·, p.2))
    rcases hw : (work inv ctx s eff).run.run w with ⟨_ | ⟨r, wt⟩, w'⟩ <;> simp only [hw] <;> rfl

/-- A working state's pipeline is its effective input, then whatever its work and the end of
the pipeline make of it; the four kinds of working state differ only in that second part. -/
theorem step_fst_of_works_bind (hk : s.kind.works = true)
    {g : Value → Except RunError (Step × Option Nat)}
    (hg : ∀ eff, (((work inv ctx s eff).run.run w).1 >>= fun p =>
      (s.conclude ctx.current ctx.input p.1).map (·, p.2)) = g eff) :
    ((step inv ctx s).run.run w).1 = ((inputFilter ctx.input s.inputPath >>= fun f =>
      applyParameters f s.parameters).mapError (.path ctx.current) >>= g) := by
  rw [step_fst_of_works hk, State.effectiveInput_eq]
  congr 1
  funext eff
  exact hg eff

theorem work_fst_of_task (hk : s.kind = .task) :
    ((work inv ctx s eff).run.run w).1 = (do
      let c ← (s.taskCall ctx eff).mapError .task
      let r ← (((inv.call c).run w).1).mapError .task
      return (some r, none)) := by
  rw [work_of_task hk, invokeTask_run]
  cases s.taskCall ctx eff with
  | error te => rfl
  | ok c =>
    show _ = ((((inv.call c).run w).1).mapError RunError.task >>= fun r => pure (some r, none))
    rcases hc : (inv.call c).run w with ⟨_ | r, w'⟩ <;> simp only [hc] <;> rfl

theorem work_fst_of_pass (hk : s.kind = .pass) :
    ((work inv ctx s eff).run.run w).1 = .ok (some (s.result.getD (.obj [])), none) := by
  simp [work, hk]

theorem work_fst_of_succeed (hk : s.kind = .succeed) :
    ((work inv ctx s eff).run.run w).1 = .ok (none, none) := by
  simp [work, hk]

theorem step_fst_of_task (hk : s.kind = .task) :
    ((step inv ctx s).run.run w).1 =
      s.dataFlow ctx (fun c => ((inv.call c).run w).1) (inv.now.run w).1 := by
  simp only [State.dataFlow, hk]
  refine step_fst_of_works_bind (by simp [hk, StateKind.works]) fun eff => ?_
  rw [work_fst_of_task hk, State.taskCall_eq_callFor]
  simp only [bind_assoc, pure_bind]
  congr 1
  funext c
  congr 1
  funext r
  rw [State.conclude_eq_leave (by simp [hk])]
  simp only [State.place, State.producesResult, hk, beq_self_eq_true, Bool.true_or, ite_true]
  exact State.bind_leave_map _ none

theorem step_fst_of_pass (hk : s.kind = .pass) :
    ((step inv ctx s).run.run w).1 =
      s.dataFlow ctx (fun c => ((inv.call c).run w).1) (inv.now.run w).1 := by
  simp only [State.dataFlow, hk]
  refine step_fst_of_works_bind (by simp [hk, StateKind.works]) fun eff => ?_
  rw [work_fst_of_pass hk]
  show (s.conclude ctx.current ctx.input (some (s.result.getD (.obj [])))).map (·, none) = _
  rw [State.conclude_eq_leave (by simp [hk])]
  simp only [State.place, State.producesResult, hk, beq_self_eq_true, Bool.true_or, Bool.or_true,
    ite_true]
  exact State.bind_leave_map _ none

theorem step_fst_of_wait (hk : s.kind = .wait) :
    ((step inv ctx s).run.run w).1 =
      s.dataFlow ctx (fun c => ((inv.call c).run w).1) (inv.now.run w).1 := by
  simp only [State.dataFlow, hk]
  refine step_fst_of_works_bind (by simp [hk, StateKind.works]) fun eff => ?_
  rw [work_fst_of_wait hk]
  cases waitNanos s eff (inv.now.run w).1 with
  | error p => rfl
  | ok nanos =>
    show (s.conclude ctx.current ctx.input none).map (·, some (waitMillis nanos)) = _
    rw [State.conclude_eq_leave (by simp [hk])]
    exact State.bind_leave_map _ _

theorem step_fst_of_succeed (hk : s.kind = .succeed) :
    ((step inv ctx s).run.run w).1 =
      s.dataFlow ctx (fun c => ((inv.call c).run w).1) (inv.now.run w).1 := by
  simp only [State.dataFlow, hk]
  refine step_fst_of_works_bind (by simp [hk, StateKind.works]) fun eff => ?_
  rw [work_fst_of_succeed hk]
  show (s.conclude ctx.current ctx.input none).map (·, none) = _
  rw [State.conclude_eq_leave (by simp [hk])]
  exact State.bind_leave_map _ _

theorem step_fst_of_choice (hk : s.kind = .choice) :
    ((step inv ctx s).run.run w).1 =
      s.dataFlow ctx (fun c => ((inv.call c).run w).1) (inv.now.run w).1 := by
  rw [step_of_choice hk, State.effectiveInput_eq]
  simp only [State.dataFlow, hk]
  cases (inputFilter ctx.input s.inputPath >>= fun f => applyParameters f s.parameters).mapError
      (RunError.path ctx.current) with
  | error e => rfl
  | ok eff =>
    dsimp only
    show _ = ((Choice.choose s.choices s.defaultState eff).mapError (RunError.choice ctx.current) >>=
      fun b => pure (Step.advance b.target ctx.input, none))
    cases Choice.choose s.choices s.defaultState eff <;> rfl

/-- **A state's pipeline computes its data flow.**  The pipeline of a state `s`, run in a
world, gives what `State.dataFlow` says of `s` in its context, with the answers the world gives
at the start of the step; a Parallel, Unknown or Fail state leaves the world as it was.  So a
turn in a state of the machine enters it and acts on the data flow: it goes where the state
sends its output, ends the run, or recovers from the failure. -/
theorem step_dataFlow :
    ((step inv ctx s).run.run w).1 =
      s.dataFlow ctx (fun c => ((inv.call c).run w).1) (inv.now.run w).1 ∧
    (s.kind = .parallel ∨ s.kind = .unknown ∨ s.kind = .fail → ((step inv ctx s).run.run w).2 = w) ∧
    (ctx.currentState = .ok s →
      ((attempt inv ctx).run w).1 =
        ((settle ctx s (s.dataFlow ctx (fun c => ((inv.call c).run ((enter ctx s).run w).2).1)
            (inv.now.run ((enter ctx s).run w).2).1)).run
          ((step inv ctx s).run.run ((enter ctx s).run w).2).2).1) := by
  have hflow : ∀ w : σ, ((step inv ctx s).run.run w).1 =
      s.dataFlow ctx (fun c => ((inv.call c).run w).1) (inv.now.run w).1 := by
    intro w
    cases hk : s.kind
    case task => exact step_fst_of_task hk
    case pass => exact step_fst_of_pass hk
    case wait => exact step_fst_of_wait hk
    case succeed => exact step_fst_of_succeed hk
    case choice => exact step_fst_of_choice hk
    case fail =>
      rw [step_of_fail hk]
      simp [State.dataFlow, hk, State.failReport]
    case parallel | unknown =>
      rw [step_of_unsupported (by simp [hk])]
      simp [State.dataFlow, hk]
  refine ⟨hflow w, ?_, fun hs => ?_⟩
  · rintro (hk | hk | hk)
    · rw [step_of_unsupported (.inl hk)]
    · rw [step_of_unsupported (.inr hk)]
    · rw [step_of_fail hk]
  · rw [attempt_run_of_found hs, hflow]

end Execute

end Workflow
