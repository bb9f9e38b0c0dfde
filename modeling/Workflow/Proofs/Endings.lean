import Workflow.Proofs.Turn
/-! # How a run ends

A run is a loop of turns, and it ends with the first turn that does not move on
(`Execute.turn`).  This module says what a run reports when it ends, and how a failed state
is recovered.

* An error that stops a turn is reported in the context the turn began in
  (`RunError.outcome`): no output, the error's payload, and the input the state was entered
  with; the status is `UNSUPPORTED` for a kind that cannot run and `FAILED` for any other
  error.  A transition to a name that is no state and a catch rule whose payload cannot be
  placed stop the turn before it moves, so nothing of the context changes.
* **Recovery** (`turn_recovers`): only a task failure is handled.  It retries the state while
  the counter is below the budget of the first retry rule that accepts its name; once that
  budget is spent, the first catch rule that accepts the name places the error payload into
  the state's input (the input as it entered, not the filtered one) and goes to its `Next`
  with a fresh counter.  Every other error ends the run at once, whatever the rules say.
* **Outcomes** (`run_outcome_shaped`): a run that ends has an output exactly when it
  succeeded, and then no error and no last input; it is `UNSUPPORTED` exactly when the
  state it stopped in is a Parallel state or of an unknown kind; and when it does not
  succeed, it reports the input of the state it stopped in.

The errors each part of a pipeline can raise are listed once (`State.conclude_error_cases`,
`Execute.work_error_cases`, and here `Execute.recover_error_cases`); the rest follows from
them.
-/

namespace Workflow

open Json

/-- The status a run ends with when an error stops it: `UNSUPPORTED` for a kind that cannot
run, `FAILED` for every other error. -/
def RunError.endStatus : RunError → Status
  | .unsupported .. => .unsupported
  | _ => .failed

/-- What a run reports when an error stops it in a context: no output, the error's payload,
and the input of the state it stopped in. -/
def RunError.outcome (e : RunError) (ctx : Context) : Outcome :=
  ⟨ctx.arn, e.endStatus, none, some e.report, some ctx.input⟩

/-- The shape of what a run reports when it ends in a context: an output exactly when it
succeeded, and then neither an error nor a last input; `UNSUPPORTED` exactly when the state
it stopped in cannot run, and then with the error name of that failure; otherwise the input
of the state it stopped in. -/
structure Outcome.Shaped (r : Outcome) (ctx : Context) : Prop where
  arn : r.arn = ctx.arn
  succeeded_iff_output : r.status = .succeeded ↔ r.output.isSome
  output_iff_no_error : r.output.isSome ↔ r.error = none
  no_error_iff_no_lastInput : r.error = none ↔ r.lastInput = none
  unsupported_iff : r.status = .unsupported ↔
    ∃ s, ctx.currentState = .ok s ∧ (s.kind = .parallel ∨ s.kind = .unknown)
  unsupported_error : r.status = .unsupported →
    r.error.map Report.error = some "UnsupportedStateTypeError"
  lastInput : r.status ≠ .succeeded → r.lastInput = some ctx.input

theorem RunError.isRecoverable_iff {e : RunError} : e.isRecoverable = true ↔ ∃ te, e = .task te := by
  cases e <;> simp [isRecoverable]

/-- The error payload as a value: `{"Cause": {"errorMessage", "errorType", "trace"?}, "Error"}`,
the name standing as both error and type. -/
theorem RunError.report_toValue (e : RunError) :
    e.report.toValue = .obj [("Cause", .obj ([("errorMessage", .str e.message),
      ("errorType", .str e.name)] ++ (e.trace.map fun t => ("trace", Value.str t)).toList)),
      ("Error", .str e.name)] := by
  simp only [report, Report.toValue]
  cases e.trace <;> rfl

theorem Except.eq_ok_of_toOption {ε α : Type} {x : Except ε α} {a : α} (h : x.toOption = some a) :
    x = .ok a := by
  cases x <;> simp_all [Except.toOption]

namespace Execute

variable {σ : Type} [Journal σ] {inv : Invoker σ} {ctx ctx' : Context} {s : State} {w : σ}
  {e : RunError}

theorem step_error_unsupported {n k : String}
    (h : ((step inv ctx s).run.run w).1 = .error (.unsupported n k)) :
    s.kind = .parallel ∨ s.kind = .unknown := by
  cases hk : s.kind
  case parallel => exact .inl rfl
  case unknown => exact .inr rfl
  case fail => rw [step_of_fail hk] at h; cases h
  case choice =>
    rw [step_of_choice hk] at h
    split at h
    · cases h
      obtain ⟨p, hp⟩ := State.effectiveInput_error_eq ‹_›
      cases hp
    · split at h <;> cases h
  all_goals
    rcases step_works_error (by simp [hk, StateKind.works]) h with he | ⟨eff, hw⟩ | ⟨r, hc⟩
    · obtain ⟨p, hp⟩ := State.effectiveInput_error_eq he
      cases hp
    · rcases work_error_cases hw with ⟨te, hte⟩ | ⟨reason, hr⟩ <;> cases ‹RunError.unsupported _ _ = _›
    · rcases State.conclude_error_cases hc with ⟨p, hp⟩ | ⟨q, hq⟩ | ⟨hm, -⟩ <;> cases ‹RunError.unsupported _ _ = _›

theorem recover_error_cases {f : RunError}
    (h : ((recover ctx s e : RunM σ Context).run.run w).1 = .error f) :
    f = e ∨ (∃ p, f = .catchMerge ctx.current e.name p) ∨ ∃ n, f = .stateNotFound n := by
  cases he : e.isRecoverable
  · rw [recover_of_unrecoverable he] at h
    cases h
    exact .inl rfl
  by_cases hb : ctx.retries < s.retryBudget e.name
  · rw [recover_retry he hb] at h
    cases h
  rw [recover_spent he (Nat.le_of_not_lt hb)] at h
  split at h
  · split at h
    · unfold Context.advance at h
      split at h
      · cases h
      · cases h
        exact .inr (.inr ⟨_, rfl⟩)
    · cases h
      exact .inr (.inl ⟨_, rfl⟩)
  · cases h
    exact .inl rfl

/-! ### What a turn reports -/

theorem finish_fst : ((finish ctx e : StateM σ Outcome).run w).1 = e.outcome ctx := by
  cases e <;> rfl

/-- What a turn reports, from how its attempt ended. -/
theorem turn_fst : ((turn inv ctx).run w).1 =
    match ((attempt inv ctx).run w).1 with
    | .moved c wt => .next c wt
    | .succeeded out => .done ⟨ctx.arn, .succeeded, some out, none, none⟩
    | .failed report => .done ⟨ctx.arn, .failed, none, some report, some ctx.input⟩
    | .stopped e => .done (e.outcome ctx) := by
  rcases ha : (attempt inv ctx).run w with ⟨en, w'⟩
  cases en with
  | moved c wt => simp [turn, ha]
  | succeeded out => simp [turn, ha, say]
  | failed report => simp [turn, ha, say]
  | stopped e =>
    simp only [turn, StateT.run_bind, ha, bind_id]
    exact congrArg Turn.done finish_fst

theorem turn_fst_of_moved {wt : Option Nat} (h : ((attempt inv ctx).run w).1 = .moved ctx' wt) :
    ((turn inv ctx).run w).1 = .next ctx' wt := by
  rw [turn_fst, h]

theorem turn_fst_of_succeeded {out : Value} (h : ((attempt inv ctx).run w).1 = .succeeded out) :
    ((turn inv ctx).run w).1 = .done ⟨ctx.arn, .succeeded, some out, none, none⟩ := by
  rw [turn_fst, h]

theorem turn_fst_of_failed {report : Report} (h : ((attempt inv ctx).run w).1 = .failed report) :
    ((turn inv ctx).run w).1 = .done ⟨ctx.arn, .failed, none, some report, some ctx.input⟩ := by
  rw [turn_fst, h]

theorem turn_fst_of_stopped (h : ((attempt inv ctx).run w).1 = .stopped e) :
    ((turn inv ctx).run w).1 = .done (e.outcome ctx) := by
  rw [turn_fst, h]

/-! ### Recovery -/

theorem turn_of_pipeline_error (hs : ctx.currentState = .ok s)
    (he : ((step inv ctx s).run.run ((enter ctx s).run w).2).1 = .error e) :
    ((turn inv ctx).run w).1 =
      match ((recover ctx s e : RunM σ Context).run.run
          ((step inv ctx s).run.run ((enter ctx s).run w).2).2).1 with
      | .ok c => .next c none
      | .error f => .done (f.outcome ctx) := by
  have hstep : (step inv ctx s).run.run ((enter ctx s).run w).2 =
      (.error e, ((step inv ctx s).run.run ((enter ctx s).run w).2).2) := Prod.ext he rfl
  have ha : ((attempt inv ctx).run w).1 = _ := attempt_run_of_found hs
  rw [hstep, settle_error] at ha
  split at ha
  · rename_i c hc
    rw [turn_fst_of_moved ha, hc]
  · rename_i f hf
    rw [turn_fst_of_stopped ha, hf]

/-- **Recovery of a failed state.**  Let the pipeline of the current state `s` fail with `e`.

1. An error that is not a task failure ends the run at once with its payload, whatever the
   state's retry and catch rules say.
2. A task failure whose count of retries is below the budget of the first retry rule that
   accepts its name tries the state again, the counter one higher.
3. Past that budget, the first catch rule that accepts the name places the error payload
   into the state's input as it entered (not the filtered input).  If that succeeds and the
   rule's `Next` is a state, the run goes on there with the merged value and a fresh
   counter, and reports nothing; otherwise the run ends, reporting the state that is not
   found or the failed placement (`InvalidPathError`).
4. With no catch rule that accepts the name, the run ends with the failure's payload. -/
theorem turn_recovers (hs : ctx.currentState = .ok s)
    (he : ((step inv ctx s).run.run ((enter ctx s).run w).2).1 = .error e) :
    ((∀ te, e ≠ .task te) → ((turn inv ctx).run w).1 = .done (e.outcome ctx)) ∧
    (e.isRecoverable = true → ctx.retries < s.retryBudget e.name →
      ((turn inv ctx).run w).1 = .next ctx.recordRetry none) ∧
    (e.isRecoverable = true → s.retryBudget e.name ≤ ctx.retries →
      ∀ i c, s.catcherFor e.name = some (i, c) →
        (∀ m, placeResult ctx.input c.resultPath e.report.toValue = .ok m →
          ((turn inv ctx).run w).1 =
            if ctx.machine.hasState c.next then
              .next { ctx with current := c.next, input := m, retries := 0 } none
            else .done ((RunError.stateNotFound c.next).outcome ctx)) ∧
        (∀ p, placeResult ctx.input c.resultPath e.report.toValue = .error p →
          ((turn inv ctx).run w).1 = .done ((RunError.catchMerge ctx.current e.name p).outcome ctx))) ∧
    (e.isRecoverable = true → s.retryBudget e.name ≤ ctx.retries → s.catcherFor e.name = none →
      ((turn inv ctx).run w).1 = .done (e.outcome ctx)) := by
  rw [turn_of_pipeline_error hs he]
  refine ⟨fun hnt => ?_, fun hr hb => ?_, fun hr hb i c hc => ⟨fun m hm => ?_, fun p hp => ?_⟩,
    fun hr hb hc => ?_⟩
  · have hr : e.isRecoverable = false := by
      cases hre : e.isRecoverable
      · rfl
      · obtain ⟨te, rfl⟩ := RunError.isRecoverable_iff.mp hre
        exact absurd rfl (hnt te)
    rw [recover_of_unrecoverable hr]
  · rw [recover_retry hr hb]
  · rw [recover_spent hr hb, hc]
    simp only [hm]
    unfold Context.advance
    by_cases hn : ctx.machine.hasState c.next = true <;> simp [hn]
  · rw [recover_spent hr hb, hc]
    simp only [hp]
  · rw [recover_spent hr hb, hc]

/-- A charge that ignores the order it is given, whose failures are caught into `$.error`
of the order, the run then apologising; it ships when the charge goes through. -/
def chargeState : State :=
  { kind := .task, inputPath := .null, outputPath := .null, handler := some "charge",
    next := some "Ship",
    catchers := [{ errorEquals := some ["States.ALL"], next := "Apologise",
                   resultPath := .path "$.error" }] }

/-- `chargeState`, then a Succeed state either way. -/
def chargeOrApologise : Machine :=
  { startAt := "Charge",
    states := [("Apologise", { kind := .succeed }), ("Charge", chargeState),
      ("Ship", { kind := .succeed })] }

/-- A run of `chargeOrApologise` for order 7. -/
def chargeStart : Context :=
  Context.start "shop" chargeOrApologise "Charge" (.obj [("order", .num (.int 7))]) 0

/-- Tasks that are always declined. -/
def declining : Invoker Unit :=
  ⟨fun _ => pure (.error (.fail "Declined" "card expired")), pure 0, fun _ => pure ()⟩

/-- A declined charge is caught: its payload is placed at `$.error` of the order, and the run
goes on to `Apologise` with a fresh counter. -/
theorem declined_charge_caught :
    chargeStart.currentState = .ok chargeState ∧
    ((step declining chargeStart chargeState).run.run
        ((enter chargeStart chargeState).run ()).2).1 = .error (.task (.fail "Declined" "card expired")) ∧
    ((turn declining chargeStart).run ()).1 =
      .next
        { chargeStart with
          current := "Apologise", retries := 0,
          input := .obj [("error", .obj [("Cause", .obj [("errorMessage", .str "card expired"),
            ("errorType", .str "Declined")]), ("Error", .str "Declined")]),
            ("order", .num (.int 7))] } none := by
  have hs : chargeStart.currentState = .ok chargeState := rfl
  have he : ((step declining chargeStart chargeState).run.run
      ((enter chargeStart chargeState).run ()).2).1 = .error (.task (.fail "Declined" "card expired")) :=
    rfl
  refine ⟨hs, he, ?_⟩
  have hm : placeResult chargeStart.input (.path "$.error")
      (RunError.task (.fail "Declined" "card expired")).report.toValue =
      .ok (.obj [("error", .obj [("Cause", .obj [("errorMessage", .str "card expired"),
        ("errorType", .str "Declined")]), ("Error", .str "Declined")]),
        ("order", .num (.int 7))]) :=
    Except.eq_ok_of_toOption (by decide +kernel)
  rw [((turn_recovers hs he).2.2.1 rfl (by decide) 0 _ rfl).1 _ hm]
  rfl

/-! ### Outcomes -/

theorem attempt_of_unsupported (hs : ctx.currentState = .ok s)
    (hk : s.kind = .parallel ∨ s.kind = .unknown) :
    ((attempt inv ctx).run w).1 = .stopped (.unsupported ctx.current s.kind.name) := by
  rw [attempt_run_of_found hs, step_of_unsupported hk, settle_error,
    recover_of_unrecoverable rfl]

theorem attempt_stopped_unsupported {n k : String}
    (h : ((attempt inv ctx).run w).1 = .stopped (.unsupported n k)) :
    ∃ s, ctx.currentState = .ok s ∧ (s.kind = .parallel ∨ s.kind = .unknown) := by
  rcases attempt_stopped_cases h with hc | ⟨s, hs, ⟨e₀, hstep, hrec⟩ | ⟨next, out, wt, -, hadv⟩⟩
  · unfold Context.currentState at hc
    split at hc <;> cases hc
  · refine ⟨s, hs, ?_⟩
    rcases recover_error_cases hrec with rfl | ⟨p, hp⟩ | ⟨n', hn'⟩
    · exact step_error_unsupported hstep
    · cases hp
    · cases hn'
  · unfold Context.advance at hadv
    split at hadv <;> cases hadv

theorem not_unsupported_of_ending {en : Ending} (h : ((attempt inv ctx).run w).1 = en)
    (hen : ∀ n k, en ≠ .stopped (.unsupported n k)) :
    ¬ ∃ s, ctx.currentState = .ok s ∧ (s.kind = .parallel ∨ s.kind = .unknown) := by
  rintro ⟨s, hs, hk⟩
  exact hen _ _ (h ▸ attempt_of_unsupported hs hk)

/-- What the turn that ends a run reports has the shape of an outcome in its context. -/
theorem turn_done_shaped {r : Outcome} (h : ((turn inv ctx).run w).1 = .done r) : r.Shaped ctx := by
  rcases ha : ((attempt inv ctx).run w).1 with ctx' | out | report | e
  · rw [turn_fst_of_moved ha] at h
    cases h
  · rw [turn_fst_of_succeeded ha] at h
    cases h
    have hno := not_unsupported_of_ending ha (fun _ _ h => by cases h)
    exact ⟨rfl, by simp, by simp, by simp, by simpa using hno, by simp, by simp⟩
  · rw [turn_fst_of_failed ha] at h
    cases h
    have hno := not_unsupported_of_ending ha (fun _ _ h => by cases h)
    exact ⟨rfl, by simp, by simp, by simp, by simpa using hno, by simp, fun _ => rfl⟩
  · rw [turn_fst_of_stopped ha] at h
    cases h
    refine ⟨rfl, by simp [RunError.outcome, RunError.endStatus.eq_def]; split <;> simp,
      by simp [RunError.outcome], by simp [RunError.outcome], ?_, ?_, fun _ => rfl⟩
    · constructor
      · intro hst
        cases e with
        | unsupported n k => exact attempt_stopped_unsupported ha
        | _ => cases hst
      · rintro ⟨s, hs, hk⟩
        rw [attempt_of_unsupported hs hk] at ha
        cases ha
        rfl
    · intro hst
      cases e with
      | unsupported n k => rfl
      | _ => cases hst

theorem attempt_of_turn_next {c : Context} {wt : Option Nat} {w' : σ}
    (h : (turn inv ctx).run w = (.next c wt, w')) : (attempt inv ctx).run w = (.moved c wt, w') := by
  rcases ha : (attempt inv ctx).run w with ⟨en, w₁⟩
  cases en with
  | moved c' wt' =>
    rw [turn_of_moved ha] at h
    cases h
    rfl
  | _ =>
    have hfst := congrArg Prod.fst h
    rw [turn_fst, ha] at hfst
    cases hfst

theorem loop_done {fuel : Nat} {r : Outcome} (h : ((loop inv fuel ctx).run w).1 = some r) :
    ∃ c w' n, Runs inv (ctx, w) (c, w') n ∧ ((turn inv c).run w').1 = .done r := by
  induction fuel generalizing ctx w with
  | zero => cases h
  | succ fuel ih =>
    rcases ht : (turn inv ctx).run w with ⟨t, w₁⟩
    cases t with
    | done o =>
      simp only [loop, StateT.run_bind, ht, bind_id, StateT.run_pure, pure_id,
        Option.some.injEq] at h
      subst h
      exact ⟨ctx, w, 0, .refl _, by rw [ht]⟩
    | next ctx' wt =>
      have hl : ((loop inv fuel ctx').run ((rest inv wt).run w₁).2).1 = some r := by
        simpa [loop, ht] using h
      obtain ⟨c, w', n, hrun, hdone⟩ := ih hl
      exact ⟨c, w', n + 1, Runs.step (attempt_of_turn_next ht) hrun, hdone⟩

/-- **The shape of a run's outcome.**  A run that ends does so in the turn of a context `c`
that its moving turns reached, and what it reports has the shape of an outcome in `c`:
succeeded exactly when it has an output, exactly when it has no error, exactly when it has
no last input; `UNSUPPORTED` exactly when `c` stands at a Parallel state or a state of an
unknown kind, with the error name `UnsupportedStateTypeError`; and otherwise the input `c`
entered its state with.  An error that stops that turn, a transition to a name that is no
state and a catch rule whose payload cannot be placed included, is reported in `c` as it
was: the run has not moved. -/
theorem run_outcome_shaped {fuel : Nat} {ctx₀ : Context} {w₀ : σ} {r : Outcome}
    (h : ((run inv fuel ctx₀).run w₀).1 = some r) :
    ∃ c w n, Runs inv (ctx₀, ((announce ctx₀ : StateM σ Unit).run w₀).2) (c, w) n ∧
      ((turn inv c).run w).1 = .done r ∧ r.Shaped c ∧
      ∀ f, ((attempt inv c).run w).1 = .stopped f → r = f.outcome c := by
  have hl : ((loop inv fuel ctx₀).run ((announce ctx₀ : StateM σ Unit).run w₀).2).1 = some r := by
    simpa [run] using h
  obtain ⟨c, w, n, hrun, hdone⟩ := loop_done hl
  refine ⟨c, w, n, hrun, hdone, turn_done_shaped hdone, fun f hf => ?_⟩
  rw [turn_fst_of_stopped hf] at hdone
  exact (Turn.done.inj hdone).symm


/-- A charge that goes through, in a machine with no state to ship from. -/
def chargeThenShip : Machine := { startAt := "Charge", states := [("Charge", chargeState)] }

/-- A run of `chargeThenShip` for order 7. -/
def shipStart : Context :=
  Context.start "shop" chargeThenShip "Charge" (.obj [("order", .num (.int 7))]) 0

/-- Tasks that are always paid. -/
def paying : Invoker Unit :=
  ⟨fun _ => pure (.ok (.obj [("paid", .bool true)])), pure 0, fun _ => pure ()⟩

/-- The charge goes through, but `Ship` is no state: the run fails in `Charge`, reporting the
order it entered with and not the charge's answer. -/
theorem missing_ship_reports_order :
    ((run paying 2 shipStart).run ()).1 = some ((RunError.stateNotFound "Ship").outcome shipStart) ∧
    ∃ c w n, Runs paying (shipStart, ((announce shipStart : StateM Unit Unit).run ()).2) (c, w) n ∧
      ((turn paying c).run w).1 = .done ((RunError.stateNotFound "Ship").outcome shipStart) ∧
      ((RunError.stateNotFound "Ship").outcome shipStart).Shaped c ∧
      ∀ f, ((attempt paying c).run w).1 = .stopped f →
        (RunError.stateNotFound "Ship").outcome shipStart = f.outcome c := by
  have h : ((run paying 2 shipStart).run ()).1 =
      some ((RunError.stateNotFound "Ship").outcome shipStart) := rfl
  exact ⟨h, run_outcome_shaped h⟩

end Execute

end Workflow
