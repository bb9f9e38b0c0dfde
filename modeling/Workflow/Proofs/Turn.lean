import Workflow.Run.Execute
import Workflow.Proofs.Validation
/-! # What one turn of a run can do

A run is a loop of turns (`Execute.turn`); a turn enters the current state, runs its
pipeline, and acts on what the pipeline gave (`Execute.attempt`).  This module says, once
for every later proof, what a turn can do:

* **moving on** (`attempt_moved`): either it retries, staying in the state with one more
  retry spent, which only a task failure within its retry budget allows; or it goes, with
  a fresh counter, to a state that the current state names among its `targets`;
* **stopping for want of a transition** (`attempt_transitionFault`): only when the current
  state is missing, when a state that neither ends the run nor is a Choice state has no
  `Next`, or when a name among the state's targets is no state.

It gives each function of the loop its own equation (`step_of_works`, `work_of_task`,
`recover_retry`, `settle_error`, …), so that no later proof unfolds them, and lists once the
errors each part of a pipeline can raise (`State.effectiveInput_error_eq`,
`Execute.work_error_cases`, `State.conclude_error_cases`).  Runs are the
relation `Runs` of turns that move on, counted; `loop_of_no_run` ties it to the loop: the
loop runs out of turns only along such a run.
-/

namespace Workflow

open Json

/-- The retries a state allows after a failure: the attempts of its first retry rule that
accepts the error's name, and none when no rule does. -/
def State.retryBudget (s : State) (name : String) : Nat :=
  match s.retrierFor name with
  | some (_, r) => r.attempts
  | none => 0

/-- The largest number of attempts among a state's retry rules. -/
def State.retryLimit (s : State) : Nat := (s.retriers.map RetryRule.attempts).foldr max 0

/-- The run errors that only a machine with a dangling or missing transition can meet. -/
def RunError.isTransitionFault : RunError → Bool
  | .stateNotFound _ | .missingTransition _ => true
  | _ => false

/-- The kinds whose pipeline does the state's own work and then goes to its `Next`: Task,
Pass, Wait and Succeed. -/
def StateKind.works : StateKind → Bool
  | .task | .pass | .wait | .succeed => true
  | _ => false

namespace State

variable {s : State}

theorem attempts_le_retryLimit {r : RetryRule} (h : r ∈ s.retriers) : r.attempts ≤ s.retryLimit := by
  unfold retryLimit
  generalize s.retriers = rs at h ⊢
  induction rs with
  | nil => cases h
  | cons r' rs ih =>
    simp only [List.map_cons, List.foldr_cons]
    rcases List.mem_cons.mp h with rfl | h
    · exact Nat.le_max_left _ _
    · exact Nat.le_trans (ih h) (Nat.le_max_right _ _)

/-- The largest number of attempts is within any bound on every rule's attempts. -/
theorem retryLimit_le {b : Nat} (h : ∀ r ∈ s.retriers, r.attempts ≤ b) : s.retryLimit ≤ b := by
  unfold retryLimit
  generalize s.retriers = rs at h ⊢
  induction rs with
  | nil => exact Nat.zero_le b
  | cons r rs ih =>
    simp only [List.map_cons, List.foldr_cons]
    have hr : r.attempts ≤ b := h r List.mem_cons_self
    have hrs : (rs.map RetryRule.attempts).foldr max 0 ≤ b :=
      ih fun r' hr' => h r' (List.mem_cons_of_mem _ hr')
    exact Nat.max_le.mpr ⟨hr, hrs⟩

theorem retryBudget_le_retryLimit (name : String) : s.retryBudget name ≤ s.retryLimit := by
  unfold retryBudget
  split
  · rename_i i r hr
    obtain ⟨⟨r', i'⟩, hfind, heq⟩ := Option.map_eq_some_iff.mp hr
    cases heq
    exact attempts_le_retryLimit (List.fst_mem_of_mem_zipIdx (List.mem_of_find?_eq_some hfind))
  · exact Nat.zero_le _

theorem catcher_next_mem_targets {name : String} {i : Nat} {c : CatchRule}
    (h : s.catcherFor name = some (i, c)) : c.next ∈ s.targets := by
  obtain ⟨⟨c', i'⟩, hfind, heq⟩ := Option.map_eq_some_iff.mp h
  cases heq
  have hmem := List.fst_mem_of_mem_zipIdx (List.mem_of_find?_eq_some hfind)
  simp only [targets, references, List.map_append, List.map_map, List.mem_append]
  exact Or.inl (Or.inr (List.mem_map.mpr ⟨c, hmem, rfl⟩))

theorem next_mem_targets {next : String} (h : s.next = some next) : next ∈ s.targets := by
  simp [targets, references, h]

theorem default_mem_targets {t : String} (h : s.defaultState = some t) : t ∈ s.targets := by
  simp [targets, references, h]

theorem rule_mem_targets {t : String} (h : t ∈ ruleTargets s.choices) : t ∈ s.targets := by
  simp only [targets, references, List.map_append, List.map_map, List.mem_append]
  exact Or.inr (by simpa using h)

end State

namespace Context

variable {ctx ctx' : Context}

@[simp] theorem recordRetry_machine : ctx.recordRetry.machine = ctx.machine := rfl
@[simp] theorem recordRetry_current : ctx.recordRetry.current = ctx.current := rfl
@[simp] theorem recordRetry_input : ctx.recordRetry.input = ctx.input := rfl
@[simp] theorem recordRetry_arn : ctx.recordRetry.arn = ctx.arn := rfl

theorem advance_eq_ok {next : String} {input : Value} :
    ctx.advance next input = .ok ctx' ↔
      ctx.machine.hasState next = true ∧ ctx' = { ctx with current := next, input, retries := 0 } := by
  unfold advance
  split
  · rename_i h
    constructor
    · intro h'
      cases h'
      exact ⟨h, rfl⟩
    · rintro ⟨-, rfl⟩
      rfl
  · rename_i h
    simp [h]

theorem currentState_eq_ok {s : State} :
    ctx.currentState = .ok s ↔ ctx.machine.state? ctx.current = some s := by
  unfold currentState
  split <;> simp_all

end Context

section Peel

variable {ε α β : Type} {x : Except ε α} {f : α → Except ε β}

theorem Except.bind_eq_ok_iff {b : β} : x >>= f = .ok b ↔ ∃ a, x = .ok a ∧ f a = .ok b := by
  cases x <;> simp [bind, Except.bind]

theorem Except.bind_eq_error_iff {e : ε} :
    x >>= f = .error e ↔ x = .error e ∨ ∃ a, x = .ok a ∧ f a = .error e := by
  cases x <;> simp [bind, Except.bind]

@[simp] theorem Except.mapError_ok {ε' : Type} (g : ε → ε') (a : α) :
    (Except.ok a : Except ε α).mapError g = .ok a := rfl

@[simp] theorem Except.mapError_error {ε' : Type} (g : ε → ε') (e : ε) :
    (Except.error e : Except ε α).mapError g = .error (g e) := rfl

theorem Except.mapError_eq_error_iff {ε' : Type} {g : ε → ε'} {e : ε'} :
    x.mapError g = .error e ↔ ∃ e₀, x = .error e₀ ∧ g e₀ = e := by
  cases x <;> simp

end Peel

namespace State

variable {s : State} {name : String} {input : Value} {result : Option Value}

theorem transition_advance {next : String} {out output : Value}
    (h : s.transition name output = .ok (.advance next out)) : s.next = some next := by
  unfold transition at h
  split at h
  · cases h
  · split at h
    · cases h
      assumption
    · cases h

theorem transition_error {e : RunError} {output : Value} (h : s.transition name output = .error e) :
    e = .missingTransition name ∧ s.isTerminal = false ∧ s.next = none := by
  unfold transition at h
  split at h
  · cases h
  · split at h
    · cases h
    · cases h
      exact ⟨rfl, by simpa using ‹¬s.isTerminal = true›, by assumption⟩

/-- The effective input fails only with a path error. -/
theorem effectiveInput_error_eq {e : RunError} (h : s.effectiveInput name input = .error e) :
    ∃ p, e = .path name p := by
  rcases Except.bind_eq_error_iff.mp h with h | ⟨_, -, h⟩ <;>
  · obtain ⟨p, -, rfl⟩ := Except.mapError_eq_error_iff.mp h
    exact ⟨p, rfl⟩

theorem effectiveInput_error {e : RunError} (h : s.effectiveInput name input = .error e) :
    e.isTransitionFault = false := by
  obtain ⟨p, rfl⟩ := effectiveInput_error_eq h
  rfl

/-- The end of a pipeline fails in result placement or the output filter, or for want of a
`Next` in a state that does not end the run. -/
theorem conclude_error_cases {e : RunError} (h : s.conclude name input result = .error e) :
    (∃ p, e = .path name p) ∨ (∃ q, e = .outputMissing name q) ∨
      (e = .missingTransition name ∧ s.isTerminal = false ∧ s.next = none) := by
  rcases Except.bind_eq_error_iff.mp h with hp | ⟨_, -, h⟩
  · unfold place at hp
    split at hp
    · split at hp
      · obtain ⟨p, -, rfl⟩ := Except.mapError_eq_error_iff.mp hp
        exact .inl ⟨p, rfl⟩
      · cases hp
    · cases hp
  rcases Except.bind_eq_error_iff.mp h with ho | ⟨_, -, ht⟩
  · obtain ⟨p, -, rfl⟩ := Except.mapError_eq_error_iff.mp ho
    cases p with
    | noMatch q => exact .inr (.inl ⟨q, rfl⟩)
    | _ => exact .inl ⟨_, rfl⟩
  · exact .inr (.inr (transition_error ht))

/-- The last part of a state's pipeline goes on only to the state's own `Next`. -/
theorem conclude_advance {next : String} {out : Value}
    (h : s.conclude name input result = .ok (.advance next out)) : s.next = some next := by
  obtain ⟨_, -, h⟩ := Except.bind_eq_ok_iff.mp h
  obtain ⟨_, -, h⟩ := Except.bind_eq_ok_iff.mp h
  exact transition_advance h

/-- The last part of a state's pipeline lacks a transition only for a state that neither ends
the run nor has a `Next`. -/
theorem conclude_transitionFault {e : RunError} (h : s.conclude name input result = .error e)
    (hf : e.isTransitionFault = true) : s.isTerminal = false ∧ s.next = none := by
  rcases conclude_error_cases h with ⟨p, rfl⟩ | ⟨q, rfl⟩ | ⟨-, hs⟩
  · cases hf
  · cases hf
  · exact hs

end State

theorem Choice.choose_go_target {default : Option String} {input : Value} :
    ∀ {rules : List Value} {index : Nat} {b : Choice.Branch},
      Choice.choose.go default input index rules = .ok b →
      b.target ∈ ruleTargets rules ∨ default = some b.target
  | [], _, _, h => by
    unfold Choice.choose.go at h
    split at h
    · cases h
      exact Or.inr rfl
    · cases h
  | rule :: rest, _, _, h => by
    unfold Choice.choose.go at h
    split at h
    · rename_i next hnext
      split at h
      · cases h
        left
        simp [ruleTargets, hnext, Choice.Branch.target]
      · rcases Choice.choose_go_target h with h | h
        · left
          simp only [ruleTargets, List.filterMap_cons, hnext] at h ⊢
          exact List.mem_cons_of_mem _ h
        · exact Or.inr h
      · cases h
    · cases h

/-- The branch a Choice state takes is one of its rules' `Next` names or its `Default`. -/
theorem Choice.choose_target {rules : List Value} {default : Option String} {input : Value}
    {b : Choice.Branch} (h : Choice.choose rules default input = .ok b) :
    b.target ∈ ruleTargets rules ∨ default = some b.target :=
  Choice.choose_go_target h

namespace Execute

variable {σ : Type} [Journal σ]

/-! ### Plumbing -/

@[simp] theorem bind_id {α β : Type} (x : α) (f : α → Id β) : (x >>= f : Id β) = f x := rfl

@[simp] theorem pure_id {α : Type} (x : α) : (pure x : Id α) = x := rfl

-- the functor of `Id` as its monad gives it, whatever other instances are in scope
@[simp] theorem map_id' {α β : Type} (g : α → β) (x : α) :
    @Functor.map Id (@Applicative.toFunctor Id (@Monad.toApplicative Id Id.instMonad)) α β g x = g x :=
  rfl

omit [Journal σ] in
@[simp] theorem lift_run {ε α : Type} (f : ε → RunError) (x : Except ε α) (w : σ) :
    (lift f x : RunM σ α).run.run w = (x.mapError f, w) := by
  cases x <;> rfl

/-! ### The pipeline -/

variable {inv : Invoker σ} {ctx : Context} {s : State} {w : σ} {eff : Value}

theorem branch_run (name : String) :
    ((branch s name eff : RunM σ String).run.run w).1 =
      ((Choice.choose s.choices s.defaultState eff).mapError (.choice name)).map
        Choice.Branch.target := by
  unfold branch
  cases h : Choice.choose s.choices s.defaultState eff with
  | error => simp; rfl
  | ok b => cases b <;> simp [say] <;> rfl

omit [Journal σ] in
/-- A task's invocation is the one call its `taskCall` names, and the invoker's answer. -/
theorem invokeTask_run :
    (invokeTask inv ctx s eff).run.run w =
      match s.taskCall ctx eff with
      | .error te => (.error (.task te), w)
      | .ok c =>
        match (inv.call c).run w with
        | (.ok v, w') => (.ok v, w')
        | (.error te, w') => (.error (.task te), w') := by
  cases hc : s.taskCall ctx eff with
  | error te => simp [invokeTask, hc, ExceptT.run_bind]
  | ok c =>
    rcases ha : (inv.call c).run w with ⟨_ | v, w'⟩ <;>
      simp [invokeTask, hc, ExceptT.run_bind, liftM, monadLift, MonadLift.monadLift,
        ExceptT.lift, ha]

omit [Journal σ] in
theorem invokeTask_error {e : RunError} (h : ((invokeTask inv ctx s eff).run.run w).1 = .error e) :
    ∃ te, e = .task te := by
  rw [invokeTask_run] at h
  split at h
  · cases h
    exact ⟨_, rfl⟩
  · split at h <;> cases h
    exact ⟨_, rfl⟩

/-- A Task state's work is its invocation. -/
theorem work_of_task (hk : s.kind = .task) :
    (work inv ctx s eff).run.run w =
      match (invokeTask inv ctx s eff).run.run w with
      | (.ok v, w') => (.ok (some v, none), w')
      | (.error e, w') => (.error e, w') := by
  rcases ha : (invokeTask inv ctx s eff).run.run w with ⟨_ | v, w'⟩ <;>
    simp [work, hk, ha] <;> rfl

/-- A Wait state's work reads its duration from the effective input and the world's time. -/
theorem work_fst_of_wait (hk : s.kind = .wait) :
    ((work inv ctx s eff).run.run w).1 =
      ((waitNanos s eff (inv.now.run w).1).mapError fun p => .invalidWait ctx.current p.message).map
        fun nanos => (none, some (waitMillis nanos)) := by
  simp only [work, hk, ExceptT.run_bind, StateT.run_bind, liftM, monadLift,
    MonadLift.monadLift, ExceptT.lift, bind_id]
  cases hn : waitNanos s eff ((inv.now.run w).1) <;>
    simp only [ExceptT.run_mk, StateT.run_map, map_id', hn, note, say, Nat.toString_eq_repr,
      ExceptT.run_liftM, ExceptT.run_pure, bind_map_left, bind_pure_comp, StateT.run_bind, lift_run,
      Except.mapError_ok, Except.mapError_error, bind_id, StateT.run_pure, StateT.run_modify,
      pure_id] <;> rfl

/-- A state's own work fails only with a task failure or an invalid wait. -/
theorem work_error_cases {e : RunError} (h : ((work inv ctx s eff).run.run w).1 = .error e) :
    (∃ te, e = .task te) ∨ ∃ reason, e = .invalidWait ctx.current reason := by
  cases hk : s.kind
  case task =>
    rw [work_of_task hk] at h
    split at h
    · cases h
    · rename_i hi
      cases h
      exact .inl (invokeTask_error (congrArg Prod.fst hi))
  case wait =>
    rw [work_fst_of_wait hk] at h
    cases hn : waitNanos s eff (inv.now.run w).1 <;> rw [hn] at h <;> cases h
    exact .inr ⟨_, rfl⟩
  all_goals simp [work, hk] at h

theorem work_transitionFault {e : RunError} (h : ((work inv ctx s eff).run.run w).1 = .error e) :
    e.isTransitionFault = false := by
  rcases work_error_cases h with ⟨te, rfl⟩ | ⟨reason, rfl⟩ <;> rfl

theorem step_eq_of_works (hk : s.kind.works = true) :
    step inv ctx s = (do
      let eff ← lift id (s.effectiveInput ctx.current ctx.input)
      let (r, wt) ← work inv ctx s eff
      return (← lift id (s.conclude ctx.current ctx.input r), wt)) := by
  have : s.kind = .task ∨ s.kind = .pass ∨ s.kind = .wait ∨ s.kind = .succeed := by
    cases hk' : s.kind <;> simp_all [StateKind.works]
  rcases this with h | h | h | h <;> simp [step, h]

theorem step_eq_of_choice (hk : s.kind = .choice) :
    step inv ctx s = (do
      let eff ← lift id (s.effectiveInput ctx.current ctx.input)
      let next ← branch s ctx.current eff
      return (.advance next ctx.input, none)) := by
  simp [step, hk]

theorem step_of_unsupported (hk : s.kind = .parallel ∨ s.kind = .unknown) :
    (step inv ctx s).run.run w = (.error (.unsupported ctx.current s.kind.name), w) := by
  rcases hk with hk | hk <;> simp [step, hk]

theorem step_of_fail (hk : s.kind = .fail) :
    (step inv ctx s).run.run w = (.ok (.fail s.failReport, none), w) := by
  simp [step, hk]

/-- A working state's pipeline: its effective input, its work, then `State.conclude`. -/
theorem step_of_works (hk : s.kind.works = true) :
    (step inv ctx s).run.run w =
      match s.effectiveInput ctx.current ctx.input with
      | .error e => (.error e, w)
      | .ok eff =>
        match (work inv ctx s eff).run.run w with
        | (.ok (r, wt), w') => ((s.conclude ctx.current ctx.input r).map (·, wt), w')
        | (.error e, w') => (.error e, w') := by
  rw [step_eq_of_works hk]
  cases he : s.effectiveInput ctx.current ctx.input with
  | error e => simp [ExceptT.run_bind]
  | ok eff =>
    rcases hw : (work inv ctx s eff).run.run w with ⟨_ | ⟨r, wt⟩, w'⟩
    · simp [ExceptT.run_bind, hw]
    · cases hc : s.conclude ctx.current ctx.input r <;>
        simp [ExceptT.run_bind, hw, hc]

/-- A Choice state's pipeline goes where its rules say, with its own input. -/
theorem step_of_choice (hk : s.kind = .choice) :
    ((step inv ctx s).run.run w).1 =
      match s.effectiveInput ctx.current ctx.input with
      | .error e => .error e
      | .ok eff =>
        match Choice.choose s.choices s.defaultState eff with
        | .error ce => .error (.choice ctx.current ce)
        | .ok b => .ok (.advance b.target ctx.input, none) := by
  rw [step_eq_of_choice hk]
  cases he : s.effectiveInput ctx.current ctx.input with
  | error e => simp [ExceptT.run_bind]
  | ok eff =>
    have hb : ((branch s ctx.current eff : RunM σ String).run.run w).1 = _ := branch_run _
    rcases hr : (branch s ctx.current eff : RunM σ String).run.run w with ⟨_ | next, w'⟩ <;>
      rw [hr] at hb <;>
      cases hc : Choice.choose s.choices s.defaultState eff <;>
      simp_all [ExceptT.run_bind, Except.map]

theorem step_works_ok {st : Step} {wt : Option Nat} (hk : s.kind.works = true)
    (h : ((step inv ctx s).run.run w).1 = .ok (st, wt)) :
    ∃ r, s.conclude ctx.current ctx.input r = .ok st := by
  rw [step_of_works hk] at h
  split at h
  · cases h
  · rename_i eff _
    rcases hw : (work inv ctx s eff).run.run w with ⟨_ | ⟨r, wt'⟩, w'⟩ <;> simp only [hw] at h
    · cases h
    · cases hc : s.conclude ctx.current ctx.input r <;> simp [hc, Except.map] at h
      exact ⟨r, hc.trans (congrArg Except.ok h.1)⟩

theorem step_works_error {e : RunError} (hk : s.kind.works = true)
    (h : ((step inv ctx s).run.run w).1 = .error e) :
    s.effectiveInput ctx.current ctx.input = .error e ∨
      (∃ eff, ((work inv ctx s eff).run.run w).1 = .error e) ∨
      ∃ r, s.conclude ctx.current ctx.input r = .error e := by
  rw [step_of_works hk] at h
  split at h
  · cases h
    exact .inl ‹_›
  · rename_i eff _
    rcases hw : (work inv ctx s eff).run.run w with ⟨_ | ⟨r, wt'⟩, w'⟩ <;> simp only [hw] at h
    · cases h
      exact .inr (.inl ⟨eff, by rw [hw]⟩)
    · cases hc : s.conclude ctx.current ctx.input r <;> simp [hc, Except.map] at h
      exact .inr (.inr ⟨r, h ▸ hc⟩)

theorem step_advance {next : String} {out : Value} {wt : Option Nat}
    (h : ((step inv ctx s).run.run w).1 = .ok (.advance next out, wt)) : next ∈ s.targets := by
  cases hk : s.kind
  case parallel => rw [step_of_unsupported (.inl hk)] at h; cases h
  case unknown => rw [step_of_unsupported (.inr hk)] at h; cases h
  case fail => rw [step_of_fail hk] at h; cases h
  case choice =>
    rw [step_of_choice hk] at h
    split at h
    · cases h
    · split at h
      · cases h
      · rename_i b hc
        cases h
        rcases Choice.choose_target hc with ht | ht
        · exact State.rule_mem_targets ht
        · exact State.default_mem_targets ht
  all_goals
    obtain ⟨r, hc⟩ := step_works_ok (by simp [hk, StateKind.works]) h
    exact State.next_mem_targets (State.conclude_advance hc)

/-- A pipeline lacks a transition only in a working state that neither ends the run nor has
a `Next`. -/
theorem step_transitionFault {e : RunError} (h : ((step inv ctx s).run.run w).1 = .error e)
    (hf : e.isTransitionFault = true) :
    s.kind.works = true ∧ s.isTerminal = false ∧ s.next = none := by
  cases hk : s.kind
  case parallel => rw [step_of_unsupported (.inl hk)] at h; cases h; cases hf
  case unknown => rw [step_of_unsupported (.inr hk)] at h; cases h; cases hf
  case fail => rw [step_of_fail hk] at h; cases h
  case choice =>
    rw [step_of_choice hk] at h
    split at h
    · cases h
      rw [State.effectiveInput_error ‹_›] at hf
      cases hf
    · split at h
      · cases h; cases hf
      · cases h
  all_goals
    have hw : s.kind.works = true := by simp [hk, StateKind.works]
    refine ⟨rfl, ?_⟩
    rcases step_works_error hw h with he | ⟨eff, hwe⟩ | ⟨r, hc⟩
    · rw [State.effectiveInput_error he] at hf; cases hf
    · rw [work_transitionFault hwe] at hf; cases hf
    · exact State.conclude_transitionFault hc hf

/-! ### Recovery -/

variable {e : RunError}

theorem recover_of_unrecoverable (he : e.isRecoverable = false) :
    (recover ctx s e : RunM σ Context).run.run w = (.error e, w) := by
  simp [recover, he]

/-- A task failure within its retry budget retries the state. -/
theorem recover_retry (he : e.isRecoverable = true) (hb : ctx.retries < s.retryBudget e.name) :
    ((recover ctx s e : RunM σ Context).run.run w).1 = .ok ctx.recordRetry := by
  unfold State.retryBudget at hb
  split at hb
  · rename_i i r hr
    simp [recover, he, hr, hb, note, say]
    rfl
  · cases hb

/-- A task failure whose budget is spent goes to the first catch rule that accepts it, with
the error payload placed into the state's input. -/
theorem recover_spent (he : e.isRecoverable = true) (hb : s.retryBudget e.name ≤ ctx.retries) :
    ((recover ctx s e : RunM σ Context).run.run w).1 =
      match s.catcherFor e.name with
      | some (_, c) =>
        match placeResult ctx.input c.resultPath e.report.toValue with
        | .ok merged => ctx.advance c.next merged
        | .error p => .error (.catchMerge ctx.current e.name p)
      | none => .error e := by
  have hno : ∀ i r, s.retrierFor e.name = some (i, r) → ¬ ctx.retries < r.attempts := by
    intro i r hr hlt
    simp only [State.retryBudget, hr] at hb
    omega
  cases hr : s.retrierFor e.name with
  | none =>
    cases hc : s.catcherFor e.name with
    | none => simp [recover, he, hr, hc]
    | some ic =>
      obtain ⟨i, c⟩ := ic
      cases hp : placeResult ctx.input c.resultPath e.report.toValue with
      | error => simp [recover, he, hr, hc, hp, ExceptT.run_bind]
      | ok merged =>
        cases ha : ctx.advance c.next merged <;>
          simp only [recover, he, Bool.not_true, Bool.false_eq_true, ↓reduceIte, hr, hc, hp, ha, note,
            say, ExceptT.run_bind, ExceptT.run_liftM, bind_map_left, StateT.run_bind, lift_run,
            Except.mapError_ok, Except.mapError_error, bind_id, StateT.run_modify, pure_id, id_eq]
  | some ir =>
    obtain ⟨i, r⟩ := ir
    have hlt := hno i r hr
    cases hc : s.catcherFor e.name with
    | none => simp [recover, he, hr, hc, hlt]
    | some ic =>
      obtain ⟨i', c⟩ := ic
      cases hp : placeResult ctx.input c.resultPath e.report.toValue with
      | error => simp [recover, he, hr, hc, hp, hlt, ExceptT.run_bind]
      | ok merged =>
        cases ha : ctx.advance c.next merged <;>
          simp only [recover, he, Bool.not_true, Bool.false_eq_true, ↓reduceIte, hr, hlt, hc, hp, ha,
            note, say, ExceptT.run_bind, ExceptT.run_liftM, bind_map_left, StateT.run_bind, lift_run,
            Except.mapError_ok, Except.mapError_error, bind_id, StateT.run_modify, pure_id, id_eq]

/-- Recovery goes on by a retry within the budget, or to a catch rule's `Next`. -/
theorem recover_ok {ctx' : Context} (h : ((recover ctx s e : RunM σ Context).run.run w).1 = .ok ctx') :
    (ctx' = ctx.recordRetry ∧ e.isRecoverable = true ∧ ctx.retries < s.retryBudget e.name) ∨
      ∃ i c, s.catcherFor e.name = some (i, c) ∧ ∃ merged, ctx.advance c.next merged = .ok ctx' := by
  cases he : e.isRecoverable
  · rw [recover_of_unrecoverable he] at h
    cases h
  by_cases hb : ctx.retries < s.retryBudget e.name
  · rw [recover_retry he hb] at h
    cases h
    exact .inl ⟨rfl, rfl, hb⟩
  · rw [recover_spent he (Nat.le_of_not_lt hb)] at h
    split at h
    · rename_i i c hc
      split at h
      · exact .inr ⟨i, c, hc, _, h⟩
      · cases h
    · cases h

/-- Recovery stops the run with the error it was given, a failed payload placement, or a
catch rule whose `Next` is no state. -/
theorem recover_error {f : RunError} (h : ((recover ctx s e : RunM σ Context).run.run w).1 = .error f) :
    f = e ∨ f.isTransitionFault = false ∨ ∃ t ∈ s.targets, ctx.machine.hasState t = false := by
  cases he : e.isRecoverable
  · rw [recover_of_unrecoverable he] at h
    cases h
    exact .inl rfl
  by_cases hb : ctx.retries < s.retryBudget e.name
  · rw [recover_retry he hb] at h
    cases h
  · rw [recover_spent he (Nat.le_of_not_lt hb)] at h
    split at h
    · rename_i i c hc
      split at h
      · right; right
        refine ⟨c.next, State.catcher_next_mem_targets hc, ?_⟩
        cases hs : ctx.machine.hasState c.next
        · rfl
        · simp [Context.advance, hs] at h
      · cases h
        exact .inr (.inl rfl)
    · cases h
      exact .inl rfl

/-! ### Acting on a pipeline -/

variable {r : Except RunError (Step × Option Nat)}

@[simp] theorem settle_advance {next : String} {out : Value} {wt : Option Nat} :
    ((settle ctx s (.ok (.advance next out, wt)) : StateM σ Ending).run w).1 =
      match ctx.advance next out with
      | .ok c => .moved c wt
      | .error f => .stopped f := by
  cases ha : ctx.advance next out <;> simp [settle, say, ha]

@[simp] theorem settle_succeed {out : Value} {wt : Option Nat} :
    ((settle ctx s (.ok (.succeed out, wt)) : StateM σ Ending).run w).1 = .succeeded out := rfl

@[simp] theorem settle_fail {report : Report} {wt : Option Nat} :
    ((settle ctx s (.ok (.fail report, wt)) : StateM σ Ending).run w).1 = .failed report := rfl

@[simp] theorem settle_error :
    ((settle ctx s (.error e) : StateM σ Ending).run w).1 =
      match ((recover ctx s e : RunM σ Context).run.run w).1 with
      | .ok c => .moved c none
      | .error f => .stopped f := by
  simp only [settle, StateT.run_bind, bind_id]
  split <;> simp_all

theorem attempt_of_missing (h : ctx.currentState = .error e) :
    (attempt inv ctx).run w = (.stopped e, w) := by
  simp [attempt, h]

/-- A turn in a state that exists: say so, run the pipeline, act on it. -/
theorem attempt_of_found (h : ctx.currentState = .ok s) :
    attempt inv ctx = (do enter ctx s; settle ctx s (← (step inv ctx s).run)) := by
  simp [attempt, h]

/-- The end of a turn in a state that exists, from the pipeline's result. -/
theorem attempt_run_of_found (h : ctx.currentState = .ok s) :
    ((attempt inv ctx).run w).1 =
      ((settle ctx s ((step inv ctx s).run.run ((enter ctx s).run w).2).1).run
        ((step inv ctx s).run.run ((enter ctx s).run w).2).2).1 := by
  rw [attempt_of_found h]
  simp

/-! ### What a turn can do -/

/-- **A turn that moves on** retries the state, within the budget of a task failure, or goes
with a fresh counter to a name among the current state's targets. -/
theorem attempt_moved {ctx' : Context} {wt : Option Nat}
    (h : ((attempt inv ctx).run w).1 = .moved ctx' wt) :
    ∃ s, ctx.currentState = .ok s ∧
      ((ctx' = ctx.recordRetry ∧ wt = none ∧
          ∃ e : RunError, e.isRecoverable = true ∧ ctx.retries < s.retryBudget e.name) ∨
        ∃ t ∈ s.targets, ∃ input, ctx.advance t input = .ok ctx') := by
  cases hc : ctx.currentState with
  | error e => rw [attempt_of_missing hc] at h; cases h
  | ok s =>
    refine ⟨s, rfl, ?_⟩
    rw [attempt_run_of_found hc] at h
    rcases hr : (step inv ctx s).run.run ((enter ctx s).run w).2 with ⟨_ | ⟨st, wt'⟩, w₂⟩ <;>
      simp only [hr] at h
    · rw [settle_error] at h
      split at h
      · cases h
        rename_i c hrec
        rcases recover_ok hrec with ⟨rfl, he, hb⟩ | ⟨i, c, hcatch, merged, hadv⟩
        · exact .inl ⟨rfl, rfl, _, he, hb⟩
        · exact .inr ⟨c.next, State.catcher_next_mem_targets hcatch, merged, hadv⟩
      · cases h
    · cases st with
      | advance next out =>
        rw [settle_advance] at h
        split at h
        · cases h
          exact .inr ⟨next, step_advance (by rw [hr]), out, ‹_›⟩
        · cases h
      | succeed => cases h
      | fail => cases h

/-- How a turn comes to stop: in a state that is missing; or in one whose pipeline failed
and whose recovery failed too; or in one whose pipeline went on to a name that `advance`
refused. -/
theorem attempt_stopped_cases (h : ((attempt inv ctx).run w).1 = .stopped e) :
    ctx.currentState = .error e ∨
      ∃ s, ctx.currentState = .ok s ∧
        ((∃ e₀, ((step inv ctx s).run.run ((enter ctx s).run w).2).1 = .error e₀ ∧
            ((recover ctx s e₀ : RunM σ Context).run.run
              ((step inv ctx s).run.run ((enter ctx s).run w).2).2).1 = .error e) ∨
          ∃ next out wt, ((step inv ctx s).run.run ((enter ctx s).run w).2).1 =
              .ok (.advance next out, wt) ∧ ctx.advance next out = .error e) := by
  cases hc : ctx.currentState with
  | error e' =>
    rw [attempt_of_missing hc] at h
    cases h
    exact .inl rfl
  | ok s =>
    refine .inr ⟨s, rfl, ?_⟩
    rw [attempt_run_of_found hc] at h
    rcases hr : (step inv ctx s).run.run ((enter ctx s).run w).2 with ⟨_ | ⟨st, wt⟩, w₂⟩ <;>
      simp only [hr] at h
    · rename_i e₀
      rw [settle_error] at h
      split at h
      · cases h
      · rename_i f hf
        cases h
        exact .inl ⟨e₀, rfl, hf⟩
    · cases st with
      | advance next out =>
        rw [settle_advance] at h
        split at h
        · cases h
        · rename_i f hf
          cases h
          exact .inr ⟨next, out, wt, rfl, hf⟩
      | succeed => cases h
      | fail => cases h

/-- **A turn that stops for want of a transition** is in a missing state, in a working state
that neither ends the run nor has a `Next`, or in a state one of whose targets is no state. -/
theorem attempt_transitionFault (h : ((attempt inv ctx).run w).1 = .stopped e)
    (hf : e.isTransitionFault = true) :
    ctx.machine.state? ctx.current = none ∨
      ∃ s, ctx.currentState = .ok s ∧
        ((s.kind.works = true ∧ s.isTerminal = false ∧ s.next = none) ∨
          ∃ t ∈ s.targets, ctx.machine.hasState t = false) := by
  rcases attempt_stopped_cases h with hc | ⟨s, hs, ⟨e₀, hstep, hrec⟩ | ⟨next, out, wt, hstep, hadv⟩⟩
  · left
    unfold Context.currentState at hc
    split at hc
    · cases hc
    · assumption
  · right
    refine ⟨s, hs, ?_⟩
    rcases recover_error hrec with rfl | hnf | hdangling
    · exact .inl (step_transitionFault hstep hf)
    · rw [hnf] at hf
      cases hf
    · exact .inr hdangling
  · right
    refine ⟨s, hs, .inr ⟨next, step_advance hstep, ?_⟩⟩
    cases hn : ctx.machine.hasState next
    · rfl
    · simp [Context.advance, hn] at hadv

/-! ### Runs -/

theorem turn_of_moved {ctx' : Context} {wt : Option Nat} {w' : σ}
    (h : (attempt inv ctx).run w = (.moved ctx' wt, w')) :
    (turn inv ctx).run w = (.next ctx' wt, w') := by
  simp [turn, h]

/-- `Runs inv c c' n`: `n` turns, each moving the run on, lead from `c` to `c'`; after each
turn the world waits as long as the turn asked. -/
inductive Runs (inv : Invoker σ) : Context × σ → Context × σ → Nat → Prop
  | refl (c : Context × σ) : Runs inv c c 0
  | step {ctx ctx' : Context} {w w' : σ} {wait : Option Nat} {c : Context × σ} {n : Nat} :
      (attempt inv ctx).run w = (.moved ctx' wait, w') →
      Runs inv (ctx', ((rest inv wait).run w').2) c n → Runs inv (ctx, w) c (n + 1)

theorem Runs.preserves {P : Context → Prop}
    (hP : ∀ {ctx ctx' : Context} {w : σ} {wt : Option Nat}, P ctx →
      ((attempt inv ctx).run w).1 = .moved ctx' wt → P ctx')
    {c c' : Context × σ} {n : Nat} (h : Runs inv c c' n) (h0 : P c.1) : P c'.1 := by
  induction h with
  | refl => exact h0
  | step ha _ ih => exact ih (hP h0 (by rw [ha]))

/-- The loop runs out of turns only along a run of as many turns that all move on. -/
theorem loop_of_no_run {N : Nat} (h : ∀ c, ¬ Runs inv (ctx, w) c N) :
    ∃ o, ((loop inv N ctx).run w).1 = some o := by
  induction N generalizing ctx w with
  | zero => exact absurd (Runs.refl _) (h _)
  | succ N ih =>
    rcases ha : (attempt inv ctx).run w with ⟨ending, w₁⟩
    cases ending with
    | moved ctx' wt =>
      have hnone : ∀ c, ¬ Runs inv (ctx', ((rest inv wt).run w₁).2) c N :=
        fun c hc => h c (Runs.step ha hc)
      obtain ⟨o, ho⟩ := ih hnone
      exact ⟨o, by simp [loop, turn_of_moved ha, ho]⟩
    | succeeded | failed | stopped => simp [loop, turn, ha]

end Execute

end Workflow