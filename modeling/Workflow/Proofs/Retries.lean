import Workflow.Proofs.Turn
import Workflow.Machine.Decode
/-! # Retries of a Task state

A **visit** to a Task state is the run of turns from the moment the run enters it, with its
retry counter at zero, until a turn goes elsewhere or ends the run.  Each turn of a visit
enters the state afresh, invokes the task once and acts on the answer; a turn that retries
leaves the context as it was with the counter one higher.  `Retried inv c k c'` says that
from `c` the first `k` turns all retried, reaching `c'`.

What a visit does (`task_visit_retries`):

* its `k`-th turn runs in the visit's context with the counter at `k`, so the task is invoked
  on the same effective input each time, and a handler sees the counter `k`
  (`Context.invocation`);
* after the `k`-th invocation fails with an error, the next turn is another invocation iff
  `k` is below the budget of the first retry rule that accepts the error's name
  (`attempt_retries_iff`);
* the counter never passes the largest `MaxAttempts` of the state's rules
  (`Retried.le_retryLimit`);
* when every invocation fails with errors of one budget `m`, the visit invokes the task
  exactly `m + 1` times.

The one counter serves every rule: the budget of each failure is read against the retries
already spent, whichever rule granted them.
-/

namespace Workflow

open Json

namespace State

variable {s : State} {name : String} {input : Value} {result : Option Value}

theorem conclude_unrecoverable {e : RunError} (h : s.conclude name input result = .error e) :
    e.isRecoverable = false := by
  rcases conclude_error_cases h with ⟨p, rfl⟩ | ⟨q, rfl⟩ | ⟨rfl, -⟩ <;> rfl

end State

theorem Context.recordRetry_eq (ctx : Context) :
    ctx.recordRetry = { ctx with retries := ctx.retries + 1 } := rfl

theorem Context.advance_ne_recordRetry (ctx : Context) (next : String) (input : Value) :
    ctx.advance next input ≠ .ok ctx.recordRetry := by
  intro h
  have h0 := (Context.advance_retries h).1
  simp at h0

@[simp] theorem Context.currentState_retries (ctx : Context) (k : Nat) :
    { ctx with retries := k }.currentState = ctx.currentState := rfl

namespace Execute

variable {σ : Type} [Journal σ] {inv : Invoker σ} {ctx : Context} {s : State} {w : σ}
  {eff : Value}

/-- **A turn at a Task state** enters it, invokes the task once on the effective input, and
acts on the answer. -/
theorem attempt_of_task (hs : ctx.currentState = .ok s) (hk : s.kind = .task)
    (heff : s.effectiveInput ctx.current ctx.input = .ok eff) :
    (attempt inv ctx).run w =
      match (invokeTask inv ctx s eff).run.run ((enter ctx s).run w).2 with
      | (.ok v, w₂) =>
        (settle ctx s ((s.conclude ctx.current ctx.input (some v)).map (·, none))).run w₂
      | (.error e, w₂) => (settle ctx s (.error e)).run w₂ := by
  have hw : s.kind.works = true := by simp [hk, StateKind.works]
  rw [attempt_of_found hs]
  simp only [StateT.run_bind, bind_id]
  rw [step_of_works hw, heff]
  simp only
  rw [work_of_task hk]
  rcases (invokeTask inv ctx s eff).run.run ((enter ctx s).run w).2 with ⟨_ | v, w₂⟩ <;> rfl

theorem attempt_retry {wt : Option Nat}
    (h : ((attempt inv ctx).run w).1 = .moved ctx.recordRetry wt) :
    ∃ s, ctx.currentState = .ok s ∧
      ∃ e : RunError, e.isRecoverable = true ∧ ctx.retries < s.retryBudget e.name := by
  obtain ⟨s, hs, ⟨-, -, hb⟩ | ⟨t, -, input, hadv⟩⟩ := attempt_moved h
  · exact ⟨s, hs, hb⟩
  · exact absurd hadv (Context.advance_ne_recordRetry ctx t input)

/-- **When a Task turn retries.**  After the invocation fails with a task error `te`, the turn
retries the state iff the counter is below the budget of the first retry rule accepting the
error's name; an invocation that answers never leads to a retry. -/
theorem attempt_retries_iff (hs : ctx.currentState = .ok s) (hk : s.kind = .task)
    (heff : s.effectiveInput ctx.current ctx.input = .ok eff) :
    ((attempt inv ctx).run w).1 = .moved ctx.recordRetry none ↔
      ∃ te, ((invokeTask inv ctx s eff).run.run ((enter ctx s).run w).2).1 = .error (.task te) ∧
        ctx.retries < s.retryBudget te.name := by
  rw [attempt_of_task hs hk heff]
  rcases hi : (invokeTask inv ctx s eff).run.run ((enter ctx s).run w).2 with ⟨_ | v, w₂⟩
  · obtain ⟨te, rfl⟩ := invokeTask_error (congrArg Prod.fst hi)
    simp only [settle_error, Except.error.injEq, RunError.task.injEq, exists_eq_left']
    have he : (RunError.task te).isRecoverable = true := rfl
    by_cases hb : ctx.retries < s.retryBudget te.name
    · rw [recover_retry he hb]
      exact ⟨fun _ => hb, fun _ => rfl⟩
    · refine ⟨fun hm => ?_, fun hlt => absurd hlt hb⟩
      split at hm
      · rename_i c hrec
        rcases recover_ok hrec with ⟨-, -, hlt⟩ | ⟨_, _, -, _, hadv⟩
        · exact absurd hlt hb
        · cases hm
          exact absurd hadv (Context.advance_ne_recordRetry ctx _ _)
      · cases hm
  · simp only [reduceCtorEq, false_and, exists_false, iff_false]
    intro hm
    cases hc : s.conclude ctx.current ctx.input (some v) with
    | error e =>
      rw [hc] at hm
      simp only [Except.map, settle_error,
        recover_of_unrecoverable (State.conclude_unrecoverable hc)] at hm
      cases hm
    | ok st =>
      rw [hc] at hm
      rcases st with ⟨next, out⟩ | out | report <;> simp only [Except.map] at hm
      · rw [settle_advance] at hm
        split at hm
        · rename_i c hadv
          cases hm
          exact absurd hadv (Context.advance_ne_recordRetry ctx next out)
        · cases hm
      · rw [settle_succeed] at hm
        cases hm
      · rw [settle_fail] at hm
        cases hm

/-- `Retried inv c k c'`: from `c`, the first `k` turns all retried the current state, and
reached `c'`.  The loop lets the world rest for no time after a retry, so these are turns of
a run (`Retried.runs`). -/
inductive Retried (inv : Invoker σ) (c : Context × σ) : Nat → Context × σ → Prop
  | zero : Retried inv c 0 c
  | retry {k : Nat} {ctx : Context} {w w' : σ} :
      Retried inv c k (ctx, w) → (attempt inv ctx).run w = (.moved ctx.recordRetry none, w') →
      Retried inv c (k + 1) (ctx.recordRetry, w')

theorem Runs.snoc {c c₁ : Context × σ} {ctx' : Context} {w' : σ} {n : Nat}
    {wt : Option Nat} (h : Runs inv c c₁ n)
    (ha : (attempt inv c₁.1).run c₁.2 = (.moved ctx' wt, w')) :
    Runs inv c (ctx', ((rest inv wt).run w').2) (n + 1) := by
  induction h with
  | refl => exact .step ha (.refl _)
  | step hc _ ih => exact .step hc (ih ha)

theorem Retried.runs {c c' : Context × σ} {k : Nat} (h : Retried inv c k c') :
    Runs inv c c' k := by
  induction h with
  | zero => exact .refl _
  | retry _ ha ih => exact Runs.snoc ih ha

variable {ctx₀ : Context} {w₀ : σ}

theorem Retried.context {k : Nat} {c : Context × σ} (h0 : ctx₀.retries = 0)
    (h : Retried inv (ctx₀, w₀) k c) : c.1 = { ctx₀ with retries := k } := by
  induction h with
  | zero =>
    cases ctx₀
    simp_all
  | retry _ _ ih =>
    simp only at ih
    subst ih
    rfl

theorem Retried.le_retryLimit {k : Nat} {c : Context × σ} (hs : ctx₀.currentState = .ok s)
    (h0 : ctx₀.retries = 0) (h : Retried inv (ctx₀, w₀) k c) : k ≤ s.retryLimit := by
  induction h with
  | zero => simp
  | @retry k ctx w w' hr ha _ =>
    obtain ⟨s', hs', e, -, hb⟩ := attempt_retry (congrArg Prod.fst ha)
    have hctx : ctx = { ctx₀ with retries := k } := hr.context h0
    subst hctx
    rw [Context.currentState_retries, hs] at hs'
    cases hs'
    have hlim := s.retryBudget_le_retryLimit e.name
    simp only at hb
    omega

theorem Retried.retries_iff {k : Nat} {ctx : Context} {w : σ} (hs : ctx₀.currentState = .ok s)
    (hk : s.kind = .task) (h0 : ctx₀.retries = 0)
    (heff : s.effectiveInput ctx₀.current ctx₀.input = .ok eff)
    (h : Retried inv (ctx₀, w₀) k (ctx, w)) :
    ((attempt inv ctx).run w).1 = .moved ctx.recordRetry none ↔
      ∃ te, ((invokeTask inv ctx s eff).run.run ((enter ctx s).run w).2).1 = .error (.task te) ∧
        k < s.retryBudget te.name := by
  have hctx : ctx = { ctx₀ with retries := k } := h.context h0
  subst hctx
  exact attempt_retries_iff hs hk heff

/-- **Exact count.**  When every invocation of a visit fails with errors whose budget is `m`,
the visit retries exactly `m` times, so it invokes the task `m + 1` times. -/
theorem Retried.exists_iff_le {m : Nat} (hs : ctx₀.currentState = .ok s) (hk : s.kind = .task)
    (h0 : ctx₀.retries = 0) (heff : s.effectiveInput ctx₀.current ctx₀.input = .ok eff)
    (hfail : ∀ {j : Nat} {c : Context × σ}, Retried inv (ctx₀, w₀) j c → ∃ te,
      ((invokeTask inv c.1 s eff).run.run ((enter c.1 s).run c.2).2).1 = .error (.task te) ∧
        s.retryBudget te.name = m)
    (j : Nat) : (∃ c, Retried inv (ctx₀, w₀) j c) ↔ j ≤ m := by
  constructor
  · rintro ⟨c, h⟩
    induction h with
    | zero => exact Nat.zero_le m
    | @retry k ctx w w' hr ha _ =>
      obtain ⟨te', hte', hlt⟩ := (hr.retries_iff hs hk h0 heff).mp (congrArg Prod.fst ha)
      obtain ⟨te, hte, hm⟩ := hfail hr
      simp only at hte
      rw [hte', Except.error.injEq, RunError.task.injEq] at hte
      subst hte
      omega
  · intro hj
    induction j with
    | zero => exact ⟨_, .zero⟩
    | succ j ih =>
      obtain ⟨⟨ctx, w⟩, h⟩ := ih (by omega)
      obtain ⟨te, hte, hm⟩ := hfail h
      have hmoved : ((attempt inv ctx).run w).1 = .moved ctx.recordRetry none :=
        (h.retries_iff hs hk h0 heff).mpr ⟨te, hte, by omega⟩
      exact ⟨_, h.retry (Prod.ext hmoved rfl)⟩

/-- **Retry accounting of a visit to a Task state.**  From a context that has just entered a
Task state, its counter at zero:

* the `k`-th turn runs in the visit's context with the counter at `k`, never past the largest
  `MaxAttempts` of the state's rules, so never past the largest 32-bit number when the rules'
  attempts are 32-bit numbers; it enters the state, invokes the task once, on the
  effective input of the visit, and acts on the answer; after that invocation fails, the
  next turn is another invocation iff `k` is below the budget of the failure;
* when every invocation fails with errors of budget `m`, the visit invokes the task exactly
  `m + 1` times. -/
theorem task_visit_retries (hs : ctx₀.currentState = .ok s) (hk : s.kind = .task)
    (h0 : ctx₀.retries = 0) :
    (∀ {k : Nat} {ctx : Context} {w : σ}, Retried inv (ctx₀, w₀) k (ctx, w) →
      ctx = { ctx₀ with retries := k } ∧ k ≤ s.retryLimit ∧
      ((∀ r ∈ s.retriers, r.attempts ≤ u32Max) → k ≤ u32Max) ∧
      ∀ eff, s.effectiveInput ctx₀.current ctx₀.input = .ok eff →
        (attempt inv ctx).run w =
          (match (invokeTask inv ctx s eff).run.run ((enter ctx s).run w).2 with
          | (.ok v, w₂) =>
            (settle ctx s ((s.conclude ctx.current ctx.input (some v)).map (·, none))).run w₂
          | (.error e, w₂) => (settle ctx s (.error e)).run w₂) ∧
        (((attempt inv ctx).run w).1 = .moved ctx.recordRetry none ↔
          ∃ te, ((invokeTask inv ctx s eff).run.run ((enter ctx s).run w).2).1 =
              .error (.task te) ∧ k < s.retryBudget te.name)) ∧
    ∀ eff m, s.effectiveInput ctx₀.current ctx₀.input = .ok eff →
      (∀ {j : Nat} {c : Context × σ}, Retried inv (ctx₀, w₀) j c → ∃ te,
        ((invokeTask inv c.1 s eff).run.run ((enter c.1 s).run c.2).2).1 = .error (.task te) ∧
          s.retryBudget te.name = m) →
      ∀ j, (∃ c, Retried inv (ctx₀, w₀) j c) ↔ j ≤ m := by
  refine ⟨?_, fun eff m heff hfail j => Retried.exists_iff_le hs hk h0 heff hfail j⟩
  intro k ctx w h
  have hctx : ctx = { ctx₀ with retries := k } := h.context h0
  have hlim : k ≤ s.retryLimit := h.le_retryLimit hs h0
  refine ⟨hctx, hlim, fun hu => Nat.le_trans hlim (State.retryLimit_le hu),
    fun eff heff => ⟨?_, h.retries_iff hs hk h0 heff⟩⟩
  subst hctx
  exact attempt_of_task hs hk heff

/-- A Task state that ignores its input, retries `Boom` failures twice, then goes to
`Done`. -/
def retryBoomTwice : State :=
  { kind := .task, inputPath := .null, handler := some "work", next := some "Done",
    retriers := [{ errorEquals := some ["Boom"], maxAttempts := some 2 }] }

/-- `retryBoomTwice`, then a Succeed state. -/
def boomTwice : Machine :=
  { startAt := "Work", states := [("Work", retryBoomTwice), ("Done", { kind := .succeed })] }

/-- Tasks that always fail with `Boom`. -/
def alwaysBoom : Invoker Unit :=
  ⟨fun _ => pure (.error (.fail "Boom" "no luck")), pure 0, fun _ => pure ()⟩

/-- A task that always fails with an error retried twice is invoked three times: the visit
retries twice and not a third time. -/
theorem boomTwice_invoked_three_times :
    (∃ c, Retried alwaysBoom (Context.start "flow" boomTwice "Work" .null 0, ()) 2 c) ∧
      ¬ ∃ c, Retried alwaysBoom (Context.start "flow" boomTwice "Work" .null 0, ()) 3 c := by
  have hv := @task_visit_retries Unit _ alwaysBoom retryBoomTwice
    (Context.start "flow" boomTwice "Work" .null 0) () (by rfl) rfl rfl
  have hfail : ∀ {j : Nat} {c : Context × Unit},
      Retried alwaysBoom (Context.start "flow" boomTwice "Work" .null 0, ()) j c → ∃ te,
        ((invokeTask alwaysBoom c.1 retryBoomTwice (.obj [])).run.run
            ((enter c.1 retryBoomTwice).run c.2).2).1 = .error (.task te) ∧
          retryBoomTwice.retryBudget te.name = 2 := by
    rintro j ⟨ctx, w⟩ h
    obtain ⟨rfl, -⟩ := hv.1 h
    exact ⟨_, rfl, rfl⟩
  exact ⟨(hv.2 (.obj []) 2 (by rfl) hfail 2).mpr (Nat.le_refl 2),
    fun h3 => absurd ((hv.2 (.obj []) 2 (by rfl) hfail 3).mp h3) (by decide)⟩

end Execute

end Workflow
