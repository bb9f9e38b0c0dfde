import Workflow.Proofs.Turn
/-! # Runs of validated machines

A machine that `validate` accepts never strands a run.  Whatever the tasks answer, however
often they fail and whatever the rules of its Choice states pick, every state a run from its
`StartAt` enters is a state of the machine, and no turn stops for want of a transition: not
with `StateNotFound` (a `Next`, `Default`, Choice rule or catch rule naming no state), nor
with `MissingTransition` (a state that must go on but has no `Next`).

The invariant is `Context.InMachine m`: the run is in `m`, at one of its states.  Every turn
that moves on keeps it, in any machine, since `advance` checks the name it goes to
(`attempt_keeps_inMachine`).  In a runnable machine, a turn from such a context cannot stop
for want of a transition (`attempt_no_transitionFault`): each of the three ways
`attempt_transitionFault` leaves open is closed by one part of `Machine.Runnable`.
-/

namespace Workflow

/-- A context of a run of `m` that stands at one of `m`'s states. -/
structure Context.InMachine (m : Machine) (ctx : Context) : Prop where
  machine : ctx.machine = m
  current : m.hasState ctx.current = true

theorem State.goes_on_of_kindDefect {s : State} {name : String}
    (hd : s.kindDefect name = none) (hw : s.kind.works = true) :
    s.isTerminal = true ∨ s.next.isSome = true := by
  unfold State.kindDefect at hd
  cases hk : s.kind <;> simp only [hk, StateKind.works, Bool.false_eq_true] at hw hd
  case succeed => simp [State.isTerminal, hk]
  all_goals
    cases he : s.isEnd
    · cases hn : s.next <;> simp_all
    · simp [State.isTerminal, he]

namespace Execute

variable {σ : Type} [Journal σ] {inv : Invoker σ} {m : Machine} {ctx : Context} {w : σ}

theorem attempt_keeps_inMachine {ctx' : Context} {wt : Option Nat} (hi : ctx.InMachine m)
    (h : ((attempt inv ctx).run w).1 = .moved ctx' wt) : ctx'.InMachine m := by
  obtain ⟨s, -, ⟨rfl, -, -⟩ | ⟨t, -, input, hadv⟩⟩ := attempt_moved h
  · exact ⟨hi.machine, hi.current⟩
  · obtain ⟨ht, rfl⟩ := Context.advance_eq_ok.mp hadv
    exact ⟨hi.machine, hi.machine ▸ ht⟩

/-- In a runnable machine, a turn at one of its states does not stop for want of a
transition. -/
theorem attempt_no_transitionFault (hr : m.Runnable) (hi : ctx.InMachine m) {e : RunError}
    (h : ((attempt inv ctx).run w).1 = .stopped e) : e.isTransitionFault = false := by
  cases hf : e.isTransitionFault
  · rfl
  rcases attempt_transitionFault h hf with hnone | ⟨s, hs, ⟨hw, hterm, hnext⟩ | ⟨t, ht, hmissing⟩⟩
  · obtain ⟨s, hs⟩ := Machine.hasState_iff.mp hi.current
    rw [hi.machine, hs] at hnone
    cases hnone
  · have hs' : m.state? ctx.current = some s := hi.machine ▸ Context.currentState_eq_ok.mp hs
    rcases State.goes_on_of_kindDefect (hr.complete hs') hw with h' | h'
    · rw [hterm] at h'
      cases h'
    · rw [hnext] at h'
      cases h'
  · have hs' : m.state? ctx.current = some s := hi.machine ▸ Context.currentState_eq_ok.mp hs
    rw [hi.machine, hr.closed hs' t ht] at hmissing
    cases hmissing

/-- **Validated machines never strand a run.**  In every run of a machine that `validate`
accepts, from its `StartAt`, with any input, start time, world and tasks, every state the run
reaches is a state of the machine, and the turn taken there never stops with
`StateNotFound` or `MissingTransition`. -/
theorem validate_never_strands {m : Machine} (hv : m.validate = .ok ()) (inv : Invoker σ)
    (machineName : String) (input : Json.Value) (startMillis : Int) (w₀ : σ)
    {c : Context × σ} {n : Nat}
    (hrun : Runs inv (Context.start machineName m m.startAt input startMillis, w₀) c n) :
    m.hasState c.1.current = true ∧
      ∀ e, ((attempt inv c.1).run c.2).1 = .stopped e →
        (∀ t, e ≠ .stateNotFound t) ∧ ∀ t, e ≠ .missingTransition t := by
  have hr := Machine.validate_eq_ok_iff.mp hv
  have hi : c.1.InMachine m :=
    Runs.preserves (fun hi h => attempt_keeps_inMachine hi h) hrun ⟨rfl, hr.start⟩
  refine ⟨hi.current, fun e he => ?_⟩
  have hnf := attempt_no_transitionFault hr hi he
  exact ⟨fun t ht => by simp [ht, RunError.isTransitionFault] at hnf,
    fun t ht => by simp [ht, RunError.isTransitionFault] at hnf⟩

/-- A task that ignores its input and hands `{}` over to a Succeed state. -/
def workThenDone : Machine :=
  { startAt := "Work",
    states := [("Work", { kind := .task, handler := some "work", next := some "Done",
                          inputPath := .null, outputPath := .null }),
      ("Done", { kind := .succeed })] }

/-- Tasks that answer `null` at once, at time zero. -/
def answerNull : Invoker Unit := ⟨fun _ => pure (.ok .null), pure 0, fun _ => pure ()⟩

/-- The run of `workThenDone` once its task has answered: at `Done`, with `{}`. -/
def workThenDoneAtDone : Context :=
  { Context.start "flow" workThenDone "Work" .null 0 with current := "Done", input := .obj [] }

theorem workThenDone_never_strands :
    workThenDone.validate = .ok () ∧
      Runs answerNull (Context.start "flow" workThenDone "Work" .null 0, ())
        (workThenDoneAtDone, ()) 1 ∧
      workThenDone.hasState workThenDoneAtDone.current = true ∧
        ∀ e, ((attempt answerNull workThenDoneAtDone).run ()).1 = .stopped e →
          (∀ t, e ≠ .stateNotFound t) ∧ ∀ t, e ≠ .missingTransition t := by
  have hturn : (attempt answerNull (Context.start "flow" workThenDone "Work" .null 0)).run () =
      (.moved workThenDoneAtDone none, ()) := rfl
  have hrun : Runs answerNull (Context.start "flow" workThenDone "Work" .null 0, ())
      (workThenDoneAtDone, ()) 1 := Runs.step hturn (Runs.refl _)
  exact ⟨by rfl, hrun, validate_never_strands (by rfl) answerNull "flow" .null 0 () hrun⟩

end Execute

end Workflow
