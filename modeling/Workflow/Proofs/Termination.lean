import Workflow.Proofs.Turn
import Mathlib.Logic.Relation
import Mathlib.Algebra.Order.BigOperators.Group.Finset
/-! # Termination of runs of acyclic machines

The **transition graph** of a machine has an edge from each state to every name it may hand
the run on to: its `Next`, its `Default`, the `Next` of each catch rule and of each Choice
rule (`Machine.Edge`).  When no cycle of the graph is reachable from the first state, a run
ends, whatever the input and whatever the tasks answer, within as many turns as the
**visit costs** of the reachable states add up to: one turn for each state, and one more
for each retry its rules allow at most (`Machine.turnBound`).

The proof is by a potential, `Context.turnsLeft`: the bound of the current state less the
retries spent there.  A retry spends one more; a move goes to a state whose reachable states
are those of the current state without the current state itself, acyclicity keeping it out,
so the potential drops by at least the cost of the visit just left.
-/

namespace Workflow

open Json

namespace Machine

variable {m : Machine}

/-- The transition graph: an edge from a state to every name among its `targets`. -/
def Edge (m : Machine) (a b : String) : Prop := ∃ s, m.state? a = some s ∧ b ∈ s.targets

/-- No cycle of the transition graph is reachable from `s0`. -/
def AcyclicFrom (m : Machine) (s0 : String) : Prop :=
  ∀ a, Relation.ReflTransGen m.Edge s0 a → ¬ Relation.TransGen m.Edge a a

/-- The names of the machine's states. -/
def names (m : Machine) : Finset String := (m.states.map Prod.fst).toFinset

/-- The most turns a visit to a state can take: one, and one for each retry its rules allow
at most.  A name that is no state costs nothing. -/
def visitCost (m : Machine) (a : String) : Nat :=
  match m.state? a with
  | some s => 1 + s.retryLimit
  | none => 0

open Classical in
/-- The states reachable from `a`, `a` itself included when it is a state. -/
noncomputable def reachable (m : Machine) (a : String) : Finset String :=
  m.names.filter (Relation.ReflTransGen m.Edge a)

/-- The turn budget of a run from `a`: the visit costs of the states reachable from it. -/
noncomputable def turnBound (m : Machine) (a : String) : Nat :=
  ∑ b ∈ m.reachable a, m.visitCost b

theorem mem_names {a : String} : a ∈ m.names ↔ m.hasState a = true := by
  simp only [names, List.mem_toFinset, List.mem_map, hasState, List.any_eq_true, beq_iff_eq]

theorem mem_reachable {a b : String} :
    b ∈ m.reachable a ↔ m.hasState b = true ∧ Relation.ReflTransGen m.Edge a b := by
  simp [reachable, mem_names]

theorem visitCost_of_state? {a : String} {s : State} (h : m.state? a = some s) :
    m.visitCost a = 1 + s.retryLimit := by
  simp [visitCost, h]

theorem visitCost_pos {a : String} (h : m.hasState a = true) : 0 < m.visitCost a := by
  obtain ⟨s, hs⟩ := hasState_iff.mp h
  rw [visitCost_of_state? hs]
  omega

theorem hasState_of_visitCost_pos {a : String} (h : 0 < m.visitCost a) : m.hasState a = true := by
  cases hs : m.state? a with
  | none => simp [visitCost, hs] at h
  | some s => exact hasState_of_state? hs

theorem visitCost_le_turnBound {a : String} (h : m.hasState a = true) :
    m.visitCost a ≤ m.turnBound a := by
  have ha : a ∈ m.reachable a := mem_reachable.mpr ⟨h, .refl⟩
  exact Finset.single_le_sum (fun _ _ => Nat.zero_le _) ha

/-- **A move lowers the budget** by the cost of the state it leaves: every state reachable
from the target is reachable from the source, and the source is not among them, since it
lies on no cycle. -/
theorem turnBound_edge {a t : String} (hcyc : ¬ Relation.TransGen m.Edge a a)
    (ha : m.hasState a = true) (he : m.Edge a t) :
    m.turnBound t + m.visitCost a ≤ m.turnBound a := by
  have hsub : m.reachable t ⊆ (m.reachable a).erase a := by
    intro b hb
    obtain ⟨hbs, htb⟩ := mem_reachable.mp hb
    refine Finset.mem_erase.mpr ⟨?_, mem_reachable.mpr ⟨hbs, .head he htb⟩⟩
    rintro rfl
    exact hcyc (.head' he htb)
  have hmem : a ∈ m.reachable a := mem_reachable.mpr ⟨ha, .refl⟩
  calc m.turnBound t + m.visitCost a
      ≤ (∑ b ∈ (m.reachable a).erase a, m.visitCost b) + m.visitCost a :=
        Nat.add_le_add_right (Finset.sum_le_sum_of_subset hsub) _
    _ = m.turnBound a := Finset.sum_erase_add _ _ hmem

theorem mem_of_state? {a : String} {s : State} (h : m.state? a = some s) : (a, s) ∈ m.states := by
  obtain ⟨p, hp, rfl⟩ := Option.map_eq_some_iff.mp h
  have hname : p.1 = a := by simpa using List.find?_some hp
  rw [← hname]
  exact List.mem_of_find?_eq_some hp

theorem acyclicFrom_of_rank (r : String → Nat) (hr : ∀ a b, m.Edge a b → r b < r a)
    (s0 : String) : m.AcyclicFrom s0 := by
  have hpath : ∀ {a b}, Relation.TransGen m.Edge a b → r b < r a := by
    intro a b h
    induction h with
    | single he => exact hr _ _ he
    | tail _ he ih => exact Nat.lt_trans (hr _ _ he) ih
  intro a _ hcyc
  exact Nat.lt_irrefl _ (hpath hcyc)

end Machine

/-- A context of a run of `m` from `s0`: at a state reachable from `s0`, with fewer retries
spent there than its visit may take. -/
structure Context.InReach (m : Machine) (s0 : String) (ctx : Context) : Prop where
  machine : ctx.machine = m
  reached : Relation.ReflTransGen m.Edge s0 ctx.current
  retries : ctx.retries < m.visitCost ctx.current

/-- The potential of a run: the budget from the current state less the retries spent. -/
noncomputable def Context.turnsLeft (m : Machine) (ctx : Context) : Nat :=
  m.turnBound ctx.current - ctx.retries

namespace Execute

variable {σ : Type} [Journal σ] {inv : Invoker σ} {m : Machine} {s0 : String} {ctx : Context}
  {w : σ}

/-- **Step lemma.**  A turn that moves on stays within reach of `s0` and lowers the
potential. -/
theorem attempt_turnsLeft_lt (hac : m.AcyclicFrom s0) (hi : ctx.InReach m s0)
    {ctx' : Context} {wt : Option Nat} (h : ((attempt inv ctx).run w).1 = .moved ctx' wt) :
    ctx'.InReach m s0 ∧ ctx'.turnsLeft m < ctx.turnsLeft m := by
  obtain ⟨s, hs, ⟨rfl, -, e, -, hb⟩ | ⟨t, ht, input, hadv⟩⟩ := attempt_moved h
  all_goals
    have hs' : m.state? ctx.current = some s := hi.machine ▸ Context.currentState_eq_ok.mp hs
    have hcost : m.visitCost ctx.current = 1 + s.retryLimit := Machine.visitCost_of_state? hs'
    have hbound : m.visitCost ctx.current ≤ m.turnBound ctx.current :=
      Machine.visitCost_le_turnBound (Machine.hasState_of_state? hs')
  · have hlim := s.retryBudget_le_retryLimit e.name
    refine ⟨⟨hi.machine, hi.reached, ?_⟩, ?_⟩
    · simp only [Context.recordRetry_retries, Context.recordRetry_current]
      omega
    · simp only [Context.turnsLeft, Context.recordRetry_retries, Context.recordRetry_current]
      omega
  · obtain ⟨htm, rfl⟩ := Context.advance_eq_ok.mp hadv
    rw [hi.machine] at htm
    have he : m.Edge ctx.current t := ⟨s, hs', ht⟩
    have hdrop := Machine.turnBound_edge (hac _ hi.reached) (Machine.hasState_of_state? hs') he
    have hpos := Machine.visitCost_pos htm
    have hk := hi.retries
    refine ⟨⟨hi.machine, .tail hi.reached he, hpos⟩, ?_⟩
    simp only [Context.turnsLeft]
    omega

/-- **Run lemma.**  A run of `n` turns that all move on, from a context within reach, is
shorter than the potential it started with. -/
theorem Runs.lt_turnsLeft (hac : m.AcyclicFrom s0) {c c' : Context × σ} {n : Nat}
    (h : Runs inv c c' n) (hi : c.1.InReach m s0) : n < c.1.turnsLeft m := by
  induction h with
  | refl =>
    have hk := hi.retries
    have hle := Machine.visitCost_le_turnBound (Machine.hasState_of_visitCost_pos
      (Nat.lt_of_le_of_lt (Nat.zero_le _) hk))
    simp only [Context.turnsLeft]
    omega
  | step ha _ ih =>
    obtain ⟨hi', hlt⟩ := attempt_turnsLeft_lt hac hi (congrArg Prod.fst ha)
    have hn := ih hi'
    dsimp only at hn hlt ⊢
    omega

theorem loop_mono {N N' : Nat} {o : Outcome} (h : ((loop inv N ctx).run w).1 = some o)
    (hN : N ≤ N') : ((loop inv N' ctx).run w).1 = some o := by
  induction N generalizing N' ctx w with
  | zero => simp [loop] at h
  | succ N ih =>
    obtain ⟨N', rfl⟩ : ∃ N'', N' = N'' + 1 := ⟨N' - 1, by omega⟩
    rcases ht : (turn inv ctx).run w with ⟨t, w₁⟩
    cases t with
    | done o' =>
      simp only [loop, StateT.run_bind, ht, bind_id] at h ⊢
      exact h
    | next c wt =>
      simp only [loop, StateT.run_bind, ht, bind_id] at h ⊢
      exact ih h (by omega)

/-- **Runs of acyclic machines end.**  From a state `s0` of a machine whose transition graph
has no cycle reachable from `s0`, a run with any input, start time, world and tasks returns an
outcome within `m.turnBound s0` turns (the visit costs of the states reachable from `s0`), and
the same outcome with any more fuel. -/
theorem run_terminates_of_acyclic (hac : m.AcyclicFrom s0) (hs0 : m.hasState s0 = true)
    (inv : Invoker σ) (machineName : String) (input : Value) (startMillis : Int) (w : σ) :
    ∃ o, ∀ fuel, m.turnBound s0 ≤ fuel →
      ((run inv fuel (Context.start machineName m s0 input startMillis)).run w).1 = some o := by
  have hi : (Context.start machineName m s0 input startMillis).InReach m s0 :=
    ⟨rfl, .refl, Machine.visitCost_pos hs0⟩
  -- no run from the start moves on as often as the budget allows turns
  have hnone : ∀ c, ¬ Runs inv (Context.start machineName m s0 input startMillis,
      ((announce (Context.start machineName m s0 input startMillis) : StateM σ Unit).run w).2) c
      (m.turnBound s0) := by
    intro c hr
    have hlt : m.turnBound s0 < m.turnBound s0 := Runs.lt_turnsLeft hac hr hi
    exact Nat.lt_irrefl _ hlt
  obtain ⟨o, ho⟩ := loop_of_no_run hnone
  refine ⟨o, fun fuel hfuel => ?_⟩
  simp only [run, StateT.run_bind, bind_id]
  exact loop_mono ho hfuel

/-- A task that retries once, sends every failure on to `Give up`, and otherwise goes to
`Done`. -/
def fetchState : State :=
  { kind := .task, handler := some "fetch", next := some "Done",
    retriers := [{ maxAttempts := some 1 }], catchers := [{ next := "Give up" }] }

/-- `fetchState`, then a Succeed or a Fail state. -/
def fetchOrGiveUp : Machine :=
  { startAt := "Fetch",
    states := [("Fetch", fetchState), ("Done", { kind := .succeed }),
      ("Give up", { kind := .fail })] }

/-- Tasks that always time out. -/
def timingOut : Invoker Unit :=
  ⟨fun _ => pure (.error (.fail "Timeout" "no answer")), pure 0, fun _ => pure ()⟩

/-- Every edge of `fetchOrGiveUp` leaves `Fetch` for a state with no edges. -/
theorem fetchOrGiveUp_edge_rank (a b : String) (he : fetchOrGiveUp.Edge a b) :
    (if b = "Fetch" then 1 else 0) < (if a = "Fetch" then 1 else 0) := by
  obtain ⟨s, hs, hb⟩ := he
  have hmem := Machine.mem_of_state? hs
  simp only [fetchOrGiveUp, List.mem_cons, Prod.mk.injEq, List.not_mem_nil, or_false] at hmem
  rcases hmem with ⟨rfl, rfl⟩ | ⟨rfl, rfl⟩ | ⟨rfl, rfl⟩ <;>
    simp [State.targets, State.references, fetchState, ruleTargets] at hb
  rcases hb with rfl | rfl <;> decide

theorem fetchOrGiveUp_terminates :
    ∃ o, ∀ fuel, fetchOrGiveUp.turnBound "Fetch" ≤ fuel →
      ((run timingOut fuel (Context.start "flow" fetchOrGiveUp "Fetch" .null 0)).run ()).1 =
        some o :=
  run_terminates_of_acyclic
    (Machine.acyclicFrom_of_rank (fun a => if a = "Fetch" then 1 else 0) fetchOrGiveUp_edge_rank
      "Fetch")
    (by rfl) timingOut "flow" .null 0 ()

end Execute

end Workflow
