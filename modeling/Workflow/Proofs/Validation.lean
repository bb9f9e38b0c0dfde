import Workflow.Machine.Validate
/-! # What validation accepts

`Machine.validate` reports the first defect it meets, in a fixed order.  For running a
machine only whether there is one matters, and this module says so without the order:
`validate` accepts exactly the **runnable** machines (`validate_eq_ok_iff`), those whose

* first state exists;
* states name only states of the machine, by `Next`, `Default`, a catch rule's `Next` or a
  Choice rule's `Next` (the state's `targets`);
* states have what their kind needs: `Next` or `End` for Task, Pass, Wait and Parallel
  states, a rule for Choice states, and a known kind.

The order of the report is the name order of `Machine.sortedNames`, which holds every state
name (`mem_sortedNames`).
-/

namespace Workflow

/-- The names a state may hand the run on to: its `Next`, its `Default`, and the `Next` of
each catch rule and of each Choice rule. -/
def State.targets (s : State) : List String := s.references.map Prod.snd

/-- A machine whose runs can only name states it has. -/
structure Machine.Runnable (m : Machine) : Prop where
  start : m.hasState m.startAt = true
  closed : ∀ {name : String} {s : State}, m.state? name = some s →
    ∀ t ∈ s.targets, m.hasState t = true
  complete : ∀ {name : String} {s : State}, m.state? name = some s → s.kindDefect name = none

namespace Machine

variable {m : Machine}

theorem hasState_iff {name : String} : m.hasState name = true ↔ ∃ s, m.state? name = some s := by
  unfold hasState state?
  rw [List.any_eq_true, ← List.find?_isSome, Option.isSome_iff_exists]
  constructor
  · rintro ⟨p, hp⟩
    exact ⟨p.2, by simp [hp]⟩
  · rintro ⟨s, hs⟩
    obtain ⟨p, hp, -⟩ := Option.map_eq_some_iff.mp hs
    exact ⟨p, hp⟩

theorem hasState_of_state? {name : String} {s : State} (h : m.state? name = some s) :
    m.hasState name = true :=
  hasState_iff.mpr ⟨s, h⟩

theorem mem_insertSorted {x y : String} {l : List String} :
    x ∈ insertSorted y l ↔ x = y ∨ x ∈ l := by
  induction l with
  | nil => simp [insertSorted]
  | cons z l ih =>
    unfold insertSorted
    split
    · simp
    · simp only [List.mem_cons, ih, or_left_comm]

theorem mem_sortedNames {x : String} : x ∈ m.sortedNames ↔ m.hasState x = true := by
  unfold sortedNames hasState
  induction m.states with
  | nil => simp
  | cons p ps ih =>
    simp only [List.foldr_cons, mem_insertSorted, ih, List.any_cons, Bool.or_eq_true,
      beq_iff_eq]
    exact or_congr_left eq_comm

theorem stateDefect_eq_none_iff {name : String} {s : State} :
    m.stateDefect name s = none ↔
      (∀ t ∈ s.targets, m.hasState t = true) ∧ s.kindDefect name = none := by
  unfold stateDefect
  split
  · rename_i f t hfind
    have ht := List.find?_some hfind
    have hmem := List.mem_of_find?_eq_some hfind
    simp only [Bool.not_eq_eq_eq_not, Bool.not_true] at ht
    simp only [reduceCtorEq, false_iff, not_and]
    intro hall
    have := hall t (List.mem_map.mpr ⟨(f, t), hmem, rfl⟩)
    simp_all
  · rename_i hfind
    rw [List.find?_eq_none] at hfind
    have hall : ∀ t ∈ s.targets, m.hasState t = true := by
      intro t ht
      obtain ⟨⟨f, t'⟩, hmem, rfl⟩ := List.mem_map.mp ht
      simpa using hfind (f, t') hmem
    exact ⟨fun h => ⟨hall, h⟩, fun h => h.2⟩

theorem defect?_eq_none_iff : m.defect? = none ↔ m.Runnable := by
  unfold defect?
  by_cases hstart : m.hasState m.startAt = true
  · simp only [hstart, Bool.not_true, Bool.false_eq_true, ↓reduceIte, List.head?_eq_none_iff,
      List.filterMap_eq_nil_iff, mem_sortedNames]
    constructor
    · intro h
      have hs : ∀ {name s}, m.state? name = some s → m.stateDefect name s = none := by
        intro name s hname
        simpa [hname] using h name (hasState_of_state? hname)
      exact ⟨hstart, fun hn => (stateDefect_eq_none_iff.mp (hs hn)).1,
        fun hn => (stateDefect_eq_none_iff.mp (hs hn)).2⟩
    · intro hr name _
      cases hn : m.state? name with
      | none => rfl
      | some s => exact stateDefect_eq_none_iff.mpr ⟨hr.closed hn, hr.complete hn⟩
  · simp only [hstart, Bool.not_false, ↓reduceIte, reduceCtorEq, false_iff]
    exact fun hr => hstart hr.start

/-- `validate` accepts exactly the runnable machines. -/
theorem validate_eq_ok_iff : m.validate = .ok () ↔ m.Runnable := by
  unfold validate
  rw [← defect?_eq_none_iff]
  cases m.defect? <;> simp

end Machine

end Workflow
