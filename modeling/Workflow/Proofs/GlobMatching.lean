import Workflow.Choice.Rule
import Mathlib.Tactic.Ring
/-! # The wildcard matcher decides glob matching

`Glob.Matches` is the glob relation on tokens and characters: nothing matches nothing, a
literal matches its own character, and a wildcard matches any run of characters, the empty
run included.  The matcher that runs, `Glob.search`, keeps only the last wildcard it passed
as its backtrack point.  This module proves that it decides the relation exactly:

* `Glob.search_iff`: from any state the matcher can be in (`Resumes`), with enough fuel
  (`workLeft`), it answers whether the rest of the tokens match the rest of the text or
  the remembered wildcard can swallow one more character and then match (`Pending`);
* `Glob.wildcardMatch_iff`: hence a pattern matches a text exactly when its tokens match
  the text's characters, and the fuel the matcher is given is never exhausted
  (`Glob.workLeft_lt_fuel`);
* `Choice.stringMatches_decides_glob`: so `StringMatches` and `StringMatchesPath`
  comparisons hold exactly when the glob relation does.

Dropping every wildcard but the last loses no match: when a later wildcard is reached,
any match that lets the earlier one swallow more characters reaches the later one further
along the text, and a wildcard that matches from some point matches from every earlier
point (`Matches.wildcard_append`).

Termination is a weight that every step lowers: the square of the length of the text
where the backtrack point resumes, plus what is left of tokens and text.  A backtrack may
bring back as many tokens and characters as the literals matched since the wildcard, but
it shortens the resume text by one, which lowers the square by more.
-/

namespace Workflow.Glob

/-- The glob relation: the tokens match the whole text. -/
inductive Matches : List Token → List Char → Prop where
  | nil : Matches [] []
  | literal {c : Char} {ts : List Token} {cs : List Char} :
      Matches ts cs → Matches (.literal c :: ts) (c :: cs)
  | wildcard {ts : List Token} (run : List Char) {cs : List Char} :
      Matches ts cs → Matches (.wildcard :: ts) (run ++ cs)

namespace Matches

variable {ts : List Token} {cs : List Char}

theorem nil_iff : Matches [] cs ↔ cs = [] := by
  constructor
  · rintro ⟨⟩
    rfl
  · rintro rfl
    exact .nil

theorem literal_iff {l c : Char} : Matches (.literal l :: ts) (c :: cs) ↔ l = c ∧ Matches ts cs := by
  constructor
  · rintro ⟨⟩
    exact ⟨rfl, ‹_›⟩
  · rintro ⟨rfl, h⟩
    exact .literal h

theorem not_literal_nil {l : Char} : ¬ Matches (.literal l :: ts) [] := by
  rintro ⟨⟩

theorem wildcard_iff : Matches (.wildcard :: ts) cs ↔ ∃ run rest, cs = run ++ rest ∧ Matches ts rest := by
  constructor
  · rintro ⟨⟩
    exact ⟨_, _, rfl, ‹_›⟩
  · rintro ⟨run, rest, rfl, h⟩
    exact .wildcard run h

/-- A wildcard that matches from some point of a text matches from every earlier point. -/
theorem wildcard_append (u : List Char) (h : Matches (.wildcard :: ts) cs) :
    Matches (.wildcard :: ts) (u ++ cs) := by
  obtain ⟨run, rest, rfl, hm⟩ := wildcard_iff.mp h
  rw [← List.append_assoc]
  exact .wildcard _ hm

theorem wildcard_nil_iff : Matches (.wildcard :: ts) [] ↔ Matches ts [] := by
  constructor
  · intro h
    obtain ⟨run, rest, hsplit, hm⟩ := wildcard_iff.mp h
    obtain ⟨rfl, rfl⟩ := List.append_eq_nil_iff.mp hsplit.symm
    exact hm
  · exact .wildcard []

/-- A wildcard in front of a nonempty text either swallows nothing or swallows its first
character. -/
theorem wildcard_cons_iff {c : Char} :
    Matches (.wildcard :: ts) (c :: cs) ↔ Matches ts (c :: cs) ∨ Matches (.wildcard :: ts) cs := by
  constructor
  · intro h
    obtain ⟨run, rest, hsplit, hm⟩ := wildcard_iff.mp h
    cases run with
    | nil => exact .inl (by simpa using hsplit ▸ hm)
    | cons d run =>
      obtain ⟨rfl, rfl⟩ := List.cons.inj hsplit
      exact .inr (.wildcard run hm)
  · rintro (h | h)
    · exact .wildcard [] h
    · exact wildcard_append [c] h

theorem nil_right_iff : Matches ts [] ↔ ts.all Token.isWildcard = true := by
  induction ts with
  | nil => simp [nil_iff]
  | cons t ts ih =>
    cases t with
    | literal l => simp [Token.isWildcard, not_literal_nil]
    | wildcard => simp [Token.isWildcard, wildcard_nil_iff, ih]

/-- Literals in front of the tokens match exactly their own characters in front of the
text. -/
theorem literals_append_iff (L : List Char) :
    Matches (L.map .literal ++ ts) cs ↔ ∃ rest, cs = L ++ rest ∧ Matches ts rest := by
  induction L generalizing cs with
  | nil => simp
  | cons l L ih =>
    cases cs with
    | nil => simp [not_literal_nil]
    | cons c cs =>
      simp only [List.map_cons, List.cons_append, literal_iff, ih, List.cons.injEq]
      constructor
      · rintro ⟨rfl, rest, rfl, h⟩
        exact ⟨rest, ⟨rfl, rfl⟩, h⟩
      · rintro ⟨rest, ⟨rfl, rfl⟩, h⟩
        exact ⟨rfl, rest, rfl, h⟩

end Matches

/-! ### The states of the matcher

A state is what is left of the tokens and of the text, and the backtrack point: the tokens
after the last wildcard passed and the text where that wildcard last let go. -/

/-- The backtrack point fits the state: since it, the matcher has matched some literals,
and the point's tokens and text are the current ones behind those literals. -/
def Resumes (ts : List Token) (cs : List Char) : Option (List Token × List Char) → Prop
  | none => True
  | some (bt, bcs) => ∃ L : List Char, bt = L.map .literal ++ ts ∧ bcs = L ++ cs

/-- What a backtrack point still offers: its wildcard swallows one more character, and
then it and the tokens after it match the rest. -/
def Pending : Option (List Token × List Char) → Prop
  | some (bt, _ :: bcs) => Matches (.wildcard :: bt) bcs
  | _ => False

/-- The length of the text a backtrack point resumes at; before any, one past the text. -/
def resumeLength (cs : List Char) : Option (List Token × List Char) → Nat
  | none => cs.length + 1
  | some (_, bcs) => bcs.length

/-- A bound on the steps the matcher has left. -/
def workLeft (ts : List Token) (cs : List Char) (back : Option (List Token × List Char)) : Nat :=
  resumeLength cs back * resumeLength cs back + ts.length + cs.length

section States

variable {ts bt : List Token} {cs bcs : List Char} {back : Option (List Token × List Char)}

theorem resumes_none : Resumes ts cs none := trivial

theorem resumes_self : Resumes ts cs (some (ts, cs)) := ⟨[], rfl, rfl⟩

theorem Resumes.literal {c : Char} (h : Resumes (.literal c :: ts) (c :: cs) back) :
    Resumes ts cs back := by
  match back, h with
  | none, _ => trivial
  | some _, ⟨L, hbt, hbcs⟩ => exact ⟨L ++ [c], by simp [hbt], by simp [hbcs]⟩

theorem Resumes.length_le (h : Resumes ts cs (some (bt, bcs))) : cs.length ≤ bcs.length := by
  obtain ⟨L, -, rfl⟩ := h
  simp

/-- Once the text is used up, the backtrack point has nothing left to offer: its literals
would need more characters than remain. -/
theorem Resumes.not_pending_nil (h : Resumes ts [] back) : ¬ Pending back := by
  match back, h with
  | none, _ => exact id
  | some (_, []), _ => exact id
  | some (_, b :: bcs), ⟨L, rfl, hL⟩ =>
    intro hp
    obtain ⟨run, rest, hsplit, hm⟩ := Matches.wildcard_iff.mp hp
    obtain ⟨rest', rfl, -⟩ := (Matches.literals_append_iff L).mp hm
    have hlen := congrArg List.length hsplit
    have hL' := congrArg List.length hL
    simp only [List.append_nil] at hL'
    simp only [List.length_append, List.length_cons] at hlen hL'
    omega

/-- Reaching a wildcard, the matcher may forget the backtrack point: whatever the point
offers, the wildcard reached offers too, further along the text. -/
theorem Resumes.pending_wildcard {c : Char} (h : Resumes (.wildcard :: ts) (c :: cs) back)
    (hp : Pending back) : Matches (.wildcard :: ts) (c :: cs) := by
  match back, h, hp with
  | some (_, b :: bcs), ⟨L, rfl, hL⟩, hp =>
    obtain ⟨run, rest, rfl, hm⟩ := Matches.wildcard_iff.mp hp
    obtain ⟨rest', rfl, hm'⟩ := (Matches.literals_append_iff L).mp hm
    have hsplit : c :: cs = ((b :: run) ++ L).drop L.length ++ rest' := by
      have hshape : b :: (run ++ (L ++ rest')) = ((b :: run) ++ L) ++ rest' := by simp
      rw [← List.drop_append_of_le_length (by simp; omega), ← hshape, hL, List.drop_left]
    rw [hsplit]
    exact Matches.wildcard_append _ hm'

theorem matches_or_pending_self :
    Matches ts cs ∨ Pending (some (ts, cs)) ↔ Matches (.wildcard :: ts) cs := by
  cases cs with
  | nil => simp only [Pending, or_false, Matches.wildcard_nil_iff]
  | cons c cs => exact Matches.wildcard_cons_iff.symm

theorem not_pending_of_no_point (h : ∀ bt b bcs, back = some (bt, b :: bcs) → False) :
    ¬ Pending back := by
  match back with
  | none => exact id
  | some (_, []) => exact id
  | some (bt, b :: bcs) => exact (h bt b bcs rfl).elim

theorem workLeft_literal {l c : Char} :
    workLeft ts cs back < workLeft (.literal l :: ts) (c :: cs) back := by
  cases back with
  | none =>
    simp only [workLeft, resumeLength, List.length_cons, Nat.succ_mul_succ]
    omega
  | some p =>
    obtain ⟨bt, bcs⟩ := p
    simp only [workLeft, resumeLength, List.length_cons]
    omega

/-- Passing a wildcard lowers the work left: the new backtrack point resumes no later in
the text than the old one. -/
theorem workLeft_wildcard {c : Char} (h : Resumes (.wildcard :: ts) (c :: cs) back) :
    workLeft ts (c :: cs) (some (ts, c :: cs)) < workLeft (.wildcard :: ts) (c :: cs) back := by
  cases back with
  | none =>
    simp only [workLeft, resumeLength, List.length_cons, Nat.succ_mul_succ]
    omega
  | some p =>
    obtain ⟨bt, bcs⟩ := p
    have hle : cs.length + 1 ≤ bcs.length := by simpa using h.length_le
    have hsq : (cs.length + 1) * (cs.length + 1) ≤ bcs.length * bcs.length :=
      Nat.mul_le_mul hle hle
    simp only [workLeft, resumeLength, List.length_cons]
    omega

/-- Backtracking lowers the work left: it brings back as many tokens and characters as
literals were matched since the backtrack point, but the resume text gets shorter by one,
and its square drops by more than that. -/
theorem workLeft_backtrack {c b : Char} (h : Resumes ts (c :: cs) (some (bt, b :: bcs))) :
    workLeft bt bcs (some (bt, bcs)) < workLeft ts (c :: cs) (some (bt, b :: bcs)) := by
  obtain ⟨L, rfl, hL⟩ := h
  have hlen : bcs.length = L.length + cs.length := by
    have := congrArg List.length hL
    simp only [List.length_cons, List.length_append] at this
    omega
  simp only [workLeft, resumeLength, List.length_cons, List.length_append, List.length_map,
    Nat.succ_mul_succ]
  omega

end States

/-- **The matcher's step.**  From a state that fits its backtrack point, with more fuel
than the work left, the matcher answers whether the rest of the tokens match the rest of
the text or the backtrack point still offers a match. -/
theorem search_iff (fuel : Nat) (ts : List Token) (cs : List Char)
    (back : Option (List Token × List Char)) (hr : Resumes ts cs back)
    (hf : workLeft ts cs back < fuel) :
    search fuel ts cs back = true ↔ Matches ts cs ∨ Pending back := by
  -- one case per equation of `search`; each recursive call is to a state that fits its
  -- backtrack point and has less work left
  fun_induction search fuel ts cs back with
  | case1 => exact absurd hf (Nat.not_lt_zero _)
  | case2 fuel ts back =>
    simp only [hr.not_pending_nil, or_false, Matches.nil_right_iff]
  | case3 fuel ts c cs back ih =>
    have hw := workLeft_wildcard hr
    rw [ih resumes_self (by omega), matches_or_pending_self]
    exact ⟨Or.inl, fun h => h.elim id hr.pending_wildcard⟩
  | case4 fuel l ts c cs back heq ih =>
    obtain rfl : l = c := beq_iff_eq.mp heq
    have hw : workLeft ts cs back < workLeft (.literal l :: ts) (l :: cs) back := workLeft_literal
    rw [ih hr.literal (by omega), Matches.literal_iff]
    simp only [true_and]
  | case5 fuel l ts c cs hne bt b bcs ih =>
    have hlc : l ≠ c := fun h => hne (beq_iff_eq.mpr h)
    have hw := workLeft_backtrack hr
    rw [ih resumes_self (by omega), matches_or_pending_self]
    simp only [Pending, Matches.literal_iff, hlc, false_and, false_or]
  | case6 fuel l ts c cs back hne hback =>
    have hlc : l ≠ c := fun h => hne (beq_iff_eq.mpr h)
    simp only [Matches.literal_iff, hlc, false_and, false_or,
      not_pending_of_no_point hback, Bool.false_eq_true]
  | case7 c cs bt b bcs fuel ih =>
    have hw := workLeft_backtrack hr
    rw [ih resumes_self (by omega), matches_or_pending_self]
    simp only [Pending, Matches.nil_iff, reduceCtorEq, false_or]
  | case8 fuel c cs back hback =>
    simp only [Matches.nil_iff, reduceCtorEq, false_or, not_pending_of_no_point hback,
      Bool.false_eq_true]

/-- The fuel `wildcardMatch` gives is more than the work a fresh search has left. -/
theorem workLeft_lt_fuel (ts : List Token) (cs : List Char) :
    workLeft ts cs none < (cs.length + 1) * (cs.length + ts.length + 2) := by
  have hsplit : (cs.length + 1) * (cs.length + ts.length + 2) =
      (cs.length + 1) * (cs.length + 1) + (cs.length * ts.length + cs.length + ts.length + 1) := by
    ring
  simp only [workLeft, resumeLength, hsplit]
  omega

/-- **A pattern matches a text exactly when its tokens match the text's characters.** -/
theorem wildcardMatch_iff (pattern text : String) :
    wildcardMatch pattern text = true ↔ Matches (tokenize pattern.toList) text.toList := by
  have h := search_iff _ (tokenize pattern.toList) text.toList none resumes_none
    (workLeft_lt_fuel (tokenize pattern.toList) text.toList)
  simpa only [wildcardMatch, Pending, or_false] using h

/-- The matcher itself decides the glob relation. -/
instance : DecidableRel Matches := fun ts cs =>
  decidable_of_iff (search ((cs.length + 1) * (cs.length + ts.length + 2)) ts cs none = true) <| by
    simpa only [Pending, or_false] using search_iff _ ts cs none resumes_none (workLeft_lt_fuel ts cs)

example : Matches (tokenize "a*b*c".toList) "a123b456c".toList ∧
    ¬ Matches (tokenize "literal\\*".toList) "literalX".toList := by decide +kernel

theorem search_fresh_eq_wildcardMatch (pattern text : String) (extra : Nat) :
    search (workLeft (tokenize pattern.toList) text.toList none + 1 + extra)
      (tokenize pattern.toList) text.toList none = wildcardMatch pattern text := by
  rw [Bool.eq_iff_iff, wildcardMatch_iff, search_iff _ _ _ _ resumes_none (by omega)]
  simp only [Pending, or_false]

end Workflow.Glob

namespace Workflow.Choice

open Json

theorem compare_stringMatches (pattern s : String) (input : Value) :
    compare "StringMatches" (.str pattern) (some (.str s)) input = .ok (Glob.wildcardMatch pattern s) := by
  have hplain : "StringMatches".endsWith "Path" = false := by decide +kernel
  simp [compare, kindTest?, hplain]
  rfl

/-- A `StringMatchesPath` comparison of a text holds when its operand is a path that selects
a text from the input, and that text, as a pattern, matches. -/
theorem compare_stringMatchesPath (pathText s : String) (input : Value) :
    compare "StringMatchesPath" (.str pathText) (some (.str s)) input = .ok true ↔
      ∃ p pattern, Path.parse pathText = .ok p ∧ p.select input = some (.str pattern) ∧
        Glob.wildcardMatch pattern s = true := by
  have hpath : "StringMatchesPath".endsWith "Path" = true := by decide +kernel
  have hbase : String.ofList ("StringMatchesPath".toList.take ("StringMatchesPath".length - 4)) =
      "StringMatches" := by decide +kernel
  unfold compare
  rw [hbase]
  simp [kindTest?, hpath, parsePath]
  cases hp : Path.parse pathText with
  | error e => simp [bind, Except.bind]
  | ok p =>
    cases hsel : p.select input with
    | none => simp [hsel, bind, Except.bind, pure, Except.pure]
    | some v =>
      cases v <;> simp [hsel, bind, Except.bind, pure, Except.pure, throw, throwThe,
        MonadExceptOf.throw]

/-- **Wildcard comparisons are glob matching.**  The matcher decides the glob relation on
the pattern's tokens and the text's characters; it is done within the fuel it is given,
more fuel giving the same answer; and so a `StringMatches` comparison, or a
`StringMatchesPath` one with the pattern it selects from the input, holds exactly when the
glob relation does. -/
theorem stringMatches_decides_glob :
    (∀ pattern text : String,
      Glob.wildcardMatch pattern text = true ↔
        Glob.Matches (Glob.tokenize pattern.toList) text.toList) ∧
    (∀ (pattern text : String) (extra : Nat),
      Glob.search (Glob.workLeft (Glob.tokenize pattern.toList) text.toList none + 1 + extra)
        (Glob.tokenize pattern.toList) text.toList none = Glob.wildcardMatch pattern text) ∧
    (∀ (pattern s : String) (input : Value),
      compare "StringMatches" (.str pattern) (some (.str s)) input = .ok true ↔
        Glob.Matches (Glob.tokenize pattern.toList) s.toList) ∧
    (∀ (pathText s : String) (input : Value),
      compare "StringMatchesPath" (.str pathText) (some (.str s)) input = .ok true ↔
        ∃ p pattern, Path.parse pathText = .ok p ∧ p.select input = some (.str pattern) ∧
          Glob.Matches (Glob.tokenize pattern.toList) s.toList) := by
  refine ⟨Glob.wildcardMatch_iff, Glob.search_fresh_eq_wildcardMatch, ?_, ?_⟩
  · intro pattern s input
    rw [compare_stringMatches, Except.ok.injEq, Glob.wildcardMatch_iff]
  · intro pathText s input
    simp only [compare_stringMatchesPath, Glob.wildcardMatch_iff]

end Workflow.Choice
