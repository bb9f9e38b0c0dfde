import Workflow.Proofs.PathWrites
import Workflow.Proofs.PathSyntax
/-! # How far a write pads an array

A write steps into an array by position, and past the end it first pads the array with
`null`s up to that position.  For an array of length `L` and a position `n`, one step
(`writeSegments_index_arr`):

* fails with `indexOutOfRange`, naming `n` and `L`, when `L ≤ n` and `n - L > maxPadding`;
* otherwise writes in place when `n < L`, and else after appending `n - L` `null`s, at most
  `maxPadding` of them; the array's new length is `max L (n + 1)`, at most
  `L + maxPadding + 1` (`set_padTo`, `length_padded_le`).

A path's positions are read from text and go up to `2^64 - 1` (`le_maxIndex_of_parse`),
while no array reaches `2^63` items.  On such numbers the guard evaluated in 64-bit words,
with its subtraction made only once `L ≤ n` holds, gives the answer it gives on numbers
(`padGuard_toUInt64`), and where the step pads, `n + 1` does not wrap
(`toNat_toUInt64_succ`).

Over a whole write, every array the write passes through grows by at most `maxPadding + 1`
items, so the longest array of the result is at most that much longer than the longest of
the target, or is one of the written value's (`longestArray_writeSegments`).  Placing a
state's result, or a caught error's payload, either fails as an `InvalidPathError` or writes
within that bound (`place_bounded`, `recover_bounded`).
-/

namespace Workflow

open Json

/-! ### The longest array in a value -/

namespace Json.Value

mutual
/-- The length of the longest array anywhere in the value, `0` when it holds none. -/
def longestArray : Value → Nat
  | .arr xs => max xs.length (longestItem xs)
  | .obj fs => longestField fs
  | _ => 0

/-- The longest array in any of the items. -/
def longestItem : List Value → Nat
  | [] => 0
  | x :: xs => max x.longestArray (longestItem xs)

/-- The longest array in the value of any of the fields. -/
def longestField : List (String × Value) → Nat
  | [] => 0
  | (_, v) :: fs => max v.longestArray (longestField fs)
end

theorem longestItem_le_iff {xs : List Value} {b : Nat} :
    longestItem xs ≤ b ↔ ∀ x ∈ xs, x.longestArray ≤ b := by
  induction xs with
  | nil => simp [longestItem]
  | cons x xs ih => simp only [longestItem, Nat.max_le, ih, List.forall_mem_cons]

theorem longestField_le_iff {fs : List (String × Value)} {b : Nat} :
    longestField fs ≤ b ↔ ∀ p ∈ fs, p.2.longestArray ≤ b := by
  induction fs with
  | nil => simp [longestField]
  | cons p fs ih =>
    obtain ⟨k, v⟩ := p
    simp only [longestField, Nat.max_le, ih, List.forall_mem_cons]

@[simp] theorem longestArray_arr_le {xs : List Value} {b : Nat} :
    (Value.arr xs).longestArray ≤ b ↔ xs.length ≤ b ∧ ∀ x ∈ xs, x.longestArray ≤ b := by
  rw [longestArray, Nat.max_le, longestItem_le_iff]

@[simp] theorem longestArray_obj_le {fs : Fields} {b : Nat} :
    (Value.obj fs).longestArray ≤ b ↔ ∀ p ∈ fs, p.2.longestArray ≤ b := by
  rw [longestArray, longestField_le_iff]

theorem length_le_longestArray (xs : List Value) : xs.length ≤ (Value.arr xs).longestArray :=
  (longestArray_arr_le.mp (Nat.le_refl _)).1

theorem longestArray_le_arr {xs : List Value} {x : Value} (h : x ∈ xs) :
    x.longestArray ≤ (Value.arr xs).longestArray :=
  (longestArray_arr_le.mp (Nat.le_refl _)).2 x h

theorem longestArray_le_obj {fs : Fields} {p : String × Value} (h : p ∈ fs) :
    p.2.longestArray ≤ (Value.obj fs).longestArray :=
  longestArray_obj_le.mp (Nat.le_refl _) p h

@[simp] theorem longestArray_null : Value.null.longestArray = 0 := rfl

@[simp] theorem longestArray_str (s : String) : (Value.str s).longestArray = 0 := rfl

end Json.Value

theorem Report.longestArray_toValue (r : Report) : r.toValue.longestArray = 0 := by
  cases h : r.trace <;> simp only [Report.toValue, h] <;> rfl

/-! ### One step into an array -/

theorem Segment.fault?_index_arr (raw : String) (n : Nat) (xs : List Value) :
    (Segment.index n).fault? raw (.arr xs) =
      if xs.length ≤ n ∧ maxPadding < n - xs.length then some (.indexOutOfRange raw n xs.length)
      else none := by
  simp only [Segment.fault?, Bool.and_eq_true, decide_eq_true_eq, gt_iff_lt]

/-- Padding up to a position and writing there: in place inside the array, else after
`n - L` `null`s appended at its end. -/
theorem set_padTo (xs : List Value) (n : Nat) (c : Value) :
    (padTo xs (n + 1)).set n c =
      if n < xs.length then xs.set n c else xs ++ List.replicate (n - xs.length) .null ++ [c] := by
  split
  · next h => rw [padTo_of_le (by omega)]
  · next h =>
    have hcount : n + 1 - xs.length = (n - xs.length) + 1 := by omega
    rw [padTo, hcount, List.replicate_succ', List.set_append_right _ _ (by omega),
      List.set_append_right _ _ (by simp), List.length_replicate, List.append_assoc]
    simp

/-- The array a step that does not fail leaves: `max L (n + 1)` items, at most
`maxPadding + 1` more than before, of which at most `maxPadding` are padding. -/
theorem length_padded_le {xs : List Value} {n : Nat} (c : Value)
    (h : ¬ (xs.length ≤ n ∧ maxPadding < n - xs.length)) :
    ((padTo xs (n + 1)).set n c).length = max xs.length (n + 1) ∧
      max xs.length (n + 1) ≤ xs.length + (maxPadding + 1) ∧ n - xs.length ≤ maxPadding := by
  rw [List.length_set, length_padTo]
  omega

/-- **One step into an array.**  A position more than `maxPadding` past the end fails,
naming the position and the length; any other is written in place, or after `null`s
appended up to it. -/
theorem writeSegments_index_arr {raw : String} {n : Nat} {rest : List Segment} {cur v : Value}
    {xs : List Value} (hc : (Segment.index n).container cur = .arr xs) :
    writeSegments raw (.index n :: rest) cur v =
      if xs.length ≤ n ∧ maxPadding < n - xs.length then .error (.indexOutOfRange raw n xs.length)
      else (writeSegments raw rest (xs[n]?.getD .null) v).map fun c =>
        .arr (if n < xs.length then xs.set n c
          else xs ++ List.replicate (n - xs.length) .null ++ [c]) := by
  have hfault := Segment.fault?_index_arr raw n xs
  rw [← hc] at hfault
  split
  · next hguard => exact writeSegments_cons_of_fault (by rw [hfault, if_pos hguard])
  · next hguard =>
    rw [writeSegments_cons_of_step (by rw [hfault, if_neg hguard]), hc]
    congr 1
    funext c
    rw [Segment.fill, set_padTo]

/-! ### The guard in 64-bit words -/

theorem toNat_toUInt64_of_le {n : Nat} (h : n ≤ Path.maxIndex) : n.toUInt64.toNat = n := by
  have hsize : Path.maxIndex + 1 = UInt64.size := rfl
  rw [Nat.toUInt64_eq, UInt64.toNat_ofNat_of_lt' (by omega)]

theorem Path.le_maxIndex_of_admissible {n : Nat} :
    ∀ {segs : List Segment}, Admissible segs → Segment.index n ∈ segs → n ≤ maxIndex
  | [], _, hn => nomatch hn
  | _ :: _, hadm, .head _ => hadm.1
  | _ :: _, hadm, .tail _ hn => le_maxIndex_of_admissible hadm.2 hn

/-- Every position of a path read from text fits in a 64-bit word. -/
theorem le_maxIndex_of_parse {text : String} {p : Path} {n : Nat} (h : Path.parse text = .ok p)
    (hn : Segment.index n ∈ p.segments) : n ≤ Path.maxIndex :=
  Path.le_maxIndex_of_admissible (Path.admissible_of_parse h) hn

/-- The guard as the program evaluates it in 64-bit words, making the subtraction only once
`L ≤ n` holds, agrees with the guard on numbers. -/
theorem padGuard_toUInt64 {n L : Nat} (hn : n ≤ Path.maxIndex) (hL : L ≤ Path.maxIndex) :
    (decide (L.toUInt64 ≤ n.toUInt64) && decide (maxPadding.toUInt64 < n.toUInt64 - L.toUInt64)) =
      (decide (L ≤ n) && decide (maxPadding < n - L)) := by
  have hle : L.toUInt64 ≤ n.toUInt64 ↔ L ≤ n := by
    rw [UInt64.le_iff_toNat_le, toNat_toUInt64_of_le hn, toNat_toUInt64_of_le hL]
  by_cases h : L ≤ n
  · have hsub : (n.toUInt64 - L.toUInt64).toNat = n - L := by
      rw [UInt64.toNat_sub_of_le _ _ (hle.mpr h), toNat_toUInt64_of_le hn,
        toNat_toUInt64_of_le hL]
    have hpad : maxPadding.toUInt64.toNat = maxPadding := toNat_toUInt64_of_le (by decide)
    simp [h, hle.mpr h, UInt64.lt_iff_toNat_lt, hsub, hpad]
  · simp [h, hle]

/-- Where a step does not fail, `n + 1` in a 64-bit word is `n + 1`: the position is at most
`maxPadding` past the end of an array shorter than `2^63`, or inside it. -/
theorem toNat_toUInt64_succ {n L : Nat} (hn : n ≤ Path.maxIndex) (hL : L < Nat.pow 2 63)
    (h : ¬ (L ≤ n ∧ maxPadding < n - L)) : (n.toUInt64 + 1).toNat = n + 1 := by
  have h63 : Nat.pow 2 63 = 9223372036854775808 := rfl
  rw [UInt64.toNat_add, toNat_toUInt64_of_le hn, UInt64.toNat_one]
  unfold maxPadding at h
  omega

/-! ### A whole write -/

namespace Segment

variable {raw : String} {s : Segment} {c x : Value}

theorem longestArray_container (cur : Value) : (s.container cur).longestArray = cur.longestArray := by
  unfold container
  split
  · next h =>
    cases cur <;> simp only [Value.isNull, Bool.false_eq_true] at h
    cases s <;> rfl
  · rfl

theorem longestArray_slot_le : (s.slot c).longestArray ≤ c.longestArray := by
  cases c <;> cases s <;> simp only [slot, Value.longestArray_null, Nat.zero_le]
  case obj.key fs k | obj.index fs k =>
    cases hget : Fields.get? fs _ with
    | none => simp
    | some w =>
      simp only [Option.getD_some]
      exact Value.longestArray_le_obj (Fields.mem_of_get? hget)
  case arr.index xs i =>
    cases hget : xs[i]? with
    | none => simp
    | some w =>
      simp only [Option.getD_some]
      exact Value.longestArray_le_arr (List.mem_of_getElem? hget)

/-- **One step's growth.**  Filling a container grows its longest array by at most
`maxPadding + 1`, unless the filled-in value holds a longer one. -/
theorem longestArray_fill_le (h : s.fault? raw c = none) :
    (s.fill c x).longestArray ≤ max (c.longestArray + (maxPadding + 1)) x.longestArray := by
  cases c <;> cases s <;> simp only [fill] <;> try omega
  case obj.key fs k | obj.index fs k =>
    refine Value.longestArray_obj_le.mpr fun p hp => ?_
    rcases Fields.mem_insert hp with rfl | hp
    · exact Nat.le_max_right _ _
    · have := Value.longestArray_le_obj hp
      omega
  case arr.index xs i =>
    have hguard : ¬ (xs.length ≤ i ∧ maxPadding < i - xs.length) := by
      rw [fault?_index_arr] at h
      split at h
      · cases h
      · assumption
    have hxs := Value.length_le_longestArray xs
    obtain ⟨hlen, hgrow, -⟩ := length_padded_le x hguard
    refine Value.longestArray_arr_le.mpr ⟨by omega, fun y hy => ?_⟩
    rcases List.mem_or_eq_of_mem_set hy with hy | rfl
    · rcases List.mem_append.mp hy with hy | hy
      · have := Value.longestArray_le_arr hy
        omega
      · rw [List.eq_of_mem_replicate hy, Value.longestArray_null]
        exact Nat.zero_le _
    · exact Nat.le_max_right _ _

end Segment

/-- **A whole write.**  No array grows by more than `maxPadding + 1` items: the longest array
of the result is at most that much longer than the target's, or is one of the value's. -/
theorem longestArray_writeSegments {raw : String} :
    ∀ {segs : List Segment} {cur v t : Value}, writeSegments raw segs cur v = .ok t →
      t.longestArray ≤ max (cur.longestArray + (maxPadding + 1)) v.longestArray := by
  intro segs
  induction segs with
  | nil =>
    intro cur v t h
    cases h
    exact Nat.le_max_right _ _
  | cons s rest ih =>
    intro cur v t h
    obtain ⟨hfault, child, hchild, rfl⟩ := writeSegments_cons_eq_ok h
    have hrest := ih hchild
    have hslot := Segment.longestArray_slot_le (s := s) (c := s.container cur)
    have hfill := Segment.longestArray_fill_le (x := child) hfault
    rw [Segment.longestArray_container] at hslot hfill
    omega

/-! ### Placing results -/

theorem longestArray_placeResult {input result data : Value} {spec : PathSpec}
    (h : placeResult input spec result = .ok data) :
    data.longestArray ≤ max (input.longestArray + (maxPadding + 1)) result.longestArray := by
  cases spec with
  | omitted =>
    cases h
    exact Nat.le_max_right _ _
  | null =>
    cases h
    omega
  | path text =>
    cases hp : Path.parse text with
    | error e =>
      simp only [placeResult, hp] at h
      cases h
    | ok p =>
      rw [placeResult_path hp] at h
      split at h
      · cases h
        exact Nat.le_max_right _ _
      · exact longestArray_writeSegments h

/-- **Placing a state's result** either fails, as an `InvalidPathError`, or gives a value
whose longest array is at most `maxPadding + 1` longer than the input's, or the result's. -/
theorem State.place_bounded (s : State) (name : String) (input r : Value) :
    (∃ e, s.place name input (some r) = .error e ∧ e.name = "InvalidPathError") ∨
      ∃ data, s.place name input (some r) = .ok data ∧
        data.longestArray ≤ max (input.longestArray + (maxPadding + 1)) r.longestArray := by
  simp only [State.place]
  split
  · cases hp : placeResult input s.resultPath r with
    | error e => exact .inl ⟨.path name e, rfl, rfl⟩
    | ok data => exact .inr ⟨data, rfl, longestArray_placeResult hp⟩
  · exact .inr ⟨input, rfl, by omega⟩

namespace Execute

variable {σ : Type} [Journal σ]

/-- **Placing a caught error's payload.**  Recovery either fails, with the error it was given,
an `InvalidPathError` from placing the payload, or for a catch rule whose `Next` is no state;
or it goes on with an input whose longest array is at most `maxPadding + 1` longer. -/
theorem recover_bounded (ctx : Context) (s : State) (e : RunError) (w : σ) :
    (∃ f, ((recover ctx s e : RunM σ Context).run.run w).1 = .error f ∧
      (f = e ∨ f.name = "InvalidPathError" ∨ ∃ t, f = .stateNotFound t)) ∨
    ∃ ctx', ((recover ctx s e : RunM σ Context).run.run w).1 = .ok ctx' ∧
      ctx'.input.longestArray ≤ ctx.input.longestArray + (maxPadding + 1) := by
  cases he : e.isRecoverable
  · exact .inl ⟨e, by rw [recover_of_unrecoverable he], .inl rfl⟩
  by_cases hb : ctx.retries < s.retryBudget e.name
  · exact .inr ⟨ctx.recordRetry, recover_retry he hb, by simp⟩
  rw [recover_spent he (Nat.le_of_not_lt hb)]
  split
  · next i c hc =>
    cases hp : placeResult ctx.input c.resultPath e.report.toValue with
    | error p => exact .inl ⟨_, rfl, .inr (.inl rfl)⟩
    | ok merged =>
      have hmerged := longestArray_placeResult hp
      rw [Report.longestArray_toValue] at hmerged
      cases ha : ctx.advance c.next merged with
      | ok ctx' =>
        obtain ⟨-, -, hinput⟩ := Context.advance_retries ha
        exact .inr ⟨ctx', ha, by rw [hinput]; omega⟩
      | error f =>
        have hf : f = .stateNotFound c.next := by
          unfold Context.advance at ha
          split at ha
          · cases ha
          · cases ha
            rfl
        exact .inl ⟨f, ha, .inr (.inr ⟨_, hf⟩)⟩
  · exact .inl ⟨e, rfl, .inl rfl⟩

end Execute

/-! ### The bound on array steps -/

/-- **Array steps stay within the padding bound.**  Each step of a write into an array of
length `L` at position `n` fails with `indexOutOfRange n L` when `n` is more than
`maxPadding` past the end, and otherwise writes in place or after `n - L` `null`s, leaving
`max L (n + 1)` items.  For the positions of a parsed path and arrays shorter than `2^63`,
the program's 64-bit guard agrees with this one and `n + 1` does not wrap.  So a whole write,
and the placement of a state's result or of a caught error's payload, either fails as an
`InvalidPathError` or grows no array by more than `maxPadding + 1` items. -/
theorem write_pads_within_bound :
    (∀ (raw : String) (n : Nat) (rest : List Segment) (cur v : Value) (xs : List Value),
      (Segment.index n).container cur = .arr xs →
      writeSegments raw (.index n :: rest) cur v =
        if xs.length ≤ n ∧ maxPadding < n - xs.length then .error (.indexOutOfRange raw n xs.length)
        else (writeSegments raw rest (xs[n]?.getD .null) v).map fun c =>
          .arr (if n < xs.length then xs.set n c
            else xs ++ List.replicate (n - xs.length) .null ++ [c])) ∧
    (∀ (xs : List Value) (n : Nat) (c : Value), ¬ (xs.length ≤ n ∧ maxPadding < n - xs.length) →
      (if n < xs.length then xs.set n c
          else xs ++ List.replicate (n - xs.length) .null ++ [c]).length = max xs.length (n + 1) ∧
        max xs.length (n + 1) ≤ xs.length + (maxPadding + 1) ∧ n - xs.length ≤ maxPadding) ∧
    (∀ (text : String) (p : Path) (n L : Nat), Path.parse text = .ok p →
      Segment.index n ∈ p.segments → L < Nat.pow 2 63 →
      (decide (L.toUInt64 ≤ n.toUInt64) &&
          decide (maxPadding.toUInt64 < n.toUInt64 - L.toUInt64)) =
        (decide (L ≤ n) && decide (maxPadding < n - L)) ∧
      (¬ (L ≤ n ∧ maxPadding < n - L) → (n.toUInt64 + 1).toNat = n + 1)) ∧
    (∀ (p : Path) (t v t' : Value), p.set t v = .ok t' →
      t'.longestArray ≤ max (t.longestArray + (maxPadding + 1)) v.longestArray) ∧
    (∀ (s : State) (name : String) (input r : Value),
      (∃ e, s.place name input (some r) = .error e ∧ e.name = "InvalidPathError") ∨
        ∃ data, s.place name input (some r) = .ok data ∧
          data.longestArray ≤ max (input.longestArray + (maxPadding + 1)) r.longestArray) ∧
    (∀ {σ : Type} [Journal σ] (ctx : Context) (s : State) (e : RunError) (w : σ),
      (∃ f, ((Execute.recover ctx s e : Execute.RunM σ Context).run.run w).1 = .error f ∧
        (f = e ∨ f.name = "InvalidPathError" ∨ ∃ t, f = .stateNotFound t)) ∨
      ∃ ctx', ((Execute.recover ctx s e : Execute.RunM σ Context).run.run w).1 = .ok ctx' ∧
        ctx'.input.longestArray ≤ ctx.input.longestArray + (maxPadding + 1)) := by
  refine ⟨fun _ _ _ _ _ _ hc => writeSegments_index_arr hc, ?_, ?_, fun _ _ _ _ => longestArray_writeSegments,
    State.place_bounded, fun ctx s e w => Execute.recover_bounded ctx s e w⟩
  · intro xs n c hguard
    rw [← set_padTo]
    exact length_padded_le c hguard
  · intro text p n L hp hn hL
    have hn' := le_maxIndex_of_parse hp hn
    have hL' : L ≤ Path.maxIndex := Nat.le_of_lt (Nat.lt_of_lt_of_le hL (by decide))
    exact ⟨padGuard_toUInt64 hn' hL', toNat_toUInt64_succ hn' hL⟩

/-- A position of `2^64 - 1`, which a path may name, is refused on a one-item array: the
guard in 64-bit words fires as it does on numbers, and the step fails naming the position and
the length. -/
theorem huge_index_refused :
    Path.parse "$.list[18446744073709551615]" =
        .ok ⟨"$.list[18446744073709551615]", [.key "list", .index 18446744073709551615]⟩ ∧
      (decide ((1 : Nat).toUInt64 ≤ (18446744073709551615 : Nat).toUInt64) &&
          decide (maxPadding.toUInt64 <
            (18446744073709551615 : Nat).toUInt64 - (1 : Nat).toUInt64)) = true ∧
      writeSegments "$.list[18446744073709551615]" [.index 18446744073709551615]
          (.arr [.num (.int 1)]) (.num (.int 1)) =
        .error (.indexOutOfRange "$.list[18446744073709551615]" 18446744073709551615 1) := by
  have hparse : Path.parse "$.list[18446744073709551615]" =
      .ok ⟨"$.list[18446744073709551615]", [.key "list", .index 18446744073709551615]⟩ :=
    Except.eq_ok_of_toOption (by decide +kernel)
  have hwords := (write_pads_within_bound.2.2.1 _ _ 18446744073709551615 1 hparse
    (by simp) (by decide)).1
  have hstep := write_pads_within_bound.1 "$.list[18446744073709551615]" 18446744073709551615 []
    (.arr [.num (.int 1)]) (.num (.int 1)) [.num (.int 1)] rfl
  refine ⟨hparse, by rw [hwords]; decide, ?_⟩
  rw [hstep, if_pos (by decide)]
  rfl

end Workflow
