import Workflow.Path.Filter
import Workflow.Proofs.JsonValue
import Workflow.Proofs.Endings
/-! # Reading what a path write wrote

`Path.set` writes a value at the place a path names, building what is missing on the way,
and `Path.select` reads the value at a place.  Together they behave as an update of one place
in a value:

* **put-get** (`select_writeSegments`): after a write the path reads the value written,
  unless one of its positions stepped into an object already there, where the write makes the
  field named by the position's digits and a read by position finds nothing;
* **locality** (`select_writeSegments_of_apart`): a path that neither extends the written one
  nor is extended by it reads after the write what it read before;
* **get-put** (`writeSegments_of_select`): writing back what a path reads gives the value
  back, when its objects keep their keys sorted;
* **put-put** (`writeSegments_writeSegments`, `writeSegments_eq_error_iff`): a second write
  on the same path overrides the first, and whether a write succeeds does not depend on the
  value written.

The objects of the program are maps sorted by key, so every value it holds has sorted keys
(`Value.SortedKeys`): whatever the reader gives back has them (`sortedKeys_of_canonical`) and
a write keeps them (`sortedKeys_writeSegments`).

All of this comes from one description of a single step of a write: the container it goes
through (`Segment.container`), why it may fail there (`Segment.fault?`), the child it
writes into (`Segment.slot`) and how the written child is put back (`Segment.fill`), joined
to `writeSegments` by `writeSegments_cons_of_step`.
-/

namespace Workflow

open Json

/-! ### Sorted objects -/

namespace Json.Value

mutual
/-- Every object in the value lists its fields with keys strictly ascending. -/
def SortedKeys : Value → Prop
  | .arr xs => SortedItems xs
  | .obj fs => Fields.Ascending fs ∧ SortedFields fs
  | _ => True

/-- Every item has sorted keys. -/
def SortedItems : List Value → Prop
  | [] => True
  | x :: xs => SortedKeys x ∧ SortedItems xs

/-- The value of every field has sorted keys. -/
def SortedFields : List (String × Value) → Prop
  | [] => True
  | (_, v) :: fs => SortedKeys v ∧ SortedFields fs
end

theorem sortedItems_iff {xs : List Value} : SortedItems xs ↔ ∀ x ∈ xs, x.SortedKeys := by
  induction xs with
  | nil => simp [SortedItems]
  | cons x xs ih => simp [SortedItems, ih]

theorem sortedFields_iff {fs : List (String × Value)} :
    SortedFields fs ↔ ∀ p ∈ fs, p.2.SortedKeys := by
  induction fs with
  | nil => simp [SortedFields]
  | cons p fs ih =>
    obtain ⟨k, v⟩ := p
    simp [SortedFields, ih]

@[simp] theorem sortedKeys_arr {xs : List Value} :
    (Value.arr xs).SortedKeys ↔ ∀ x ∈ xs, x.SortedKeys := by
  rw [SortedKeys, sortedItems_iff]

@[simp] theorem sortedKeys_obj {fs : Fields} :
    (Value.obj fs).SortedKeys ↔ Fields.Ascending fs ∧ ∀ p ∈ fs, p.2.SortedKeys := by
  rw [SortedKeys, sortedFields_iff]

@[simp] theorem sortedKeys_null : Value.null.SortedKeys := trivial

mutual
/-- Every value the reader gives back has sorted keys. -/
theorem sortedKeys_of_canonical : ∀ {depth : Nat} {v : Value}, v.Canonical depth → v.SortedKeys
  | _, .arr _, h => sortedItems_of_canonical h.2
  | _, .obj _, h => ⟨h.2.1, sortedFields_of_canonical h.2.2⟩
  | _, .null, _ | _, .bool _, _ | _, .num _, _ | _, .str _, _ => trivial

theorem sortedItems_of_canonical : ∀ {depth : Nat} {xs : List Value},
    CanonicalItems depth xs → SortedItems xs
  | _, [], _ => trivial
  | _, _ :: _, h => ⟨sortedKeys_of_canonical h.1, sortedItems_of_canonical h.2⟩

theorem sortedFields_of_canonical : ∀ {depth : Nat} {fs : List (String × Value)},
    CanonicalFields depth fs → SortedFields fs
  | _, [], _ => trivial
  | _, (_, _) :: _, h => ⟨sortedKeys_of_canonical h.1, sortedFields_of_canonical h.2⟩
end

end Json.Value

/-! ### Fields and padded arrays -/

namespace Json

theorem Fields.mem_of_get? {fs : Fields} {k : String} {v : Value} (h : fs.get? k = some v) :
    (k, v) ∈ fs := by
  obtain ⟨p, hp, rfl⟩ := Option.map_eq_some_iff.mp h
  have hk : p.1 = k := by simpa using List.find?_some hp
  rw [← hk]
  exact List.mem_of_find?_eq_some hp

@[simp] theorem Fields.insert_insert (fs : Fields) (k : String) (a b : Value) :
    (fs.insert k a).insert k b = fs.insert k b := by
  induction fs with
  | nil => simp [Fields.insert]
  | cons q qs ih =>
    obtain ⟨k', v'⟩ := q
    by_cases hlt : k < k'
    · simp [Fields.insert, hlt]
    · by_cases heq : k = k'
      · simp [Fields.insert, heq]
      · simp [Fields.insert, hlt, heq, ih]

/-- In sorted fields, binding a key to the value it has changes nothing. -/
theorem Fields.insert_of_get? {fs : Fields} {k : String} {v : Value} (hs : fs.Ascending)
    (h : fs.get? k = some v) : fs.insert k v = fs := by
  induction fs with
  | nil => simp [Fields.get?] at h
  | cons q qs ih =>
    obtain ⟨k', v'⟩ := q
    rw [Fields.Ascending, List.pairwise_cons] at hs
    by_cases heq : k' = k
    · subst heq
      have hv : v' = v := by simpa [Fields.get?] using h
      simp [Fields.insert, hv]
    · have hq : Fields.get? qs k = some v := by simpa [Fields.get?, heq] using h
      have hlt : k' < k := hs.1 (k, v) (Fields.mem_of_get? hq)
      have hnlt : ¬ k < k' := fun h' => String.lt_asymm hlt h'
      simp [Fields.insert, hnlt, Ne.symm heq, ih hs.2 hq]

end Json

theorem Except.bind_pure_eq_map {ε α β : Type} (x : Except ε α) (f : α → β) :
    (x >>= fun a => pure (f a)) = x.map f := by
  cases x <;> rfl

theorem Except.map_eq_ok_iff {ε α β : Type} {x : Except ε α} {f : α → β} {b : β} :
    x.map f = .ok b ↔ ∃ a, x = .ok a ∧ f a = b := by
  cases x <;> simp [Except.map]

theorem Except.map_eq_error_iff {ε α β : Type} {x : Except ε α} {f : α → β} {e : ε} :
    x.map f = .error e ↔ x = .error e := by
  cases x <;> simp [Except.map]

theorem length_padTo (xs : List Value) (n : Nat) : (padTo xs n).length = max xs.length n := by
  simp only [padTo, List.length_append, List.length_replicate]
  omega

theorem padTo_of_le {xs : List Value} {n : Nat} (h : n ≤ xs.length) : padTo xs n = xs := by
  simp [padTo, Nat.sub_eq_zero_of_le h]

theorem getElem?_padTo_of_lt {xs : List Value} {n i : Nat} (h : i < xs.length) :
    (padTo xs n)[i]? = xs[i]? := by
  rw [padTo, List.getElem?_append_left h]

/-- The item a padded array holds at the last position it was padded to, `null` when new. -/
theorem getD_padTo (xs : List Value) (i : Nat) :
    (padTo xs (i + 1))[i]?.getD .null = xs[i]?.getD .null := by
  rcases Nat.lt_or_ge i xs.length with h | h
  · rw [getElem?_padTo_of_lt h]
  · rw [padTo, List.getElem?_append_right h, List.getElem?_replicate, List.getElem?_eq_none h]
    split <;> rfl

/-! ### One step of a write -/

namespace Segment

/-- The field a segment names in an object: a name itself, a position by its decimal digits. -/
def fieldName : Segment → String
  | .key k => k
  | .index i => toString i

/-- The container a write steps through: `cur`, or where `cur` is `null` the empty container
of the kind the segment needs. -/
def container (s : Segment) (cur : Value) : Value := if cur.isNull then s.emptyContainer else cur

/-- Why a write cannot step through `c`: only an object, or an array by position, can be
entered, an array at most `maxPadding` places past its end. -/
def fault? (raw : String) : Segment → Value → Option PathError
  | _, .obj _ => none
  | .index i, .arr xs =>
    if xs.length ≤ i && i - xs.length > maxPadding then some (.indexOutOfRange raw i xs.length)
    else none
  | s, _ => some (.notAContainer raw s.display)

/-- What a write finds where it steps into `c`: the field or the item, `null` when missing. -/
def slot : Segment → Value → Value
  | s, .obj fs => (Fields.get? fs s.fieldName).getD .null
  | .index i, .arr xs => xs[i]?.getD .null
  | _, _ => .null

/-- The container `c` with `x` put where the segment steps: the field bound, or the item set
once the array is padded with `null`s up to it. -/
def fill : Segment → Value → Value → Value
  | s, .obj fs, x => .obj (Fields.insert fs s.fieldName x)
  | .index i, .arr xs, x => .arr ((padTo xs (i + 1)).set i x)
  | _, c, _ => c

/-- Whether the segment is a position met at an object. -/
def indexOnObject : Segment → Value → Bool
  | .index _, .obj _ => true
  | _, _ => false

end Segment

section Step

variable {raw : String} {s : Segment} {rest : List Segment} {cur v : Value}

theorem writeSegments_cons_of_fault {e : PathError} (h : s.fault? raw (s.container cur) = some e) :
    writeSegments raw (s :: rest) cur v = .error e := by
  rw [writeSegments.eq_def]
  dsimp only
  unfold Segment.container at h
  generalize (if cur.isNull = true then s.emptyContainer else cur) = c at h ⊢
  cases c <;> cases s <;> simp only [Segment.fault?, reduceCtorEq, Option.some.injEq] at h
  case arr.index xs i =>
    split at h
    · next hc => cases h; exact if_pos hc
    · cases h
  all_goals (subst h; rfl)

/-- **One step of a write**: where the step can be made, the rest of the path is written into
the child the step finds and the result put back in its place. -/
theorem writeSegments_cons_of_step (h : s.fault? raw (s.container cur) = none) :
    writeSegments raw (s :: rest) cur v =
      (writeSegments raw rest (s.slot (s.container cur)) v).map (s.fill (s.container cur)) := by
  rw [writeSegments.eq_def]
  dsimp only
  unfold Segment.container at h ⊢
  generalize (if cur.isNull = true then s.emptyContainer else cur) = c at h ⊢
  cases c <;> cases s <;> simp only [Segment.fault?, reduceCtorEq] at h
  case obj.key fs k => exact Except.bind_pure_eq_map _ _
  case obj.index fs i => exact Except.bind_pure_eq_map _ _
  case arr.index xs i =>
    split at h
    · cases h
    · next hc =>
      show (if _ then _ else _) = _
      rw [if_neg hc, Except.bind_pure_eq_map, getD_padTo]
      rfl

/-- A write through `s` that succeeds makes the step without fault and puts back what the rest
of the path writes into the child. -/
theorem writeSegments_cons_eq_ok {t : Value} (h : writeSegments raw (s :: rest) cur v = .ok t) :
    s.fault? raw (s.container cur) = none ∧
      ∃ c, writeSegments raw rest (s.slot (s.container cur)) v = .ok c ∧
        t = s.fill (s.container cur) c := by
  cases hf : s.fault? raw (s.container cur) with
  | some e => rw [writeSegments_cons_of_fault hf] at h; cases h
  | none =>
    rw [writeSegments_cons_of_step hf] at h
    obtain ⟨c, hc, rfl⟩ := Except.map_eq_ok_iff.mp h
    exact ⟨rfl, c, hc, rfl⟩

end Step

namespace Segment

variable {raw : String} {s s' : Segment} {c x y w : Value}

theorem container_of_isNull_eq_false (h : c.isNull = false) : s.container c = c := by
  simp [container, h]

theorem isNull_of_get? (h : s.get? c = some w) : c.isNull = false := by
  cases c <;> cases s <;> simp_all [get?, Value.isNull]

theorem fault?_of_get? (h : s.get? c = some w) : s.fault? raw c = none := by
  cases c <;> cases s <;> simp_all [get?, fault?]
  case arr.index xs i =>
    have : i < xs.length := (List.getElem?_eq_some_iff.mp h).1
    omega

theorem slot_of_get? (h : s.get? c = some w) : s.slot c = w := by
  cases c <;> cases s <;> simp_all [get?, slot, fieldName]

theorem sortedKeys_of_get? (hc : c.SortedKeys) (h : s.get? c = some w) : w.SortedKeys := by
  cases c <;> cases s <;> simp only [get?, reduceCtorEq] at h
  case obj.key fs k => exact (Value.sortedKeys_obj.mp hc).2 _ (Fields.mem_of_get? h)
  case arr.index xs i => exact Value.sortedKeys_arr.mp hc _ (List.mem_of_getElem? h)

/-- In a value with sorted keys, putting back what a step finds there changes nothing. -/
theorem fill_of_get? (hc : c.SortedKeys) (h : s.get? c = some w) : s.fill c w = c := by
  cases c <;> cases s <;> simp only [get?, reduceCtorEq] at h
  case obj.key fs k =>
    rw [fill, fieldName, Fields.insert_of_get? (Value.sortedKeys_obj.mp hc).1 h]
  case arr.index xs i =>
    obtain ⟨hi, rfl⟩ := List.getElem?_eq_some_iff.mp h
    rw [fill, padTo_of_le hi, List.set_getElem_self]

theorem isNull_fill (h : s.fault? raw c = none) : (s.fill c x).isNull = false := by
  cases c <;> cases s <;> simp_all [fault?, fill, Value.isNull]

theorem fault?_fill (h : s.fault? raw c = none) : s.fault? raw (s.fill c x) = none := by
  cases c <;> cases s <;> simp_all [fault?, fill]
  case arr.index xs i =>
    intro hle
    have := length_padTo xs (i + 1)
    omega

theorem slot_fill (h : s.fault? raw c = none) : s.slot (s.fill c x) = x := by
  cases c <;> cases s <;> simp_all [fault?, fill, slot]
  case arr.index xs i =>
    have := length_padTo xs (i + 1)
    rw [List.getElem?_set_self (by omega)]
    rfl

theorem fill_fill : s.fill (s.fill c x) y = s.fill c y := by
  cases c <;> cases s <;> simp only [fill, Fields.insert_insert]
  case arr.index xs i =>
    have hlen : i + 1 ≤ ((padTo xs (i + 1)).set i x).length := by
      simp only [List.length_set, length_padTo]
      omega
    rw [padTo_of_le hlen, List.set_set]

/-- A read reads back what a step filled in, unless the step was a position met at an object. -/
theorem get?_fill (h : s.fault? raw c = none) (hi : s.indexOnObject c = false) :
    s.get? (s.fill c x) = some x := by
  cases c <;> cases s <;> simp_all [fault?, fill, get?, indexOnObject, fieldName]
  case arr.index xs i =>
    have := length_padTo xs (i + 1)
    rw [List.getElem?_set_self (by omega)]

/-- A read along another segment finds what it found before a step filled its place. -/
theorem get?_fill_of_ne (hne : s' ≠ s) (hi : s.indexOnObject c = false)
    (h : s'.get? c = some w) : s'.get? (s.fill c x) = some w := by
  cases c <;> cases s <;> cases s' <;> simp_all [fill, get?, indexOnObject, fieldName]
  case arr.index.index xs i j =>
    have hj : j < xs.length := (List.getElem?_eq_some_iff.mp h).1
    rw [List.getElem?_set_ne (Ne.symm hne), getElem?_padTo_of_lt hj, h]

theorem sortedKeys_fill (hc : c.SortedKeys) (hx : x.SortedKeys) : (s.fill c x).SortedKeys := by
  cases c <;> cases s <;> simp only [fill] <;> try exact hc
  case obj.key fs k | obj.index fs k =>
    obtain ⟨hasc, hvals⟩ := Value.sortedKeys_obj.mp hc
    refine Value.sortedKeys_obj.mpr ⟨hasc.insert _ x, fun p hp => ?_⟩
    rcases Fields.mem_insert hp with rfl | hp
    · exact hx
    · exact hvals p hp
  case arr.index xs i =>
    refine Value.sortedKeys_arr.mpr fun y hy => ?_
    rcases List.mem_or_eq_of_mem_set hy with hy | rfl
    · rcases List.mem_append.mp hy with hy | hy
      · exact Value.sortedKeys_arr.mp hc y hy
      · rw [List.eq_of_mem_replicate hy]
        exact Value.sortedKeys_null
    · exact hx

theorem sortedKeys_slot (hc : c.SortedKeys) : (s.slot c).SortedKeys := by
  cases c <;> cases s <;> simp only [slot] <;> try exact Value.sortedKeys_null
  case obj.key fs k | obj.index fs k =>
    cases hget : Fields.get? fs _ with
    | none => exact Value.sortedKeys_null
    | some w => exact (Value.sortedKeys_obj.mp hc).2 _ (Fields.mem_of_get? hget)
  case arr.index xs i =>
    cases hget : xs[i]? with
    | none => exact Value.sortedKeys_null
    | some w => exact Value.sortedKeys_arr.mp hc _ (List.mem_of_getElem? hget)

theorem sortedKeys_container (hc : c.SortedKeys) : (s.container c).SortedKeys := by
  unfold container
  split
  · cases s <;> simp [emptyContainer, Fields.Ascending]
  · exact hc

end Segment

/-! ### Laws of a write -/

/-- Whether a write along the segments into `cur` steps by position into an object that is
already there.  The write then makes the field named by the position's digits, which no read
by position finds.  The containers the write builds itself always fit the next segment. -/
def indexMeetsObject : List Segment → Value → Bool
  | .index _ :: _, .obj _ => true
  | .key k :: rest, .obj fs => indexMeetsObject rest ((Fields.get? fs k).getD .null)
  | .index i :: rest, .arr xs => indexMeetsObject rest (xs[i]?.getD .null)
  | _, _ => false

theorem indexMeetsObject_null (segs : List Segment) : indexMeetsObject segs .null = false := by
  cases segs with
  | nil => rfl
  | cons s rest => cases s <;> rfl

theorem indexMeetsObject_cons (s : Segment) (rest : List Segment) (cur : Value) :
    indexMeetsObject (s :: rest) cur =
      (s.indexOnObject (s.container cur) || indexMeetsObject rest (s.slot (s.container cur))) := by
  cases s <;> cases cur <;>
    simp [indexMeetsObject, Segment.container, Segment.indexOnObject, Segment.slot,
      Segment.emptyContainer, Segment.fieldName, Value.isNull, indexMeetsObject_null, Fields.get?]

section Laws

variable {raw : String}

/-- **Put-get.** A write that succeeds is read back by its own path, unless a position of the
path meets an object that was already there. -/
theorem select_writeSegments : ∀ {segs : List Segment} {cur v t : Value},
    indexMeetsObject segs cur = false → writeSegments raw segs cur v = .ok t →
      selectSegments segs t = some v := by
  intro segs
  induction segs with
  | nil =>
    intro cur v t _ hw
    cases hw
    rfl
  | cons s rest ih =>
    intro cur v t hidx hw
    rw [indexMeetsObject_cons, Bool.or_eq_false_iff] at hidx
    obtain ⟨hf, c, hc, rfl⟩ := writeSegments_cons_eq_ok hw
    rw [selectSegments, Segment.get?_fill hf hidx.1, Option.bind_some]
    exact ih hidx.2 hc

/-- **Locality.** A read along a path that neither extends the written one nor is extended by
it finds after the write what it found before. -/
theorem select_writeSegments_of_apart : ∀ {p q : List Segment} {cur v t w : Value},
    indexMeetsObject p cur = false → writeSegments raw p cur v = .ok t →
      ¬ q <+: p → ¬ p <+: q → selectSegments q cur = some w → selectSegments q t = some w := by
  intro p
  induction p with
  | nil =>
    intro q _ _ _ _ _ _ _ hpq _
    exact absurd (List.nil_prefix) hpq
  | cons s rest ih =>
    intro q cur v t w hidx hw hqp hpq hq
    obtain _ | ⟨s', qrest⟩ := q
    · exact absurd List.nil_prefix hqp
    obtain ⟨x, hx, hrest⟩ := Option.bind_eq_some_iff.mp hq
    rw [indexMeetsObject_cons, Bool.or_eq_false_iff] at hidx
    have hcur : s.container cur = cur := Segment.container_of_isNull_eq_false (Segment.isNull_of_get? hx)
    obtain ⟨hf, c, hc, rfl⟩ := writeSegments_cons_eq_ok hw
    rw [hcur] at hidx hf hc ⊢
    by_cases hs : s' = s
    · subst hs
      rw [List.cons_prefix_cons] at hqp hpq
      rw [selectSegments, Segment.get?_fill hf hidx.1, Option.bind_some]
      rw [Segment.slot_of_get? hx] at hc hidx
      exact ih hidx.2 hc (fun h => hqp ⟨rfl, h⟩) (fun h => hpq ⟨rfl, h⟩) hrest
    · rw [selectSegments, Segment.get?_fill_of_ne hs hidx.1 hx, Option.bind_some]
      exact hrest

/-- **Get-put.** Writing back what a path reads, in a value with sorted keys, gives the value
back. -/
theorem writeSegments_of_select : ∀ {segs : List Segment} {t w : Value},
    t.SortedKeys → selectSegments segs t = some w → writeSegments raw segs t w = .ok t := by
  intro segs
  induction segs with
  | nil =>
    intro t w _ h
    cases h
    rfl
  | cons s rest ih =>
    intro t w ht h
    obtain ⟨x, hx, hrest⟩ := Option.bind_eq_some_iff.mp h
    have hcur : s.container t = t := Segment.container_of_isNull_eq_false (Segment.isNull_of_get? hx)
    have hf : s.fault? raw (s.container t) = none := by
      rw [hcur]
      exact Segment.fault?_of_get? hx
    rw [writeSegments_cons_of_step hf, hcur, Segment.slot_of_get? hx,
      ih (Segment.sortedKeys_of_get? ht hx) hrest]
    exact congrArg Except.ok (Segment.fill_of_get? ht hx)

/-- Whether a write fails, and how, does not depend on the value written. -/
theorem writeSegments_eq_error_iff : ∀ {segs : List Segment} {cur v₁ v₂ : Value} {e : PathError},
    writeSegments raw segs cur v₁ = .error e ↔ writeSegments raw segs cur v₂ = .error e := by
  intro segs
  induction segs with
  | nil => intro cur v₁ v₂ e; simp [writeSegments]
  | cons s rest ih =>
    intro cur v₁ v₂ e
    cases hf : s.fault? raw (s.container cur) with
    | some e' => rw [writeSegments_cons_of_fault hf, writeSegments_cons_of_fault hf]
    | none =>
      rw [writeSegments_cons_of_step hf, writeSegments_cons_of_step hf, Except.map_eq_error_iff,
        Except.map_eq_error_iff]
      exact ih

/-- **Put-put.** A second write on the same path gives what writing its value alone gives. -/
theorem writeSegments_writeSegments : ∀ {segs : List Segment} {cur v₁ v₂ t₁ : Value},
    writeSegments raw segs cur v₁ = .ok t₁ →
      writeSegments raw segs t₁ v₂ = writeSegments raw segs cur v₂ := by
  intro segs
  induction segs with
  | nil =>
    intro cur v₁ v₂ t₁ h
    cases h
    rfl
  | cons s rest ih =>
    intro cur v₁ v₂ t₁ h
    obtain ⟨hf, c₁, hc₁, rfl⟩ := writeSegments_cons_eq_ok h
    have hcont := Segment.container_of_isNull_eq_false (s := s) (Segment.isNull_fill (x := c₁) hf)
    have hf₁ : s.fault? raw (s.container (s.fill (s.container cur) c₁)) = none := by
      rw [hcont]
      exact Segment.fault?_fill hf
    rw [writeSegments_cons_of_step hf₁, writeSegments_cons_of_step hf, hcont,
      Segment.slot_fill hf, ih hc₁]
    congr 1
    funext y
    exact Segment.fill_fill

/-- A write keeps sorted keys, when the value written has them. -/
theorem sortedKeys_writeSegments : ∀ {segs : List Segment} {cur v t : Value},
    cur.SortedKeys → v.SortedKeys → writeSegments raw segs cur v = .ok t → t.SortedKeys := by
  intro segs
  induction segs with
  | nil =>
    intro cur v t _ hv h
    cases h
    exact hv
  | cons s rest ih =>
    intro cur v t hcur hv h
    obtain ⟨-, c, hc, rfl⟩ := writeSegments_cons_eq_ok h
    have hcont := Segment.sortedKeys_container (s := s) hcur
    exact Segment.sortedKeys_fill hcont (ih (Segment.sortedKeys_slot hcont) hv hc)

theorem Except.exists_ok_iff {ε α : Type} {x : Except ε α} : (∃ a, x = .ok a) ↔ ∀ e, x ≠ .error e := by
  cases x <;> simp

theorem exists_writeSegments_ok_iff {segs : List Segment} {cur v₁ v₂ : Value} :
    (∃ t₁, writeSegments raw segs cur v₁ = .ok t₁) ↔ (∃ t₂, writeSegments raw segs cur v₂ = .ok t₂) := by
  rw [Except.exists_ok_iff, Except.exists_ok_iff]
  exact forall_congr' fun _ => not_congr writeSegments_eq_error_iff

end Laws

/-! ### Result placement -/

theorem placeResult_path {input result : Value} {text : String} {p : Path}
    (h : Path.parse text = .ok p) :
    placeResult input (.path text) result = if p.isRoot then .ok result else p.set input result := by
  simp only [placeResult, h]
  rfl

theorem select_of_isRoot {p : Path} {t : Value} (h : p.isRoot = true) : p.select t = some t := by
  obtain ⟨raw, segs⟩ := p
  cases segs with
  | nil => rfl
  | cons s rest => cases h

namespace Path

theorem select_set {p : Path} {t v t' : Value} (hidx : indexMeetsObject p.segments t = false)
    (hw : p.set t v = .ok t') :
    p.select t' = some v ∧
      ∀ (q : Path) (w : Value), ¬ q.segments <+: p.segments → ¬ p.segments <+: q.segments →
        q.select t = some w → q.select t' = some w :=
  ⟨select_writeSegments hidx hw, fun _ _ hqp hpq hq => select_writeSegments_of_apart hidx hw hqp hpq hq⟩

/-- **What a write reads back.**  After `p` writes `v` into `t`, with no position of `p`
meeting an object that was already in `t`, `p` reads `v`, and every path that neither extends
`p` nor is extended by it reads what it read in `t`.  So does result placement at a path, in
the state's input. -/
theorem select_after_set :
    (∀ (p : Path) (t v t' : Value), indexMeetsObject p.segments t = false →
      p.set t v = .ok t' →
      p.select t' = some v ∧
        ∀ (q : Path) (w : Value), ¬ q.segments <+: p.segments → ¬ p.segments <+: q.segments →
          q.select t = some w → q.select t' = some w) ∧
    (∀ (input result data : Value) (text : String) (p : Path), Path.parse text = .ok p →
      indexMeetsObject p.segments input = false →
      placeResult input (.path text) result = .ok data →
      p.select data = some result ∧
        ∀ (q : Path) (w : Value), ¬ q.segments <+: p.segments → ¬ p.segments <+: q.segments →
          q.select input = some w → q.select data = some w) := by
  refine ⟨fun _ _ _ _ => select_set, ?_⟩
  intro input result data text p hparse hidx hplace
  rw [placeResult_path hparse] at hplace
  split at hplace
  · next hroot =>
    cases hplace
    refine ⟨select_of_isRoot hroot, fun q _ _ hpq _ => absurd ?_ hpq⟩
    obtain ⟨raw, segs⟩ := p
    cases segs with
    | nil => exact List.nil_prefix
    | cons s rest => cases hroot
  · exact select_set hidx hplace

/-- Writing `7` at `$.b[1]` into `{"a": [1]}` builds the array `[null, 7]` under `b`: the path
reads `7` back and `$.a[0]` still reads `1`, through `Path.set` and through result placement. -/
theorem select_after_set_builds_array :
    indexMeetsObject [.key "b", .index 1] (.obj [("a", .arr [.num (.int 1)])]) = false ∧
      Path.set ⟨"$.b[1]", [.key "b", .index 1]⟩ (.obj [("a", .arr [.num (.int 1)])])
          (.num (.int 7)) =
        .ok (.obj [("a", .arr [.num (.int 1)]), ("b", .arr [.null, .num (.int 7)])]) ∧
      Path.parse "$.b[1]" = .ok ⟨"$.b[1]", [.key "b", .index 1]⟩ ∧
      placeResult (.obj [("a", .arr [.num (.int 1)])]) (.path "$.b[1]") (.num (.int 7)) =
        .ok (.obj [("a", .arr [.num (.int 1)]), ("b", .arr [.null, .num (.int 7)])]) ∧
      Path.select ⟨"$.b[1]", [.key "b", .index 1]⟩
          (.obj [("a", .arr [.num (.int 1)]), ("b", .arr [.null, .num (.int 7)])]) =
        some (.num (.int 7)) ∧
      Path.select ⟨"$.a[0]", [.key "a", .index 0]⟩
          (.obj [("a", .arr [.num (.int 1)]), ("b", .arr [.null, .num (.int 7)])]) =
        some (.num (.int 1)) := by
  have hidx : indexMeetsObject [.key "b", .index 1] (.obj [("a", .arr [.num (.int 1)])]) =
      false := by decide
  have hparse : Path.parse "$.b[1]" = .ok ⟨"$.b[1]", [.key "b", .index 1]⟩ :=
    Except.eq_ok_of_toOption (by decide +kernel)
  have hplace : placeResult (.obj [("a", .arr [.num (.int 1)])]) (.path "$.b[1]") (.num (.int 7)) =
      .ok (.obj [("a", .arr [.num (.int 1)]), ("b", .arr [.null, .num (.int 7)])]) := by
    rw [placeResult_path hparse]
    rfl
  obtain ⟨hread, hkeep⟩ := select_after_set.2 _ _ _ "$.b[1]" _ hparse hidx hplace
  exact ⟨hidx, rfl, hparse, hplace, hread,
    hkeep ⟨"$.a[0]", [.key "a", .index 0]⟩ _ (by decide) (by decide) rfl⟩

/-- **A write is a well-behaved update of one place.**  In a value with sorted keys, writing
back what a path reads changes nothing (get-put).  Whether a write succeeds does not depend on
the value written, and a second write through the same path gives what writing its value
alone gives (put-put).  Hence placing two results in turn with one `ResultPath` is placing the
second alone, and placing at a path what it reads keeps the input. -/
theorem set_lawful_update :
    (∀ (p : Path) (t w : Value), t.SortedKeys → p.select t = some w → p.set t w = .ok t) ∧
    (∀ (p : Path) (t v₁ v₂ : Value),
      (∃ t₁, p.set t v₁ = .ok t₁) ↔ (∃ t₂, p.set t v₂ = .ok t₂)) ∧
    (∀ (p : Path) (t v₁ v₂ t₁ : Value), p.set t v₁ = .ok t₁ → p.set t₁ v₂ = p.set t v₂) ∧
    (∀ (input r₁ r₂ data : Value) (spec : PathSpec), placeResult input spec r₁ = .ok data →
      placeResult data spec r₂ = placeResult input spec r₂) ∧
    (∀ (input w : Value) (text : String) (p : Path), input.SortedKeys →
      Path.parse text = .ok p → p.select input = some w →
      placeResult input (.path text) w = .ok input) := by
  refine ⟨fun _ _ _ => writeSegments_of_select, fun _ _ _ _ => exists_writeSegments_ok_iff,
    fun _ _ _ _ _ => writeSegments_writeSegments, ?_, ?_⟩
  · intro input r₁ r₂ data spec h
    cases spec with
    | omitted => rfl
    | null => cases h; rfl
    | path text =>
      cases hparse : Path.parse text with
      | error e =>
        simp only [placeResult, hparse] at h
        cases h
      | ok p =>
        rw [placeResult_path hparse] at h ⊢
        rw [placeResult_path hparse]
        split
        · rfl
        · next hroot =>
          rw [if_neg hroot] at h
          exact writeSegments_writeSegments h
  · intro input w text p hsorted hparse hread
    rw [placeResult_path hparse]
    split
    · next hroot =>
      rw [select_of_isRoot hroot] at hread
      cases hread
      rfl
    · exact writeSegments_of_select hsorted hread

/-- In `{"a": [1, {"b": 2}]}` the path `$.a[1].b` reads `2`.  Writing `2` back there, directly
or as a result placed at `$.a[1].b`, gives the value back; placing `"x"` and then `3` there is
placing `3`. -/
theorem set_lawful_update_at_nested_field :
    (Value.obj [("a", .arr [.num (.int 1), .obj [("b", .num (.int 2))]])]).SortedKeys ∧
      Path.parse "$.a[1].b" = .ok ⟨"$.a[1].b", [.key "a", .index 1, .key "b"]⟩ ∧
      Path.select ⟨"$.a[1].b", [.key "a", .index 1, .key "b"]⟩
          (.obj [("a", .arr [.num (.int 1), .obj [("b", .num (.int 2))]])]) =
        some (.num (.int 2)) ∧
      Path.set ⟨"$.a[1].b", [.key "a", .index 1, .key "b"]⟩
          (.obj [("a", .arr [.num (.int 1), .obj [("b", .num (.int 2))]])]) (.num (.int 2)) =
        .ok (.obj [("a", .arr [.num (.int 1), .obj [("b", .num (.int 2))]])]) ∧
      placeResult (.obj [("a", .arr [.num (.int 1), .obj [("b", .num (.int 2))]])])
          (.path "$.a[1].b") (.num (.int 2)) =
        .ok (.obj [("a", .arr [.num (.int 1), .obj [("b", .num (.int 2))]])]) ∧
      placeResult (.obj [("a", .arr [.num (.int 1), .obj [("b", .num (.int 2))]])])
          (.path "$.a[1].b") (.str "x") =
        .ok (.obj [("a", .arr [.num (.int 1), .obj [("b", .str "x")]])]) ∧
      placeResult (.obj [("a", .arr [.num (.int 1), .obj [("b", .str "x")]])])
          (.path "$.a[1].b") (.num (.int 3)) =
        placeResult (.obj [("a", .arr [.num (.int 1), .obj [("b", .num (.int 2))]])])
          (.path "$.a[1].b") (.num (.int 3)) := by
  have hsorted : (Value.obj [("a", .arr [.num (.int 1), .obj [("b", .num (.int 2))]])]).SortedKeys := by
    simp [Fields.Ascending, Value.SortedKeys, Value.SortedFields, Value.SortedItems]
  have hparse : Path.parse "$.a[1].b" = .ok ⟨"$.a[1].b", [.key "a", .index 1, .key "b"]⟩ :=
    Except.eq_ok_of_toOption (by decide +kernel)
  have hread : Path.select ⟨"$.a[1].b", [.key "a", .index 1, .key "b"]⟩
      (.obj [("a", .arr [.num (.int 1), .obj [("b", .num (.int 2))]])]) = some (.num (.int 2)) :=
    rfl
  have hfirst : placeResult (.obj [("a", .arr [.num (.int 1), .obj [("b", .num (.int 2))]])])
      (.path "$.a[1].b") (.str "x") =
        .ok (.obj [("a", .arr [.num (.int 1), .obj [("b", .str "x")]])]) := by
    rw [placeResult_path hparse]
    rfl
  obtain ⟨hgetput, -, -, hputput, hback⟩ := set_lawful_update
  exact ⟨hsorted, hparse, hread, hgetput _ _ _ hsorted hread,
    hback _ _ _ _ hsorted hparse hread, hfirst, hputput _ _ _ _ _ hfirst⟩

end Path

end Workflow
