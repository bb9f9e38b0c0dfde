import Workflow.Proofs.PathWrites
/-! # Resolving a parameter template

A state's `Parameters` template is resolved against the state's effective input
(`applyParameters`).  In an object, a field whose name ends in `.$` is a *path field*: its
value is the text of a path, and it binds the name without the suffix to what the path
selects in the input.  Any other field keeps its name and binds its value resolved in turn:
an object is resolved field by field, anything else, arrays included, is kept as it is.

This module describes the result of resolution without following its loop:

* a template that is not an object resolves to itself;
* an object resolves to the object whose binding for each name `n` is given by
  `templateBinding`: the selection of a field `n.$` when there is one, so that it wins over a
  field `n`, and otherwise the resolution of the field `n`;
* resolution fails exactly when some path field it meets (`pathFields`, in the order of the
  fields and depth first, not inside arrays) is faulty (`pathFieldFault`): its value is not a
  string, its string is not a path, or its path selects nothing; the failure reported is that
  of the first such field;
* a template with no path field at any depth of objects resolves to itself.

The objects of the program keep their keys sorted, so the order of the fields is the order of
their keys; the object part and the last part need that of the template.
-/

namespace Workflow

open Json

/-! ### The template's path fields -/

/-- Why a path field of a template cannot be resolved against `input`: its value is not a
string, its string is not a path, or its path selects nothing. -/
def pathFieldFault (input : Value) : String × Value → Option PathError
  | (_, .str path) =>
    match Path.parse path with
    | .error e => some e
    | .ok p => if (p.select input).isSome then none else some (.noMatch path)
  | (k, _) => some (.invalidParameter k)

mutual
/-- The path fields that resolving a template meets, in the order it meets them: the fields
of an object in turn, a path field itself and the path fields of any other field's value.
Arrays are not searched. -/
def pathFields : Value → List (String × Value)
  | .obj fs => pathFieldsOf fs
  | _ => []

/-- The path fields met in a list of fields. -/
def pathFieldsOf : List (String × Value) → List (String × Value)
  | [] => []
  | (k, v) :: rest =>
    (if (templateName? k).isSome then [(k, v)] else pathFields v) ++ pathFieldsOf rest
end

/-- What the path of a path field's value selects in `input`. -/
def pathSelection (input : Value) : Value → Option Value
  | .str path => (Path.parse path).toOption.bind fun p => p.select input
  | _ => none

/-- What a resolved template object binds to the name `n`: what the path of a field `n.$`
selects, when there is such a field; otherwise, for a name that does not itself end in `.$`,
the value of a field `n` resolved in turn. -/
def templateBinding (input : Value) (fs : Fields) (n : String) : Option Value :=
  match fs.get? (n ++ pathSuffix) with
  | some v => pathSelection input v
  | none =>
    if n.endsWith pathSuffix then none
    else (fs.get? n).bind fun v => (resolveTemplate input v).toOption

/-! ### Names of path fields -/

theorem pathSuffix_toList : pathSuffix.toList = ['.', '$'] := by
  simp [pathSuffix]

theorem endsWith_pathSuffix_iff {k : String} :
    k.endsWith pathSuffix = true ↔ ∃ n, k = n ++ pathSuffix := by
  rw [String.endsWith_eq_endsWith_toSlice, String.Slice.endsWith_string_iff,
    String.copy_toSlice]
  constructor
  · rintro ⟨l, hl⟩
    exact ⟨String.ofList l, by rw [← String.toList_inj, String.toList_append,
      String.toList_ofList, hl]⟩
  · rintro ⟨n, rfl⟩
    exact ⟨n.toList, by rw [String.toList_append]⟩

theorem templateName?_append (n : String) : templateName? (n ++ pathSuffix) = some n := by
  have hends : (n ++ pathSuffix).endsWith pathSuffix = true := endsWith_pathSuffix_iff.mpr ⟨n, rfl⟩
  simp only [templateName?, hends, if_true, Option.some.injEq]
  rw [← String.toList_inj, String.toList_ofList, String.toList_append, String.length_append,
    ← String.length_toList, ← String.length_toList, pathSuffix_toList]
  simp

theorem templateName?_eq_some_iff {k n : String} :
    templateName? k = some n ↔ k = n ++ pathSuffix := by
  constructor
  · intro h
    have hends : k.endsWith pathSuffix = true := by
      unfold templateName? at h
      split at h
      · assumption
      · cases h
    obtain ⟨m, rfl⟩ := endsWith_pathSuffix_iff.mp hends
    rw [templateName?_append] at h
    cases h
    rfl
  · rintro rfl
    exact templateName?_append n

theorem templateName?_eq_none_iff {k : String} :
    templateName? k = none ↔ k.endsWith pathSuffix = false := by
  unfold templateName?
  split
  · next h => simp [h]
  · next h => simpa using h

theorem lt_append_pathSuffix (n : String) : n < n ++ pathSuffix := by
  rw [String.lt_iff, String.toList_append, pathSuffix_toList]
  induction n.toList with
  | nil => exact List.nil_lt_cons _ _
  | cons c cs ih => exact List.cons_lt_cons_iff.mpr (.inr ⟨rfl, ih⟩)

/-! ### One field at a time -/

/-- The binding one field of a template makes: a path field `n.$` binds `n` to what its path
selects, its value being a path's text; any other field binds its own name to its value
resolved in turn. -/
def resolveField (input : Value) : String × Value → Except PathError (String × Value)
  | (k, v) =>
    match templateName? k, v with
    | some name, .str path => do return (name, ← selectRequired input path)
    | some _, _ => .error (.invalidParameter k)
    | none, v => do return (k, ← resolveTemplate input v)

section Steps

variable {input : Value}

theorem resolveTemplate_obj (fs : Fields) :
    resolveTemplate input (.obj fs) = (resolveFields input fs []).map .obj := by
  rw [resolveTemplate.eq_1]
  exact Except.bind_pure_eq_map _ _

theorem resolveTemplate_of_ne_obj {T : Value} (h : ∀ fs, T ≠ .obj fs) :
    resolveTemplate input T = .ok T :=
  resolveTemplate.eq_2 input T fun fs hfs => h fs hfs

theorem resolveFields_cons (k : String) (v : Value) (rest : List (String × Value)) (acc : Fields) :
    resolveFields input ((k, v) :: rest) acc =
      resolveField input (k, v) >>= fun b => resolveFields input rest (acc.insert b.1 b.2) := by
  rw [resolveFields.eq_def]
  dsimp only
  cases hk : templateName? k with
  | some name =>
    cases v <;> simp only [resolveField, hk]
    case str path => cases selectRequired input path <;> rfl
    all_goals rfl
  | none =>
    cases v <;> simp only [resolveField, hk]
    case obj fs =>
      rw [resolveTemplate_obj]
      cases resolveFields input fs [] <;> rfl
    all_goals rfl

theorem selectRequired_eq_error_iff {k path : String} {e : PathError} :
    selectRequired input path = .error e ↔ pathFieldFault input (k, .str path) = some e := by
  unfold selectRequired pathFieldFault
  cases hp : Path.parse path with
  | error e' => simp [hp, bind, Except.bind]
  | ok p =>
    cases hs : p.select input with
    | none => simp [hp, bind, Except.bind, hs, throw, throwThe, MonadExceptOf.throw]
    | some w => simp [hp, bind, Except.bind, hs, pure, Except.pure]

theorem pathSelection_of_selectRequired {path : String} {w : Value}
    (h : selectRequired input path = .ok w) : pathSelection input (.str path) = some w := by
  unfold selectRequired at h
  cases hp : Path.parse path with
  | error e => simp [hp, bind, Except.bind] at h
  | ok p =>
    cases hs : p.select input with
    | none => simp [hp, hs, bind, Except.bind, throw, throwThe, MonadExceptOf.throw] at h
    | some w' =>
      simp only [hp, hs, bind, Except.bind, pure, Except.pure, Except.ok.injEq] at h
      simp [pathSelection, hp, hs, h, Except.toOption]

theorem pathSelection_of_fault_eq_none {k : String} {u : Value}
    (h : pathFieldFault input (k, u) = none) : ∃ w, pathSelection input u = some w := by
  cases u with
  | str path =>
    unfold pathFieldFault at h
    cases hp : Path.parse path with
    | error e => simp [hp] at h
    | ok p =>
      cases hs : p.select input with
      | none => simp [hp, hs] at h
      | some w => exact ⟨w, by simp [pathSelection, hp, hs, Except.toOption]⟩
  | _ => simp [pathFieldFault] at h

/-- A field's binding fails exactly as the first faulty path field in it: the field itself
when it is a path field, else the first one in its value. -/
theorem resolveField_eq_error_iff {k : String} {v : Value} {e : PathError}
    (hv : ∀ e, resolveTemplate input v = .error e ↔
      (pathFields v).findSome? (pathFieldFault input) = some e) :
    resolveField input (k, v) = .error e ↔
      (if (templateName? k).isSome then [(k, v)] else pathFields v).findSome?
        (pathFieldFault input) = some e := by
  cases hk : templateName? k with
  | some name =>
    simp only [Option.isSome_some, if_true, List.findSome?_singleton]
    cases v with
    | str path =>
      simp only [resolveField, hk]
      rw [← selectRequired_eq_error_iff (k := k)]
      cases selectRequired input path <;> simp [bind, Except.bind, pure, Except.pure]
    | _ => simp [resolveField, hk, pathFieldFault]
  | none =>
    simp only [Option.isSome_none, Bool.false_eq_true, if_false]
    rw [← hv]
    simp only [resolveField, hk]
    cases resolveTemplate input v <;> simp [bind, Except.bind, pure, Except.pure]

/-- A field's binding succeeds as a path field, binding its name to what its path selects, or
as any other field, binding its own name to its value resolved. -/
theorem resolveField_eq_ok_iff {k m : String} {v w : Value} :
    resolveField input (k, v) = .ok (m, w) ↔
      (∃ path, templateName? k = some m ∧ v = .str path ∧ selectRequired input path = .ok w) ∨
        (templateName? k = none ∧ k = m ∧ resolveTemplate input v = .ok w) := by
  cases hk : templateName? k with
  | some name =>
    cases v with
    | str path =>
      simp only [resolveField, hk]
      cases hsel : selectRequired input path <;> simp [hsel, bind, Except.bind, pure, Except.pure]
    | _ => simp [resolveField, hk]
  | none =>
    simp only [resolveField, hk]
    cases resolveTemplate input v <;> simp [bind, Except.bind, pure, Except.pure]

end Steps

/-! ### When resolution fails -/

section Faults

variable (input : Value)

mutual
/-- **Resolution fails as its first faulty path field.** -/
theorem resolveTemplate_eq_error_iff : ∀ (T : Value) (e : PathError),
    resolveTemplate input T = .error e ↔ (pathFields T).findSome? (pathFieldFault input) = some e
  | .obj fs, e => by
    rw [resolveTemplate_obj, Except.map_eq_error_iff, pathFields]
    exact resolveFields_eq_error_iff fs [] e
  | .null, e | .bool _, e | .num _, e | .str _, e | .arr _, e => by
    rw [resolveTemplate_of_ne_obj fun _ h => Value.noConfusion h]
    simp [pathFields]

/-- Resolving fields fails as the first faulty path field among them, whatever was bound
before. -/
theorem resolveFields_eq_error_iff : ∀ (fs : List (String × Value)) (acc : Fields) (e : PathError),
    resolveFields input fs acc = .error e ↔
      (pathFieldsOf fs).findSome? (pathFieldFault input) = some e
  | [], acc, e => by simp [resolveFields, pathFieldsOf]
  | (k, v) :: rest, acc, e => by
    have hfield := fun {e'} =>
      @resolveField_eq_error_iff input k v e' (resolveTemplate_eq_error_iff v)
    rw [resolveFields_cons, Except.bind_eq_error_iff, pathFieldsOf, List.findSome?_append]
    cases hf : resolveField input (k, v) with
    | error e' =>
      rw [hfield.mp hf]
      simp
    | ok b =>
      have hnone : (if (templateName? k).isSome then [(k, v)] else pathFields v).findSome?
          (pathFieldFault input) = none := by
        cases h : (if (templateName? k).isSome then [(k, v)] else pathFields v).findSome?
            (pathFieldFault input) with
        | none => rfl
        | some e'' =>
          have := hfield.mpr h
          rw [hf] at this
          cases this
      rw [hnone]
      simp only [reduceCtorEq, false_or, Except.ok.injEq, exists_eq_left', Option.none_or]
      exact resolveFields_eq_error_iff rest _ e
end

end Faults

/-! ### Templates without path fields -/

section Plain

variable (input : Value)

mutual
/-- **A template with no path field resolves to itself**, when its objects keep their keys
sorted. -/
theorem resolveTemplate_of_pathFields_eq_nil : ∀ (T : Value), T.SortedKeys → pathFields T = [] →
    resolveTemplate input T = .ok T
  | .obj fs, hs, hp => by
    rw [resolveTemplate_obj, resolveFields_of_pathFieldsOf_eq_nil fs [] hs.2 hp]
    show Except.ok (Value.obj (Fields.ofList fs)) = _
    rw [Fields.ofList_of_ascending hs.1]
  | .null, _, _ | .bool _, _, _ | .num _, _, _ | .str _, _, _ | .arr _, _, _ =>
    resolveTemplate_of_ne_obj fun _ h => Value.noConfusion h

theorem resolveFields_of_pathFieldsOf_eq_nil : ∀ (fs : List (String × Value)) (acc : Fields),
    Value.SortedFields fs → pathFieldsOf fs = [] →
      resolveFields input fs acc = .ok (fs.foldl (fun a p => a.insert p.1 p.2) acc)
  | [], acc, _, _ => by rw [resolveFields.eq_1, List.foldl_nil]
  | (k, v) :: rest, acc, hs, hp => by
    rw [pathFieldsOf, List.append_eq_nil_iff] at hp
    obtain ⟨hfield, hrest⟩ := hp
    have hk : templateName? k = none := by
      cases h : templateName? k with
      | none => rfl
      | some _ => simp [h] at hfield
    have hv : pathFields v = [] := by simpa [hk] using hfield
    have hbind : resolveField input (k, v) = .ok (k, v) :=
      resolveField_eq_ok_iff.mpr (.inr ⟨hk, rfl, resolveTemplate_of_pathFields_eq_nil v hs.1 hv⟩)
    rw [resolveFields_cons, hbind]
    exact resolveFields_of_pathFieldsOf_eq_nil rest _ hs.2 hrest
end

end Plain

/-! ### What a resolved object binds -/

namespace Json

theorem Fields.get?_cons (k : String) (v : Value) (rest : List (String × Value)) (n : String) :
    Fields.get? ((k, v) :: rest) n = if k = n then some v else Fields.get? rest n := by
  by_cases h : k = n <;> simp [Fields.get?, h]

theorem Fields.get?_eq_none_of_lt {fs : List (String × Value)} {n : String}
    (h : ∀ p ∈ fs, n < p.1) : Fields.get? fs n = none := by
  cases hg : Fields.get? fs n with
  | none => rfl
  | some v => exact absurd (h _ (Fields.mem_of_get? hg)) (String.lt_irrefl n)

end Json

section Bindings

variable {input : Value}

theorem mem_pathFieldsOf {fs : List (String × Value)} {k : String} {u : Value} (hmem : (k, u) ∈ fs)
    (hk : (templateName? k).isSome = true) : (k, u) ∈ pathFieldsOf fs := by
  induction fs with
  | nil => cases hmem
  | cons q rest ih =>
    obtain ⟨k', v'⟩ := q
    rw [pathFieldsOf, List.mem_append]
    rcases List.mem_cons.mp hmem with h | h
    · cases h
      simp [hk]
    · exact .inr (ih h)

theorem pathSelection_of_resolveFields {fs : List (String × Value)} {acc gs : Fields}
    {n : String} {u : Value} (h : resolveFields input fs acc = .ok gs)
    (hmem : (n ++ pathSuffix, u) ∈ fs) : ∃ x, pathSelection input u = some x := by
  have hnone : (pathFieldsOf fs).findSome? (pathFieldFault input) = none := by
    cases hf : (pathFieldsOf fs).findSome? (pathFieldFault input) with
    | none => rfl
    | some e =>
      have := (resolveFields_eq_error_iff input fs acc e).mpr hf
      rw [h] at this
      cases this
  refine pathSelection_of_fault_eq_none (k := n ++ pathSuffix) ?_
  exact List.findSome?_eq_none_iff.mp hnone _
    (mem_pathFieldsOf hmem (by rw [templateName?_append]; rfl))

/-- A field that is neither `n.$` nor, for a name not ending in `.$`, the field `n` plays no
part in what `n` is bound to. -/
theorem templateBinding_cons_of_ne {k n : String} {v : Value} {rest : List (String × Value)}
    (h1 : k ≠ n ++ pathSuffix) (h2 : k = n → n.endsWith pathSuffix = true) :
    templateBinding input ((k, v) :: rest) n = templateBinding input rest n := by
  unfold templateBinding
  rw [Fields.get?_cons, if_neg h1]
  cases Fields.get? rest (n ++ pathSuffix) with
  | some u => rfl
  | none =>
    by_cases hn : n.endsWith pathSuffix = true
    · simp only [hn, if_true]
    · simp only [hn, Bool.false_eq_true, if_false]
      rw [Fields.get?_cons, if_neg fun h => hn (h2 h)]

theorem templateBinding_eq_none_of_lt {n : String} {fs : List (String × Value)}
    (h : ∀ p ∈ fs, n ++ pathSuffix < p.1) : templateBinding input fs n = none := by
  unfold templateBinding
  rw [Fields.get?_eq_none_of_lt h,
    Fields.get?_eq_none_of_lt fun p hp => String.lt_trans (lt_append_pathSuffix n) (h p hp)]
  simp

/-- Resolving a path field `name.$` ahead of greater keys binds `name` as `templateBinding`
says. -/
theorem templateBinding_cons_pathField {name n path : String} {w : Value}
    {rest : List (String × Value)} {acc : Fields} (hlt : ∀ p ∈ rest, name ++ pathSuffix < p.1)
    (hsel : selectRequired input path = .ok w) :
    (templateBinding input rest n).or ((acc.insert name w).get? n) =
      (templateBinding input ((name ++ pathSuffix, .str path) :: rest) n).or (acc.get? n) := by
  by_cases hn : n = name
  · subst hn
    rw [templateBinding_eq_none_of_lt hlt, Fields.get?_insert_self]
    simp [templateBinding, Fields.get?_cons, pathSelection_of_selectRequired hsel]
  · have hne : name ++ pathSuffix ≠ n ++ pathSuffix := fun h =>
      hn ((String.append_left_inj pathSuffix).mp h).symm
    rw [templateBinding_cons_of_ne hne fun h => endsWith_pathSuffix_iff.mpr ⟨name, h.symm⟩,
      Fields.get?_insert_of_ne _ hn]

/-- Resolving a field `k` that is no path field, ahead of greater keys, binds `k` as
`templateBinding` says, given that the path fields after it resolve. -/
theorem templateBinding_cons_plain {k n : String} {v w : Value} {rest : List (String × Value)}
    {acc : Fields} (hk : templateName? k = none) (hlt : ∀ p ∈ rest, k < p.1)
    (hv : resolveTemplate input v = .ok w)
    (hrest : ∀ u, (k ++ pathSuffix, u) ∈ rest → ∃ x, pathSelection input u = some x) :
    (templateBinding input rest n).or ((acc.insert k w).get? n) =
      (templateBinding input ((k, v) :: rest) n).or (acc.get? n) := by
  have hends : k.endsWith pathSuffix = false := templateName?_eq_none_iff.mp hk
  by_cases hn : n = k
  · subst hn
    have hself : n ≠ n ++ pathSuffix := String.ne_of_lt (lt_append_pathSuffix n)
    cases hget : Fields.get? rest (n ++ pathSuffix) with
    | some u =>
      obtain ⟨x, hx⟩ := hrest u (Fields.mem_of_get? hget)
      have hrb : templateBinding input rest n = some x := by
        simp [templateBinding, hget, hx]
      have hcb : templateBinding input ((n, v) :: rest) n = some x := by
        simp [templateBinding, Fields.get?_cons, hself, hget, hx]
      rw [hrb, hcb]
      rfl
    | none =>
      have hrb : templateBinding input rest n = none := by
        simp [templateBinding, hget, hends, Fields.get?_eq_none_of_lt hlt]
      have hcb : templateBinding input ((n, v) :: rest) n = some w := by
        simp [templateBinding, Fields.get?_cons, hself, hget, hends, hv, Except.toOption]
      rw [hrb, hcb, Fields.get?_insert_self]
      rfl
  · have hne : k ≠ n ++ pathSuffix := fun h => by
      rw [h, endsWith_pathSuffix_iff.mpr ⟨n, rfl⟩] at hends
      cases hends
    rw [templateBinding_cons_of_ne hne fun h => absurd h.symm hn, Fields.get?_insert_of_ne _ hn]

/-- **What resolved fields bind**: in fields with ascending keys, each name is bound as
`templateBinding` says, or as before when no field binds it. -/
theorem get?_resolveFields : ∀ {fs : List (String × Value)} {acc gs : Fields},
    Fields.Ascending fs → resolveFields input fs acc = .ok gs →
      ∀ n, gs.get? n = (templateBinding input fs n).or (acc.get? n)
  | [], acc, gs, _, h, n => by
    rw [resolveFields.eq_1] at h
    cases h
    simp [templateBinding, Fields.get?]
  | (k, v) :: rest, acc, gs, hasc, h, n => by
    rw [Fields.Ascending, List.pairwise_cons] at hasc
    obtain ⟨hlt, hasc'⟩ := hasc
    rw [resolveFields_cons, Except.bind_eq_ok_iff] at h
    obtain ⟨⟨m, w⟩, hfield, hrest⟩ := h
    rw [get?_resolveFields hasc' hrest n]
    rcases resolveField_eq_ok_iff.mp hfield with ⟨path, hk, rfl, hsel⟩ | ⟨hk, rfl, hv⟩
    · obtain rfl := templateName?_eq_some_iff.mp hk
      exact templateBinding_cons_pathField hlt hsel
    · exact templateBinding_cons_plain hk hlt hv fun u hu =>
        pathSelection_of_resolveFields hrest hu

theorem ascending_resolveFields : ∀ {fs : List (String × Value)} {acc gs : Fields},
    acc.Ascending → resolveFields input fs acc = .ok gs → gs.Ascending
  | [], acc, gs, hacc, h => by
    rw [resolveFields.eq_1] at h
    cases h
    exact hacc
  | (k, v) :: rest, acc, gs, hacc, h => by
    rw [resolveFields_cons, Except.bind_eq_ok_iff] at h
    obtain ⟨b, -, hrest⟩ := h
    exact ascending_resolveFields (hacc.insert b.1 b.2) hrest

/-- **A resolved object.**  A template object with ascending keys resolves to an object with
ascending keys that binds each name as `templateBinding` says. -/
theorem resolveTemplate_obj_eq_ok {fs : Fields} {R : Value} (hasc : fs.Ascending)
    (h : resolveTemplate input (.obj fs) = .ok R) :
    ∃ gs : Fields, R = .obj gs ∧ gs.Ascending ∧ ∀ n, gs.get? n = templateBinding input fs n := by
  rw [resolveTemplate_obj, Except.map_eq_ok_iff] at h
  obtain ⟨gs, hgs, rfl⟩ := h
  refine ⟨gs, rfl, ascending_resolveFields List.Pairwise.nil hgs, fun n => ?_⟩
  rw [get?_resolveFields hasc hgs n]
  simp [Fields.get?]

end Bindings

/-! ### Resolving a template -/

/-- **Resolving a template.**  A template that is not an object, an array included, resolves
to itself.  An object with ascending keys that resolves gives an object with ascending keys
that binds each name as `templateBinding` says, so that a field `n.$` wins over a field `n`.
Resolution fails exactly when a path field it meets is faulty, and then with the fault of the
first, in the order of the fields and depth first.  A template with sorted keys and no path
field at any depth of objects resolves to itself. -/
theorem applyParameters_resolves :
    (∀ (input T : Value), (∀ fs, T ≠ .obj fs) → applyParameters input (some T) = .ok T) ∧
    (∀ (input : Value) (fs : Fields) (R : Value), fs.Ascending →
      applyParameters input (some (.obj fs)) = .ok R →
        ∃ gs : Fields, R = .obj gs ∧ gs.Ascending ∧ ∀ n, gs.get? n = templateBinding input fs n) ∧
    (∀ (input T : Value) (e : PathError), applyParameters input (some T) = .error e ↔
      (pathFields T).findSome? (pathFieldFault input) = some e) ∧
    (∀ (input T : Value), T.SortedKeys → pathFields T = [] →
      applyParameters input (some T) = .ok T) :=
  ⟨fun _ _ h => resolveTemplate_of_ne_obj h,
    fun _ _ _ hasc h => resolveTemplate_obj_eq_ok hasc h,
    fun input T e => resolveTemplate_eq_error_iff input T e,
    fun input T hs hp => resolveTemplate_of_pathFields_eq_nil input T hs hp⟩

/-- Against the input \x7b"x": 5\x7d: a text template is kept; in \x7b"a": 1, "a.$": "$.x"\x7d
the path field wins and binds \x7b"a": 5\x7d; a path field holding a number fails with its own
name; and a path field inside an array is not resolved. -/
theorem applyParameters_resolves_path_field_wins :
    applyParameters (.obj [("x", .num (.int 5))]) (some (.str "$.x")) = .ok (.str "$.x") ∧
      applyParameters (.obj [("x", .num (.int 5))])
          (some (.obj [("a", .num (.int 1)), ("a.$", .str "$.x")])) =
        .ok (.obj [("a", .num (.int 5))]) ∧
      templateBinding (.obj [("x", .num (.int 5))])
          [("a", .num (.int 1)), ("a.$", .str "$.x")] "a" = some (.num (.int 5)) ∧
      applyParameters (.obj [("x", .num (.int 5))]) (some (.obj [("a.$", .num (.int 42))])) =
        .error (.invalidParameter "a.$") ∧
      applyParameters (.obj [("x", .num (.int 5))])
          (some (.obj [("b", .arr [.obj [("c.$", .str "$.y")]])])) =
        .ok (.obj [("b", .arr [.obj [("c.$", .str "$.y")]])]) := by
  obtain ⟨hplain, hobj, hfault, hnone⟩ := applyParameters_resolves
  have hplainKey : templateName? "a" = none := by decide +kernel
  have hpathKey : templateName? "a.$" = some "a" := by decide +kernel
  have hsel : selectRequired (.obj [("x", .num (.int 5))]) "$.x" = .ok (.num (.int 5)) :=
    Except.eq_ok_of_toOption (by decide +kernel)
  have hres : applyParameters (.obj [("x", .num (.int 5))])
      (some (.obj [("a", .num (.int 1)), ("a.$", .str "$.x")])) =
        .ok (.obj [("a", .num (.int 5))]) := by
    simp [applyParameters, resolveTemplate, resolveFields, hplainKey, hpathKey, hsel, bind,
      Except.bind, pure, Except.pure]
    decide
  have hasc : Fields.Ascending [("a", .num (.int 1)), ("a.$", .str "$.x")] :=
    List.pairwise_pair.mpr (by decide : "a" < "a.$")
  have hsorted : (Value.obj [("b", .arr [.obj [("c.$", .str "$.y")]])]).SortedKeys := by
    simp [Fields.Ascending, Value.SortedKeys, Value.SortedFields, Value.SortedItems]
  obtain ⟨gs, hgs, -, hbind⟩ := hobj _ _ _ hasc hres
  cases hgs
  refine ⟨hplain _ _ (fun _ h => by cases h), hres, ?_, (hfault _ _ _).mpr (by decide +kernel),
    hnone _ _ hsorted rfl⟩
  rw [← hbind]
  rfl

end Workflow
