import Workflow.Proofs.TextDecoding
import Workflow.Machine.File
import Workflow.Machine.Encode
/-! # Definitions read back from their JSON form

`Catalog.toValue` writes a catalog as JSON and `Catalog.ofJson` reads one.  A catalog read
from any text is read back, field by field, from the text its JSON form renders to
(`Catalog.ofJson_render_toValue`): a path field left out stays left out and one set to `null`
stays `null`; optional fields, rule lists, environments and raw values come back; a kind
name the reader did not know stays unknown.  The one assumption is the printer's own: every
double it writes reads back as itself (`FloatReadsBack`).

The proof has two halves.

* What the readers give fits (`State.Fits`, `Machine.Fits`, `Catalog.Fits`): the keys of
  maps ascend, optional raw values are never `null`, attempt counts fit in 32 bits, and raw
  values are canonical at the nesting room they were read with.  Each field read keeps this,
  so each record reader gives it (`sound_state`, `sound_machine`, `Catalog.fits_of_ofJson`).
* From a definition that fits, the readers read back its JSON form (`reads_state`,
  `reads_machine`, `reads_catalog`).  A record is written as the object of the fields that
  carry something, in key order; `State.mix s seen` is what the reader holds once it has
  read the fields at positions `seen`, and it is `s` once every written field is read.
-/

namespace Workflow

open Json Json.Reader Json.NumberText Decode Decode.TextDecode

/-! ## What read definitions satisfy -/

/-- A retry rule as the reader gives it: its attempt count fits in 32 bits. -/
def RetryRule.Fits (r : RetryRule) : Prop := ∀ m ∈ r.maxAttempts, m ≤ u32Max

/-- A state as the reader gives it, its fields read with nesting room `n`: optional raw
values are not `null` and are canonical there, the items of `Choices` and `Branches` one
level further in; retry rules fit and the environment's names ascend. -/
structure State.Fits (n : Nat) (s : State) : Prop where
  parameters : ∀ v ∈ s.parameters, v ≠ .null ∧ v.Canonical n
  retriers : ∀ r ∈ s.retriers, r.Fits
  environment : s.environment.Pairwise (fun p q => p.1 < q.1)
  result : ∀ v ∈ s.result, v ≠ .null ∧ v.Canonical n
  seconds : ∀ v ∈ s.seconds, v ≠ .null ∧ v.Canonical n
  choices : ∀ v ∈ s.choices, v.Canonical (n - 1)
  branches : ∀ v ∈ s.branches, v.Canonical (n - 1)

/-- A machine as the reader gives it, its fields read with nesting room `n`: the names of
its states ascend, and each state's fields were read two levels further in. -/
structure Machine.Fits (n : Nat) (m : Machine) : Prop where
  states : ∀ p ∈ m.states, p.2.Fits (n - 2)
  sorted : m.states.Pairwise (fun p q => p.1 < q.1)

/-- A catalog as the reader gives it from a whole text: its keys ascend, and each machine's
fields were read with the room left three levels in. -/
structure Catalog.Fits (c : Catalog) : Prop where
  machines : ∀ p ∈ c.entries, p.2.machine.Fits 125
  sorted : c.entries.Pairwise (fun p q => p.1 < q.1)

theorem State.fits_default (n : Nat) : State.Fits n {} :=
  ⟨by simp, by simp, List.Pairwise.nil, by simp, by simp, by simp, by simp⟩

theorem Machine.fits_default (n : Nat) : Machine.Fits n {} :=
  ⟨by simp, List.Pairwise.nil⟩

/-! ### Each field read keeps what its record satisfies -/

namespace Json.Reader

variable {α β : Type}

/-- A slot filled with what a reader gives satisfies what the reader's results do. -/
theorem Sound.bind_pure {P : Nat → β → Prop} {R : Nat → α → Prop} {r : Reader β}
    {f : β → α} (hr : Sound P r) (h : ∀ n b, P n b → R n (f b)) :
    Sound R (r >>= fun b => pure (f b)) :=
  hr.bind fun b => sound_pure fun n hb => h n b hb

end Json.Reader

theorem keepsRoom_optionalString : KeepsRoom (optionalString : Reader (Option String)) :=
  (sound_option (sound_text _)).imp fun _ _ _ => trivial

theorem keepsRoom_pathSpec : KeepsRoom (PathSpec.decode : Reader PathSpec) := by
  refine KeepsRoom.bind keepsRoom_optionalString fun o => ?_
  split
  · exact sound_pure fun _ => trivial
  · exact sound_pure fun _ => trivial

theorem keepsRoom_stateKind : KeepsRoom (StateKind.decode : Reader StateKind) :=
  Sound.bind_pure sound_unitVariant fun _ _ _ => trivial

theorem RetryRule.sound_read (r : RetryRule) (i : Nat) :
    Sound (fun _ r' => r.Fits → r'.Fits) (RetryRule.spec.read r i : Reader RetryRule) := by
  match i with
  | 0 => exact Sound.bind_pure (sound_option (sound_seq (sound_text _))) fun _ _ _ h => h
  | 1 => exact Sound.bind_pure (sound_option (sound_unsigned _ _)) fun _ _ hm _ => hm
  | 2 => exact Sound.bind_pure (sound_option sound_double) fun _ _ _ h => h
  | _ + 3 => exact Sound.bind_pure (sound_option sound_double) fun _ _ _ h => h

theorem sound_retryRule :
    Sound (fun n r => 2 ≤ n ∧ r.Fits) (Decoder.record RetryRule.spec : Reader RetryRule) :=
  sound_record (fun _ _ h => nomatch h) RetryRule.sound_read fun _ _ h => h

theorem keepsRoom_catchRule : KeepsRoom (Decoder.record CatchRule.spec : Reader CatchRule) := by
  refine (sound_record (I := fun _ _ => True) (Q := fun _ _ => True) (fun _ => trivial)
    (fun c i => ?_) fun _ _ _ => trivial).imp fun _ _ _ => trivial
  match i with
  | 0 => exact Sound.bind_pure (sound_option (sound_seq (sound_text _))) fun _ _ _ _ => trivial
  | 1 => exact Sound.bind_pure (sound_text _) fun _ _ _ _ => trivial
  | _ + 2 => exact Sound.bind_pure keepsRoom_pathSpec fun _ _ _ _ => trivial

/-- Reading a state's field keeps `State.Fits`: the fields it mentions are read by readers
that give what it asks, and the others leave it as it was. -/
theorem State.sound_readField (st : State) (i : Nat) :
    Sound (fun n s => st.Fits n → s.Fits n) (State.readField st i : Reader State) := by
  match i with
  | 0 => exact Sound.bind_pure keepsRoom_stateKind fun _ _ _ h => { h with }
  | 1 => exact Sound.bind_pure keepsRoom_optionalString fun _ _ _ h => { h with }
  | 2 => exact Sound.bind_pure keepsRoom_pathSpec fun _ _ _ h => { h with }
  | 3 => exact Sound.bind_pure sound_option_value fun _ _ hv h => { h with parameters := hv }
  | 4 => exact Sound.bind_pure keepsRoom_pathSpec fun _ _ _ h => { h with }
  | 5 => exact Sound.bind_pure keepsRoom_pathSpec fun _ _ _ h => { h with }
  | 6 => exact Sound.bind_pure keepsRoom_optionalString fun _ _ _ h => { h with }
  | 7 => exact Sound.bind_pure sound_bool fun _ _ _ h => { h with }
  | 8 =>
    exact Sound.bind_pure (sound_seq sound_retryRule) fun _ _ hrs h =>
      { h with retriers := fun r hr => (hrs.2 r hr).2 }
  | 9 => exact Sound.bind_pure (sound_seq keepsRoom_catchRule) fun _ _ _ h => { h with }
  | 10 => exact Sound.bind_pure keepsRoom_optionalString fun _ _ _ h => { h with }
  | 11 => exact Sound.bind_pure keepsRoom_optionalString fun _ _ _ h => { h with }
  | 12 =>
    exact Sound.bind_pure (sound_map (sound_text _)) fun _ _ henv h =>
      { h with environment := henv.2.1 }
  | 13 => exact Sound.bind_pure sound_option_value fun _ _ hv h => { h with result := hv }
  | 14 => exact Sound.bind_pure sound_option_value fun _ _ hv h => { h with seconds := hv }
  | 15 => exact Sound.bind_pure keepsRoom_optionalString fun _ _ _ h => { h with }
  | 16 => exact Sound.bind_pure keepsRoom_optionalString fun _ _ _ h => { h with }
  | 17 => exact Sound.bind_pure keepsRoom_optionalString fun _ _ _ h => { h with }
  | 18 => exact Sound.bind_pure (sound_seq sound_value) fun _ _ hvs h => { h with choices := hvs.2 }
  | 19 => exact Sound.bind_pure keepsRoom_optionalString fun _ _ _ h => { h with }
  | 20 => exact Sound.bind_pure keepsRoom_optionalString fun _ _ _ h => { h with }
  | 21 => exact Sound.bind_pure keepsRoom_optionalString fun _ _ _ h => { h with }
  | _ + 22 =>
    exact Sound.bind_pure (sound_seq sound_value) fun _ _ hvs h => { h with branches := hvs.2 }

/-- A state is read with room to spare, and fits at the room its fields were read with. -/
theorem sound_state :
    Sound (fun n s => 2 ≤ n ∧ s.Fits (n - 1)) (Decoder.record State.spec : Reader State) :=
  sound_record State.fits_default State.sound_readField fun _ _ h => h

theorem Machine.sound_read (mc : Machine) (i : Nat) :
    Sound (fun n m => mc.Fits n → m.Fits n) (Machine.spec.read mc i : Reader Machine) := by
  match i with
  | 0 => exact Sound.bind_pure (sound_text _) fun _ _ _ h => { h with }
  | 1 =>
    exact Sound.bind_pure (sound_map sound_state) fun _ _ hs _ =>
      ⟨fun p hp => (hs.2.2 p hp).2, hs.2.1⟩
  | _ + 2 => exact Sound.bind_pure keepsRoom_optionalString fun _ _ _ h => { h with }

theorem sound_machine :
    Sound (fun n m => 2 ≤ n ∧ m.Fits (n - 1)) (Machine.decode : Reader Machine) :=
  sound_record Machine.fits_default Machine.sound_read fun _ _ h => h

theorem sound_catalogEntry :
    Sound (fun n e => 2 ≤ n ∧ e.machine.Fits (n - 1 - 1))
      (Decoder.record CatalogEntry.spec : Reader CatalogEntry) := by
  refine sound_record (I := fun n (e : CatalogEntry) => e.machine.Fits (n - 1))
    (Q := fun n (e : CatalogEntry) => e.machine.Fits (n - 1)) (fun n => Machine.fits_default _)
    (fun e i => ?_) fun _ _ h => h
  match i with
  | 0 => exact Sound.bind_pure keepsRoom_optionalString fun _ _ _ h => h
  | _ + 1 => exact Sound.bind_pure sound_machine fun _ _ hm _ => hm.2

/-- **What a catalog read from a text satisfies.**  Every catalog `Catalog.ofJson` gives has
its keys in order, and each of its machines fits. -/
theorem Catalog.fits_of_ofJson {text : String} {c : Catalog} (h : Catalog.ofJson text = .ok c) :
    c.Fits := by
  have hrun : Reader.run (Catalog.decode : Reader Catalog) text = .ok c := by
    unfold Catalog.ofJson decodeText at h
    cases hr : Reader.run (Catalog.decode : Reader Catalog) text with
    | error e =>
      rw [hr] at h
      cases h
    | ok c' =>
      rw [hr] at h
      cases h
      rfl
  obtain ⟨c₁, -, hdec, -⟩ := run_eq_ok hrun
  have hsound : Sound (fun n c => 2 ≤ n ∧ c.entries.Pairwise (fun p q => p.1 < q.1) ∧
      ∀ p ∈ c.entries, 2 ≤ n - 1 ∧ p.2.machine.Fits (n - 1 - 1 - 1))
      (Catalog.decode : Reader Catalog) :=
    Sound.bind_pure (sound_map sound_catalogEntry) fun _ _ h => h
  obtain ⟨⟨-, hasc, hentries⟩, -⟩ := hsound _ c c₁ hdec
  exact ⟨fun p hp => (hentries p hp).2, hasc⟩

/-! ## Reading written definitions back -/

/-! ### Heads and doubles of written values -/

/-- Only `null` is written starting with `n`. -/
theorem Value.render_head_ne_n {v : Value} (hv : v ≠ .null)
    (hf : ∀ b ∈ v.doubles, FloatReadsBack b) :
    ∃ ch t, v.render.toList = ch :: t ∧ ch ≠ 'n' ∧ ¬ IsBlank ch := by
  obtain ⟨ch, t, ht, hs⟩ := Value.render_head v hf
  refine ⟨ch, t, ht, ?_, (Value.ValueStart.not_blank hs).1⟩
  rintro rfl
  have key : ∀ {c : Char} {s : List Char}, v.render.toList = c :: s → c ≠ 'n' → False :=
    fun h hc => hc (List.cons.inj (h.symm.trans ht)).1
  cases v with
  | null => exact hv rfl
  | bool b =>
    cases b
    · exact key (c := 'f') rfl (by decide)
    · exact key (c := 't') rfl (by decide)
  | num n =>
    cases n with
    | int i =>
      by_cases hi : 0 ≤ i
      · obtain ⟨d, ds, hds, hd⟩ := Value.toDigits_head i.toNat
        exact key (by rw [Value.render, Value.int_toList, if_pos hi, hds]) (Value.digit_ne hd).1
      · exact key (c := '-') (by rw [Value.render, Value.int_toList, if_neg hi]) (by decide)
    | float b =>
      obtain ⟨positive, d, t', htext, hd, -⟩ := (hf b (by simp [Value.doubles])).reads
      cases positive
      · exact key (c := '-') (by rw [Value.render, htext]; rfl) (by decide)
      · exact key (c := d) (by rw [Value.render, htext]; rfl) (Value.digit_ne hd).1
  | str s => exact key (Reader.quote_toList s) (by decide)
  | arr xs => exact key (Value.render_arr_toList xs) (by decide)
  | obj fs => exact key (Value.render_obj_toList fs) (by decide)

theorem Value.mem_doublesFields {b : UInt64} {fs : List (String × Value)} :
    b ∈ Value.doublesFields fs ↔ ∃ p ∈ fs, b ∈ p.2.doubles := by
  induction fs with
  | nil => simp [Value.doublesFields]
  | cons p fs ih =>
    obtain ⟨k, v⟩ := p
    simp [Value.doublesFields, ih]

/-- The doubles of a field's value are doubles of its object. -/
theorem Value.mem_doubles_obj {fs : List (String × Value)} {p : String × Value} (hp : p ∈ fs)
    {b : UInt64} (hb : b ∈ p.2.doubles) : b ∈ (Value.obj fs).doubles := by
  rw [Value.doubles, Value.mem_doublesFields]
  exact ⟨p, hp, hb⟩

/-- The doubles of an item are doubles of its array. -/
theorem Value.mem_doubles_arr {xs : List Value} {x : Value} (hx : x ∈ xs) {b : UInt64}
    (hb : b ∈ x.doubles) : b ∈ (Value.arr xs).doubles := by
  rw [Value.doubles, mem_doublesItems]
  exact ⟨x, hx, hb⟩

/-- A map written as an object, from entries whose keys ascend, is written in their order. -/
theorem Value.object_map {β : Type} (kas : List (String × β)) (enc : β → Value)
    (h : kas.Pairwise (fun p q => p.1 < q.1)) :
    Value.object (kas.map fun p => (p.1, enc p.2)) =
      Value.obj (kas.map fun p => (p.1, enc p.2)) := by
  rw [Value.object, Fields.ofList_of_ascending (List.pairwise_map.mpr h)]

/-! ### Fields read into their slots -/

namespace Json.Reader

variable {α β : Type} {room : Nat}

/-- A reader that reads `t` as `b`, followed by a continuation that gives `a` for `b`. -/
theorem Reads.bind_of_eq {r : Reader β} {f : β → Reader α} {t : List Char} {b : β} {a : α}
    (h : Reads room r t b) (hf : f b = pure a) : Reads room (r >>= f) t a := by
  intro c hc rest ht hr
  obtain ⟨c₁, h₁, hr₁, hm₁⟩ := h c hc rest ht hr
  exact ⟨c₁, by simp [h₁, hf], hr₁, hm₁⟩

/-- A slot filled from a reader that reads the field's text. -/
theorem Reads.set {r : Reader β} {t : List Char} {b : β} {a : α} (h : Reads room r t b)
    (f : β → α) (hf : f b = a) : Reads room (r >>= fun x => pure (f x)) t a :=
  hf ▸ h.bind_pure f

end Json.Reader

section Scalars

variable {α : Type} {room : Nat}

/-- Any value but `null` is read by an optional reader as present. -/
theorem reads_option_of_ne_null {r : Reader α} {v : Value} {a : α}
    (h : Reads room r v.render.toList a) (hv : v ≠ .null)
    (hf : ∀ b ∈ v.doubles, FloatReadsBack b) :
    Reads room (Decoder.option r) v.render.toList (some a) := by
  obtain ⟨ch, t, ht, hn, hb⟩ := Value.render_head_ne_n hv hf
  exact reads_option_some h ht hn hb

theorem reads_optionalString (x : String) :
    Reads room (optionalString : Reader (Option String)) (Value.str x).render.toList (some x) :=
  reads_option_of_ne_null (reads_text _ x) nofun fun b hb => by simp [Value.doubles] at hb

theorem reads_errorNames (xs : List String) (hroom : 2 ≤ room) :
    Reads room (errorNames : Reader (Option (List String))) (stringsValue xs).render.toList
      (some xs) :=
  reads_option_of_ne_null
    (reads_seq hroom (fun x _ => reads_text _ x) fun _ _ b hb => by simp [Value.doubles] at hb)
    nofun fun b hb => by
      simp only [stringsValue, Value.doubles, mem_doublesItems, List.mem_map] at hb
      obtain ⟨_, ⟨x, _, rfl⟩, hb⟩ := hb
      simp [Value.doubles] at hb

theorem reads_pathSpec {p : PathSpec} (hp : p ≠ .omitted) :
    Reads room (PathSpec.decode : Reader PathSpec) p.toValue.render.toList p := by
  cases p with
  | omitted => exact absurd rfl hp
  | null => exact (reads_option_none _).bind_of_eq rfl
  | path s => exact (reads_optionalString s).bind_of_eq rfl

theorem StateKind.ofName_name (k : StateKind) : StateKind.ofName k.name = k := by
  cases k <;> rfl

theorem reads_stateKind (k : StateKind) :
    Reads room (StateKind.decode : Reader StateKind) (Value.str k.name).render.toList k :=
  (reads_unitVariant k.name).set StateKind.ofName (StateKind.ofName_name k)

end Scalars

/-! ### Records read back field by field

A record is written as the object of the fields that carry something.  `FieldsReadBack`
says each of a list of fields is read into the slots from its text, `FieldsSeen` that each
has been read by the time the fields run out; both split along the lists the writer
appends, and each kind of field the writer emits has its lemma. -/

section Records

variable {σ α β : Type} {spec : RecordSpec Reader σ α} {mix : List Nat → σ} {room : Nat}
  {fields : List String} {seen : List Nat} {k : String} {i : Nat}

/-- Each field of `l` whose doubles read back is read from its text into the slots, at its
position `i` among the record's field names: from the slots after `seen` to those after
`i :: seen`. -/
def FieldsReadBack (spec : RecordSpec Reader σ α) (mix : List Nat → σ) (room : Nat)
    (l : List (String × Value)) : Prop :=
  ∀ p ∈ l, (∀ b ∈ p.2.doubles, FloatReadsBack b) →
    ∃ i, fieldIndex spec.fields p.1 = some i ∧
      ∀ seen, Reads room (spec.read (mix seen) i) p.2.render.toList (mix (i :: seen))

theorem FieldsReadBack.append {l₁ l₂ : List (String × Value)}
    (h₁ : FieldsReadBack spec mix room l₁) (h₂ : FieldsReadBack spec mix room l₂) :
    FieldsReadBack spec mix room (l₁ ++ l₂) := by
  intro p hp
  rcases List.mem_append.mp hp with hp | hp
  · exact h₁ p hp
  · exact h₂ p hp

theorem FieldsReadBack.cons {p : String × Value} {l : List (String × Value)}
    (h₁ : FieldsReadBack spec mix room [p]) (h₂ : FieldsReadBack spec mix room l) :
    FieldsReadBack spec mix room (p :: l) :=
  FieldsReadBack.append h₁ h₂

theorem fieldsReadBack_nil : FieldsReadBack spec mix room [] :=
  fun _ hp => absurd hp List.not_mem_nil

theorem fieldsReadBack_single {v : Value} (hi : fieldIndex spec.fields k = some i)
    (h : (∀ b ∈ v.doubles, FloatReadsBack b) →
      ∀ seen, Reads room (spec.read (mix seen) i) v.render.toList (mix (i :: seen))) :
    FieldsReadBack spec mix room [(k, v)] := by
  intro p hp hd
  rw [List.mem_singleton] at hp
  subst hp
  exact ⟨i, hi, h hd⟩

theorem fieldsReadBack_optField {o : Option Value}
    (h : ∀ v, o = some v → FieldsReadBack spec mix room [(k, v)]) :
    FieldsReadBack spec mix room (optField k o) := by
  cases o with
  | none => exact fieldsReadBack_nil
  | some v => exact h v rfl

theorem fieldsReadBack_optField_map {o : Option β} {enc : β → Value}
    (h : ∀ x, o = some x → FieldsReadBack spec mix room [(k, enc x)]) :
    FieldsReadBack spec mix room (optField k (o.map enc)) := by
  cases o with
  | none => exact fieldsReadBack_nil
  | some x => exact h x rfl

theorem fieldsReadBack_pathField {p : PathSpec}
    (h : p ≠ .omitted → FieldsReadBack spec mix room [(k, p.toValue)]) :
    FieldsReadBack spec mix room (pathField k p) := by
  cases p with
  | omitted => exact fieldsReadBack_nil
  | null => exact h nofun
  | path s => exact h nofun

theorem fieldsReadBack_listField {xs : List Value}
    (h : xs ≠ [] → FieldsReadBack spec mix room [(k, .arr xs)]) :
    FieldsReadBack spec mix room (listField k xs) := by
  unfold listField
  split
  · exact fieldsReadBack_nil
  · rename_i hne
    exact h fun h' => hne (by simp [h'])

/-- Every field of `l` has been read: its position is among `seen`. -/
def FieldsSeen (fields : List String) (seen : List Nat) (l : List (String × Value)) : Prop :=
  ∀ p ∈ l, ∀ j, fieldIndex fields p.1 = some j → j ∈ seen

theorem fieldsSeen_append {l₁ l₂ : List (String × Value)} :
    FieldsSeen fields seen (l₁ ++ l₂) ↔
      FieldsSeen fields seen l₁ ∧ FieldsSeen fields seen l₂ := by
  simp only [FieldsSeen, List.forall_mem_append]

theorem FieldsSeen.single {v : Value} (h : FieldsSeen fields seen [(k, v)])
    (hi : fieldIndex fields k = some i) : i ∈ seen :=
  h _ List.mem_cons_self i hi

theorem FieldsSeen.optMap_eq {o : Option β} {enc : β → Value}
    (h : FieldsSeen fields seen (optField k (o.map enc))) (hi : fieldIndex fields k = some i) :
    (if i ∈ seen then o else none) = o := by
  cases o with
  | none => exact ite_self _
  | some x => exact if_pos (FieldsSeen.single h hi)

theorem FieldsSeen.opt_eq {o : Option Value} (h : FieldsSeen fields seen (optField k o))
    (hi : fieldIndex fields k = some i) : (if i ∈ seen then o else none) = o := by
  have h' : FieldsSeen fields seen (optField k (o.map id)) := by rwa [Option.map_id]
  exact h'.optMap_eq hi

theorem FieldsSeen.path_eq {p : PathSpec} (h : FieldsSeen fields seen (pathField k p))
    (hi : fieldIndex fields k = some i) : (if i ∈ seen then p else .omitted) = p := by
  cases p with
  | omitted => exact ite_self _
  | null => exact if_pos (FieldsSeen.single h hi)
  | path s => exact if_pos (FieldsSeen.single h hi)

theorem FieldsSeen.listMap_eq {xs : List β} {enc : β → Value}
    (h : FieldsSeen fields seen (listField k (xs.map enc))) (hi : fieldIndex fields k = some i) :
    (if i ∈ seen then xs else []) = xs := by
  cases xs with
  | nil => exact ite_self _
  | cons x xs => exact if_pos (FieldsSeen.single h hi)

theorem FieldsSeen.list_eq {xs : List Value} (h : FieldsSeen fields seen (listField k xs))
    (hi : fieldIndex fields k = some i) : (if i ∈ seen then xs else []) = xs := by
  have h' : FieldsSeen fields seen (listField k (xs.map id)) := by rwa [List.map_id]
  exact h'.listMap_eq hi

/-- **A record is read back from the object of its written fields.**  Each written field is
read into the slots; once they are all read, no required field is missing and the slots
build the record. -/
theorem reads_object (mix : List Nat → σ) (a : α) {L : List (String × Value)}
    (hroom : 2 ≤ room) (hinit : mix [] = spec.init)
    (hfield : FieldsReadBack spec mix (room - 1) L)
    (hf : ∀ b ∈ (Value.object L).doubles, FloatReadsBack b)
    (hend : ∀ seen, FieldsSeen spec.fields seen L →
      firstMissing spec.fields spec.required seen = none ∧ spec.build (mix seen) = a) :
    Reads room (Decoder.record spec) (Value.object L).render.toList a := by
  refine reads_record mix a hroom hinit
    ((Fields.ascending_ofList L).imp fun h => String.ne_of_lt h) (fun p hp => ?_)
    fun seen hseen => hend seen ?_
  · exact hfield p (Fields.mem_ofList hp) fun b hb => hf b (Value.mem_doubles_obj hp hb)
  · rintro ⟨k, v⟩ hp j hj
    obtain ⟨v', hv'⟩ := Fields.exists_mem_ofList hp
    exact (hseen j).mpr ⟨(k, v'), hv', hj⟩

end Records

/-! ### Rules -/

section Rules

variable {room : Nat}

/-- A retry rule's slots once the fields at positions `seen` are read from its JSON form. -/
def RetryRule.mix (r : RetryRule) (seen : List Nat) : RetryRule where
  errorEquals := if 0 ∈ seen then r.errorEquals else none
  maxAttempts := if 1 ∈ seen then r.maxAttempts else none
  intervalSeconds := if 2 ∈ seen then r.intervalSeconds else none
  backoffRate := if 3 ∈ seen then r.backoffRate else none

theorem reads_retryRule {r : RetryRule} (hr : r.Fits) (hroom : 3 ≤ room)
    (hf : ∀ b ∈ r.toValue.doubles, FloatReadsBack b) :
    Reads room (Decoder.record RetryRule.spec : Reader RetryRule) r.toValue.render.toList r := by
  unfold RetryRule.toValue at hf ⊢
  refine reads_object (RetryRule.mix r) r (by omega) rfl ?_ hf ?_
  · repeat' refine FieldsReadBack.append ?_ ?_
    · refine fieldsReadBack_optField_map fun xs hxs => fieldsReadBack_single rfl fun _ seen => ?_
      exact (reads_errorNames xs (by omega)).set _ (by simp [RetryRule.mix, hxs])
    · refine fieldsReadBack_optField_map fun m hm => fieldsReadBack_single rfl fun hd seen => ?_
      have hmax : m ≤ u32Max := hr m hm
      exact (reads_option_of_ne_null (reads_unsigned _ hmax (by decide)) nofun hd).set _
        (by simp [RetryRule.mix, hm])
    · refine fieldsReadBack_optField_map fun b hb => fieldsReadBack_single rfl fun hd seen => ?_
      exact (reads_option_of_ne_null (reads_double (hd b (by simp [Value.doubles]))) nofun hd).set _
        (by simp [RetryRule.mix, hb])
    · refine fieldsReadBack_optField_map fun b hb => fieldsReadBack_single rfl fun hd seen => ?_
      exact (reads_option_of_ne_null (reads_double (hd b (by simp [Value.doubles]))) nofun hd).set _
        (by simp [RetryRule.mix, hb])
  · intro seen hw
    simp only [fieldsSeen_append] at hw
    obtain ⟨⟨⟨w₀, w₁⟩, w₂⟩, w₃⟩ := hw
    refine ⟨by simp [firstMissing, RetryRule.spec], ?_⟩
    simp only [RetryRule.spec, id, RetryRule.mix, w₀.optMap_eq rfl, w₁.optMap_eq rfl,
      w₂.optMap_eq rfl, w₃.optMap_eq rfl]

/-- A catch rule's slots once the fields at positions `seen` are read from its JSON form. -/
def CatchRule.mix (c : CatchRule) (seen : List Nat) : CatchRule where
  errorEquals := if 0 ∈ seen then c.errorEquals else none
  next := if 1 ∈ seen then c.next else ""
  resultPath := if 2 ∈ seen then c.resultPath else .omitted

theorem reads_catchRule {c : CatchRule} (hroom : 3 ≤ room)
    (hf : ∀ b ∈ c.toValue.doubles, FloatReadsBack b) :
    Reads room (Decoder.record CatchRule.spec : Reader CatchRule) c.toValue.render.toList c := by
  unfold CatchRule.toValue at hf ⊢
  refine reads_object (CatchRule.mix c) c (by omega) rfl ?_ hf ?_
  · repeat' refine FieldsReadBack.append ?_ ?_
    · refine fieldsReadBack_optField_map fun xs hxs => fieldsReadBack_single rfl fun _ seen => ?_
      exact (reads_errorNames xs (by omega)).set _ (by simp [CatchRule.mix, hxs])
    · exact fieldsReadBack_single rfl fun _ seen =>
        (reads_text _ c.next).set _ (by simp [CatchRule.mix])
    · refine fieldsReadBack_pathField fun hp => fieldsReadBack_single rfl fun _ seen => ?_
      exact (reads_pathSpec hp).set _ (by simp [CatchRule.mix])
  · intro seen hw
    simp only [fieldsSeen_append] at hw
    obtain ⟨⟨w₀, w₁⟩, w₂⟩ := hw
    have h₁ : 1 ∈ seen := w₁.single rfl
    refine ⟨by simp [firstMissing, CatchRule.spec, h₁], ?_⟩
    simp only [CatchRule.spec, id, CatchRule.mix, w₀.optMap_eq rfl, if_pos h₁, w₂.path_eq rfl]

end Rules

/-! ### States, machines and catalogs -/

section Definitions

variable {room : Nat}

/-- A state's slots once the fields at positions `seen` are read from its JSON form. -/
def State.mix (s : State) (seen : List Nat) : State where
  kind := if 0 ∈ seen then s.kind else .unknown
  comment := if 1 ∈ seen then s.comment else none
  inputPath := if 2 ∈ seen then s.inputPath else .omitted
  parameters := if 3 ∈ seen then s.parameters else none
  resultPath := if 4 ∈ seen then s.resultPath else .omitted
  outputPath := if 5 ∈ seen then s.outputPath else .omitted
  next := if 6 ∈ seen then s.next else none
  isEnd := if 7 ∈ seen then s.isEnd else false
  retriers := if 8 ∈ seen then s.retriers else []
  catchers := if 9 ∈ seen then s.catchers else []
  resource := if 10 ∈ seen then s.resource else none
  handler := if 11 ∈ seen then s.handler else none
  environment := if 12 ∈ seen then s.environment else []
  result := if 13 ∈ seen then s.result else none
  seconds := if 14 ∈ seen then s.seconds else none
  secondsPath := if 15 ∈ seen then s.secondsPath else none
  timestamp := if 16 ∈ seen then s.timestamp else none
  timestampPath := if 17 ∈ seen then s.timestampPath else none
  choices := if 18 ∈ seen then s.choices else []
  defaultState := if 19 ∈ seen then s.defaultState else none
  failError := if 20 ∈ seen then s.failError else none
  failCause := if 21 ∈ seen then s.failCause else none
  branches := if 22 ∈ seen then s.branches else []

/-- **A state is read back from its JSON form** when it fits at the room its fields are read
with. -/
theorem reads_state {s : State} (hs : s.Fits (room - 1)) (hroom : 5 ≤ room)
    (hf : ∀ b ∈ s.toValue.doubles, FloatReadsBack b) :
    Reads room (Decoder.record State.spec : Reader State) s.toValue.render.toList s := by
  unfold State.toValue at hf ⊢
  refine reads_object (State.mix s) s (by omega) rfl ?_ hf ?_
  · repeat' refine FieldsReadBack.append ?_ ?_
    · exact fieldsReadBack_single rfl fun _ seen =>
        (reads_stateKind s.kind).set _ (by simp [State.mix])
    · refine fieldsReadBack_optField_map fun x hx => fieldsReadBack_single rfl fun _ seen => ?_
      exact (reads_optionalString x).set _ (by simp [State.mix, hx])
    · refine fieldsReadBack_pathField fun hp => fieldsReadBack_single rfl fun _ seen => ?_
      exact (reads_pathSpec hp).set _ (by simp [State.mix])
    · refine fieldsReadBack_optField fun v hv => fieldsReadBack_single rfl fun hd seen => ?_
      obtain ⟨hnull, hcan⟩ := hs.parameters v hv
      exact (reads_option_of_ne_null (reads_value hcan hd) hnull hd).set _ (by simp [State.mix, hv])
    · refine fieldsReadBack_pathField fun hp => fieldsReadBack_single rfl fun _ seen => ?_
      exact (reads_pathSpec hp).set _ (by simp [State.mix])
    · refine fieldsReadBack_pathField fun hp => fieldsReadBack_single rfl fun _ seen => ?_
      exact (reads_pathSpec hp).set _ (by simp [State.mix])
    · refine fieldsReadBack_optField_map fun x hx => fieldsReadBack_single rfl fun _ seen => ?_
      exact (reads_optionalString x).set _ (by simp [State.mix, hx])
    · exact fieldsReadBack_single rfl fun _ seen =>
        (reads_bool s.isEnd).set _ (by simp [State.mix])
    · refine fieldsReadBack_listField fun _ => fieldsReadBack_single rfl fun hd seen => ?_
      have hdr : ∀ r ∈ s.retriers, ∀ b ∈ r.toValue.doubles, FloatReadsBack b :=
        fun r hr b hb => hd b (Value.mem_doubles_arr (List.mem_map_of_mem hr) hb)
      have hread : ∀ r ∈ s.retriers, Reads (room - 1 - 1)
          (Decoder.record RetryRule.spec : Reader RetryRule) r.toValue.render.toList r :=
        fun r hr => reads_retryRule (hs.retriers r hr) (by omega) (hdr r hr)
      exact (reads_seq (by omega) hread hdr).set _ (by simp [State.mix])
    · refine fieldsReadBack_listField fun _ => fieldsReadBack_single rfl fun hd seen => ?_
      have hdc : ∀ c ∈ s.catchers, ∀ b ∈ c.toValue.doubles, FloatReadsBack b :=
        fun c hc b hb => hd b (Value.mem_doubles_arr (List.mem_map_of_mem hc) hb)
      exact (reads_seq (by omega) (fun c hc => reads_catchRule (by omega) (hdc c hc))
        hdc).set _ (by simp [State.mix])
    · refine fieldsReadBack_optField_map fun x hx => fieldsReadBack_single rfl fun _ seen => ?_
      exact (reads_optionalString x).set _ (by simp [State.mix, hx])
    · refine fieldsReadBack_optField_map fun x hx => fieldsReadBack_single rfl fun _ seen => ?_
      exact (reads_optionalString x).set _ (by simp [State.mix, hx])
    · split
      · exact fieldsReadBack_nil
      · refine fieldsReadBack_single rfl fun _ seen => ?_
        rw [Value.object_map s.environment Value.str hs.environment]
        exact (reads_map (by omega) (fun p _ => reads_text _ p.2) hs.environment).set _
          (by simp [State.mix])
    · refine fieldsReadBack_optField fun v hv => fieldsReadBack_single rfl fun hd seen => ?_
      obtain ⟨hnull, hcan⟩ := hs.result v hv
      exact (reads_option_of_ne_null (reads_value hcan hd) hnull hd).set _ (by simp [State.mix, hv])
    · refine fieldsReadBack_optField fun v hv => fieldsReadBack_single rfl fun hd seen => ?_
      obtain ⟨hnull, hcan⟩ := hs.seconds v hv
      exact (reads_option_of_ne_null (reads_value hcan hd) hnull hd).set _ (by simp [State.mix, hv])
    · refine fieldsReadBack_optField_map fun x hx => fieldsReadBack_single rfl fun _ seen => ?_
      exact (reads_optionalString x).set _ (by simp [State.mix, hx])
    · refine fieldsReadBack_optField_map fun x hx => fieldsReadBack_single rfl fun _ seen => ?_
      exact (reads_optionalString x).set _ (by simp [State.mix, hx])
    · refine fieldsReadBack_optField_map fun x hx => fieldsReadBack_single rfl fun _ seen => ?_
      exact (reads_optionalString x).set _ (by simp [State.mix, hx])
    · refine fieldsReadBack_listField fun _ => fieldsReadBack_single rfl fun hd seen => ?_
      have hdv : ∀ v ∈ s.choices, ∀ b ∈ v.doubles, FloatReadsBack b :=
        fun v hv b hb => hd b (Value.mem_doubles_arr hv hb)
      rw [← List.map_id s.choices]
      exact (reads_seq (by omega) (fun v hv => reads_value (hs.choices v hv) (hdv v hv)) hdv).set _
        (by simp [State.mix])
    · refine fieldsReadBack_optField_map fun x hx => fieldsReadBack_single rfl fun _ seen => ?_
      exact (reads_optionalString x).set _ (by simp [State.mix, hx])
    · refine fieldsReadBack_optField_map fun x hx => fieldsReadBack_single rfl fun _ seen => ?_
      exact (reads_optionalString x).set _ (by simp [State.mix, hx])
    · refine fieldsReadBack_optField_map fun x hx => fieldsReadBack_single rfl fun _ seen => ?_
      exact (reads_optionalString x).set _ (by simp [State.mix, hx])
    · refine fieldsReadBack_listField fun _ => fieldsReadBack_single rfl fun hd seen => ?_
      have hdv : ∀ v ∈ s.branches, ∀ b ∈ v.doubles, FloatReadsBack b :=
        fun v hv b hb => hd b (Value.mem_doubles_arr hv hb)
      rw [← List.map_id s.branches]
      exact (reads_seq (by omega) (fun v hv => reads_value (hs.branches v hv) (hdv v hv)) hdv).set _
        (by simp [State.mix])
  · intro seen hw
    simp only [fieldsSeen_append, and_assoc] at hw
    obtain ⟨w₀, w₁, w₂, w₃, w₄, w₅, w₆, w₇, w₈, w₉, w₁₀, w₁₁, w₁₂, w₁₃, w₁₄, w₁₅,
      w₁₆, w₁₇, w₁₈, w₁₉, w₂₀, w₂₁, w₂₂⟩ := hw
    have h₀ : 0 ∈ seen := w₀.single rfl
    have henv : (if 12 ∈ seen then s.environment else []) = s.environment := by
      cases he : s.environment with
      | nil => exact ite_self _
      | cons e es =>
        rw [he] at w₁₂
        exact if_pos (w₁₂.single rfl)
    refine ⟨by simp [firstMissing, State.spec, State.fieldNames, h₀], ?_⟩
    simp only [State.spec, id, State.mix, if_pos h₀, w₁.optMap_eq rfl, w₂.path_eq rfl,
      w₃.opt_eq rfl, w₄.path_eq rfl, w₅.path_eq rfl, w₆.optMap_eq rfl,
      if_pos (w₇.single rfl), w₈.listMap_eq rfl, w₉.listMap_eq rfl, w₁₀.optMap_eq rfl,
      w₁₁.optMap_eq rfl, henv, w₁₃.opt_eq rfl, w₁₄.opt_eq rfl, w₁₅.optMap_eq rfl,
      w₁₆.optMap_eq rfl, w₁₇.optMap_eq rfl, w₁₈.list_eq rfl, w₁₉.optMap_eq rfl,
      w₂₀.optMap_eq rfl, w₂₁.optMap_eq rfl, w₂₂.list_eq rfl]

/-- A machine's slots once the fields at positions `seen` are read from its JSON form. -/
def Machine.mix (m : Machine) (seen : List Nat) : Machine where
  startAt := if 0 ∈ seen then m.startAt else ""
  states := if 1 ∈ seen then m.states else []
  comment := if 2 ∈ seen then m.comment else none

theorem reads_machine {m : Machine} (hm : m.Fits (room - 1)) (hroom : 7 ≤ room)
    (hf : ∀ b ∈ m.toValue.doubles, FloatReadsBack b) :
    Reads room (Machine.decode : Reader Machine) m.toValue.render.toList m := by
  unfold Machine.toValue at hf ⊢
  refine reads_object (Machine.mix m) m (by omega) rfl ?_ hf ?_
  · refine FieldsReadBack.append (FieldsReadBack.cons ?_ ?_) ?_
    · exact fieldsReadBack_single rfl fun _ seen =>
        (reads_text _ m.startAt).set _ (by simp [Machine.mix])
    · refine fieldsReadBack_single rfl fun hd seen => ?_
      rw [Value.object_map m.states State.toValue hm.sorted] at hd ⊢
      have hstate : ∀ p ∈ m.states, Reads (room - 1 - 1)
          (Decoder.record State.spec : Reader State) p.2.toValue.render.toList p.2 := by
        intro p hp
        have hs : p.2.Fits (room - 1 - 1 - 1) := by
          rw [show room - 1 - 1 - 1 = room - 1 - 2 by omega]
          exact hm.states p hp
        exact reads_state hs (by omega) fun b hb =>
          hd b (Value.mem_doubles_obj (List.mem_map_of_mem hp) hb)
      exact (reads_map (by omega) hstate hm.sorted).set _ (by simp [Machine.mix])
    · refine fieldsReadBack_optField_map fun x hx => fieldsReadBack_single rfl fun _ seen => ?_
      exact (reads_optionalString x).set _ (by simp [Machine.mix, hx])
  · intro seen hw
    simp only [fieldsSeen_append] at hw
    obtain ⟨hw₀₁, w₂⟩ := hw
    have h₀ : 0 ∈ seen := hw₀₁ _ List.mem_cons_self 0 rfl
    have h₁ : 1 ∈ seen := hw₀₁ _ (List.mem_cons_of_mem _ List.mem_cons_self) 1 rfl
    refine ⟨by simp [firstMissing, Machine.spec, h₀, h₁], ?_⟩
    simp only [Machine.spec, id, Machine.mix, if_pos h₀, if_pos h₁, w₂.optMap_eq rfl]

/-- A catalog entry's slots once the fields at positions `seen` are read from its JSON form. -/
def CatalogEntry.mix (e : CatalogEntry) (seen : List Nat) : CatalogEntry where
  name := if 0 ∈ seen then e.name else none
  machine := if 1 ∈ seen then e.machine else {}

theorem reads_catalogEntry {e : CatalogEntry} (he : e.machine.Fits (room - 1 - 1))
    (hroom : 8 ≤ room) (hf : ∀ b ∈ e.toValue.doubles, FloatReadsBack b) :
    Reads room (Decoder.record CatalogEntry.spec : Reader CatalogEntry) e.toValue.render.toList
      e := by
  unfold CatalogEntry.toValue at hf ⊢
  refine reads_object (CatalogEntry.mix e) e (by omega) rfl ?_ hf ?_
  · refine FieldsReadBack.append ?_ ?_
    · refine fieldsReadBack_optField_map fun x hx => fieldsReadBack_single rfl fun _ seen => ?_
      exact (reads_optionalString x).set _ (by simp [CatalogEntry.mix, hx])
    · exact fieldsReadBack_single rfl fun hd seen =>
        (reads_machine he (by omega) hd).set _ (by simp [CatalogEntry.mix])
  · intro seen hw
    simp only [fieldsSeen_append] at hw
    obtain ⟨w₀, w₁⟩ := hw
    have h₁ : 1 ∈ seen := w₁.single rfl
    refine ⟨by simp [firstMissing, CatalogEntry.spec, h₁], ?_⟩
    simp only [CatalogEntry.spec, id, CatalogEntry.mix, w₀.optMap_eq rfl, if_pos h₁]

/-- A catalog that fits is read back from its JSON form, with the room a whole text starts
with. -/
theorem reads_catalog {c : Catalog} (hc : c.Fits)
    (hf : ∀ b ∈ c.toValue.doubles, FloatReadsBack b) :
    Reads 128 (Catalog.decode : Reader Catalog) c.toValue.render.toList c := by
  unfold Catalog.toValue at hf ⊢
  rw [Value.object_map c.entries CatalogEntry.toValue hc.sorted] at hf ⊢
  have hentry : ∀ p ∈ c.entries, Reads 127
      (Decoder.record CatalogEntry.spec : Reader CatalogEntry) p.2.toValue.render.toList p.2 :=
    fun p hp =>
    reads_catalogEntry (hc.machines p hp) (by omega)
      fun b hb => hf b (Value.mem_doubles_obj (List.mem_map_of_mem hp) hb)
  exact (reads_map (by omega) hentry hc.sorted).set Catalog.mk rfl

end Definitions

/-- A reader that reads a whole text with the room a text starts with runs to its end. -/
theorem Json.Reader.run_of_reads {α : Type} {r : Reader α} {s : String} {a : α}
    (h : Reads 128 r s.toList a) : Reader.run r s = .ok a := by
  obtain ⟨c₁, hrun, hrest, -⟩ :=
    h (Cursor.ofString s) rfl [] (by simp [Cursor.ofString]) follows_nil
  change ((r >>= fun a => finish >>= fun _ => pure a).runOn (Cursor.ofString s)).1 = .ok a
  simp [hrun, finish, runOn_skipBlank, hrest, Cursor.skipBlankFrom]

/-- **Definitions read back from their JSON form.**  Every catalog read from a JSON text is
read, field by field, from the text of its own JSON form, provided every double in that form
is written as a text that reads back as itself. -/
theorem Catalog.ofJson_render_toValue {text : String} {c : Catalog}
    (h : Catalog.ofJson text = .ok c) (hf : ∀ b ∈ c.toValue.doubles, FloatReadsBack b) :
    Catalog.ofJson c.toValue.render = .ok c := by
  have hrun := Reader.run_of_reads (reads_catalog (Catalog.fits_of_ofJson h) hf)
  rw [Catalog.ofJson, decodeText, hrun]
  rfl

/-- A catalog of one machine whose only state succeeds. -/
def doneCatalog : Catalog :=
  ⟨[("flow", { machine := { startAt := "Done", states := [("Done", { kind := .succeed })] } })]⟩

/-- The text of `doneCatalog`, with blanks between its tokens. -/
def doneCatalogText : String :=
  "\x7b\"flow\": \x7b\"definition\": \x7b\"StartAt\": \"Done\", " ++
    "\"States\": \x7b\"Done\": \x7b\"Type\": \"Succeed\"\x7d\x7d\x7d\x7d\x7d"

theorem doneCatalog_reads_back :
    Catalog.ofJson doneCatalogText = .ok doneCatalog ∧
      Catalog.ofJson doneCatalog.toValue.render = .ok doneCatalog := by
  -- the reader is run by the kernel; `Except` has no decidable equality, `Option` does
  have hopt : (Catalog.ofJson doneCatalogText).toOption = some doneCatalog := by decide +kernel
  have h : Catalog.ofJson doneCatalogText = .ok doneCatalog := by
    cases he : Catalog.ofJson doneCatalogText with
    | error e => simp [he, Except.toOption] at hopt
    | ok c => simpa [he, Except.toOption] using hopt
  have hd : doneCatalog.toValue.doubles = [] := by rfl
  exact ⟨h, Catalog.ofJson_render_toValue h fun b hb => by simp [hd] at hb⟩

end Workflow
