import Workflow.Proofs.JsonNumbers
/-! # Reading a written value back

`Value.render` writes a value compactly and `readValue` reads one.  The reader gives back
what the printer wrote (`yields_readValue`) for every value it could have produced itself
(`Value.Canonical`): integers in the range it keeps exact, containers within the nesting it
allows, object keys strictly ascending; and doubles whose text reads back
(`FloatReadsBack`).  The proof follows the printer: one theorem for a value, one for the
items of an array after the first, one for the fields of an object after the first.

Conversely, whatever the reader returns is canonical at the depth it read with
(`sound_readValue`), so every value read from a text reads back from its own rendering.
-/

namespace Workflow

/-- Of two different keys, the one that is not below the other is above it. -/
theorem String.lt_of_not_lt_of_ne {a b : String} (h : ¬ a < b) (hne : a ≠ b) : b < a := by
  refine Classical.byContradiction fun hba => hne (String.le_antisymm ?_ (String.not_lt.mp h))
  exact String.not_lt.mp hba

/-! ### Insertion by key

The entries of a map, like the fields of an object, are kept sorted by key, each key once;
`put` inserts one, replacing an equal key.  `Fields.insert` is the same insertion on values
(`Fields.insert_eq_put`). -/

namespace Decode.TextDecode.mapEntries

variable {α : Type}

theorem put_of_lt {acc : List (String × α)} {k : String} (a : α) (h : ∀ p ∈ acc, p.1 < k) :
    put k a acc = acc ++ [(k, a)] := by
  induction acc with
  | nil => rfl
  | cons p ps ih =>
    obtain ⟨k', a'⟩ := p
    have hlt : k' < k := h (k', a') List.mem_cons_self
    have hnlt : ¬ k < k' := String.lt_asymm hlt
    have hne : (k == k') = false := beq_false_of_ne (String.ne_of_lt hlt).symm
    rw [put, if_neg hnlt, hne, ih fun p hp => h p (List.mem_cons_of_mem _ hp)]
    rfl

/-- An entry of `put k a acc` is the new one or an old one. -/
theorem mem_put {acc : List (String × α)} {k : String} {a : α} {p : String × α}
    (h : p ∈ put k a acc) : p = (k, a) ∨ p ∈ acc := by
  induction acc with
  | nil =>
    simp only [put, List.mem_singleton] at h
    exact Or.inl h
  | cons q qs ih =>
    obtain ⟨k', a'⟩ := q
    rw [put] at h
    split at h
    · simpa using h
    split at h
    · simp only [List.mem_cons] at h
      rcases h with h | h
      · exact Or.inl h
      · exact Or.inr (List.mem_cons_of_mem _ h)
    · simp only [List.mem_cons] at h
      rcases h with h | h
      · exact Or.inr (h ▸ List.mem_cons_self)
      · exact (ih h).imp_right (List.mem_cons_of_mem _)

theorem pairwise_put {acc : List (String × α)} (h : acc.Pairwise (fun p q => p.1 < q.1))
    (k : String) (a : α) : (put k a acc).Pairwise (fun p q => p.1 < q.1) := by
  induction acc with
  | nil => exact List.pairwise_singleton _ _
  | cons q qs ih =>
    obtain ⟨k', a'⟩ := q
    obtain ⟨hhead, htail⟩ := List.pairwise_cons.mp h
    rw [put]
    split
    · rename_i hlt
      refine List.pairwise_cons.mpr ⟨fun p hp => ?_, h⟩
      rcases List.mem_cons.mp hp with rfl | hp
      · exact hlt
      · exact String.lt_trans hlt (hhead p hp)
    split
    · rename_i heq
      rw [beq_iff_eq.mp heq]
      exact List.pairwise_cons.mpr ⟨hhead, htail⟩
    · rename_i hlt hne
      have hgt : k' < k := String.lt_of_not_lt_of_ne hlt (by simpa using hne)
      refine List.pairwise_cons.mpr ⟨fun p hp => ?_, ih htail⟩
      rcases mem_put hp with rfl | hp
      · exact hgt
      · exact hhead p hp

/-- Every key stays bound after an insertion, and the inserted key is bound. -/
theorem exists_mem_put {acc : List (String × α)} {k k' : String} {a : α}
    (h : k' = k ∨ ∃ b, (k', b) ∈ acc) : ∃ b, (k', b) ∈ put k a acc := by
  induction acc with
  | nil =>
    rcases h with rfl | ⟨b, hb⟩
    · exact ⟨a, List.mem_singleton_self _⟩
    · cases hb
  | cons q qs ih =>
    obtain ⟨k₀, a₀⟩ := q
    rw [put]
    split
    · rcases h with rfl | ⟨b, hb⟩
      · exact ⟨a, List.mem_cons_self⟩
      · exact ⟨b, List.mem_cons_of_mem _ hb⟩
    split
    · rename_i heq
      rcases h with rfl | ⟨b, hb⟩
      · exact ⟨a, List.mem_cons_self⟩
      rcases List.mem_cons.mp hb with hb | hb
      · obtain ⟨rfl, -⟩ := Prod.mk.inj hb
        exact ⟨a, by rw [beq_iff_eq.mp heq]; exact List.mem_cons_self⟩
      · exact ⟨b, List.mem_cons_of_mem _ hb⟩
    · rcases h with rfl | ⟨b, hb⟩
      · obtain ⟨b, hb⟩ := ih (Or.inl rfl)
        exact ⟨b, List.mem_cons_of_mem _ hb⟩
      rcases List.mem_cons.mp hb with hb | hb
      · exact ⟨b, hb ▸ List.mem_cons_self⟩
      · obtain ⟨b', hb'⟩ := ih (Or.inr ⟨b, hb⟩)
        exact ⟨b', List.mem_cons_of_mem _ hb'⟩

end Decode.TextDecode.mapEntries

namespace Json

open Decode.TextDecode.mapEntries

/-- The keys of an object go strictly up, as `Fields.insert` keeps them. -/
def Fields.Ascending (fs : Fields) : Prop := fs.Pairwise (fun a b => a.1 < b.1)

theorem Fields.insert_eq_put (acc : Fields) (k : String) (v : Value) :
    acc.insert k v = Decode.TextDecode.mapEntries.put k v acc := by
  induction acc with
  | nil => rfl
  | cons q qs ih =>
    obtain ⟨k', v'⟩ := q
    simp only [Fields.insert, put, beq_iff_eq, ih]

theorem Fields.insert_of_lt {acc : Fields} {k : String} (v : Value) (h : ∀ p ∈ acc, p.1 < k) :
    acc.insert k v = acc ++ [(k, v)] := by
  rw [Fields.insert_eq_put]
  exact put_of_lt v h

theorem Fields.mem_insert {acc : Fields} {k : String} {v : Value} {p : String × Value}
    (h : p ∈ acc.insert k v) : p = (k, v) ∨ p ∈ acc :=
  mem_put (Fields.insert_eq_put acc k v ▸ h)

theorem Fields.Ascending.insert {acc : Fields} (h : acc.Ascending) (k : String) (v : Value) :
    (acc.insert k v).Ascending := by
  rw [Fields.Ascending, Fields.insert_eq_put]
  exact pairwise_put h k v

/-- A key looked up after it is inserted has the inserted value, whatever the fields held. -/
@[simp] theorem Fields.get?_insert_self (acc : Fields) (k : String) (v : Value) :
    (acc.insert k v).get? k = some v := by
  induction acc with
  | nil => simp [Fields.insert, Fields.get?]
  | cons q qs ih =>
    obtain ⟨k', v'⟩ := q
    by_cases hlt : k < k'
    · simp [Fields.insert, Fields.get?, hlt]
    by_cases heq : k = k'
    · simp [Fields.insert, Fields.get?, heq]
    · have hne : (k' == k) = false := by simpa using Ne.symm heq
      simpa [Fields.insert, Fields.get?, hlt, heq, hne] using ih

/-- Inserting one key leaves what every other key looks up. -/
@[simp] theorem Fields.get?_insert_of_ne {acc : Fields} {k k' : String} (v : Value) (h : k' ≠ k) :
    (acc.insert k v).get? k' = acc.get? k' := by
  have hne : (k == k') = false := by simpa using Ne.symm h
  induction acc with
  | nil => simp [Fields.insert, Fields.get?, hne]
  | cons q qs ih =>
    obtain ⟨k'', v''⟩ := q
    by_cases hlt : k < k''
    · simp [Fields.insert, Fields.get?, hlt, hne]
    by_cases heq : k = k''
    · subst heq
      simp [Fields.insert, Fields.get?, hne]
    · by_cases hk : k'' = k'
      · subst hk
        simp [Fields.insert, Fields.get?, hlt, heq]
      · simpa [Fields.insert, Fields.get?, hlt, heq, hk] using ih

/-! An object built by `Value.object` holds fields of the list it was built from, keys
ascending, every key of the list bound; from a list already ascending it is that list. -/

section OfList

variable {L : List (String × Value)}

theorem Fields.mem_foldl_insert {acc : Fields} {p : String × Value}
    (h : p ∈ L.foldl (fun acc q => Fields.insert acc q.1 q.2) acc) : p ∈ acc ∨ p ∈ L := by
  induction L generalizing acc with
  | nil => exact Or.inl h
  | cons q qs ih =>
    rcases ih h with h | h
    · rcases Fields.mem_insert h with rfl | h
      · exact Or.inr List.mem_cons_self
      · exact Or.inl h
    · exact Or.inr (List.mem_cons_of_mem _ h)

theorem Fields.mem_ofList {p : String × Value} (h : p ∈ Fields.ofList L) : p ∈ L := by
  rcases Fields.mem_foldl_insert h with h | h
  · cases h
  · exact h

theorem Fields.ascending_ofList (L : List (String × Value)) : (Fields.ofList L).Ascending := by
  suffices ∀ acc : Fields, acc.Ascending →
      (L.foldl (fun acc q => Fields.insert acc q.1 q.2) acc).Ascending from
    this [] List.Pairwise.nil
  induction L with
  | nil => exact fun _ h => h
  | cons q qs ih => exact fun acc h => ih _ (h.insert q.1 q.2)

theorem Fields.exists_mem_ofList {k : String} {v : Value} (h : (k, v) ∈ L) :
    ∃ v', (k, v') ∈ Fields.ofList L := by
  suffices ∀ acc : Fields, ((∃ b, (k, b) ∈ acc) ∨ ∃ b, (k, b) ∈ L) →
      ∃ b, (k, b) ∈ L.foldl (fun acc q => Fields.insert acc q.1 q.2) acc from
    this [] (Or.inr ⟨v, h⟩)
  clear h
  induction L with
  | nil =>
    rintro acc (h | ⟨b, hb⟩)
    · exact h
    · cases hb
  | cons q qs ih =>
    rintro acc (⟨b, hb⟩ | ⟨b, hb⟩)
    · refine ih _ (Or.inl ?_)
      show ∃ b', (k, b') ∈ Fields.insert acc q.1 q.2
      rw [Fields.insert_eq_put]
      exact exists_mem_put (Or.inr ⟨b, hb⟩)
    · rcases List.mem_cons.mp hb with rfl | hb
      · refine ih _ (Or.inl ?_)
        show ∃ b', (k, b') ∈ Fields.insert acc k b
        rw [Fields.insert_eq_put]
        exact exists_mem_put (Or.inl rfl)
      · exact ih _ (Or.inr ⟨b, hb⟩)

/-- From fields already ascending, `Value.object` keeps them as they are. -/
theorem Fields.ofList_of_ascending (h : L.Pairwise (fun p q => p.1 < q.1)) : Fields.ofList L = L := by
  suffices ∀ acc : Fields, (acc ++ L).Pairwise (fun p q => p.1 < q.1) →
      L.foldl (fun acc q => Fields.insert acc q.1 q.2) acc = acc ++ L from
    this [] h
  clear h
  induction L with
  | nil => exact fun acc _ => (List.append_nil acc).symm
  | cons q qs ih =>
    intro acc hasc
    have hlt : ∀ p ∈ acc, p.1 < q.1 := fun p hp =>
      (List.pairwise_append.mp hasc).2.2 p hp q List.mem_cons_self
    rw [List.foldl_cons, Fields.insert_of_lt q.2 hlt, ih _ (by simpa using hasc)]
    simp

end OfList

namespace Value

mutual
/-- A value the reader gives back from its compact text when `depth` levels of nesting are
allowed: integers in the range kept exact, containers within the allowance, object keys
strictly ascending. -/
def Canonical : Nat → Value → Prop
  | _, .num n => NumberText.InRange n
  | depth, .arr xs => 2 ≤ depth ∧ CanonicalItems (depth - 1) xs
  | depth, .obj fs => 2 ≤ depth ∧ Fields.Ascending fs ∧ CanonicalFields (depth - 1) fs
  | _, _ => True

/-- Every item is canonical. -/
def CanonicalItems : Nat → List Value → Prop
  | _, [] => True
  | depth, x :: xs => Canonical depth x ∧ CanonicalItems depth xs

/-- Every field's value is canonical. -/
def CanonicalFields : Nat → List (String × Value) → Prop
  | _, [] => True
  | depth, (_, v) :: fs => Canonical depth v ∧ CanonicalFields depth fs
end

mutual
/-- The doubles a value holds, in text order. -/
def doubles : Value → List UInt64
  | .num (.float b) => [b]
  | .arr xs => doublesItems xs
  | .obj fs => doublesFields fs
  | _ => []

/-- The doubles of a list of items. -/
def doublesItems : List Value → List UInt64
  | [] => []
  | x :: xs => x.doubles ++ doublesItems xs

/-- The doubles of a list of fields. -/
def doublesFields : List (String × Value) → List UInt64
  | [] => []
  | (_, v) :: fs => v.doubles ++ doublesFields fs
end

/-- The text of the items after the first, each after its comma. -/
def itemsText (xs : List Value) : List Char := xs.flatMap fun y => ',' :: y.render.toList

/-- The text of the fields after the first, each after its comma. -/
def fieldsText (fs : List (String × Value)) : List Char :=
  fs.flatMap fun p => ',' :: ((quote p.1).toList ++ ':' :: p.2.render.toList)

theorem renderItems_cons (x : Value) (xs : List Value) :
    (renderItems (x :: xs)).toList = x.render.toList ++ itemsText xs := by
  induction xs generalizing x with
  | nil => simp [renderItems, itemsText]
  | cons y ys ih =>
    rw [renderItems, String.toList_append, String.toList_append, ih]
    · simp [itemsText]
    · exact List.cons_ne_nil y ys

theorem renderFields_cons (k : String) (v : Value) (fs : List (String × Value)) :
    (renderFields ((k, v) :: fs)).toList = (quote k).toList ++ ':' :: v.render.toList ++ fieldsText fs := by
  induction fs generalizing k v with
  | nil => simp [renderFields, fieldsText]
  | cons p ps ih =>
    obtain ⟨k', v'⟩ := p
    rw [renderFields, String.toList_append, String.toList_append, String.toList_append,
      String.toList_append, ih]
    · simp [fieldsText]
    · exact List.cons_ne_nil _ ps

theorem render_arr_toList (xs : List Value) :
    (render (.arr xs)).toList = '[' :: ((renderItems xs).toList ++ [']']) := by
  simp [render]

theorem render_obj_toList (fs : List (String × Value)) :
    (render (.obj fs)).toList = '{' :: ((renderFields fs).toList ++ ['}']) := by
  simp [render]

/-- The characters a value's text may start with. -/
def ValueStart (ch : Char) : Prop :=
  ch = 'n' ∨ ch = 't' ∨ ch = 'f' ∨ ch = '-' ∨ ch = '"' ∨ ch = '[' ∨ ch = '{' ∨ ch.isDigit = true

theorem ValueStart.not_blank {ch : Char} (h : ValueStart ch) :
    ¬ IsBlank ch ∧ ch ≠ ']' ∧ ch ≠ '}' ∧ ch ≠ ',' := by
  rcases h with rfl | rfl | rfl | rfl | rfl | rfl | rfl | hd
  any_goals decide
  refine ⟨?_, ?_, ?_, ?_⟩
  · rintro (rfl | rfl | rfl | rfl) <;> revert hd <;> decide
  all_goals (rintro rfl; revert hd; decide)

theorem digit_ne {d : Char} (hd : d.isDigit = true) :
    d ≠ 'n' ∧ d ≠ 't' ∧ d ≠ 'f' ∧ d ≠ '-' ∧ d ≠ '"' ∧ d ≠ '[' ∧ d ≠ '{' := by
  refine ⟨?_, ?_, ?_, ?_, ?_, ?_, ?_⟩ <;> (rintro rfl; revert hd; decide)

theorem toDigits_head (n : Nat) : ∃ d ds, Nat.toDigits 10 n = d :: ds ∧ d.isDigit = true := by
  cases h : Nat.toDigits 10 n with
  | nil => exact absurd h Nat.toDigits_ne_nil
  | cons d ds =>
    exact ⟨d, ds, rfl, Nat.isDigit_of_mem_toDigits (by omega) (by omega) (h ▸ List.mem_cons_self)⟩

theorem int_toList {i : Int} :
    (Number.render (.int i)).toList =
      if 0 ≤ i then Nat.toDigits 10 i.toNat else '-' :: Nat.toDigits 10 (-i).toNat := by
  simp only [Number.render, Int.toString_eq_repr, Int.repr_eq_if]
  split
  · exact Nat.toList_repr
  · simp [Nat.toList_repr]

/-- Every written value starts with a character that opens a value. -/
theorem render_head (v : Value) (hf : ∀ b ∈ v.doubles, FloatReadsBack b) :
    ∃ ch t, v.render.toList = ch :: t ∧ ValueStart ch := by
  cases v with
  | null => exact ⟨'n', _, rfl, Or.inl rfl⟩
  | bool b => cases b
              · exact ⟨'f', _, rfl, Or.inr (Or.inr (Or.inl rfl))⟩
              · exact ⟨'t', _, rfl, Or.inr (Or.inl rfl)⟩
  | num n =>
    cases n with
    | int i =>
      rw [render, int_toList]
      split
      · obtain ⟨d, ds, hds, hd⟩ := toDigits_head i.toNat
        exact ⟨d, ds, hds, by simp [ValueStart, hd]⟩
      · exact ⟨'-', _, rfl, by simp [ValueStart]⟩
    | float b =>
      obtain ⟨positive, d, t, htext, hd, -⟩ := (hf b (by simp [doubles])).reads
      rw [render, htext]
      cases positive
      · exact ⟨'-', _, rfl, by simp [ValueStart]⟩
      · exact ⟨d, t, rfl, by simp [ValueStart, hd]⟩
  | str s => exact ⟨'"', _, Reader.quote_toList s, by simp [ValueStart]⟩
  | arr xs => exact ⟨'[', _, render_arr_toList xs, by simp [ValueStart]⟩
  | obj fs => exact ⟨'{', _, render_obj_toList fs, by simp [ValueStart]⟩

theorem canonicalItems_iff {depth : Nat} {xs : List Value} :
    CanonicalItems depth xs ↔ ∀ x ∈ xs, x.Canonical depth := by
  induction xs with
  | nil => simp [CanonicalItems]
  | cons x xs ih => simp [CanonicalItems, ih]

theorem canonicalFields_iff {depth : Nat} {fs : List (String × Value)} :
    CanonicalFields depth fs ↔ ∀ p ∈ fs, p.2.Canonical depth := by
  induction fs with
  | nil => simp [CanonicalFields]
  | cons p fs ih =>
    obtain ⟨k, v⟩ := p
    simp [CanonicalFields, ih]

end Value

namespace Reader

open Value NumberText

/-! ### One step of the value reader

Each lemma reads the first character of a value, item or field and hands over to the reader
of what follows it. -/

section Steps

variable {depth fuel : Nat} {c : Cursor} {t rest : List Char}

theorem yields_readValue_of_digit {d : Char} {n : Number} (hc : c.rest = d :: t)
    (hd : d.isDigit = true) (hn : Yields (readNumber true) c n rest) :
    Yields (readValue depth (fuel + 1)) c (.num n) rest := by
  have hne := digit_ne hd
  have hnb := (show ValueStart d by simp [ValueStart, hd]).not_blank.1
  obtain ⟨c', hrun, hrest, hroom⟩ := hn
  refine ⟨c', ?_, hrest, hroom⟩
  simp [readValue, runOn_skipBlank_of_not_blank hc hnb, hne, hd, hrun]

theorem yields_readValue_of_minus {n : Number} (hc : c.rest = '-' :: t)
    (hn : Yields (readNumber false) c.bump n rest) :
    Yields (readValue depth (fuel + 1)) c (.num n) rest := by
  obtain ⟨c', hrun, hrest, hroom⟩ := hn
  refine ⟨c', ?_, hrest, hroom.trans (Cursor.bump_of_cons hc).2⟩
  simp [readValue, runOn_skipBlank_of_not_blank hc (by decide), hrun]

theorem yields_readValue_of_quote {str : String} (hc : c.rest = '"' :: t)
    (hs : Yields readStringBody c.bump str rest) :
    Yields (readValue depth (fuel + 1)) c (.str str) rest := by
  obtain ⟨c', hrun, hrest, hroom⟩ := hs
  refine ⟨c', ?_, hrest, hroom.trans (Cursor.bump_of_cons hc).2⟩
  simp [readValue, runOn_skipBlank_of_not_blank hc (by decide), hrun]

/-- A keyword: its first letter, then the rest of its letters. -/
theorem yields_readValue_of_keyword {ch : Char} {word : List Char} {v : Value}
    (hc : c.rest = ch :: (word ++ rest))
    (hk : (readValue depth (fuel + 1)).runOn c =
      (bump >>= fun _ => readIdent word >>= fun _ => pure v).runOn c) :
    Yields (readValue depth (fuel + 1)) c v rest := by
  have hb := Cursor.bump_of_cons hc
  obtain ⟨c', hrun, hrest, hroom⟩ := yields_readIdent word hb.1
  refine ⟨c', ?_, hrest, hroom.trans hb.2⟩
  simp [hk, hrun]

theorem yields_readValue_of_bracket {items : List Value} (hc : c.rest = '[' :: t)
    (hdepth : 2 ≤ depth) (hi : Yields (readItems (depth - 1) fuel true []) c.bump items (']' :: rest)) :
    Yields (readValue depth (fuel + 1)) c (.arr items) rest := by
  obtain ⟨c', hrun, hrest, hroom⟩ := hi
  have hb := Cursor.bump_of_cons hrest
  have hnd : ¬ depth ≤ 1 := by omega
  refine ⟨c'.bump, ?_, hb.1, by rw [hb.2, hroom, (Cursor.bump_of_cons hc).2]⟩
  simp [readValue, runOn_skipBlank_of_not_blank hc (by decide), hnd, hrun]

theorem yields_readValue_of_brace {fields : Fields} (hc : c.rest = '{' :: t)
    (hdepth : 2 ≤ depth) (hi : Yields (readEntries (depth - 1) fuel true []) c.bump fields ('}' :: rest)) :
    Yields (readValue depth (fuel + 1)) c (.obj fields) rest := by
  obtain ⟨c', hrun, hrest, hroom⟩ := hi
  have hb := Cursor.bump_of_cons hrest
  have hnd : ¬ depth ≤ 1 := by omega
  refine ⟨c'.bump, ?_, hb.1, by rw [hb.2, hroom, (Cursor.bump_of_cons hc).2]⟩
  simp [readValue, runOn_skipBlank_of_not_blank hc (by decide), hnd, hrun]

theorem yields_readItems_close {first : Bool} {acc : List Value} (hc : c.rest = ']' :: rest) :
    Yields (readItems depth (fuel + 1) first acc) c acc.reverse (']' :: rest) :=
  ⟨c, by simp [readItems, runOn_skipBlank_of_not_blank hc (by decide)], hc, rfl⟩

theorem yields_readItems_first {ch : Char} {v : Value} {mid rest' : List Char}
    {items acc : List Value} (hc : c.rest = ch :: t) (hch : ValueStart ch)
    (hv : Yields (readValue depth fuel) c v mid)
    (hk : ∀ c', c'.rest = mid → c'.room = c.room →
      Yields (readItems depth fuel false (v :: acc)) c' items rest') :
    Yields (readItems depth (fuel + 1) true acc) c items rest' := by
  obtain ⟨c₁, hrun₁, hrest₁, hroom₁⟩ := hv
  obtain ⟨c₂, hrun₂, hrest₂, hroom₂⟩ := hk c₁ hrest₁ hroom₁
  refine ⟨c₂, ?_, hrest₂, hroom₂.trans hroom₁⟩
  simp [readItems, runOn_skipBlank_of_not_blank hc hch.not_blank.1, hch.not_blank, hrun₁, hrun₂]

theorem yields_readItems_next {ch : Char} {v : Value} {mid rest' : List Char}
    {items acc : List Value} (hc : c.rest = ',' :: ch :: t) (hch : ValueStart ch)
    (hv : Yields (readValue depth fuel) c.bump v mid)
    (hk : ∀ c', c'.rest = mid → c'.room = c.room →
      Yields (readItems depth fuel false (v :: acc)) c' items rest') :
    Yields (readItems depth (fuel + 1) false acc) c items rest' := by
  have hb := Cursor.bump_of_cons hc
  obtain ⟨c₁, hrun₁, hrest₁, hroom₁⟩ := hv
  obtain ⟨c₂, hrun₂, hrest₂, hroom₂⟩ := hk c₁ hrest₁ (hroom₁.trans hb.2)
  refine ⟨c₂, ?_, hrest₂, hroom₂.trans (hroom₁.trans hb.2)⟩
  simp [readItems, runOn_skipBlank_of_not_blank hc (by decide),
    runOn_skipBlank_of_not_blank hb.1 hch.not_blank.1, hch.not_blank, hrun₁, hrun₂]

theorem yields_readEntries_close {first : Bool} {acc : Fields} (hc : c.rest = '}' :: rest) :
    Yields (readEntries depth (fuel + 1) first acc) c acc ('}' :: rest) :=
  ⟨c, by simp [readEntries, runOn_skipBlank_of_not_blank hc (by decide)], hc, rfl⟩

/-- A key and its colon, from the key's opening quote: the value's reader starts after the
colon. -/
theorem yields_key {k : String} {c : Cursor} (hc : c.rest = (quote k).toList ++ ':' :: t) :
    ∃ c₁, readStringBody.runOn c.bump = (.ok k, c₁) ∧ c₁.rest = ':' :: t ∧
      c₁.room = c.room := by
  rw [quote_toList, List.cons_append, List.append_assoc] at hc
  have hb := Cursor.bump_of_cons hc
  obtain ⟨c₁, hrun, hrest, hroom⟩ := yields_readStringBody k (by rw [hb.1]; rfl)
  exact ⟨c₁, hrun, hrest, hroom.trans hb.2⟩

theorem yields_readEntries_first {k : String} {v : Value} {mid rest' : List Char}
    {fields acc : Fields} (hc : c.rest = (quote k).toList ++ ':' :: t)
    (hv : ∀ c', c'.rest = t → c'.room = c.room → Yields (readValue depth fuel) c' v mid)
    (hk : ∀ c', c'.rest = mid → c'.room = c.room →
      Yields (readEntries depth fuel false (acc.insert k v)) c' fields rest') :
    Yields (readEntries depth (fuel + 1) true acc) c fields rest' := by
  have hq : c.rest = '"' :: (k.toList.flatMap escapeChar ++ '"' :: ':' :: t) := by
    rw [hc, quote_toList]
    simp
  obtain ⟨c₁, hrun₁, hrest₁, hroom₁⟩ := yields_key hc
  have hb₁ := Cursor.bump_of_cons hrest₁
  obtain ⟨c₂, hrun₂, hrest₂, hroom₂⟩ := hv c₁.bump hb₁.1 (hb₁.2.trans hroom₁)
  obtain ⟨c₃, hrun₃, hrest₃, hroom₃⟩ := hk c₂ hrest₂ (hroom₂.trans (hb₁.2.trans hroom₁))
  refine ⟨c₃, ?_, hrest₃, hroom₃.trans (hroom₂.trans (hb₁.2.trans hroom₁))⟩
  simp [readEntries, runOn_skipBlank_of_not_blank hq (by decide), hrun₁,
    runOn_skipBlank_of_not_blank hrest₁ (by decide), hrun₂, hrun₃]

/-- A further field of an object, after its comma. -/
theorem yields_readEntries_next {k : String} {v : Value} {mid rest' : List Char}
    {fields acc : Fields} (hc : c.rest = ',' :: ((quote k).toList ++ ':' :: t))
    (hv : ∀ c', c'.rest = t → c'.room = c.room → Yields (readValue depth fuel) c' v mid)
    (hk : ∀ c', c'.rest = mid → c'.room = c.room →
      Yields (readEntries depth fuel false (acc.insert k v)) c' fields rest') :
    Yields (readEntries depth (fuel + 1) false acc) c fields rest' := by
  have hb := Cursor.bump_of_cons hc
  have hq : c.bump.rest = '"' :: (k.toList.flatMap escapeChar ++ '"' :: ':' :: t) := by
    rw [hb.1, quote_toList]
    simp
  obtain ⟨c₁, hrun₁, hrest₁, hroom₁⟩ := yields_key hb.1
  have hb₁ := Cursor.bump_of_cons hrest₁
  have hroom : c₁.bump.room = c.room := hb₁.2.trans (hroom₁.trans hb.2)
  obtain ⟨c₂, hrun₂, hrest₂, hroom₂⟩ := hv c₁.bump hb₁.1 hroom
  obtain ⟨c₃, hrun₃, hrest₃, hroom₃⟩ := hk c₂ hrest₂ (hroom₂.trans hroom)
  refine ⟨c₃, ?_, hrest₃, hroom₃.trans (hroom₂.trans hroom)⟩
  simp [readEntries, runOn_skipBlank_of_not_blank hc (by decide),
    runOn_skipBlank_of_not_blank hq (by decide), hrun₁,
    runOn_skipBlank_of_not_blank hrest₁ (by decide), hrun₂, hrun₃]

end Steps

/-! ### Scalars -/

section Scalars

variable {depth fuel : Nat} {c : Cursor} {rest : List Char}

theorem yields_readValue_null (hc : c.rest = Value.null.render.toList ++ rest) :
    Yields (readValue depth (fuel + 1)) c .null rest := by
  have hc' : c.rest = 'n' :: (['u', 'l', 'l'] ++ rest) := hc
  exact yields_readValue_of_keyword hc'
    (by simp [readValue, runOn_skipBlank_of_not_blank hc' (by decide)])

theorem yields_readValue_bool (b : Bool) (hc : c.rest = (Value.bool b).render.toList ++ rest) :
    Yields (readValue depth (fuel + 1)) c (.bool b) rest := by
  cases b with
  | true =>
    have hc' : c.rest = 't' :: (['r', 'u', 'e'] ++ rest) := hc
    exact yields_readValue_of_keyword hc'
      (by simp [readValue, runOn_skipBlank_of_not_blank hc' (by decide)])
  | false =>
    have hc' : c.rest = 'f' :: (['a', 'l', 's', 'e'] ++ rest) := hc
    exact yields_readValue_of_keyword hc'
      (by simp [readValue, runOn_skipBlank_of_not_blank hc' (by decide)])

theorem yields_readValue_str (str : String) (hc : c.rest = (Value.str str).render.toList ++ rest) :
    Yields (readValue depth (fuel + 1)) c (.str str) rest := by
  have hc' : c.rest = '"' :: (str.toList.flatMap escapeChar ++ '"' :: rest) := by
    rw [hc, render, quote_toList]
    simp
  exact yields_readValue_of_quote hc'
    (yields_readStringBody str (Cursor.bump_of_cons hc').1)

/-- An integer in the range the reader keeps exact reads back exactly. -/
theorem yields_readValue_int (i : Int) (hi : (Value.num (.int i)).Canonical depth)
    (hc : c.rest = (Value.num (.int i)).render.toList ++ rest) (hr : Follows rest) :
    Yields (readValue depth (fuel + 1)) c (.num (.int i)) rest := by
  obtain ⟨hlo, hhi⟩ := hi
  have hu : Nat.pow 2 63 ≤ u64Max := by unfold u64Max; decide
  rw [render, int_toList] at hc
  split at hc
  · rename_i h0
    obtain ⟨d, ds, hds, hd⟩ := toDigits_head i.toNat
    have hn := yields_readNumber_toDigits true i.toNat (by omega) (by simp) hc hr.numberEnds
    rw [if_pos rfl, Int.toNat_of_nonneg h0] at hn
    rw [hds, List.cons_append] at hc
    exact yields_readValue_of_digit hc hd hn
  · rename_i h0
    have hb := Cursor.bump_of_cons hc
    have hn := yields_readNumber_toDigits false (-i).toNat (by omega) (fun _ => by omega) hb.1
      hr.numberEnds
    have hi : -(((-i).toNat : Nat) : Int) = i := by omega
    rw [if_neg Bool.false_ne_true, hi] at hn
    exact yields_readValue_of_minus hc hn

/-- A double whose text reads back alone reads back in a document. -/
theorem yields_readValue_float {b : UInt64} (hb : FloatReadsBack b)
    (hc : c.rest = (Value.num (.float b)).render.toList ++ rest) (hr : Follows rest) :
    Yields (readValue depth (fuel + 1)) c (.num (.float b)) rest := by
  obtain ⟨positive, d, t, htext, hd, hreads⟩ := hb.reads
  rw [render, htext] at hc
  cases positive with
  | true =>
    simp only [ite_true, List.nil_append, List.cons_append] at hc
    exact yields_readValue_of_digit hc hd (hreads c rest hr (by rw [hc]; rfl))
  | false =>
    simp only [Bool.false_eq_true, ite_false, List.cons_append, List.nil_append] at hc
    have hb := Cursor.bump_of_cons hc
    exact yields_readValue_of_minus hc (hreads c.bump rest hr (by rw [hb.1]; rfl))

end Scalars

/-! ### Values -/

theorem itemsText_follows (xs : List Value) (rest : List Char) :
    Follows (itemsText xs ++ ']' :: rest) := by
  cases xs with
  | nil => exact follows_cons (by simp)
  | cons y ys => exact follows_cons (by simp)

theorem fieldsText_follows (fs : List (String × Value)) (rest : List Char) :
    Follows (fieldsText fs ++ '}' :: rest) := by
  cases fs with
  | nil => exact follows_cons (by simp)
  | cons p ps => exact follows_cons (by simp)

mutual
/-- **The reader gives back what the printer wrote.**  A canonical value whose doubles read
back is read from its text, wherever the text stands, by the value reader with enough fuel;
the reader stops right after it. -/
theorem yields_readValue : ∀ (v : Value) (depth fuel : Nat) (c : Cursor) (rest : List Char),
    v.Canonical depth → (∀ b ∈ v.doubles, FloatReadsBack b) → v.render.toList.length ≤ fuel →
    c.rest = v.render.toList ++ rest → Follows rest → Yields (readValue depth fuel) c v rest
  | .null, _, fuel, _, _, _, _, hfuel, hc, _ => by
    obtain ⟨f, rfl⟩ : ∃ f, fuel = f + 1 := ⟨fuel - 1, by simp [render] at hfuel; omega⟩
    exact yields_readValue_null hc
  | .bool b, _, fuel, _, _, _, _, hfuel, hc, _ => by
    obtain ⟨f, rfl⟩ : ∃ f, fuel = f + 1 := ⟨fuel - 1, by cases b <;> simp [render] at hfuel <;> omega⟩
    exact yields_readValue_bool b hc
  | .num (.int i), _, fuel, _, _, hcan, _, hfuel, hc, hr => by
    obtain ⟨_, _, hhead, -⟩ := render_head (.num (.int i)) (by simp [doubles])
    obtain ⟨f, rfl⟩ : ∃ f, fuel = f + 1 := ⟨fuel - 1, by rw [hhead] at hfuel; simp at hfuel; omega⟩
    exact yields_readValue_int i hcan hc hr
  | .num (.float b), _, fuel, _, _, _, hf, hfuel, hc, hr => by
    obtain ⟨_, _, hhead, -⟩ := render_head (.num (.float b)) hf
    obtain ⟨f, rfl⟩ : ∃ f, fuel = f + 1 := ⟨fuel - 1, by rw [hhead] at hfuel; simp at hfuel; omega⟩
    exact yields_readValue_float (hf b (by simp [doubles])) hc hr
  | .str s, _, fuel, _, _, _, _, hfuel, hc, _ => by
    obtain ⟨f, rfl⟩ : ∃ f, fuel = f + 1 :=
      ⟨fuel - 1, by rw [render, quote_toList] at hfuel; simp at hfuel; omega⟩
    exact yields_readValue_str s hc
  | .arr xs, depth, fuel, c, rest, hcan, hf, hfuel, hc, hr => by
    obtain ⟨hdepth, hitems⟩ := hcan
    rw [render_arr_toList] at hc hfuel
    obtain ⟨f, rfl⟩ : ∃ f, fuel = f + 1 := ⟨fuel - 1, by simp at hfuel; omega⟩
    apply yields_readValue_of_bracket hc hdepth
    have hb := Cursor.bump_of_cons hc
    cases xs with
    | nil =>
      obtain ⟨g, rfl⟩ : ∃ g, f = g + 1 := ⟨f - 1, by simp at hfuel; omega⟩
      exact yields_readItems_close (by rw [hb.1]; rfl)
    | cons x xs =>
      rw [renderItems_cons] at hb hfuel
      have hfx : ∀ b ∈ x.doubles, FloatReadsBack b := fun b h => hf b (by simp [doubles, doublesItems, h])
      have hfxs : ∀ b ∈ doublesItems xs, FloatReadsBack b := fun b h =>
        hf b (by simp [doubles, doublesItems, h])
      obtain ⟨ch, t, hx, hch⟩ := render_head x hfx
      have hxl : 1 ≤ x.render.toList.length := by rw [hx]; simp
      simp only [List.length_cons, List.length_append] at hfuel
      obtain ⟨g, rfl⟩ : ∃ g, f = g + 1 := ⟨f - 1, by omega⟩
      have hcx : c.bump.rest = ch :: (t ++ itemsText xs ++ ']' :: rest) := by
        rw [hb.1, hx]
        simp
      refine yields_readItems_first hcx hch
        (yields_readValue x (depth - 1) g c.bump (itemsText xs ++ ']' :: rest) hitems.1 hfx
          (by omega) (by rw [hb.1]; simp) (itemsText_follows xs rest)) ?_
      intro c' hc' _
      simpa using yields_readItems xs (depth - 1) g [x] c' rest hitems.2 hfxs (by omega) hc'
  | .obj fs, depth, fuel, c, rest, hcan, hf, hfuel, hc, hr => by
    obtain ⟨hdepth, hasc, hfields⟩ := hcan
    rw [render_obj_toList] at hc hfuel
    obtain ⟨f, rfl⟩ : ∃ f, fuel = f + 1 := ⟨fuel - 1, by simp at hfuel; omega⟩
    apply yields_readValue_of_brace hc hdepth
    have hb := Cursor.bump_of_cons hc
    cases fs with
    | nil =>
      obtain ⟨g, rfl⟩ : ∃ g, f = g + 1 := ⟨f - 1, by simp at hfuel; omega⟩
      exact yields_readEntries_close (by rw [hb.1]; rfl)
    | cons p fs =>
      obtain ⟨k, v⟩ := p
      rw [renderFields_cons] at hb hfuel
      have hfv : ∀ b ∈ v.doubles, FloatReadsBack b := fun b h =>
        hf b (by simp [doubles, doublesFields, h])
      have hffs : ∀ b ∈ doublesFields fs, FloatReadsBack b := fun b h =>
        hf b (by simp [doubles, doublesFields, h])
      simp only [List.length_cons, List.length_append] at hfuel
      obtain ⟨g, rfl⟩ : ∃ g, f = g + 1 := ⟨f - 1, by omega⟩
      have hcx : c.bump.rest = (quote k).toList ++ ':' :: (v.render.toList ++ fieldsText fs ++ '}' :: rest) := by
        rw [hb.1]
        simp
      refine yields_readEntries_first hcx (fun c' hc' _ =>
        yields_readValue v (depth - 1) g c' (fieldsText fs ++ '}' :: rest) hfields.1 hfv
          (by omega) (by rw [hc']; simp) (fieldsText_follows fs rest)) ?_
      intro c' hc' _
      show Yields (readEntries (depth - 1) g false [(k, v)]) c' ((k, v) :: fs) ('}' :: rest)
      simpa using yields_readEntries fs (depth - 1) g [(k, v)] c' rest hfields.2 hffs
        (by simpa using hasc) (by omega) hc'

/-- The items of an array after the first, each after its comma, up to the closing
bracket. -/
theorem yields_readItems : ∀ (xs : List Value) (depth fuel : Nat) (acc : List Value)
    (c : Cursor) (rest : List Char),
    CanonicalItems depth xs → (∀ b ∈ doublesItems xs, FloatReadsBack b) →
    (itemsText xs).length < fuel → c.rest = itemsText xs ++ ']' :: rest →
    Yields (readItems depth fuel false acc) c (acc.reverse ++ xs) (']' :: rest)
  | [], _, fuel, acc, _, _, _, _, hfuel, hc => by
    obtain ⟨f, rfl⟩ : ∃ f, fuel = f + 1 := ⟨fuel - 1, by omega⟩
    simpa using yields_readItems_close hc
  | x :: xs, depth, fuel, acc, c, rest, hcan, hf, hfuel, hc => by
    obtain ⟨hx, hxs⟩ := hcan
    have hfx : ∀ b ∈ x.doubles, FloatReadsBack b := fun b h => hf b (by simp [doublesItems, h])
    have hfxs : ∀ b ∈ doublesItems xs, FloatReadsBack b := fun b h =>
      hf b (by simp [doublesItems, h])
    obtain ⟨ch, t, hxt, hch⟩ := render_head x hfx
    have hxl : 1 ≤ x.render.toList.length := by rw [hxt]; simp
    have htext : itemsText (x :: xs) = ',' :: (x.render.toList ++ itemsText xs) := by
      simp [itemsText]
    rw [htext] at hc hfuel
    simp only [List.length_cons, List.length_append] at hfuel
    obtain ⟨f, rfl⟩ : ∃ f, fuel = f + 1 := ⟨fuel - 1, by omega⟩
    have hb := Cursor.bump_of_cons hc
    have hcx : c.rest = ',' :: ch :: (t ++ itemsText xs ++ ']' :: rest) := by
      rw [hc, hxt]
      simp
    refine yields_readItems_next hcx hch
      (yields_readValue x depth f c.bump (itemsText xs ++ ']' :: rest) hx hfx (by omega)
        (by rw [hb.1]; simp) (itemsText_follows xs rest)) ?_
    intro c' hc' _
    simpa using yields_readItems xs depth f (x :: acc) c' rest hxs hfxs (by omega) hc'

/-- The fields of an object after the first, each after its comma, up to the closing
brace; the keys so far are below the keys to come. -/
theorem yields_readEntries : ∀ (fs : Fields) (depth fuel : Nat) (acc : Fields) (c : Cursor)
    (rest : List Char),
    CanonicalFields depth fs → (∀ b ∈ doublesFields fs, FloatReadsBack b) →
    Fields.Ascending (acc ++ fs) → (fieldsText fs).length < fuel →
    c.rest = fieldsText fs ++ '}' :: rest →
    Yields (readEntries depth fuel false acc) c (acc ++ fs) ('}' :: rest)
  | [], _, fuel, acc, _, _, _, _, _, hfuel, hc => by
    obtain ⟨f, rfl⟩ : ∃ f, fuel = f + 1 := ⟨fuel - 1, by omega⟩
    simpa using yields_readEntries_close hc
  | (k, v) :: fs, depth, fuel, acc, c, rest, hcan, hf, hasc, hfuel, hc => by
    obtain ⟨hv, hfs⟩ := hcan
    have hfv : ∀ b ∈ v.doubles, FloatReadsBack b := fun b h => hf b (by simp [doublesFields, h])
    have hffs : ∀ b ∈ doublesFields fs, FloatReadsBack b := fun b h =>
      hf b (by simp [doublesFields, h])
    have hlt : ∀ p ∈ acc, p.1 < k := by
      intro p hp
      exact (List.pairwise_append.mp hasc).2.2 p hp (k, v) List.mem_cons_self
    have hasc' : Fields.Ascending ((acc ++ [(k, v)]) ++ fs) := by simpa using hasc
    have htext : fieldsText ((k, v) :: fs) =
        ',' :: ((quote k).toList ++ ':' :: (v.render.toList ++ fieldsText fs)) := by
      simp [fieldsText]
    rw [htext] at hc hfuel
    simp only [List.length_cons, List.length_append] at hfuel
    obtain ⟨f, rfl⟩ : ∃ f, fuel = f + 1 := ⟨fuel - 1, by omega⟩
    have hcx : c.rest = ',' :: ((quote k).toList ++ ':' :: (v.render.toList ++ fieldsText fs ++
        '}' :: rest)) := by
      rw [hc]
      simp
    refine yields_readEntries_next hcx (fun c' hc' _ =>
      yields_readValue v depth f c' (fieldsText fs ++ '}' :: rest) hv hfv (by omega) (by rw [hc']; simp)
        (fieldsText_follows fs rest)) ?_
    intro c' hc' _
    rw [Fields.insert_of_lt v hlt]
    simpa using yields_readEntries fs depth f (acc ++ [(k, v)]) c' rest hfs hffs hasc' (by omega) hc'
end

/-! ### Objects in any key order

The reader takes an object's fields one by one into `Fields.insert`.  An object written with
its keys in any order, or with a key twice, is therefore read as the sorted object of its
fields, a later field of a key replacing an earlier one.  Here the value of each field may
be read as another value than its own (`w`), as a nested object is. -/

section AnyOrder

variable (w : String × Value → Value)

/-- A field's value read as `w` gives it, with whatever fuel covers its text. -/
def ReadsAs (depth : Nat) (p : String × Value) : Prop :=
  ∀ (fuel : Nat) (c : Cursor) (rest : List Char), p.2.render.toList.length ≤ fuel →
    c.rest = p.2.render.toList ++ rest → Follows rest → Yields (readValue depth fuel) c (w p) rest

/-- The fields of an object after the first, whatever their keys, each inserted as read. -/
theorem yields_readEntries_insert : ∀ (fs : List (String × Value)) (depth fuel : Nat)
    (acc : Fields) (c : Cursor) (rest : List Char),
    (∀ p ∈ fs, ReadsAs w depth p) → (fieldsText fs).length < fuel →
    c.rest = fieldsText fs ++ '}' :: rest →
    Yields (readEntries depth fuel false acc) c
      (fs.foldl (fun acc p => Fields.insert acc p.1 (w p)) acc) ('}' :: rest)
  | [], _, fuel, acc, _, _, _, hfuel, hc => by
    obtain ⟨f, rfl⟩ : ∃ f, fuel = f + 1 := ⟨fuel - 1, by omega⟩
    exact yields_readEntries_close hc
  | (k, v) :: fs, depth, fuel, acc, c, rest, hw, hfuel, hc => by
    have htext : fieldsText ((k, v) :: fs) =
        ',' :: ((quote k).toList ++ ':' :: (v.render.toList ++ fieldsText fs)) := by
      simp [fieldsText]
    rw [htext] at hc hfuel
    simp only [List.length_cons, List.length_append] at hfuel
    obtain ⟨f, rfl⟩ : ∃ f, fuel = f + 1 := ⟨fuel - 1, by omega⟩
    have hcx : c.rest = ',' :: ((quote k).toList ++ ':' :: (v.render.toList ++ fieldsText fs ++
        '}' :: rest)) := by
      rw [hc]
      simp
    refine yields_readEntries_next hcx (fun c' hc' _ =>
      hw (k, v) List.mem_cons_self f c' (fieldsText fs ++ '}' :: rest)
        (show v.render.toList.length ≤ f by omega)
        (by rw [hc']; simp) (fieldsText_follows fs rest)) ?_
    intro c' hc' _
    exact yields_readEntries_insert fs depth f _ c' rest
      (fun p hp => hw p (List.mem_cons_of_mem _ hp)) (by omega) hc'

/-- **An object is read field by field**, whatever the order of its keys: each field's
value, read as `w` gives it, is inserted in turn. -/
theorem yields_readValue_obj {fs : List (String × Value)} {depth fuel : Nat} {c : Cursor}
    {rest : List Char} (hdepth : 2 ≤ depth) (hw : ∀ p ∈ fs, ReadsAs w (depth - 1) p)
    (hfuel : (Value.obj fs).render.toList.length ≤ fuel)
    (hc : c.rest = (Value.obj fs).render.toList ++ rest) :
    Yields (readValue depth fuel) c (.obj (fs.foldl (fun acc p => Fields.insert acc p.1 (w p)) []))
      rest := by
  rw [render_obj_toList] at hc hfuel
  obtain ⟨f, rfl⟩ : ∃ f, fuel = f + 1 := ⟨fuel - 1, by simp at hfuel; omega⟩
  apply yields_readValue_of_brace hc hdepth
  have hb := Cursor.bump_of_cons hc
  cases fs with
  | nil =>
    obtain ⟨g, rfl⟩ : ∃ g, f = g + 1 := ⟨f - 1, by simp at hfuel; omega⟩
    exact yields_readEntries_close (by rw [hb.1]; rfl)
  | cons p fs =>
    obtain ⟨k, v⟩ := p
    rw [renderFields_cons] at hb hfuel
    simp only [List.length_cons, List.length_append] at hfuel
    obtain ⟨g, rfl⟩ : ∃ g, f = g + 1 := ⟨f - 1, by omega⟩
    have hcx : c.bump.rest = (quote k).toList ++ ':' ::
        (v.render.toList ++ fieldsText fs ++ '}' :: rest) := by
      rw [hb.1]
      simp
    refine yields_readEntries_first hcx (fun c' hc' _ =>
      hw (k, v) List.mem_cons_self g c' (fieldsText fs ++ '}' :: rest)
        (show v.render.toList.length ≤ g by omega)
        (by rw [hc']; simp) (fieldsText_follows fs rest)) ?_
    intro c' hc' _
    exact yields_readEntries_insert w fs (depth - 1) g _ c' rest
      (fun p hp => hw p (List.mem_cons_of_mem _ hp)) (by omega) hc'

variable {w}

/-- A field whose value is canonical, and whose doubles read back, is read as itself. -/
theorem readsAs_self {depth : Nat} {p : String × Value} (hv : p.2.Canonical depth)
    (hf : ∀ b ∈ p.2.doubles, FloatReadsBack b) (hw : w p = p.2) : ReadsAs w depth p :=
  fun fuel c rest hfuel hc hr => hw ▸ yields_readValue p.2 depth fuel c rest hv hf hfuel hc hr

/-- A field holding an object is read field by field, each inner value read as `g` gives
it. -/
theorem ReadsAs.obj {g : String × Value → Value} {depth : Nat} {k : String}
    {fs : List (String × Value)} (hdepth : 2 ≤ depth) (hfields : ∀ p ∈ fs, ReadsAs g (depth - 1) p)
    (hw : w (k, .obj fs) = .obj (fs.foldl (fun acc p => Fields.insert acc p.1 (g p)) [])) :
    ReadsAs w depth (k, .obj fs) := fun _ _ _ hfuel hc _ =>
  hw ▸ yields_readValue_obj g hdepth hfields hfuel hc

end AnyOrder

/-! ### What the reader gives

Conversely, whatever the value reader returns is canonical at the depth it was read with:
the number reader keeps integers in range, the depth test guards every container, and
`Fields.insert` keeps keys ascending.  The proof follows the reader, by its fuel. -/

mutual
theorem sound_readValue : ∀ (depth fuel : Nat),
    Sound (fun _ v => v.Canonical depth) (readValue depth fuel)
  | _, 0 => sound_failPeek _
  | depth, fuel + 1 => by
    unfold readValue
    refine keepsRoom_skipBlank.bind fun x => ?_
    split
    · exact sound_failPeek _
    split
    · exact keepsRoom_bump.bind fun _ => (keepsRoom_readIdent _).bind fun _ =>
        sound_pure fun _ => trivial
    · exact keepsRoom_bump.bind fun _ => (keepsRoom_readIdent _).bind fun _ =>
        sound_pure fun _ => trivial
    · exact keepsRoom_bump.bind fun _ => (keepsRoom_readIdent _).bind fun _ =>
        sound_pure fun _ => trivial
    · exact keepsRoom_bump.bind fun _ => (sound_readNumber false).bind fun _ =>
        sound_pure fun _ h => h
    · exact keepsRoom_bump.bind fun _ => keepsRoom_readStringBody.bind fun _ =>
        sound_pure fun _ => trivial
    · split
      · exact sound_failPeek _
      · rename_i hdepth
        exact keepsRoom_bump.bind fun _ => (sound_readItems (depth - 1) fuel true []).bind
          fun _ => keepsRoom_bump.bind fun _ => sound_pure fun _ h =>
            ⟨by omega, Value.canonicalItems_iff.mpr (h (by simp))⟩
    · split
      · exact sound_failPeek _
      · rename_i hdepth
        exact keepsRoom_bump.bind fun _ => (sound_readEntries (depth - 1) fuel true []).bind
          fun _ => keepsRoom_bump.bind fun _ => sound_pure fun _ h =>
            have hfs := h List.Pairwise.nil (by simp)
            ⟨by omega, hfs.1, Value.canonicalFields_iff.mpr hfs.2⟩
    · split
      · exact (sound_readNumber true).bind fun _ => sound_pure fun _ h => h
      · exact sound_failPeek _

theorem sound_readItems : ∀ (depth fuel : Nat) (first : Bool) (acc : List Value),
    Sound (fun _ xs => (∀ x ∈ acc, x.Canonical depth) → ∀ x ∈ xs, x.Canonical depth)
      (readItems depth fuel first acc)
  | _, 0, _, _ => sound_failPeek _
  | depth, fuel + 1, first, acc => by
    have next : Sound (fun _ xs => (∀ x ∈ acc, x.Canonical depth) → ∀ x ∈ xs, x.Canonical depth)
        (readValue depth fuel >>= fun v => readItems depth fuel false (v :: acc)) := by
      refine (sound_readValue depth fuel).bind fun v => ?_
      refine (sound_readItems depth fuel false (v :: acc)).imp fun _ _ h hv hacc => h ?_
      intro x hx
      rcases List.mem_cons.mp hx with rfl | hx
      · exact hv
      · exact hacc x hx
    unfold readItems
    refine keepsRoom_skipBlank.bind fun x => ?_
    split
    · exact sound_failPeek _
    · exact sound_pure fun _ hacc x hx => hacc x (List.mem_reverse.mp hx)
    split
    · exact next
    split
    · refine keepsRoom_bump.bind fun _ => keepsRoom_skipBlank.bind fun y => ?_
      split
      · exact sound_failPeek _
      · exact next
      · exact sound_failPeek _
    · exact sound_failPeek _

theorem sound_readEntries : ∀ (depth fuel : Nat) (first : Bool) (acc : Fields),
    Sound (fun _ fs => acc.Ascending → (∀ p ∈ acc, p.2.Canonical depth) →
        fs.Ascending ∧ ∀ p ∈ fs, p.2.Canonical depth)
      (readEntries depth fuel first acc)
  | _, 0, _, _ => sound_failPeek _
  | depth, fuel + 1, first, acc => by
    unfold readEntries
    refine keepsRoom_skipBlank.bind fun start => ?_
    extract_lets entry
    have hentry : ∀ keyStart, Sound (fun _ fs => acc.Ascending →
        (∀ p ∈ acc, p.2.Canonical depth) → fs.Ascending ∧ ∀ p ∈ fs, p.2.Canonical depth)
          (entry keyStart) := by
      intro keyStart
      simp -zeta only [entry]
      split
      · exact sound_pure fun _ hasc hacc => ⟨hasc, hacc⟩
      split
      · refine keepsRoom_bump.bind fun _ => keepsRoom_readStringBody.bind fun key => ?_
        refine keepsRoom_skipBlank.bind fun y => ?_
        extract_lets field
        have hfield : ∀ u, Sound (fun _ fs => acc.Ascending →
            (∀ p ∈ acc, p.2.Canonical depth) → fs.Ascending ∧ ∀ p ∈ fs, p.2.Canonical depth)
              (field u) := by
          intro u
          simp -zeta only [field]
          refine (sound_readValue depth fuel).bind fun v => ?_
          refine (sound_readEntries depth fuel false (acc.insert key v)).imp
            fun _ _ h hv hasc hacc => h (hasc.insert key v) fun p hp => ?_
          rcases Fields.mem_insert hp with rfl | hp
          · exact hv
          · exact hacc p hp
        split
        · exact keepsRoom_bump.bind hfield
        · exact sound_failPeek _
        · exact sound_failPeek _
      · exact sound_failPeek _
      · exact sound_failPeek _
      · exact sound_failPeek _
    split
    · exact KeepsRoom.bind (sound_pure fun _ => trivial) hentry
    · split
      · exact sound_failPeek _
      · exact keepsRoom_bump.bind fun _ => keepsRoom_skipBlank.bind fun _ =>
          KeepsRoom.bind (sound_pure fun _ => trivial) hentry
    · split
      · exact KeepsRoom.bind (sound_pure fun _ => trivial) hentry
      · exact sound_failPeek _
    · exact sound_failPeek _
end

/-- Only a value whose text starts with `n` reads as `null`. -/
theorem readValue_null {depth fuel : Nat} {c c' : Cursor}
    (h : (readValue depth fuel).runOn c = (.ok .null, c')) :
    (Cursor.skipBlankFrom c.rest c.line c.column).1.head? = some 'n' := by
  have hne : ∀ {r : Reader Value} {c₁ : Cursor}, Returns (· ≠ Value.null) r →
      r.runOn c₁ ≠ (.ok .null, c') := fun hr h => hr _ _ _ h rfl
  cases fuel with
  | zero => exact absurd h (hne (returns_failPeek _))
  | succ fuel =>
    unfold readValue at h
    rw [runOn_bind, runOn_skipBlank] at h
    dsimp only at h
    split at h
    · exact absurd h (hne (returns_failPeek _))
    split at h
    · assumption
    · exact absurd h (hne (returns_bind fun _ => returns_bind fun _ => returns_pure (by simp)))
    · exact absurd h (hne (returns_bind fun _ => returns_bind fun _ => returns_pure (by simp)))
    · exact absurd h (hne (returns_bind fun _ => returns_bind fun _ => returns_pure (by simp)))
    · exact absurd h (hne (returns_bind fun _ => returns_bind fun _ => returns_pure (by simp)))
    · split at h
      · exact absurd h (hne (returns_failPeek _))
      · exact absurd h (hne (returns_bind fun _ => returns_bind fun _ => returns_bind fun _ =>
          returns_pure (by simp)))
    · split at h
      · exact absurd h (hne (returns_failPeek _))
      · exact absurd h (hne (returns_bind fun _ => returns_bind fun _ => returns_bind fun _ =>
          returns_pure (by simp)))
    · split at h
      · exact absurd h (hne (returns_bind fun _ => returns_pure (by simp)))
      · exact absurd h (hne (returns_failPeek _))

end Reader

end Json

end Workflow
