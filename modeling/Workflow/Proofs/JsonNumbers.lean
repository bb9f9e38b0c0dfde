import Workflow.Proofs.JsonText
/-! # Reading written numbers back

An integer is written as its decimal digits, after a minus sign when negative.  The reader
keeps such a literal exact when it fits in `u64`, or, negative, in `i64`
(`yields_readNumber_int`); other literals become doubles.

A double is written by its shortest digits, and whether those read back as the same double
is a property of the decimal conversion, not of the reader's walk through a document.  What
the walk adds is proved here: a number reads the same where it stands in a document as it
does alone.  Its text ends where a value may end (`Follows`), and no step of the number
reader takes or tells apart what comes after it (`Twin`, `Mirrors`).
-/

namespace Workflow.Json

/-- Where a number's text may end: at no digit, point or exponent mark. -/
def NumberEnds (rest : List Char) : Prop :=
  ∀ ch ∈ rest.head?, ch.isDigit = false ∧ ch ≠ '.' ∧ ch ≠ 'e' ∧ ch ≠ 'E'

theorem Follows.numberEnds {rest : List Char} (h : Follows rest) : NumberEnds rest := by
  intro ch hch
  rcases h ch hch with rfl | rfl | rfl | rfl <;> decide

theorem Follows.head {rest : List Char} (h : Follows rest) :
    rest.head? = none ∨ rest.head? = some ',' ∨ rest.head? = some ':' ∨ rest.head? = some '}' ∨
      rest.head? = some ']' := by
  cases hr : rest.head? with
  | none => exact Or.inl rfl
  | some ch =>
    rcases h ch hr with rfl | rfl | rfl | rfl <;> simp

theorem digit_sub_lt {d : Char} (h : d.isDigit = true) : d.toNat - 48 < 10 := by
  have := Char.isDigit_iff_toNat.mp h
  simp only [Char.reduceToNat] at this
  omega

theorem Nat.le_ofDigitChars (l : List Char) (init : Nat) : init ≤ Nat.ofDigitChars 10 l init := by
  rw [Nat.ofDigitChars_eq_ofDigitChars_zero]
  have : 1 ≤ 10 ^ l.length := Nat.pow_pos (by omega)
  calc init = 1 * init := (Nat.one_mul init).symm
    _ ≤ 10 ^ l.length * init := Nat.mul_le_mul_right init this
    _ ≤ _ := Nat.le_add_right _ _

/-- The leading digit of a positive number is not zero. -/
theorem Nat.toDigits_ten_head {n : Nat} (h : 0 < n) :
    ∃ d ds, Nat.toDigits 10 n = d :: ds ∧ d ≠ '0' := by
  induction n using Nat.strongRecOn with
  | ind n ih =>
    by_cases hn : n < 10
    · refine ⟨n.digitChar, [], Nat.toDigits_of_lt_base hn, ?_⟩
      have : ∀ k, k < 10 → 0 < k → k.digitChar ≠ '0' := by decide
      exact this n hn h
    · obtain ⟨d, ds, hds, hd⟩ := ih (n / 10) (by omega) (by omega)
      refine ⟨d, ds ++ [(n % 10).digitChar], ?_, hd⟩
      rw [Nat.toDigits_of_base_le (by omega) (by omega), hds, List.cons_append]

namespace NumberText

open Reader

/-- `overflows a d limit` says exactly that `a · 10 + d` passes `limit`. -/
theorem overflows_iff {a d limit : Nat} (hd : d < 10) :
    overflows a d limit = true ↔ limit < a * 10 + d := by
  unfold overflows
  simp only [Bool.and_eq_true, decide_eq_true_eq, Bool.or_eq_true]
  omega

/-- The digit loop of an integer part takes its digits while the value fits in `u64`. -/
theorem readNumber_digits_run (positive : Bool) (ds : List Char) (s : Nat) {fuel : Nat}
    {c : Cursor} {rest : List Char} (hds : ∀ d ∈ ds, d.isDigit = true) (hf : ds.length < fuel)
    (h : c.rest = ds ++ rest) (hfit : Nat.ofDigitChars 10 ds s ≤ u64Max) (hend : NumberEnds rest) :
    (readNumber.digits positive fuel s).runOn c =
      (afterInteger positive (Nat.ofDigitChars 10 ds s)).runOn (c.pass ds) := by
  obtain ⟨fuel, rfl⟩ : ∃ f, fuel = f + 1 := ⟨fuel - 1, by omega⟩
  induction ds generalizing s fuel c with
  | nil =>
    simp only [List.nil_append] at h
    cases rest with
    | nil => simp [readNumber.digits, h, Cursor.pass]
    | cons ch r =>
      have hch := (hend ch rfl).1
      simp [readNumber.digits, h, hch, Cursor.pass]
  | cons d ds ih =>
    have hd := hds d List.mem_cons_self
    have hdv := digit_sub_lt hd
    have hstep : Nat.ofDigitChars 10 (d :: ds) s = Nat.ofDigitChars 10 ds (s * 10 + (d.toNat - 48)) := by
      rw [Nat.ofDigitChars_cons, Nat.mul_comm]
      rfl
    rw [hstep] at hfit ⊢
    have hno : overflows s (d.toNat - 48) u64Max = false := by
      have := Nat.le_ofDigitChars ds (s * 10 + (d.toNat - 48))
      cases ho : overflows s (d.toNat - 48) u64Max
      · rfl
      · have := (overflows_iff hdv).mp ho
        omega
    obtain ⟨fuel, rfl⟩ : ∃ f, fuel = f + 1 := ⟨fuel - 1, by simp at hf; omega⟩
    have hb := Cursor.bump_of_cons (h.trans (List.cons_append ..))
    simp only [readNumber.digits, runOn_bind, runOn_peek, h, List.cons_append, List.head?_cons,
      hd, ite_true, hno, Bool.false_eq_true, ite_false, runOn_bump]
    exact ih (s * 10 + (d.toNat - 48)) (fun d' hd' => hds d' (List.mem_cons_of_mem _ hd')) hb.1
      hfit fuel (by simp at hf; omega)

/-- Where nothing continues it, an integer part read as `n` is the integer `n`, or `-n` after
a minus sign when `-n` fits in `i64` and is not zero. -/
theorem afterInteger_of_end (positive : Bool) (n : Nat) {c : Cursor} (hend : NumberEnds c.rest)
    (hneg : positive = false → 0 < n ∧ n ≤ Nat.pow 2 63) :
    (afterInteger positive n).runOn c =
      (.ok (if positive then .int n else .int (-(n : Int))), c) := by
  have hpeek : ∀ ch ∈ c.rest.head?, ch ≠ '.' ∧ ch ≠ 'e' ∧ ch ≠ 'E' := fun ch h => (hend ch h).2
  cases positive with
  | true =>
    cases hr : c.rest.head? with
    | none => simp [afterInteger, hr]
    | some ch =>
      have := hpeek ch hr
      simp [afterInteger, hr, this]
  | false =>
    obtain ⟨h0, hmax⟩ := hneg rfl
    have hnz : (n == 0 || decide (n > Nat.pow 2 63)) = false := by
      simp only [Bool.or_eq_false_iff, beq_eq_false_iff_ne, ne_eq, decide_eq_false_iff_not,
        Nat.not_lt]
      omega
    cases hr : c.rest.head? with
    | none => simp [afterInteger, hr, hnz]
    | some ch =>
      have := hpeek ch hr
      simp [afterInteger, hr, this, hnz]

/-- A natural number's digits read back as the number, whenever it fits in `u64`. -/
theorem readNumber_toDigits (positive : Bool) (n : Nat) (hn : n ≤ u64Max) {c : Cursor}
    {rest : List Char} (h : c.rest = Nat.toDigits 10 n ++ rest) (hend : NumberEnds rest) :
    (readNumber positive).runOn c = (afterInteger positive n).runOn (c.pass (Nat.toDigits 10 n)) := by
  rcases Nat.eq_zero_or_pos n with rfl | hpos
  · have h0 : Nat.toDigits 10 0 = ['0'] := rfl
    rw [h0] at h ⊢
    cases rest with
    | nil => simp [readNumber, h, Cursor.pass, Cursor.bump]
    | cons ch r =>
      have hch := (hend ch rfl).1
      simp [readNumber, h, hch, Cursor.pass, Cursor.bump]
  · obtain ⟨d, ds, hds, hd0⟩ := Nat.toDigits_ten_head hpos
    have hdig : ∀ x ∈ d :: ds, x.isDigit = true := fun x hx =>
      Nat.isDigit_of_mem_toDigits (by omega) (by omega) (hds ▸ hx)
    have hd : d.isDigit = true := hdig d List.mem_cons_self
    have hval : Nat.ofDigitChars 10 ds (d.toNat - 48) = n := by
      have : Nat.ofDigitChars 10 (Nat.toDigits 10 n) 0 = n := Nat.ofDigitChars_ten_toDigits
      rw [hds, Nat.ofDigitChars_cons] at this
      simpa using this
    rw [hds] at h ⊢
    have hb := Cursor.bump_of_cons (h.trans (List.cons_append ..))
    have hrun := readNumber_digits_run positive ds (d.toNat - 48)
      (fun x hx => hdig x (List.mem_cons_of_mem _ hx))
      (show ds.length < c.bump.rest.length + 1 by rw [hb.1]; simp only [List.length_append]; omega) hb.1 (hval ▸ hn) hend
    rw [hval] at hrun
    have hne : (d == '0') = false := by simpa using hd0
    simp only [readNumber, runOn_bind, runOn_peek, h, List.cons_append, List.head?_cons, runOn_bump,
      hne, Bool.false_eq_true, ite_false, hd, ite_true, runOn_get]
    exact hrun

/-- An integer literal reads back as the integer: the digits of `n ≤ u64Max`, or, after a
minus sign, those of `0 < n ≤ 2^63`. -/
theorem yields_readNumber_toDigits (positive : Bool) (n : Nat) (hn : n ≤ u64Max)
    (hneg : positive = false → 0 < n ∧ n ≤ Nat.pow 2 63) {c : Cursor} {rest : List Char}
    (h : c.rest = Nat.toDigits 10 n ++ rest) (hend : NumberEnds rest) :
    Yields (readNumber positive) c (if positive then .int n else .int (-(n : Int))) rest := by
  have hpass := Cursor.pass_of_append h
  refine ⟨c.pass (Nat.toDigits 10 n), ?_, hpass.1, hpass.2⟩
  rw [readNumber_toDigits positive n hn h hend,
    afterInteger_of_end positive n (hpass.1 ▸ hend) hneg]

/-! ### The characters of a written double -/

/-- The characters a written number is made of. -/
def numberChar (ch : Char) : Bool := ch.isDigit || ch == '.' || ch == 'e' || ch == '-'

/-- Every character of the text is one a number is made of. -/
def OfNumberChars (s : String) : Prop := ∀ ch ∈ s.toList, numberChar ch = true

instance (s : String) : Decidable (OfNumberChars s) :=
  decidable_of_iff (s.toList.all numberChar = true) List.all_eq_true

theorem numberChar_not_blank {ch : Char} (h : numberChar ch = true) : ¬ IsBlank ch := by
  rintro (rfl | rfl | rfl | rfl) <;> simp [numberChar] at h

theorem OfNumberChars.append {a b : String} (ha : OfNumberChars a) (hb : OfNumberChars b) :
    OfNumberChars (a ++ b) := by
  intro ch hch
  rw [String.toList_append, List.mem_append] at hch
  rcases hch with h | h
  · exact ha ch h
  · exact hb ch h

theorem ofNumberChars_ofList {l : List Char} (h : ∀ ch ∈ l, numberChar ch = true) :
    OfNumberChars (String.ofList l) := by
  intro ch hch
  rw [String.toList_ofList] at hch
  exact h ch hch

theorem numberChar_of_mem_toDigits {n : Nat} {ch : Char} (h : ch ∈ Nat.toDigits 10 n) :
    numberChar ch = true := by
  simp [numberChar, Nat.isDigit_of_mem_toDigits (by omega) (by omega) h]

theorem ofNumberChars_toDigits (n : Nat) : OfNumberChars (String.ofList (Nat.toDigits 10 n)) :=
  ofNumberChars_ofList fun _ => numberChar_of_mem_toDigits

theorem ofNumberChars_zeros (n : Nat) : OfNumberChars (Decimal.zeros n) := by
  apply ofNumberChars_ofList
  intro ch hch
  rw [List.eq_of_mem_replicate hch]
  rfl

theorem ofNumberChars_int (i : Int) : OfNumberChars (toString i) := by
  rw [Int.toString_eq_repr, Int.repr_eq_if]
  have hnat : ∀ n : Nat, OfNumberChars n.repr := fun n => by
    intro ch hch
    rw [Nat.toList_repr] at hch
    exact numberChar_of_mem_toDigits hch
  split
  · exact hnat _
  · exact OfNumberChars.append (by decide) (hnat _)

theorem ofNumberChars_positionalText (pointZero : Bool) (d : Decimal.Trimmed) :
    OfNumberChars (Decimal.positionalText pointZero d) := by
  have hds : ∀ ch ∈ Nat.toDigits 10 d.digits, numberChar ch = true := fun _ =>
    numberChar_of_mem_toDigits
  unfold Decimal.positionalText
  dsimp only
  split
  · refine ((ofNumberChars_toDigits _).append (ofNumberChars_zeros _)).append ?_
    split <;> decide
  · split
    · refine ((ofNumberChars_ofList ?_).append (by decide)).append (ofNumberChars_ofList ?_)
      · exact fun ch h => hds ch (List.mem_of_mem_take h)
      · exact fun ch h => hds ch (List.mem_of_mem_drop h)
    · exact ((by decide : OfNumberChars "0.").append (ofNumberChars_zeros _)).append
        (ofNumberChars_toDigits _)

theorem ofNumberChars_scientificText (d : Decimal.Trimmed) :
    OfNumberChars (Decimal.scientificText d) := by
  have hds : ∀ ch ∈ Nat.toDigits 10 d.digits, numberChar ch = true := fun _ =>
    numberChar_of_mem_toDigits
  unfold Decimal.scientificText
  dsimp only
  refine OfNumberChars.append (OfNumberChars.append ?_ (by decide)) (ofNumberChars_int _)
  split
  · decide
  · rename_i c hc
    exact ofNumberChars_ofList fun ch h => hds ch (by rw [hc]; simpa using h)
  · rename_i c rest hc
    refine ((ofNumberChars_ofList ?_).append (by decide)).append (ofNumberChars_ofList ?_)
    · exact fun ch h => hds ch (by rw [hc]; simp at h; simp [h])
    · exact fun ch h => hds ch (by rw [hc]; exact List.mem_cons_of_mem _ h)

/-- A finite double is written with digits, a point, an exponent mark and minus signs
only. -/
theorem ofNumberChars_render_float {b : UInt64} (hb : Decimal.Binary.isSpecial b = false) :
    OfNumberChars (Number.render (.float b)) := by
  simp only [Number.render, hb, Decimal.Layout.renderBits, Bool.false_eq_true, ite_false,
    Decimal.Layout.render]
  refine OfNumberChars.append (by split <;> decide) ?_
  split
  · exact ofNumberChars_positionalText _ _
  · split
    · exact ofNumberChars_positionalText _ _
    · exact ofNumberChars_scientificText _

/-! ### A number where it stands

`Twin rest c₁ c₂`: `c₂` stands where `c₁` does, but after the end of `c₁`'s text comes
`rest`.  `Mirrors rest r₁ r₂ c₁ c₂`: what `r₁` reads from `c₁`, `r₂` reads from `c₂`, and the
cursors stay twins; the room of `c₂`, which no reader of a number looks at, is kept.  Every reader of the number family mirrors itself when `rest` is what may
follow a value: at the end of `c₁`'s text it sees nothing, `c₂` sees a separator or a
closing bracket, and no reader of a number tells the two apart.  Loops mirror themselves
across different fuels, as long as both outlast the digits in front. -/

/-- `c₂` stands where `c₁` does, with `rest` after the end of `c₁`'s text. -/
def Twin (rest : List Char) (c₁ c₂ : Cursor) : Prop := c₂.rest = c₁.rest ++ rest

/-- What `r₁` reads from `c₁`, `r₂` reads from `c₂`; the cursors stay twins, and `r₁` only
takes text. -/
def Mirrors {α : Type} (rest : List Char) (r₁ r₂ : Reader α) (c₁ c₂ : Cursor) : Prop :=
  ∀ a c₁', r₁.runOn c₁ = (.ok a, c₁') →
    ∃ c₂', r₂.runOn c₂ = (.ok a, c₂') ∧ Twin rest c₁' c₂' ∧ c₁'.rest <:+ c₁.rest ∧
      c₂'.room = c₂.room

/-- The number of digits in front. -/
def leadDigits (l : List Char) : Nat := (l.takeWhile Char.isDigit).length

section Twins

variable {α β : Type} {rest : List Char} {c₁ c₂ : Cursor}

theorem Twin.bump (h : Twin rest c₁ c₂) (hne : c₁.rest ≠ []) : Twin rest c₁.bump c₂.bump := by
  obtain ⟨ch, t, ht⟩ := List.exists_cons_of_ne_nil hne
  have h₁ := Cursor.bump_of_cons ht
  have h₂ := Cursor.bump_of_cons (h.trans (by rw [ht, List.cons_append]))
  unfold Twin
  rw [h₂.1, h₁.1]

/-- A cursor is its own twin when nothing follows. -/
theorem twin_nil (c : Cursor) : Twin [] c c := (List.append_nil _).symm

theorem Twin.head (h : Twin rest c₁ c₂) (hne : c₁.rest ≠ []) : c₂.rest.head? = c₁.rest.head? := by
  obtain ⟨ch, t, ht⟩ := List.exists_cons_of_ne_nil hne
  rw [h, ht]
  rfl

theorem Twin.head_of_nil (h : Twin rest c₁ c₂) (he : c₁.rest = []) : c₂.rest.head? = rest.head? := by
  rw [h, he]
  rfl

theorem mirrors_pure (a : α) (h : Twin rest c₁ c₂) : Mirrors rest (pure a) (pure a) c₁ c₂ := by
  intro a' c₁' hrun
  simp only [runOn_pure, Prod.mk.injEq, Except.ok.injEq] at hrun
  obtain ⟨rfl, rfl⟩ := hrun
  exact ⟨c₂, rfl, h, List.suffix_refl _, rfl⟩

theorem Mirrors.bind {x₁ x₂ : Reader α} {f₁ f₂ : α → Reader β} (hx : Mirrors rest x₁ x₂ c₁ c₂)
    (hf : ∀ a c₁' c₂', Twin rest c₁' c₂' → c₁'.rest <:+ c₁.rest → Mirrors rest (f₁ a) (f₂ a) c₁' c₂') :
    Mirrors rest (x₁ >>= f₁) (x₂ >>= f₂) c₁ c₂ := by
  intro b c₁'' hrun
  rw [runOn_bind] at hrun
  rcases hx₁ : x₁.runOn c₁ with ⟨_ | a, c₁'⟩
  · rw [hx₁] at hrun
    cases hrun
  · rw [hx₁] at hrun
    obtain ⟨c₂', hx₂, htw, hsuf, hroom⟩ := hx a c₁' hx₁
    obtain ⟨c₂'', hf₂, htw', hsuf', hroom'⟩ := hf a c₁' c₂' htw hsuf b c₁'' hrun
    exact ⟨c₂'', by rw [runOn_bind, hx₂]; exact hf₂, htw', hsuf'.trans hsuf, hroom'.trans hroom⟩

/-- A reader that fails from `c₁` mirrors anything. -/
theorem mirrors_of_fails {r₁ r₂ : Reader α} (h : ∀ a c', r₁.runOn c₁ ≠ (.ok a, c')) :
    Mirrors rest r₁ r₂ c₁ c₂ := fun a c' hrun => absurd hrun (h a c')

/-- A look at the next character: where `c₁`'s text goes on, both see the same character;
where it ends, `c₁` sees nothing and `c₂` sees what follows. -/
theorem mirrors_peek_bind {k₁ k₂ : Option Char → Reader α} (h : Twin rest c₁ c₂)
    (hk : ∀ d t, c₁.rest = d :: t → Mirrors rest (k₁ (some d)) (k₂ (some d)) c₁ c₂)
    (hend : c₁.rest = [] → Mirrors rest (k₁ none) (k₂ rest.head?) c₁ c₂) :
    Mirrors rest (peek? >>= k₁) (peek? >>= k₂) c₁ c₂ := by
  intro a c₁' hrun
  simp only [runOn_bind, runOn_peek] at hrun
  cases hx : c₁.rest with
  | nil =>
    rw [hx] at hrun
    obtain ⟨c₂', hrun₂, htw, hsuf, hroom⟩ := hend hx a c₁' hrun
    refine ⟨c₂', ?_, htw, hx ▸ hsuf, hroom⟩
    simp only [runOn_bind, runOn_peek]
    rw [h.head_of_nil hx]
    exact hrun₂
  | cons d t =>
    rw [hx] at hrun
    obtain ⟨c₂', hrun₂, htw, hsuf, hroom⟩ := hk d t hx a c₁' hrun
    refine ⟨c₂', ?_, htw, hx ▸ hsuf, hroom⟩
    simp only [runOn_bind, runOn_peek]
    rw [h.head (by simp [hx]), hx]
    exact hrun₂

theorem mirrors_bump_bind {k₁ k₂ : Unit → Reader α} {d : Char} {t : List Char}
    (hx : c₁.rest = d :: t)
    (hk : Mirrors rest (k₁ ()) (k₂ ()) c₁.bump c₂.bump) :
    Mirrors rest (bump >>= k₁) (bump >>= k₂) c₁ c₂ := by
  have hne : c₁.rest ≠ [] := by simp [hx]
  intro a c₁' hrun
  simp only [runOn_bind, runOn_bump] at hrun
  obtain ⟨c₂', hrun₂, htw, hsuf, hroom⟩ := hk a c₁' hrun
  refine ⟨c₂', by simp only [runOn_bind, runOn_bump]; exact hrun₂, htw, hsuf.trans ?_,
    hroom.trans (Cursor.bump_room c₂)⟩
  rw [(Cursor.bump_of_cons hx).1, hx]
  exact List.suffix_cons d t

theorem mirrors_get_bind {k₁ k₂ : Cursor → Reader α} (hk : Mirrors rest (k₁ c₁) (k₂ c₂) c₁ c₂) :
    Mirrors rest (get >>= k₁) (get >>= k₂) c₁ c₂ := by
  intro a c₁' hrun
  simp only [runOn_bind, runOn_get] at hrun
  obtain ⟨c₂', hrun₂, htw, hsuf, hroom⟩ := hk a c₁' hrun
  exact ⟨c₂', by simp only [runOn_bind, runOn_get]; exact hrun₂, htw, hsuf, hroom⟩

theorem Twin.pass {l t : List Char} (h : Twin rest c₁ c₂) (ht : c₁.rest = l ++ t) :
    Twin rest (c₁.pass l) (c₂.pass l) := by
  have h₁ := Cursor.pass_of_append ht
  have h₂ : (c₂.pass l).rest = t ++ rest ∧ (c₂.pass l).room = c₂.room :=
    Cursor.pass_of_append (by rw [h, ht, List.append_assoc])
  unfold Twin
  rw [h₂.1, h₁.1]

/-- A reader that takes no text, and whose outcome does not depend on where it runs. -/
def Still (r : Reader α) : Prop :=
  ∀ c a c', r.runOn c = (.ok a, c') → c' = c ∧ ∀ d, r.runOn d = (.ok a, d)

theorem still_pure (a : α) : Still (pure a : Reader α) := by
  intro c a' c' hrun
  simp only [runOn_pure, Prod.mk.injEq, Except.ok.injEq] at hrun
  obtain ⟨rfl, rfl⟩ := hrun
  exact ⟨rfl, fun d => rfl⟩

theorem still_fail (p : Problem) : Still (fail p : Reader α) := by
  intro c a c' hrun
  simp [fail] at hrun

theorem Still.bind {x : Reader α} {f : α → Reader β} (hx : Still x) (hf : ∀ a, Still (f a)) :
    Still (x >>= f) := by
  intro c b c' hrun
  rw [runOn_bind] at hrun
  rcases hx₁ : x.runOn c with ⟨_ | a, c₁⟩
  · rw [hx₁] at hrun
    cases hrun
  · rw [hx₁] at hrun
    obtain ⟨hc₁, hxd⟩ := hx c a c₁ hx₁
    obtain ⟨hc', hfd⟩ := hf a c₁ b c' hrun
    refine ⟨hc'.trans hc₁, fun d => ?_⟩
    rw [runOn_bind, hxd d]
    exact hfd d

theorem Still.mirrors {r : Reader α} (hs : Still r) (h : Twin rest c₁ c₂) :
    Mirrors rest r r c₁ c₂ := by
  intro a c₁' hrun
  obtain ⟨rfl, hd⟩ := hs c₁ a c₁' hrun
  exact ⟨c₂, hd c₂, h, List.suffix_refl _, rfl⟩

/-- Scaling by powers of ten only computes. -/
theorem still_scale : ∀ fuel f e, Still (fromParts.scale fuel f e)
  | 0, f, _ => still_pure f
  | fuel + 1, f, e => by
    unfold fromParts.scale
    dsimp only
    split
    · split
      · split
        · exact still_fail _
        · exact still_pure _
      · exact still_pure _
    · split
      · exact still_pure _
      · split
        · exact still_fail _
        · exact still_scale fuel _ _

theorem still_fromParts (positive : Bool) (significand : Nat) (exponent : Int) :
    Still (fromParts positive significand exponent) :=
  (still_scale _ _ _).bind fun _ => still_pure _

/-! The digits an overflowed literal skips are taken one by one. -/

theorem runOn_forIn_bump (l : List Char) (c : Cursor) :
    (forIn l PUnit.unit fun _ _ => do bump; pure (ForInStep.yield PUnit.unit) :
      Reader PUnit).runOn c = (.ok PUnit.unit, c.pass l) := by
  induction l generalizing c with
  | nil => rfl
  | cons ch l ih =>
    simp only [List.forIn_cons, runOn_bind, runOn_bump, runOn_pure]
    exact ih c.bump

/-- What may follow a value holds no digit to skip. -/
theorem takeWhile_isDigit_append (hr : Follows rest) (l : List Char) :
    (l ++ rest).takeWhile Char.isDigit = l.takeWhile Char.isDigit := by
  induction l with
  | nil =>
    cases rest with
    | nil => rfl
    | cons ch r =>
      have hch : ch.isDigit = false := (hr.numberEnds ch rfl).1
      simp [hch]
  | cons ch l ih =>
    cases hch : ch.isDigit <;> simp [hch, ih]

theorem runOn_skipDigits (c : Cursor) :
    skipDigits.runOn c = (.ok (leadDigits c.rest), c.pass (c.rest.takeWhile Char.isDigit)) := by
  simp only [skipDigits, runOn_bind, runOn_get, runOn_forIn_bump, runOn_pure, leadDigits]

/-- The digits in front are the same for twins, and skipping them keeps the twins. -/
theorem mirrors_skipDigits (hr : Follows rest) (h : Twin rest c₁ c₂) :
    Mirrors rest skipDigits skipDigits c₁ c₂ := by
  intro a c₁' hrun
  rw [runOn_skipDigits] at hrun
  simp only [Prod.mk.injEq, Except.ok.injEq] at hrun
  obtain ⟨rfl, rfl⟩ := hrun
  have hsame : c₂.rest.takeWhile Char.isDigit = c₁.rest.takeWhile Char.isDigit := by
    rw [h, takeWhile_isDigit_append hr]
  have hsplit : c₁.rest = c₁.rest.takeWhile Char.isDigit ++ c₁.rest.dropWhile Char.isDigit :=
    List.takeWhile_append_dropWhile.symm
  refine ⟨c₂.pass (c₁.rest.takeWhile Char.isDigit), ?_, h.pass hsplit, ?_,
    Cursor.pass_room _ c₂⟩
  · rw [runOn_skipDigits, hsame]
    simp [leadDigits, hsame]
  · rw [(Cursor.pass_of_append hsplit).1]
    exact List.dropWhile_suffix _

theorem leadDigits_cons {d : Char} {t : List Char} (hd : d.isDigit = true) :
    leadDigits (d :: t) = leadDigits t + 1 := by
  simp [leadDigits, hd]

theorem mirrors_exponentOverflow (hr : Follows rest) (h : Twin rest c₁ c₂)
    (positive zero positiveExp : Bool) :
    Mirrors rest (exponentOverflow positive zero positiveExp)
      (exponentOverflow positive zero positiveExp) c₁ c₂ := by
  unfold exponentOverflow
  split
  · exact (still_fail _).mirrors h
  · apply Mirrors.bind (mirrors_skipDigits hr h)
    intro _ _ _ htw _
    exact mirrors_pure _ htw

theorem mirrors_readExponentDigits_digits (hr : Follows rest) :
    ∀ (f₁ f₂ e : Nat) (c₁ c₂ : Cursor), Twin rest c₁ c₂ → leadDigits c₁.rest < f₁ →
      leadDigits c₁.rest < f₂ →
      Mirrors rest (readExponentDigits.digits f₁ e) (readExponentDigits.digits f₂ e) c₁ c₂
  | 0, _, _, _, _, _, h₁, _ => absurd h₁ (Nat.not_lt_zero _)
  | f₁ + 1, f₂, e, c₁, c₂, h, h₁, h₂ => by
    obtain ⟨f₂, rfl⟩ : ∃ m, f₂ = m + 1 := ⟨f₂ - 1, by omega⟩
    unfold readExponentDigits.digits
    apply mirrors_peek_bind h
    · intro d t hx
      simp only []
      by_cases hd : d.isDigit
      · rw [if_pos hd, if_pos hd]
        apply mirrors_bump_bind hx
        have hb := Cursor.bump_of_cons hx
        have htw := h.bump (by simp [hx])
        rw [hx, leadDigits_cons hd] at h₁ h₂
        split
        · exact mirrors_pure _ htw
        · exact mirrors_readExponentDigits_digits hr f₁ f₂ _ _ _ htw (by rw [hb.1]; omega)
            (by rw [hb.1]; omega)
      · rw [if_neg hd, if_neg hd]
        exact mirrors_pure _ h
    · intro _
      rcases hr.head with h' | h' | h' | h' | h' <;> rw [h'] <;> exact mirrors_pure _ h

theorem leadDigits_le (l : List Char) : leadDigits l ≤ l.length :=
  (List.takeWhile_sublist _).length_le

theorem Twin.length_le (h : Twin rest c₁ c₂) : c₁.rest.length ≤ c₂.rest.length := by
  rw [h, List.length_append]
  omega

theorem mirrors_readExponentDigits (hr : Follows rest) (h : Twin rest c₁ c₂) (positive : Bool)
    (significand : Nat) (start : Int) (positiveExp : Bool) :
    Mirrors rest (readExponentDigits positive significand start positiveExp)
      (readExponentDigits positive significand start positiveExp) c₁ c₂ := by
  unfold readExponentDigits
  apply mirrors_peek_bind h
  · intro d t hx
    simp only []
    apply mirrors_bump_bind hx
    have htw := h.bump (by simp [hx])
    split
    · exact (still_fail _).mirrors htw
    · apply mirrors_get_bind
      have h₁ := leadDigits_le c₁.bump.rest
      have h₂ := htw.length_le
      apply Mirrors.bind (mirrors_readExponentDigits_digits hr _ _ _ _ _ htw (by omega) (by omega))
      intro a c₁' c₂' htw' _
      split
      · exact mirrors_exponentOverflow hr htw' _ _ _
      · exact (still_fromParts _ _ _).mirrors htw'
  · intro _
    exact mirrors_of_fails fun a c' => by simp [fail]

theorem mirrors_readExponent (hr : Follows rest) (h : Twin rest c₁ c₂) {d : Char} {t : List Char}
    (hx : c₁.rest = d :: t) (positive : Bool) (significand : Nat) (start : Int) :
    Mirrors rest (readExponent positive significand start)
      (readExponent positive significand start) c₁ c₂ := by
  unfold readExponent
  apply mirrors_bump_bind hx
  have htw := h.bump (by simp [hx])
  apply mirrors_peek_bind htw
  · intro d' t' hx'
    split
    · exact mirrors_bump_bind hx' (mirrors_readExponentDigits hr (htw.bump (by simp [hx'])) _ _ _ _)
    · exact mirrors_bump_bind hx' (mirrors_readExponentDigits hr (htw.bump (by simp [hx'])) _ _ _ _)
    · exact mirrors_readExponentDigits hr htw _ _ _ _
  · intro _
    rcases hr.head with h' | h' | h' | h' | h' <;> rw [h'] <;>
      exact mirrors_readExponentDigits hr htw _ _ _ _

/-- Skipping the digits that no longer fit, then an optional exponent. -/
theorem mirrors_afterOverflow (hr : Follows rest) (h : Twin rest c₁ c₂) (positive : Bool)
    (significand : Nat) (exponent : Int) :
    Mirrors rest (afterOverflow positive significand exponent)
      (afterOverflow positive significand exponent) c₁ c₂ := by
  unfold afterOverflow
  apply Mirrors.bind (mirrors_skipDigits hr h)
  intro _ c₁' c₂' htw _
  apply mirrors_peek_bind htw
  · intro d t hx
    split
    · exact mirrors_readExponent hr htw hx _ _ _
    · exact mirrors_readExponent hr htw hx _ _ _
    · exact (still_fromParts _ _ _).mirrors htw
  · intro _
    rcases hr.head with h' | h' | h' | h' | h' <;> rw [h'] <;>
      exact (still_fromParts _ _ _).mirrors htw

theorem mirrors_readFraction_digits (hr : Follows rest) :
    ∀ (f₁ f₂ s : Nat) (a : Int) (c₁ c₂ : Cursor), Twin rest c₁ c₂ → leadDigits c₁.rest < f₁ →
      leadDigits c₁.rest < f₂ →
      Mirrors rest (readFraction.digits f₁ s a) (readFraction.digits f₂ s a) c₁ c₂
  | 0, _, _, _, _, _, _, h₁, _ => absurd h₁ (Nat.not_lt_zero _)
  | f₁ + 1, f₂, s, a, c₁, c₂, h, h₁, h₂ => by
    obtain ⟨f₂, rfl⟩ : ∃ m, f₂ = m + 1 := ⟨f₂ - 1, by omega⟩
    unfold readFraction.digits
    apply mirrors_peek_bind h
    · intro d t hx
      simp only []
      by_cases hd : d.isDigit
      · rw [if_pos hd, if_pos hd]
        split
        · exact mirrors_pure _ h
        · apply mirrors_bump_bind hx
          have hb := Cursor.bump_of_cons hx
          rw [hx, leadDigits_cons hd] at h₁ h₂
          exact mirrors_readFraction_digits hr f₁ f₂ _ _ _ _ (h.bump (by simp [hx]))
            (by rw [hb.1]; omega) (by rw [hb.1]; omega)
      · rw [if_neg hd, if_neg hd]
        exact mirrors_pure _ h
    · intro _
      rcases hr.head with h' | h' | h' | h' | h' <;> rw [h'] <;> exact mirrors_pure _ h

theorem mirrors_readFraction (hr : Follows rest) (h : Twin rest c₁ c₂) {d : Char} {t : List Char}
    (hx : c₁.rest = d :: t) (positive : Bool) (significand : Nat) (before : Int) :
    Mirrors rest (readFraction positive significand before)
      (readFraction positive significand before) c₁ c₂ := by
  unfold readFraction
  apply mirrors_bump_bind hx
  have htw := h.bump (by simp [hx])
  apply mirrors_get_bind
  have h₁ := leadDigits_le c₁.bump.rest
  have h₂ := htw.length_le
  apply Mirrors.bind (mirrors_readFraction_digits hr _ _ _ _ _ _ htw (by omega) (by omega))
  intro ⟨s, after, overflowed⟩ c₁' c₂' htw' _
  simp only []
  split
  · exact mirrors_afterOverflow hr htw' _ _ _
  · split
    · apply mirrors_peek_bind htw'
      · intro _ _ _
        exact mirrors_of_fails fun a c' => by simp [failPeek]
      · intro _
        exact mirrors_of_fails fun a c' => by simp [failPeek]
    · apply mirrors_peek_bind htw'
      · intro d' t' hx'
        split
        · exact mirrors_readExponent hr htw' hx' _ _ _
        · exact mirrors_readExponent hr htw' hx' _ _ _
        · exact (still_fromParts _ _ _).mirrors htw'
      · intro _
        rcases hr.head with h' | h' | h' | h' | h' <;> rw [h'] <;>
          exact (still_fromParts _ _ _).mirrors htw'

/-- Digits past the `u64` range of an integer part, then a fraction or an exponent. -/
theorem mirrors_readLongInteger (hr : Follows rest) (h : Twin rest c₁ c₂) (positive : Bool)
    (significand : Nat) :
    Mirrors rest (readLongInteger positive significand) (readLongInteger positive significand)
      c₁ c₂ := by
  unfold readLongInteger
  apply Mirrors.bind (mirrors_skipDigits hr h)
  intro _ c₁' c₂' htw _
  apply mirrors_peek_bind htw
  · intro d t hx
    split
    · exact mirrors_readFraction hr htw hx _ _ _
    · exact mirrors_readExponent hr htw hx _ _ _
    · exact mirrors_readExponent hr htw hx _ _ _
    · exact (still_fromParts _ _ _).mirrors htw
  · intro _
    rcases hr.head with h' | h' | h' | h' | h' <;> rw [h'] <;>
      exact (still_fromParts _ _ _).mirrors htw

theorem mirrors_afterInteger (hr : Follows rest) (h : Twin rest c₁ c₂) (positive : Bool)
    (significand : Nat) :
    Mirrors rest (afterInteger positive significand) (afterInteger positive significand) c₁ c₂ := by
  have hint : Still (if positive then pure (Number.int significand)
      else if (significand == 0 || decide (significand > Nat.pow 2 63)) = true then
        pure (Number.float (-Float.ofBits (Decimal.Binary.ofNat significand)).toBits)
      else pure (Number.int (-(significand : Int))) : Reader Number) := by
    split
    · exact still_pure _
    · split
      · exact still_pure _
      · exact still_pure _
  unfold afterInteger
  apply mirrors_peek_bind h
  · intro d t hx
    split
    · exact mirrors_readFraction hr h hx _ _ _
    · exact mirrors_readExponent hr h hx _ _ _
    · exact mirrors_readExponent hr h hx _ _ _
    · exact hint.mirrors h
  · intro _
    rcases hr.head with h' | h' | h' | h' | h' <;> rw [h'] <;> exact hint.mirrors h

theorem mirrors_readNumber_digits (hr : Follows rest) (positive : Bool) :
    ∀ (f₁ f₂ s : Nat) (c₁ c₂ : Cursor), Twin rest c₁ c₂ → leadDigits c₁.rest < f₁ →
      leadDigits c₁.rest < f₂ →
      Mirrors rest (readNumber.digits positive f₁ s) (readNumber.digits positive f₂ s) c₁ c₂
  | 0, _, _, _, _, _, h₁, _ => absurd h₁ (Nat.not_lt_zero _)
  | f₁ + 1, f₂, s, c₁, c₂, h, h₁, h₂ => by
    obtain ⟨f₂, rfl⟩ : ∃ m, f₂ = m + 1 := ⟨f₂ - 1, by omega⟩
    unfold readNumber.digits
    apply mirrors_peek_bind h
    · intro d t hx
      simp only []
      by_cases hd : d.isDigit
      · rw [if_pos hd, if_pos hd]
        split
        · exact mirrors_readLongInteger hr h _ _
        · apply mirrors_bump_bind hx
          have hb := Cursor.bump_of_cons hx
          rw [hx, leadDigits_cons hd] at h₁ h₂
          exact mirrors_readNumber_digits hr positive f₁ f₂ _ _ _ (h.bump (by simp [hx]))
            (by rw [hb.1]; omega) (by rw [hb.1]; omega)
      · rw [if_neg hd, if_neg hd]
        exact mirrors_afterInteger hr h _ _
    · intro _
      rcases hr.head with h' | h' | h' | h' | h' <;> rw [h'] <;> exact mirrors_afterInteger hr h _ _

/-- **A number reads the same where it stands.**  What the number reader reads from a text
alone, it reads from the text followed by anything that may follow a value, stopping at the
same place. -/
theorem mirrors_readNumber (hr : Follows rest) (h : Twin rest c₁ c₂) (positive : Bool) :
    Mirrors rest (readNumber positive) (readNumber positive) c₁ c₂ := by
  unfold readNumber
  apply mirrors_peek_bind h
  · intro d t hx
    simp only []
    apply mirrors_bump_bind hx
    have htw := h.bump (by simp [hx])
    split
    · apply mirrors_peek_bind htw
      · intro d' t' hx'
        simp only []
        split
        · exact mirrors_of_fails fun a c' => by simp [failPeek]
        · exact mirrors_afterInteger hr htw _ _
      · intro _
        rcases hr.head with h' | h' | h' | h' | h' <;> rw [h'] <;>
          exact mirrors_afterInteger hr htw _ _
    · split
      · apply mirrors_get_bind
        have h₁ := leadDigits_le c₁.bump.rest
        have h₂ := htw.length_le
        exact mirrors_readNumber_digits hr positive _ _ _ _ _ htw (by omega) (by omega)
      · exact mirrors_of_fails fun a c' => by simp [fail]
  · intro _
    exact mirrors_of_fails fun a c' => by simp [fail]

end Twins

theorem readNumber_head {positive : Bool} {c c' : Cursor} {n : Number}
    (h : (readNumber positive).runOn c = (.ok n, c')) :
    ∃ d t, c.rest = d :: t ∧ d.isDigit = true := by
  unfold readNumber at h
  simp only [runOn_bind, runOn_peek] at h
  cases hx : c.rest with
  | nil => simp [hx, fail] at h
  | cons d t =>
    refine ⟨d, t, rfl, ?_⟩
    rw [hx] at h
    simp only [List.head?_cons, runOn_bind, runOn_bump] at h
    by_cases h0 : (d == '0') = true
    · rw [beq_iff_eq.mp h0]
      rfl
    · rw [if_neg h0] at h
      by_cases hd : d.isDigit = true
      · exact hd
      · rw [if_neg hd] at h
        simp [fail] at h

/-! ### The integers a literal gives

Only an integer part with nothing after it gives an integer, and its digit loop stops before
the value leaves the range of `u64`; after a minus sign it gives an integer only down to
`-2^63`.  Every other path ends in `fromParts` or `exponentOverflow`, which give doubles. -/

/-- An integer in the range a literal reads as an integer; doubles are not constrained. -/
def InRange : Number → Prop
  | .int i => -((Nat.pow 2 63 : Nat) : Int) ≤ i ∧ i ≤ u64Max
  | .float _ => True

theorem inRange_fromParts (positive : Bool) (significand : Nat) (exponent : Int) :
    Returns InRange (fromParts positive significand exponent) :=
  returns_bind fun _ => returns_pure trivial

theorem inRange_exponentOverflow (positive zeroSignificand positiveExp : Bool) :
    Returns InRange (exponentOverflow positive zeroSignificand positiveExp) := by
  unfold exponentOverflow
  split
  · exact returns_fail _
  · exact returns_bind fun _ => returns_pure trivial

theorem inRange_readExponentDigits (positive : Bool) (significand : Nat) (start : Int)
    (positiveExp : Bool) : Returns InRange (readExponentDigits positive significand start positiveExp) := by
  unfold readExponentDigits
  refine returns_bind fun x => ?_
  split
  · exact returns_fail _
  · refine returns_bind fun _ => ?_
    split
    · exact returns_fail _
    · refine returns_bind fun _ => returns_bind fun e => ?_
      split
      · exact inRange_exponentOverflow _ _ _
      · exact inRange_fromParts _ _ _

theorem inRange_readExponent (positive : Bool) (significand : Nat) (start : Int) :
    Returns InRange (readExponent positive significand start) := by
  unfold readExponent
  refine returns_bind fun _ => returns_bind fun x => ?_
  split
  · exact returns_bind fun _ => inRange_readExponentDigits _ _ _ _
  · exact returns_bind fun _ => inRange_readExponentDigits _ _ _ _
  · exact inRange_readExponentDigits _ _ _ _

theorem inRange_afterOverflow (positive : Bool) (significand : Nat) (exponent : Int) :
    Returns InRange (afterOverflow positive significand exponent) := by
  unfold afterOverflow
  refine returns_bind fun _ => returns_bind fun x => ?_
  split
  · exact inRange_readExponent _ _ _
  · exact inRange_readExponent _ _ _
  · exact inRange_fromParts _ _ _

theorem inRange_readFraction (positive : Bool) (significand : Nat) (before : Int) :
    Returns InRange (readFraction positive significand before) := by
  unfold readFraction
  refine returns_bind fun _ => returns_bind fun _ => returns_bind fun r => ?_
  obtain ⟨s, after, overflowed⟩ := r
  dsimp only
  split
  · exact inRange_afterOverflow _ _ _
  split
  · refine returns_bind fun x => ?_
    split
    · exact returns_failPeek _
    · exact returns_failPeek _
  · refine returns_bind fun x => ?_
    split
    · exact inRange_readExponent _ _ _
    · exact inRange_readExponent _ _ _
    · exact inRange_fromParts _ _ _

theorem inRange_readLongInteger (positive : Bool) (significand : Nat) :
    Returns InRange (readLongInteger positive significand) := by
  unfold readLongInteger
  refine returns_bind fun _ => returns_bind fun x => ?_
  split
  · exact inRange_readFraction _ _ _
  · exact inRange_readExponent _ _ _
  · exact inRange_readExponent _ _ _
  · exact inRange_fromParts _ _ _

/-- An integer part that fits in `u64` gives an integer in range, or a double. -/
theorem inRange_afterInteger (positive : Bool) {significand : Nat} (hs : significand ≤ u64Max) :
    Returns InRange (afterInteger positive significand) := by
  unfold afterInteger
  refine returns_bind fun x => ?_
  split
  · exact inRange_readFraction _ _ _
  · exact inRange_readExponent _ _ _
  · exact inRange_readExponent _ _ _
  split
  · exact returns_pure ⟨by omega, by exact_mod_cast hs⟩
  split
  · exact returns_pure trivial
  · rename_i hbig
    have hle : significand ≤ Nat.pow 2 63 := by
      simp only [Bool.or_eq_true, beq_iff_eq, decide_eq_true_eq, not_or, Nat.not_lt] at hbig
      exact hbig.2
    exact returns_pure ⟨by omega, by omega⟩

/-- The digit loop of an integer part keeps its value in the range of `u64`. -/
theorem inRange_readNumber_digits (positive : Bool) :
    ∀ (fuel s : Nat), s ≤ u64Max → Returns InRange (readNumber.digits positive fuel s)
  | 0, _, hs => inRange_afterInteger positive hs
  | fuel + 1, s, hs => by
    unfold readNumber.digits
    refine returns_bind fun x => ?_
    split
    · split
      · dsimp only
        split
        · exact inRange_readLongInteger _ _
        · rename_i d hd hno
          have hdv := digit_sub_lt hd
          have hfit : s * 10 + (d.toNat - 48) ≤ u64Max := by
            have := mt (overflows_iff hdv).mpr hno
            omega
          exact returns_bind fun _ => inRange_readNumber_digits positive fuel _ hfit
      · exact inRange_afterInteger positive hs
    · exact inRange_afterInteger positive hs

theorem inRange_readNumber (positive : Bool) : Returns InRange (readNumber positive) := by
  have h9 : 9 ≤ u64Max := by unfold u64Max; decide
  unfold readNumber
  refine returns_bind fun x => ?_
  split
  · exact returns_fail _
  · refine returns_bind fun _ => ?_
    split
    · refine returns_bind fun y => ?_
      split
      · split
        · exact returns_failPeek _
        · exact inRange_afterInteger positive (Nat.zero_le _)
      · exact inRange_afterInteger positive (Nat.zero_le _)
    split
    · rename_i ch _ hd
      exact returns_bind fun _ =>
        inRange_readNumber_digits positive _ _ (by have := digit_sub_lt hd; omega)
    · exact returns_fail _

/-- A number reader keeps the room, and the integers it gives are in range. -/
theorem sound_readNumber (positive : Bool) :
    Sound (fun _ n => InRange n) (readNumber positive) := by
  intro c n c' h
  obtain ⟨c₂, h₂, -, -, hroom⟩ := mirrors_readNumber follows_nil (twin_nil c) positive n c' h
  rw [h] at h₂
  obtain ⟨-, rfl⟩ := Prod.mk.inj h₂
  exact ⟨inRange_readNumber positive c n c' h, hroom⟩

end NumberText

namespace Reader

open NumberText

theorem runOn_skipBlank_of_not_blank {c : Cursor} {d : Char} {t : List Char} (hx : c.rest = d :: t)
    (hd : ¬ IsBlank d) : skipBlank.runOn c = (.ok (some d), c) := by
  obtain ⟨rest, line, col, room⟩ := c
  simp only at hx
  subst hx
  rw [runOn_skipBlank, Cursor.skipBlankFrom_of_not_blank t _ _ hd]
  rfl

/-- A whole text read: the reader's own run, then only blanks. -/
theorem run_eq_ok {α : Type} {r : Reader α} {s : String} {a : α} (h : Reader.run r s = .ok a) :
    ∃ c₁ c₂, r.runOn (Cursor.ofString s) = (.ok a, c₁) ∧ finish.runOn c₁ = (.ok (), c₂) := by
  change ((r >>= fun a => finish >>= fun _ => pure a).runOn (Cursor.ofString s)).1 = .ok a at h
  simp only [runOn_bind, runOn_pure] at h
  rcases hr : r.runOn (Cursor.ofString s) with ⟨_ | a', c₁⟩
  · simp [hr] at h
  · rcases hf : finish.runOn c₁ with ⟨_ | u, c₂⟩
    · simp [hr, hf] at h
    · simp only [hr, hf, Except.ok.injEq] at h
      exact ⟨c₁, c₂, by rw [h], hf⟩

/-- After a text with no blanks, the end check passes only at the end. -/
theorem finish_ok_nil {c c' : Cursor} {u : Unit} (h : finish.runOn c = (.ok u, c'))
    (hc : ∀ ch ∈ c.rest, ¬ IsBlank ch) : c.rest = [] := by
  cases hx : c.rest with
  | nil => rfl
  | cons d t =>
    have hd := hc d (by simp [hx])
    simp [finish, runOn_skipBlank_of_not_blank hx hd, failPeek] at h

/-- A value read as a number was read by the number reader, after a minus sign or from a
digit. -/
theorem readValue_num {depth fuel : Nat} {c c' : Cursor} {n : Number}
    (hc : ∀ ch ∈ c.rest.head?, ¬ IsBlank ch) (h : (readValue depth fuel).runOn c = (.ok (.num n), c')) :
    (∃ t, c.rest = '-' :: t ∧ (readNumber false).runOn c.bump = (.ok n, c')) ∨
      (readNumber true).runOn c = (.ok n, c') := by
  cases fuel with
  | zero => simp [readValue, failPeek] at h
  | succ fuel =>
  cases hx : c.rest with
  | nil =>
    simp [readValue, runOn_skipBlank, hx, Cursor.skipBlankFrom_nil, failPeek] at h
  | cons d t =>
    have hd := hc d (by simp [hx])
    simp only [readValue, runOn_bind, runOn_skipBlank_of_not_blank hx hd] at h
    split at h
    case h_4 =>
      left
      refine ⟨t, rfl, ?_⟩
      simp only [runOn_bind, runOn_bump, runOn_pure] at h
      split at h
      · rename_i a c'' hrun
        simp only [Prod.mk.injEq, Except.ok.injEq, Value.num.injEq] at h
        rw [hrun, h.1, h.2]
      · simp at h
    case h_8 =>
      right
      split at h
      · simp only [runOn_bind, runOn_pure] at h
        split at h
        · rename_i a c'' hrun
          simp only [Prod.mk.injEq, Except.ok.injEq, Value.num.injEq] at h
          rw [hrun, h.1, h.2]
        · simp at h
      · simp [failPeek] at h
    case h_6 | h_7 =>
      split at h
      · simp [failPeek] at h
      · simp only [runOn_bind, runOn_bump, runOn_pure] at h
        split at h <;> simp at h
    all_goals
      simp only [runOn_bind, runOn_bump, runOn_pure] at h
      split at h <;> simp at h

end Reader

open Reader NumberText

/-- A double whose text, read alone, gives the double back.  Whether the shortest digits
of a double read back as that double is a fact of decimal conversion; the documents here
take it as given, double by double. -/
def FloatReadsBack (b : UInt64) : Prop :=
  Value.parse (Number.render (.float b)) = .ok (.num (.float b))

/-- Only a finite double has a text that reads back: the others are written `null`. -/
theorem FloatReadsBack.not_special {b : UInt64} (hb : FloatReadsBack b) :
    Decimal.Binary.isSpecial b = false := by
  cases hs : Decimal.Binary.isSpecial b
  · rfl
  · have hnull : Value.parse "null" = .ok .null := by rfl
    simp [FloatReadsBack, Number.render, hs, hnull] at hb

/-- The number reader's part of a double's text, with the cursor where the reader left it:
where the text reads back alone, the reader stops at its end. -/
theorem mirrors_readsBack {positive : Bool} {c₀ c₁ : Cursor} {n : Number} {rest : List Char}
    (hr : Follows rest) (hrun : (readNumber positive).runOn c₀ = (.ok n, c₁)) (hend : c₁.rest = [])
    {c : Cursor} (hc : c.rest = c₀.rest ++ rest) : Yields (readNumber positive) c n rest := by
  obtain ⟨c', hrun', htw, -, hroom⟩ := mirrors_readNumber hr hc positive n c₁ hrun
  refine ⟨c', hrun', ?_, hroom⟩
  rw [htw, hend, List.nil_append]

/-- **A double that reads back alone reads back in a document.**  Its text is a minus sign
or not, then a digit and the rest the number reader takes; wherever that text stands,
followed by what may follow a value, the number reader reads the double from it and stops
after it. -/
theorem FloatReadsBack.reads {b : UInt64} (hb : FloatReadsBack b) :
    ∃ (positive : Bool) (d : Char) (t : List Char),
      (Number.render (.float b)).toList = (if positive then [] else ['-']) ++ d :: t ∧
      d.isDigit = true ∧
      ∀ (c : Cursor) (rest : List Char), Follows rest → c.rest = d :: t ++ rest →
        Yields (readNumber positive) c (.float b) rest := by
  have hchars := ofNumberChars_render_float hb.not_special
  obtain ⟨c₁, c₂, hrun, hfin⟩ := run_eq_ok hb
  simp only [runOn_bind, runOn_get] at hrun
  have hT : (Cursor.ofString (Number.render (.float b))).rest = (Number.render (.float b)).toList :=
    rfl
  have hblank : ∀ l, l <:+ (Number.render (.float b)).toList → ∀ ch ∈ l, ¬ IsBlank ch :=
    fun l hl ch hch => numberChar_not_blank (hchars ch (hl.subset hch))
  have hhead : ∀ ch ∈ (Cursor.ofString (Number.render (.float b))).rest.head?, ¬ IsBlank ch :=
    fun ch hch => hblank _ (List.suffix_refl _) ch (List.mem_of_mem_head? hch)
  rcases readValue_num hhead hrun with ⟨t, hminus, hnum⟩ | hnum
  · have hb₁ := Cursor.bump_of_cons hminus
    obtain ⟨d, t', hdt, hd⟩ := readNumber_head hnum
    obtain ⟨-, -, -, hsuf, -⟩ := mirrors_readNumber follows_nil (twin_nil _) false _ _ hnum
    have hend : c₁.rest = [] := finish_ok_nil hfin (hblank _ (hsuf.trans (by
      rw [hb₁.1, ← hT, hminus]
      exact List.suffix_cons '-' t)))
    refine ⟨false, d, t', by rw [← hT, hminus, ← hb₁.1, hdt]; rfl, hd, ?_⟩
    intro c rest hr hc
    exact mirrors_readsBack hr hnum hend (by rw [hc, hdt])
  · obtain ⟨d, t', hdt, hd⟩ := readNumber_head hnum
    obtain ⟨-, -, -, hsuf, -⟩ := mirrors_readNumber follows_nil (twin_nil _) true _ _ hnum
    have hend : c₁.rest = [] := finish_ok_nil hfin (hblank _ (hT ▸ hsuf))
    refine ⟨true, d, t', by rw [← hT, hdt]; rfl, hd, ?_⟩
    intro c rest hr hc
    exact mirrors_readsBack hr hnum hend (by rw [hc, hdt])

end Workflow.Json
