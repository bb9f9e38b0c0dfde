import Workflow.Proofs.JsonValue
/-! # Typed reading from written JSON

The typed readers of `Decode.Text` read a catalog straight from JSON text.  This module
proves, for each of them, the two halves a round trip needs.

* **Soundness** (`Sound`): what a reader returns satisfies the invariant its decoder keeps
  (integers in range, maps with ascending keys, values canonical at the nesting room they
  were read with), and the nesting room is as it was.  Containers spend one level on the
  way in and give it back on the way out.
* **Completeness** (`Reads`): a reader reads the rendering of what it returned before:
  every scalar from its text, a sequence from its items, a map from its entries in key
  order, and a record from its fields in any order, whatever it leaves out.
-/

namespace Workflow.Decode

open Json Json.Reader Json.NumberText TextDecode

variable {α : Type}

/-! ### Faults of meaning and containers -/

theorem runOn_fixing_ok {r : Reader α} {c c' : Cursor} {a : α} :
    (fixing r).runOn c = (.ok a, c') ↔ r.runOn c = (.ok a, c') := by
  unfold fixing
  rw [runOn_tryCatch]
  rcases r.runOn c with ⟨e | a', c₁⟩
  · refine ⟨fun h => ?_, fun h => by cases h⟩
    dsimp only at h
    split at h <;> simp at h
  · exact Iff.rfl

theorem Sound.fixing {P : Nat → α → Prop} {r : Reader α} (h : Sound P r) : Sound P (fixing r) :=
  fun c a c' hrun => h c a c' (runOn_fixing_ok.mp hrun)

@[simp] theorem runOn_attempt (r : Reader α) (c : Cursor) :
    (attempt r).runOn c =
      match r.runOn c with
      | (.ok a, c') => (.ok (.ok a), c')
      | (.error e, c') => (.ok (.error e), c') := by
  unfold attempt
  rw [runOn_tryCatch, runOn_map]
  rcases r.runOn c with ⟨e | a, c'⟩ <;> rfl

theorem runOn_enter (c : Cursor) :
    enter.runOn c = if c.room ≤ 1 then (.error ⟨.recursionLimitExceeded, some c.peekPosition⟩, c)
      else (.ok (), { c with room := c.room - 1 }) := by
  unfold enter
  split <;> simp [failPeek, *]

theorem runOn_leave (c : Cursor) : leave.runOn c = (.ok (), { c with room := c.room + 1 }) := by
  simp [leave]

/-- A body that failed fails its container, however far the end is read. -/
theorem runOn_finishWith_error (e : ReadError) (fin : Reader Unit) (c : Cursor) :
    ∃ e' c', (finishWith (.error e) fin : Reader α).runOn c = (.error e', c') := by
  unfold finishWith
  simp only [runOn_bind, runOn_attempt]
  rcases fin.runOn c with ⟨e₁ | u, c₁⟩ <;> exact ⟨e, c₁, by simp⟩

section Container

variable {P : Nat → α → Prop} {body : Reader α} {fin : Reader Unit}

/-- A container spends a level for its body and gives it back: what the body gives at one
level less, the container gives at the level it started with. -/
theorem sound_container (hb : Sound P body) (hfin : KeepsRoom fin) :
    Sound (fun n a => 2 ≤ n ∧ P (n - 1) a)
      (enter >>= fun _ => bump >>= fun _ => attempt body >>= fun r => leave >>= fun _ =>
        finishWith r fin) := by
  intro c a c' h
  by_cases hroom : c.room ≤ 1
  · simp [runOn_enter, hroom] at h
  simp only [runOn_bind, runOn_enter, if_neg hroom, runOn_bump, runOn_attempt, runOn_leave] at h
  have hroom₁ : ({ c with room := c.room - 1 } : Cursor).bump.room = c.room - 1 :=
    Cursor.bump_room _
  rcases hrun : body.runOn ({ c with room := c.room - 1 } : Cursor).bump with ⟨e | b, c₂⟩
  · rw [hrun] at h
    obtain ⟨e', c₃, he⟩ : ∃ e' c₃, (finishWith (.error e) fin : Reader α).runOn
        { c₂ with room := c₂.room + 1 } = (.error e', c₃) := runOn_finishWith_error e fin _
    dsimp only at h
    rw [he] at h
    cases h
  · rw [hrun] at h
    obtain ⟨hp, hroom₂⟩ := hb _ b c₂ hrun
    dsimp only [finishWith] at h
    rw [runOn_bind] at h
    rcases hfr : fin.runOn { c₂ with room := c₂.room + 1 } with ⟨e | u, c₃⟩
    · rw [hfr] at h
      cases h
    · rw [hfr] at h
      simp only [runOn_pure, Prod.mk.injEq, Except.ok.injEq] at h
      obtain ⟨rfl, rfl⟩ := h
      have hroom₃ := (hfin _ u c₃ hfr).2
      refine ⟨⟨by omega, hroom₁ ▸ hp⟩, ?_⟩
      rw [hroom₃]
      show c₂.room + 1 = c.room
      omega

/-- A container reads its opening bracket, its body at one level less, and its end. -/
theorem yields_container {c : Cursor} {ch : Char} {t mid rest : List Char} {a : α}
    (hc : c.rest = ch :: t) (hroom : 2 ≤ c.room)
    (hb : ∀ c₁ : Cursor, c₁.rest = t → c₁.room = c.room - 1 → Yields body c₁ a mid)
    (hfin : ∀ c₂ : Cursor, c₂.rest = mid → c₂.room = c.room → Yields fin c₂ () rest) :
    Yields (enter >>= fun _ => bump >>= fun _ => attempt body >>= fun r => leave >>= fun _ =>
      finishWith r fin) c a rest := by
  have h₀ : ({ c with room := c.room - 1 } : Cursor).rest = ch :: t := hc
  have hbump := Cursor.bump_of_cons h₀
  have hroom₁ : ({ c with room := c.room - 1 } : Cursor).bump.room = c.room - 1 := hbump.2
  obtain ⟨c₂, hrun₂, hrest₂, hroom₂⟩ := hb _ hbump.1 hroom₁
  obtain ⟨c₃, hrun₃, hrest₃, hroom₃⟩ :=
    hfin { c₂ with room := c₂.room + 1 } hrest₂ (by show c₂.room + 1 = c.room; omega)
  refine ⟨c₃, ?_, hrest₃, ?_⟩
  · have hnot : ¬ c.room ≤ 1 := by omega
    simp [runOn_enter, hnot, runOn_leave, hrun₂, finishWith, hrun₃]
  · rw [hroom₃]
    show c₂.room + 1 = c.room
    omega

end Container

/-! ### Readers of punctuation and skipped values keep the room -/

theorem keepsRoom_skipDigits : KeepsRoom skipDigits := by
  intro c n c' h
  rw [runOn_skipDigits] at h
  obtain ⟨-, rfl⟩ := Prod.mk.inj h
  exact ⟨trivial, Cursor.pass_room _ _⟩

theorem sound_peekInvalidType {P : Nat → α → Prop} (expected : String) :
    Sound P (peekInvalidType expected) := by
  unfold peekInvalidType
  refine keepsRoom_peek.bind fun x => ?_
  split
  · exact keepsRoom_bump.bind fun _ => (keepsRoom_readIdent _).bind fun _ => sound_throw _
  · exact keepsRoom_bump.bind fun _ => (keepsRoom_readIdent _).bind fun _ => sound_throw _
  · exact keepsRoom_bump.bind fun _ => (keepsRoom_readIdent _).bind fun _ => sound_throw _
  · exact keepsRoom_bump.bind fun _ => (sound_readNumber false).bind fun _ => sound_throw _
  · exact keepsRoom_bump.bind fun _ => keepsRoom_readStringBody.bind fun _ => sound_throw _
  · exact sound_throw _
  · exact sound_throw _
  · split
    · exact (sound_readNumber true).bind fun _ => sound_throw _
    · exact sound_failPeek _
  · exact sound_failPeek _

theorem keepsRoom_nextElement (first : Bool) : KeepsRoom (nextElement first) := by
  unfold nextElement
  refine keepsRoom_skipBlank.bind fun x => ?_
  split
  · exact sound_failPeek _
  · exact sound_pure fun _ => trivial
  split
  · exact sound_pure fun _ => trivial
  split
  · refine keepsRoom_bump.bind fun _ => keepsRoom_skipBlank.bind fun y => ?_
    split
    · exact sound_failPeek _
    · exact sound_pure fun _ => trivial
    · exact sound_failPeek _
  · exact sound_failPeek _

theorem keepsRoom_endSeq : KeepsRoom endSeq := by
  unfold endSeq
  refine keepsRoom_skipBlank.bind fun x => ?_
  split
  · exact keepsRoom_bump
  · refine keepsRoom_bump.bind fun _ => keepsRoom_skipBlank.bind fun y => ?_
    split
    · exact sound_failPeek _
    · exact sound_failPeek _
  · exact sound_failPeek _
  · exact sound_failPeek _

theorem keepsRoom_endMap : KeepsRoom endMap := by
  unfold endMap
  refine keepsRoom_skipBlank.bind fun x => ?_
  split
  · exact keepsRoom_bump
  · exact sound_failPeek _
  · exact sound_failPeek _
  · exact sound_failPeek _

theorem keepsRoom_nextKey (first : Bool) : KeepsRoom (nextKey first) := by
  unfold nextKey
  refine keepsRoom_skipBlank.bind fun peek => ?_
  extract_lets key
  have hkey : ∀ keyStart, KeepsRoom (key keyStart) := by
    intro keyStart
    simp only [key]
    split
    · exact sound_pure fun _ => trivial
    · exact keepsRoom_bump.bind fun _ => keepsRoom_readStringBody.bind fun _ =>
        sound_pure fun _ => trivial
    · exact sound_failPeek _
    · exact sound_failPeek _
    · exact sound_failPeek _
  split
  · exact KeepsRoom.bind (sound_pure fun _ => trivial) hkey
  · split
    · exact KeepsRoom.bind (sound_pure fun _ => trivial) hkey
    · exact keepsRoom_bump.bind fun _ => keepsRoom_skipBlank.bind fun _ =>
        KeepsRoom.bind (sound_pure fun _ => trivial) hkey
  · split
    · exact KeepsRoom.bind (sound_pure fun _ => trivial) hkey
    · exact sound_failPeek _
  · exact sound_failPeek _

theorem keepsRoom_colon : KeepsRoom colon := by
  unfold colon
  refine keepsRoom_skipBlank.bind fun x => ?_
  split
  · exact keepsRoom_bump
  · exact sound_failPeek _
  · exact sound_failPeek _

theorem keepsRoom_skipExponent : KeepsRoom skipExponent := by
  unfold skipExponent
  refine keepsRoom_bump.bind fun _ => keepsRoom_peek.bind fun x => ?_
  extract_lets digits
  have hdigits : ∀ u, KeepsRoom (digits u) := by
    intro u
    simp only [digits]
    refine keepsRoom_peek.bind fun y => ?_
    split
    · refine keepsRoom_bump.bind fun _ => ?_
      split
      · exact sound_fail _
      · exact keepsRoom_skipDigits.bind fun _ => sound_pure fun _ => trivial
    · exact sound_fail _
  split
  · exact keepsRoom_bump.bind hdigits
  · exact keepsRoom_bump.bind hdigits
  · exact hdigits ()

theorem keepsRoom_skipNumber : KeepsRoom skipNumber := by
  unfold skipNumber
  refine keepsRoom_peek.bind fun x => ?_
  extract_lets exponent after
  have hexp : ∀ u, KeepsRoom (exponent u) := by
    intro u
    simp only [exponent]
    refine keepsRoom_peek.bind fun z => ?_
    split
    · exact keepsRoom_skipExponent
    · exact keepsRoom_skipExponent
    · exact sound_pure fun _ => trivial
  have hafter : ∀ u, KeepsRoom (after u) := by
    intro u
    simp -zeta only [after]
    refine keepsRoom_peek.bind fun y => ?_
    split
    · refine keepsRoom_bump.bind fun _ => keepsRoom_skipDigits.bind fun n => ?_
      split
      · exact KeepsRoom.bind (sound_failPeek _) hexp
      · exact hexp ()
    · exact keepsRoom_skipExponent
    · exact keepsRoom_skipExponent
    · exact sound_pure fun _ => trivial
  split
  · refine keepsRoom_bump.bind fun _ => keepsRoom_peek.bind fun y => ?_
    split
    · split
      · exact KeepsRoom.bind (sound_failPeek _) hafter
      · exact hafter ()
    · exact hafter ()
  · refine keepsRoom_bump.bind fun _ => ?_
    split
    · exact keepsRoom_skipDigits.bind fun _ => hafter ()
    · exact KeepsRoom.bind (sound_fail _) hafter
  · exact KeepsRoom.bind (sound_fail _) hafter

theorem keepsRoom_skipEscape : KeepsRoom skipEscape := by
  unfold skipEscape
  refine keepsRoom_peek.bind fun x => ?_
  split
  · exact sound_fail _
  · refine keepsRoom_bump.bind fun _ => ?_
    split
    · exact sound_pure fun _ => trivial
    split
    · exact keepsRoom_readHex4.bind fun _ => sound_pure fun _ => trivial
    · exact sound_fail _

theorem keepsRoom_skipString_loop (fuel : Nat) : KeepsRoom (skipString.loop fuel) := by
  induction fuel with
  | zero => exact sound_fail _
  | succ fuel ih =>
    unfold skipString.loop
    refine keepsRoom_peek.bind fun x => ?_
    split
    · exact sound_fail _
    · exact keepsRoom_bump
    · exact keepsRoom_bump.bind fun _ => keepsRoom_skipEscape.bind fun _ => ih
    · split
      · exact sound_fail _
      · exact keepsRoom_bump.bind fun _ => ih

theorem keepsRoom_skipString : KeepsRoom skipString :=
  keepsRoom_get.bind fun _ => keepsRoom_skipString_loop _

theorem keepsRoom_closeFrames (fuel : Nat) (acceptComma : Bool) (frame : Char) (stack : List Char) :
    KeepsRoom (closeFrames fuel acceptComma frame stack) := by
  induction fuel generalizing acceptComma frame stack with
  | zero => exact sound_pure fun _ => trivial
  | succ fuel ih =>
    unfold closeFrames
    extract_lets closer
    refine keepsRoom_skipBlank.bind fun x => ?_
    split
    · split
      · exact keepsRoom_bump.bind fun _ => sound_pure fun _ => trivial
      split
      · refine keepsRoom_bump.bind fun _ => ?_
        split
        · exact ih _ _ _
        · exact sound_pure fun _ => trivial
      split
      · exact sound_failPeek _
      · exact sound_pure fun _ => trivial
    · exact sound_failPeek _

theorem keepsRoom_skipValue_loop (fuel inner : Nat) (stack : List Char) (enclosing : Option Char) :
    KeepsRoom (skipValue.loop fuel inner stack enclosing) := by
  induction fuel generalizing stack enclosing with
  | zero => exact sound_pure fun _ => trivial
  | succ fuel ih =>
    unfold skipValue.loop
    refine keepsRoom_skipBlank.bind fun x => ?_
    extract_lets rest
    have hrest : ∀ opened, KeepsRoom (rest opened) := by
      intro opened
      simp -zeta only [rest]
      extract_lets stack' current
      clear_value current
      split
      · exact sound_pure fun _ => trivial
      · refine (keepsRoom_closeFrames _ _ _ _).bind fun r => ?_
        split
        · exact sound_pure fun _ => trivial
        · extract_lets next key
          have hnext : ∀ u, KeepsRoom (next u) := fun _ => ih _ _
          have hkey : ∀ u, KeepsRoom (key u) := fun _ =>
            keepsRoom_skipString.bind fun _ => keepsRoom_colon.bind hnext
          split
          · refine keepsRoom_skipBlank.bind fun y => ?_
            split
            · exact keepsRoom_bump.bind hkey
            · exact KeepsRoom.bind (sound_failPeek _) hkey
            · exact KeepsRoom.bind (sound_failPeek _) hkey
          · exact hnext ()
    have hnone : KeepsRoom (pure none >>= rest) := KeepsRoom.bind (sound_pure fun _ => trivial) hrest
    split
    · exact KeepsRoom.bind (sound_failPeek _) hrest
    · exact keepsRoom_bump.bind fun _ => (keepsRoom_readIdent _).bind fun _ => hnone
    · exact keepsRoom_bump.bind fun _ => (keepsRoom_readIdent _).bind fun _ => hnone
    · exact keepsRoom_bump.bind fun _ => (keepsRoom_readIdent _).bind fun _ => hnone
    · exact keepsRoom_bump.bind fun _ => keepsRoom_skipNumber.bind fun _ => hnone
    · exact keepsRoom_bump.bind fun _ => keepsRoom_skipString.bind fun _ => hnone
    · exact keepsRoom_bump.bind fun _ => KeepsRoom.bind (sound_pure fun _ => trivial) hrest
    · exact keepsRoom_bump.bind fun _ => KeepsRoom.bind (sound_pure fun _ => trivial) hrest
    · split
      · exact keepsRoom_skipNumber.bind fun _ => hnone
      · exact KeepsRoom.bind (sound_failPeek _) hrest

theorem keepsRoom_skipValue : KeepsRoom skipValue :=
  keepsRoom_get.bind fun _ => keepsRoom_skipValue_loop _ _ _ _

/-! ### What the typed readers give -/

theorem sound_text (expected : String) : KeepsRoom (Decoder.text expected : Reader String) := by
  refine Sound.fixing (keepsRoom_skipBlank.bind fun x => ?_)
  split
  · exact sound_failPeek _
  · exact keepsRoom_bump.bind fun _ => keepsRoom_readStringBody
  · exact sound_peekInvalidType _

theorem sound_bool : KeepsRoom (Decoder.bool : Reader Bool) := by
  refine Sound.fixing (keepsRoom_skipBlank.bind fun x => ?_)
  split
  · exact sound_failPeek _
  · exact keepsRoom_bump.bind fun _ => (keepsRoom_readIdent _).bind fun _ =>
      sound_pure fun _ => trivial
  · exact keepsRoom_bump.bind fun _ => (keepsRoom_readIdent _).bind fun _ =>
      sound_pure fun _ => trivial
  · exact sound_peekInvalidType _

theorem sound_number (expected : String) : Sound (fun _ n => InRange n) (number expected) := by
  unfold number
  refine keepsRoom_skipBlank.bind fun x => ?_
  split
  · exact sound_failPeek _
  · exact keepsRoom_bump.bind fun _ => sound_readNumber false
  · split
    · exact sound_readNumber true
    · exact sound_peekInvalidType _

theorem sound_unsigned (max : Nat) (name : String) :
    Sound (fun _ n => n ≤ max) (Decoder.unsigned max name : Reader Nat) := by
  refine Sound.fixing (KeepsRoom.bind ((sound_number name).imp fun _ _ _ => trivial) fun n => ?_)
  split
  · split
    · exact sound_throw _
    split
    · exact sound_throw _
    · rename_i hle
      exact sound_pure fun _ => Nat.le_of_not_lt hle
  · exact sound_throw _

theorem sound_double : KeepsRoom (Decoder.double : Reader UInt64) := by
  refine Sound.fixing (KeepsRoom.bind ((sound_number _).imp fun _ _ _ => trivial) fun n => ?_)
  split
  · exact sound_pure fun _ => trivial
  · exact sound_pure fun _ => trivial

/-- A value is canonical at the room it was read with. -/
theorem sound_value : Sound (fun n v => v.Canonical n) (Decoder.value : Reader Value) :=
  Sound.fixing (sound_get_bind fun c v c' h => sound_readValue c.room _ c v c' h)

theorem sound_option {P : Nat → α → Prop} {inner : Reader α} (h : Sound P inner) :
    Sound (fun n o => ∀ a ∈ o, P n a) (Decoder.option inner) := by
  refine keepsRoom_skipBlank.bind fun x => ?_
  split
  · exact keepsRoom_bump.bind fun _ => (keepsRoom_readIdent _).bind fun _ =>
      sound_pure fun _ a ha => by cases ha
  · exact h.map fun _ a hp a' ha' => by cases ha'; exact hp

/-- The blanks a reader skips leave a text that starts with no blank. -/
theorem Cursor.skipBlankFrom_head (r : List Char) (l col : Nat) :
    ∀ ch ∈ (Cursor.skipBlankFrom r l col).1.head?, ¬ IsBlank ch := by
  intro ch hch
  induction r generalizing l col with
  | nil => simp [Cursor.skipBlankFrom] at hch
  | cons d r ih =>
    by_cases hd : IsBlank d
    · rcases hd with rfl | rfl | rfl | rfl <;> exact ih _ _ (by simpa [Cursor.skipBlankFrom] using hch)
    · rw [Cursor.skipBlankFrom_of_not_blank r l col hd] at hch
      cases hch
      exact hd

theorem Cursor.skipBlankFrom_idem (r : List Char) (l col l' col' : Nat) :
    (Cursor.skipBlankFrom (Cursor.skipBlankFrom r l col).1 l' col').1 =
      (Cursor.skipBlankFrom r l col).1 := by
  have hhead := Cursor.skipBlankFrom_head r l col
  cases hs : (Cursor.skipBlankFrom r l col).1 with
  | nil => simp [Cursor.skipBlankFrom_nil]
  | cons d t =>
    rw [hs] at hhead
    rw [Cursor.skipBlankFrom_of_not_blank t l' col' (hhead d rfl)]

/-- An optional value that is present is never `null`: `null` reads as absent. -/
theorem sound_option_value :
    Sound (fun n o => ∀ v ∈ o, v ≠ .null ∧ v.Canonical n) (Decoder.option Decoder.value) := by
  intro c o c' h
  obtain ⟨hcan, hroom⟩ := sound_option sound_value c o c' h
  refine ⟨fun v hv => ⟨?_, hcan v hv⟩, hroom⟩
  rintro rfl
  simp only [Decoder.option] at h
  rw [runOn_bind, runOn_skipBlank] at h
  dsimp only at h
  split at h
  · have hnone := (returns_bind fun _ => returns_bind fun _ => returns_pure rfl :
      Returns (· = none) (bump >>= fun _ => readIdent ['u', 'l', 'l'] >>= fun _ =>
        (pure none : Reader (Option Value)))) _ o c' h
    rw [hnone] at hv
    cases hv
  · rename_i x hx
    rw [runOn_map] at h
    split at h
    · rename_i v c₂ hval
      simp only [Prod.mk.injEq, Except.ok.injEq] at h
      obtain ⟨rfl, rfl⟩ := h
      cases hv
      have hread := runOn_fixing_ok.mp hval
      simp only [runOn_bind, runOn_get] at hread
      have hn := readValue_null hread
      simp only [Cursor.skipBlankFrom_idem] at hn
      exact hx hn
    · simp at h

theorem sound_seqItems_loop {P : Nat → α → Prop} {elem : Reader α} (h : Sound P elem) :
    ∀ (fuel : Nat) (first : Bool) (acc : List α),
      Sound (fun n xs => (∀ x ∈ acc, P n x) → ∀ x ∈ xs, P n x) (seqItems.loop elem fuel first acc)
  | 0, _, _ => sound_pure fun _ hacc x hx => hacc x (List.mem_reverse.mp hx)
  | fuel + 1, first, acc => by
    unfold seqItems.loop
    refine (keepsRoom_nextElement first).bind fun more => ?_
    split
    · refine h.bind fun a => (sound_seqItems_loop h fuel false (a :: acc)).imp
        fun _ _ hxs ha hacc => hxs fun x hx => ?_
      rcases List.mem_cons.mp hx with rfl | hx
      · exact ha
      · exact hacc x hx
    · exact sound_pure fun _ hacc x hx => hacc x (List.mem_reverse.mp hx)

/-- Every item of a sequence was read at one level less. -/
theorem sound_seq {P : Nat → α → Prop} {elem : Reader α} (h : Sound P elem) :
    Sound (fun n xs => 2 ≤ n ∧ ∀ x ∈ xs, P (n - 1) x) (Decoder.seq elem) := by
  refine Sound.fixing (keepsRoom_skipBlank.bind fun x => ?_)
  split
  · exact sound_failPeek _
  · have hitems : Sound (fun n xs => ∀ x ∈ xs, P n x) (seqItems elem) :=
      keepsRoom_get.bind fun _ =>
        (sound_seqItems_loop h _ true []).imp fun _ _ hxs => hxs fun x hx => by cases hx
    exact sound_container hitems keepsRoom_endSeq
  · exact sound_peekInvalidType _

theorem sound_mapEntries_loop {P : Nat → α → Prop} {val : Reader α} (h : Sound P val) :
    ∀ (fuel : Nat) (first : Bool) (acc : List (String × α)),
      Sound (fun n kvs => acc.Pairwise (fun p q => p.1 < q.1) → (∀ p ∈ acc, P n p.2) →
          kvs.Pairwise (fun p q => p.1 < q.1) ∧ ∀ p ∈ kvs, P n p.2)
        (mapEntries.loop val fuel first acc)
  | 0, _, _ => sound_pure fun _ hasc hacc => ⟨hasc, hacc⟩
  | fuel + 1, first, acc => by
    unfold mapEntries.loop
    refine (keepsRoom_nextKey first).bind fun key => ?_
    split
    · exact sound_pure fun _ hasc hacc => ⟨hasc, hacc⟩
    · rename_i k
      refine keepsRoom_colon.bind fun _ => h.bind fun a => ?_
      refine (sound_mapEntries_loop h fuel false (mapEntries.put k a acc)).imp
        fun _ _ hkvs ha hasc hacc => hkvs (mapEntries.pairwise_put hasc k a) fun p hp => ?_
      rcases mapEntries.mem_put hp with rfl | hp
      · exact ha
      · exact hacc p hp

/-- A map's keys ascend, and every value was read at one level less. -/
theorem sound_map {P : Nat → α → Prop} {val : Reader α} (h : Sound P val) :
    Sound (fun n kvs => 2 ≤ n ∧ kvs.Pairwise (fun p q => p.1 < q.1) ∧ ∀ p ∈ kvs, P (n - 1) p.2)
      (Decoder.map val) := by
  refine Sound.fixing (keepsRoom_skipBlank.bind fun x => ?_)
  split
  · exact sound_failPeek _
  · have hentries : Sound (fun n kvs => kvs.Pairwise (fun p q => p.1 < q.1) ∧
        ∀ p ∈ kvs, P n p.2) (mapEntries val) :=
      keepsRoom_get.bind fun _ =>
        (sound_mapEntries_loop h _ true []).imp fun _ _ hkvs =>
          hkvs List.Pairwise.nil fun p hp => by cases hp
    exact sound_container hentries keepsRoom_endMap
  · exact sound_peekInvalidType _

section Records

variable {σ : Type} {spec : RecordSpec Reader σ α} {I : Nat → σ → Prop} {Q : Nat → α → Prop}

/-- A record reader keeps an invariant of its slots: each field read keeps it, and the
record built from slots that keep it satisfies `Q`. -/
theorem sound_recordFromMap_loop
    (hread : ∀ st i, Sound (fun n st' => I n st → I n st') (spec.read st i))
    (hbuild : ∀ n st, I n st → Q n (spec.build st)) :
    ∀ (fuel : Nat) (first : Bool) (st : σ) (seen : List Nat),
      Sound (fun n a => I n st → Q n a) (recordFromMap.loop false spec fuel first st seen)
  | 0, _, st, _ => sound_pure fun n hst => hbuild n st hst
  | fuel + 1, first, st, seen => by
    unfold recordFromMap.loop
    refine (keepsRoom_nextKey first).bind fun key => ?_
    split
    · split
      · exact sound_throw _
      · exact sound_pure fun n hst => hbuild n st hst
    · split
      · rename_i i _
        split
        · exact sound_throw _
        · refine keepsRoom_colon.bind fun _ => (hread st i).bind fun st' => ?_
          exact (sound_recordFromMap_loop hread hbuild fuel false st' (i :: seen)).imp
            fun _ _ h hst' hst => h (hst' hst)
      · exact keepsRoom_colon.bind fun _ => keepsRoom_skipValue.bind fun _ =>
          sound_recordFromMap_loop hread hbuild fuel false st seen

theorem sound_recordFromSeq_loop
    (hread : ∀ st i, Sound (fun n st' => I n st → I n st') (spec.read st i))
    (hbuild : ∀ n st, I n st → Q n (spec.build st)) (count : Nat) :
    ∀ (fields : List (String × Nat)) (first : Bool) (st : σ),
      Sound (fun n a => I n st → Q n a) (recordFromSeq.loop false spec count fields first st)
  | [], _, st => sound_pure fun n hst => hbuild n st hst
  | (f, i) :: fields, first, st => by
    unfold recordFromSeq.loop
    refine (keepsRoom_nextElement first).bind fun more => ?_
    split
    · refine (hread st i).bind fun st' => ?_
      exact (sound_recordFromSeq_loop hread hbuild count fields false st').imp
        fun _ _ h hst' hst => h (hst' hst)
    split
    · exact sound_throw _
    · exact sound_recordFromSeq_loop hread hbuild count fields first st

/-- A record, from a map or a sequence of its fields, satisfies what its slots' invariant
gives, at the level its fields were read at. -/
theorem sound_record (hinit : ∀ n, I n spec.init)
    (hread : ∀ st i, Sound (fun n st' => I n st → I n st') (spec.read st i))
    (hbuild : ∀ n st, I n st → Q n (spec.build st)) :
    Sound (fun n a => 2 ≤ n ∧ Q (n - 1) a) (Decoder.record spec) := by
  have hseq : Sound Q (recordFromSeq false spec) :=
    (sound_recordFromSeq_loop hread hbuild _ _ true spec.init).imp fun n _ h => h (hinit n)
  have hmap : Sound Q (recordFromMap false spec) :=
    keepsRoom_get.bind fun _ =>
      (sound_recordFromMap_loop hread hbuild _ true spec.init []).imp fun n _ h => h (hinit n)
  refine Sound.fixing (keepsRoom_skipBlank.bind fun x => ?_)
  split
  · exact sound_failPeek _
  · exact sound_container hseq keepsRoom_endSeq
  · exact sound_container hmap keepsRoom_endMap
  · exact sound_peekInvalidType _

end Records

/-- Whenever `r` succeeds it has given a level back: the room is one more than it was. -/
def GivesBack (r : Reader α) : Prop := ∀ c a c', r.runOn c = (.ok a, c') → c'.room = c.room + 1

theorem KeepsRoom.bind_givesBack {β : Type} {x : Reader β} {f : β → Reader α} (hx : KeepsRoom x)
    (hf : ∀ b, GivesBack (f b)) : GivesBack (x >>= f) := by
  intro c a c'' h
  rw [runOn_bind] at h
  rcases hx₁ : x.runOn c with ⟨_ | b, c'⟩
  · rw [hx₁] at h
    cases h
  · rw [hx₁] at h
    rw [hf b c' a c'' h, (hx c b c' hx₁).2]

theorem givesBack_leave_bind {f : Unit → Reader α} (hf : ∀ u, KeepsRoom (f u)) :
    GivesBack (leave >>= f) := by
  intro c a c' h
  simp only [runOn_bind, runOn_leave] at h
  exact (hf () _ a c' h).2

theorem keepsRoom_enter_bind {f : Unit → Reader α} (hf : GivesBack (f ())) :
    KeepsRoom (enter >>= f) := by
  intro c a c' h
  by_cases hroom : c.room ≤ 1
  · simp [runOn_enter, hroom] at h
  · simp only [runOn_bind, runOn_enter, if_neg hroom] at h
    refine ⟨trivial, ?_⟩
    rw [hf _ a c' h]
    show c.room - 1 + 1 = c.room
    omega

theorem sound_unitVariant : KeepsRoom (Decoder.unitVariant : Reader String) := by
  refine keepsRoom_skipBlank.bind fun x => ?_
  split
  · refine keepsRoom_enter_bind (KeepsRoom.bind_givesBack keepsRoom_bump fun _ =>
      KeepsRoom.bind_givesBack (sound_text "variant identifier") fun name =>
        KeepsRoom.bind_givesBack keepsRoom_colon fun _ => KeepsRoom.bind_givesBack ?_ fun _ =>
          givesBack_leave_bind fun _ => keepsRoom_skipBlank.bind fun y => ?_)
    · refine Sound.fixing (keepsRoom_skipBlank.bind fun y => ?_)
      split
      · exact keepsRoom_bump.bind fun _ => keepsRoom_readIdent _
      · exact sound_peekInvalidType _
      · exact sound_failPeek _
    split
    · exact keepsRoom_bump.bind fun _ => sound_pure fun _ => trivial
    · exact sound_fail _
    · exact sound_fail _
  · exact keepsRoom_bump.bind fun _ => keepsRoom_readStringBody
  · exact sound_failPeek _
  · exact sound_failPeek _

/-! ### Punctuation in written text -/

section Steps

variable {c : Cursor} {t : List Char}

theorem yields_nextElement_close {first : Bool} (hc : c.rest = ']' :: t) :
    Yields (nextElement first) c false (']' :: t) :=
  ⟨c, by simp [nextElement, runOn_skipBlank_of_not_blank hc (by decide)], hc, rfl⟩

theorem yields_nextElement_first {ch : Char} (hc : c.rest = ch :: t) (hch : Value.ValueStart ch) :
    Yields (nextElement true) c true (ch :: t) :=
  ⟨c, by simp [nextElement, runOn_skipBlank_of_not_blank hc hch.not_blank.1, hch.not_blank], hc,
    rfl⟩

theorem yields_nextElement_next {ch : Char} (hc : c.rest = ',' :: ch :: t) (hch : Value.ValueStart ch) :
    Yields (nextElement false) c true (ch :: t) := by
  have hb := Cursor.bump_of_cons hc
  refine ⟨c.bump, ?_, hb.1, hb.2⟩
  simp [nextElement, runOn_skipBlank_of_not_blank hc (by decide),
    runOn_skipBlank_of_not_blank hb.1 hch.not_blank.1, hch.not_blank]

theorem yields_endSeq (hc : c.rest = ']' :: t) : Yields endSeq c () t :=
  ⟨c.bump, by simp [endSeq, runOn_skipBlank_of_not_blank hc (by decide)],
    (Cursor.bump_of_cons hc).1, (Cursor.bump_of_cons hc).2⟩

theorem yields_endMap (hc : c.rest = '}' :: t) : Yields endMap c () t :=
  ⟨c.bump, by simp [endMap, runOn_skipBlank_of_not_blank hc (by decide)],
    (Cursor.bump_of_cons hc).1, (Cursor.bump_of_cons hc).2⟩

theorem yields_colon (hc : c.rest = ':' :: t) : Yields colon c () t :=
  ⟨c.bump, by simp [colon, runOn_skipBlank_of_not_blank hc (by decide)],
    (Cursor.bump_of_cons hc).1, (Cursor.bump_of_cons hc).2⟩

theorem yields_nextKey_close {first : Bool} (hc : c.rest = '}' :: t) :
    Yields (nextKey first) c none ('}' :: t) :=
  ⟨c, by simp [nextKey, runOn_skipBlank_of_not_blank hc (by decide)], hc, rfl⟩

/-- A key, read from its opening quote; the reader stops at the colon. -/
theorem yields_nextKey_first {k : String} (hc : c.rest = (quote k).toList ++ ':' :: t) :
    Yields (nextKey true) c (some k) (':' :: t) := by
  have hq : c.rest = '"' :: (k.toList.flatMap escapeChar ++ '"' :: ':' :: t) := by
    rw [hc, quote_toList]
    simp
  obtain ⟨c₁, hrun₁, hrest₁, hroom₁⟩ := yields_key hc
  refine ⟨c₁, ?_, hrest₁, hroom₁⟩
  simp [nextKey, runOn_skipBlank_of_not_blank hq (by decide), hrun₁]

/-- A key after the comma that ends the entry before it. -/
theorem yields_nextKey_next {k : String} (hc : c.rest = ',' :: ((quote k).toList ++ ':' :: t)) :
    Yields (nextKey false) c (some k) (':' :: t) := by
  have hb := Cursor.bump_of_cons hc
  have hq : c.bump.rest = '"' :: (k.toList.flatMap escapeChar ++ '"' :: ':' :: t) := by
    rw [hb.1, quote_toList]
    simp
  obtain ⟨c₁, hrun₁, hrest₁, hroom₁⟩ := yields_key hb.1
  refine ⟨c₁, ?_, hrest₁, hroom₁.trans hb.2⟩
  simp [nextKey, runOn_skipBlank_of_not_blank hc (by decide),
    runOn_skipBlank_of_not_blank hq (by decide), hrun₁]

end Steps

/-! ### Reading written scalars -/

section Scalars

variable {room : Nat}

theorem reads_text (expected s : String) :
    Reads room (Decoder.text expected : Reader String) (Value.str s).render.toList s := by
  intro c _ rest hc _
  have hq : c.rest = '"' :: (s.toList.flatMap escapeChar ++ '"' :: rest) := by
    rw [hc, Value.render, quote_toList]
    simp
  have hb := Cursor.bump_of_cons hq
  obtain ⟨c₁, hrun, hrest, hroom⟩ := yields_readStringBody s hb.1
  refine Yields.tryCatch ⟨c₁, ?_, hrest, hroom.trans hb.2⟩
  simp [runOn_skipBlank_of_not_blank hq (by decide), hrun]

theorem reads_bool (b : Bool) : Reads room (Decoder.bool : Reader Bool) (Value.bool b).render.toList b := by
  intro c _ rest hc _
  cases b with
  | false =>
    have hc' : c.rest = 'f' :: (['a', 'l', 's', 'e'] ++ rest) := hc
    have hb := Cursor.bump_of_cons hc'
    obtain ⟨c₁, hrun, hrest, hroom⟩ := yields_readIdent _ hb.1
    refine Yields.tryCatch ⟨c₁, ?_, hrest, hroom.trans hb.2⟩
    simp [runOn_skipBlank_of_not_blank hc' (by decide), hrun]
  | true =>
    have hc' : c.rest = 't' :: (['r', 'u', 'e'] ++ rest) := hc
    have hb := Cursor.bump_of_cons hc'
    obtain ⟨c₁, hrun, hrest, hroom⟩ := yields_readIdent _ hb.1
    refine Yields.tryCatch ⟨c₁, ?_, hrest, hroom.trans hb.2⟩
    simp [runOn_skipBlank_of_not_blank hc' (by decide), hrun]

theorem yields_number_of_digit {c : Cursor} {d : Char} {t rest : List Char} {n : Number}
    (expected : String) (hc : c.rest = d :: t) (hd : d.isDigit = true)
    (hn : Yields (readNumber true) c n rest) : Yields (number expected) c n rest := by
  obtain ⟨c₁, hrun, hrest, hroom⟩ := hn
  refine ⟨c₁, ?_, hrest, hroom⟩
  have hnb : ¬ IsBlank d := (Value.ValueStart.not_blank (by simp [Value.ValueStart, hd])).1
  simp [number, runOn_skipBlank_of_not_blank hc hnb, hrun, Value.digit_ne hd, hd]

theorem yields_number_of_minus {c : Cursor} {t rest : List Char} {n : Number}
    (expected : String) (hc : c.rest = '-' :: t)
    (hn : Yields (readNumber false) c.bump n rest) : Yields (number expected) c n rest := by
  obtain ⟨c₁, hrun, hrest, hroom⟩ := hn
  refine ⟨c₁, ?_, hrest, hroom.trans (Cursor.bump_of_cons hc).2⟩
  simp [number, runOn_skipBlank_of_not_blank hc (by decide), hrun]

theorem reads_unsigned {max n : Nat} (name : String) (hn : n ≤ max) (hmax : max ≤ u64Max) :
    Reads room (Decoder.unsigned max name : Reader Nat) (Value.ofNat n).render.toList n := by
  intro c _ rest hc hr
  have hdigits : c.rest = Nat.toDigits 10 n ++ rest := by
    rw [hc, Value.ofNat, Value.render, Value.int_toList]
    simp
  obtain ⟨d, ds, hds, hd⟩ := Value.toDigits_head n
  have hnum := yields_readNumber_toDigits true n (by omega) (by simp) hdigits hr.numberEnds
  rw [if_pos rfl] at hnum
  obtain ⟨c₁, hrun, hrest, hroom⟩ :=
    yields_number_of_digit name (hdigits.trans (by rw [hds, List.cons_append])) hd hnum
  refine Yields.tryCatch ⟨c₁, ?_, hrest, hroom⟩
  have hnmax : ¬ n > max := by omega
  have hneg : ¬ (n : Int) < 0 := by omega
  simp [hrun, hneg, hnmax]

/-- A double whose text reads back is read back as a double. -/
theorem reads_double {b : UInt64} (hb : FloatReadsBack b) :
    Reads room (Decoder.double : Reader UInt64) (Value.num (.float b)).render.toList b := by
  intro c _ rest hc hr
  obtain ⟨positive, d, t, htext, hd, hreads⟩ := hb.reads
  have hnum : Yields (number "f64") c (.float b) rest := by
    rw [Value.render, htext] at hc
    cases positive with
    | true =>
      simp only [ite_true, List.nil_append, List.cons_append] at hc
      exact yields_number_of_digit _ hc hd (hreads c rest hr (by rw [hc]; rfl))
    | false =>
      simp only [Bool.false_eq_true, ite_false, List.cons_append, List.nil_append] at hc
      exact yields_number_of_minus _ hc (hreads c.bump rest hr (by rw [(Cursor.bump_of_cons hc).1]; rfl))
  obtain ⟨c₁, hrun, hrest, hroom⟩ := hnum
  exact Yields.tryCatch ⟨c₁, by simp [hrun], hrest, hroom⟩

/-- What the value reader gives from a field's value, whatever follows it, the value decoder
gives. -/
theorem reads_value_of_readsAs {w : String × Value → Value} {p : String × Value}
    (h : ReadsAs w room p) : Reads room (Decoder.value : Reader Value) p.2.render.toList (w p) := by
  intro c hroom rest hc hr
  have hfuel : p.2.render.toList.length ≤ c.rest.length + 2 := by
    rw [hc, List.length_append]
    omega
  obtain ⟨c₁, hrun, hrest, hroom₁⟩ := (hroom ▸ h) _ c rest hfuel hc hr
  exact Yields.tryCatch ⟨c₁, by simp [hrun], hrest, hroom₁⟩

/-- A canonical value whose doubles read back is read back by the value reader. -/
theorem reads_value {v : Value} (hv : v.Canonical room) (hf : ∀ b ∈ v.doubles, FloatReadsBack b) :
    Reads room (Decoder.value : Reader Value) v.render.toList v :=
  reads_value_of_readsAs (w := Prod.snd) (p := ("", v)) (readsAs_self hv hf rfl)

theorem reads_option_some {r : Reader α} {t : List Char} {a : α} {ch : Char} {t' : List Char}
    (h : Reads room r t a) (ht : t = ch :: t') (hn : ch ≠ 'n') (hb : ¬ IsBlank ch) :
    Reads room (Decoder.option r) t (some a) := by
  intro c hroom rest hc hr
  obtain ⟨c₁, hrun, hrest, hroom₁⟩ := h c hroom rest hc hr
  have hc' : c.rest = ch :: (t' ++ rest) := by rw [hc, ht, List.cons_append]
  refine ⟨c₁, ?_, hrest, hroom₁⟩
  simp only [Decoder.option, runOn_bind, runOn_skipBlank_of_not_blank hc' hb]
  split
  · rename_i heq
    exact absurd (Option.some.inj heq) hn
  · simp [hrun]

theorem reads_option_none (r : Reader α) :
    Reads room (Decoder.option r) Value.null.render.toList none := by
  intro c _ rest hc _
  have hc' : c.rest = 'n' :: (['u', 'l', 'l'] ++ rest) := hc
  have hb := Cursor.bump_of_cons hc'
  obtain ⟨c₁, hrun, hrest, hroom⟩ := yields_readIdent _ hb.1
  refine ⟨c₁, ?_, hrest, hroom.trans hb.2⟩
  simp [Decoder.option, runOn_skipBlank_of_not_blank hc' (by decide), hrun]

/-- A variant that carries nothing, written as its name. -/
theorem reads_unitVariant (s : String) :
    Reads room (Decoder.unitVariant : Reader String) (Value.str s).render.toList s := by
  intro c _ rest hc _
  have hq : c.rest = '"' :: (s.toList.flatMap escapeChar ++ '"' :: rest) := by
    rw [hc, Value.render, quote_toList]
    simp
  have hb := Cursor.bump_of_cons hq
  obtain ⟨c₁, hrun, hrest, hroom⟩ := yields_readStringBody s hb.1
  refine ⟨c₁, ?_, hrest, hroom.trans hb.2⟩
  simp [Decoder.unitVariant, runOn_skipBlank_of_not_blank hq (by decide), hrun]

end Scalars

/-! ### Reading written sequences and maps -/

section Containers

variable {room : Nat} {c : Cursor}

theorem yields_seqItems_close {elem : Reader α} {fuel : Nat} {first : Bool} {acc : List α}
    {rest : List Char} (hc : c.rest = ']' :: rest) :
    Yields (seqItems.loop elem (fuel + 1) first acc) c acc.reverse (']' :: rest) := by
  obtain ⟨c₁, h₁, hr₁, hm₁⟩ :
      Yields (nextElement first) c false (']' :: rest) := yields_nextElement_close hc
  exact ⟨c₁, by simp [seqItems.loop, h₁], hr₁, hm₁⟩

/-- One item: the reader finds it, reads it, and goes on. -/
theorem yields_seqItems_step {elem : Reader α} {fuel : Nat} {first : Bool} {acc xs : List α}
    {a : α} {mid mid' rest : List Char} (hnext : Yields (nextElement first) c true mid)
    (hel : ∀ c', c'.rest = mid → c'.room = c.room → Yields elem c' a mid')
    (hk : ∀ c', c'.rest = mid' → c'.room = c.room →
      Yields (seqItems.loop elem fuel false (a :: acc)) c' xs rest) :
    Yields (seqItems.loop elem (fuel + 1) first acc) c xs rest := by
  obtain ⟨c₁, h₁, hr₁, hm₁⟩ := hnext
  obtain ⟨c₂, h₂, hr₂, hm₂⟩ := hel c₁ hr₁ hm₁
  obtain ⟨c₃, h₃, hr₃, hm₃⟩ := hk c₂ hr₂ (hm₂.trans hm₁)
  exact ⟨c₃, by simp [seqItems.loop, h₁, h₂, h₃], hr₃, hm₃.trans (hm₂.trans hm₁)⟩

theorem mem_doublesItems {b : UInt64} {xs : List Value} :
    b ∈ Value.doublesItems xs ↔ ∃ x ∈ xs, b ∈ x.doubles := by
  induction xs with
  | nil => simp [Value.doublesItems]
  | cons x xs ih => simp [Value.doublesItems, ih]

/-- The items after the first, each after its comma, up to the closing bracket. -/
theorem yields_seqItems_next {elem : Reader α} {enc : α → Value} :
    ∀ (as : List α) (fuel : Nat) (acc : List α) (c : Cursor) (rest : List Char),
      (∀ a ∈ as, Reads room elem (enc a).render.toList a) →
      (∀ a ∈ as, ∀ b ∈ (enc a).doubles, FloatReadsBack b) →
      (Value.itemsText (as.map enc)).length < fuel → c.room = room →
      c.rest = Value.itemsText (as.map enc) ++ ']' :: rest →
      Yields (seqItems.loop elem fuel false acc) c (acc.reverse ++ as) (']' :: rest)
  | [], fuel, acc, c, rest, _, _, hfuel, _, hc => by
    obtain ⟨f, rfl⟩ : ∃ f, fuel = f + 1 := ⟨fuel - 1, by omega⟩
    simpa using yields_seqItems_close hc
  | a :: as, fuel, acc, c, rest, hel, hf, hfuel, hroom, hc => by
    obtain ⟨ch, t, hat, hch⟩ := Value.render_head (enc a) (hf a List.mem_cons_self)
    have htext : Value.itemsText ((a :: as).map enc) =
        ',' :: ((enc a).render.toList ++ Value.itemsText (as.map enc)) := by
      simp [Value.itemsText]
    have hat' : 1 ≤ (enc a).render.toList.length := by rw [hat]; simp
    rw [htext] at hc hfuel
    simp only [List.length_cons, List.length_append] at hfuel
    obtain ⟨f, rfl⟩ : ∃ f, fuel = f + 1 := ⟨fuel - 1, by omega⟩
    have hcx : c.rest = ',' :: ch :: (t ++ Value.itemsText (as.map enc) ++ ']' :: rest) := by
      rw [hc, hat]
      simp
    refine yields_seqItems_step (yields_nextElement_next hcx hch) (fun c' hc' hroom' =>
      hel a List.mem_cons_self c' (hroom'.trans hroom) (Value.itemsText (as.map enc) ++ ']' :: rest)
        (by rw [hc', hat]; simp) (itemsText_follows _ rest)) fun c' hc' hroom' => ?_
    simpa using yields_seqItems_next as f (a :: acc) c' rest
      (fun a' ha' => hel a' (List.mem_cons_of_mem _ ha'))
      (fun a' ha' => hf a' (List.mem_cons_of_mem _ ha')) (by omega) (hroom'.trans hroom) hc'

/-- The items of a sequence, whatever its length. -/
theorem yields_seqItems {elem : Reader α} {enc : α → Value} {as : List α} {rest : List Char}
    (hel : ∀ a ∈ as, Reads room elem (enc a).render.toList a)
    (hf : ∀ a ∈ as, ∀ b ∈ (enc a).doubles, FloatReadsBack b) (hroom : c.room = room)
    (hc : c.rest = (Value.renderItems (as.map enc)).toList ++ ']' :: rest) :
    Yields (seqItems elem) c as (']' :: rest) := by
  have hrun : (seqItems elem).runOn c = (seqItems.loop elem (c.rest.length + 1) true []).runOn c := by
    simp [seqItems]
  refine Yields.of_runOn_eq hrun ?_
  cases as with
  | nil =>
    have hc' : c.rest = ']' :: rest := by simpa [Value.renderItems] using hc
    exact yields_seqItems_close hc'
  | cons a as =>
    obtain ⟨ch, t, hat, hch⟩ := Value.render_head (enc a) (hf a List.mem_cons_self)
    rw [List.map_cons, Value.renderItems_cons] at hc
    have hcx : c.rest = ch :: (t ++ Value.itemsText (as.map enc) ++ ']' :: rest) := by
      rw [hc, hat]
      simp
    refine yields_seqItems_step (yields_nextElement_first hcx hch) (fun c' hc' hroom' =>
      hel a List.mem_cons_self c' (hroom'.trans hroom) (Value.itemsText (as.map enc) ++ ']' :: rest)
        (by rw [hc', hat]; simp) (itemsText_follows _ rest)) fun c' hc' hroom' => ?_
    have hfuel : (Value.itemsText (as.map enc)).length < c.rest.length := by
      rw [hcx]
      simp
      omega
    simpa using yields_seqItems_next as c.rest.length [a] c' rest
      (fun a' ha' => hel a' (List.mem_cons_of_mem _ ha'))
      (fun a' ha' => hf a' (List.mem_cons_of_mem _ ha')) hfuel (hroom'.trans hroom) hc'

/-- A sequence is read back from its items' texts. -/
theorem reads_seq {elem : Reader α} {enc : α → Value} {as : List α} (hroom : 2 ≤ room)
    (hel : ∀ a ∈ as, Reads (room - 1) elem (enc a).render.toList a)
    (hf : ∀ a ∈ as, ∀ b ∈ (enc a).doubles, FloatReadsBack b) :
    Reads room (Decoder.seq elem) (Value.arr (as.map enc)).render.toList as := by
  intro c hc₀ rest hc _
  have hc' : c.rest = '[' :: ((Value.renderItems (as.map enc)).toList ++ ']' :: rest) := by
    rw [hc, Value.render_arr_toList]
    simp
  have hbody := yields_container hc' (by omega)
    (fun c₁ hr₁ hm₁ => yields_seqItems hel hf (by omega) hr₁)
    (fun c₂ hr₂ _ => yields_endSeq hr₂)
  refine Yields.tryCatch (Yields.of_runOn_eq ?_ hbody)
  rw [runOn_bind, runOn_skipBlank_of_not_blank hc' (by decide)]
  rfl

theorem yields_mapEntries_close {val : Reader α} {fuel : Nat} {first : Bool}
    {acc : List (String × α)} {rest : List Char} (hc : c.rest = '}' :: rest) :
    Yields (mapEntries.loop val (fuel + 1) first acc) c acc ('}' :: rest) := by
  obtain ⟨c₁, h₁, hr₁, hm₁⟩ :
      Yields (nextKey first) c none ('}' :: rest) := yields_nextKey_close hc
  exact ⟨c₁, by simp [mapEntries.loop, h₁], hr₁, hm₁⟩

/-- One entry: its key, its colon and its value, then the entries after it. -/
theorem yields_mapEntries_step {val : Reader α} {fuel : Nat} {first : Bool}
    {acc kvs : List (String × α)} {k : String} {a : α} {t mid rest : List Char}
    (hkey : Yields (nextKey first) c (some k) (':' :: t))
    (hval : ∀ c', c'.rest = t → c'.room = c.room → Yields val c' a mid)
    (hk : ∀ c', c'.rest = mid → c'.room = c.room →
      Yields (mapEntries.loop val fuel false (mapEntries.put k a acc)) c' kvs rest) :
    Yields (mapEntries.loop val (fuel + 1) first acc) c kvs rest := by
  obtain ⟨c₁, h₁, hr₁, hm₁⟩ := hkey
  obtain ⟨c₂, h₂, hr₂, hm₂⟩ := yields_colon hr₁
  obtain ⟨c₃, h₃, hr₃, hm₃⟩ := hval c₂ hr₂ (hm₂.trans hm₁)
  obtain ⟨c₄, h₄, hr₄, hm₄⟩ := hk c₃ hr₃ (hm₃.trans (hm₂.trans hm₁))
  exact ⟨c₄, by simp [mapEntries.loop, h₁, h₂, h₃, h₄], hr₄,
    hm₄.trans (hm₃.trans (hm₂.trans hm₁))⟩

/-- The entries after the first, each after its comma, up to the closing brace; the keys so
far are below the keys to come, so each new entry goes at the end. -/
theorem yields_mapEntries_next {val : Reader α} {enc : α → Value} :
    ∀ (kas : List (String × α)) (fuel : Nat) (acc : List (String × α)) (c : Cursor)
      (rest : List Char),
      (∀ p ∈ kas, Reads room val (enc p.2).render.toList p.2) →
      (acc ++ kas).Pairwise (fun p q => p.1 < q.1) →
      (Value.fieldsText (kas.map fun p => (p.1, enc p.2))).length < fuel → c.room = room →
      c.rest = Value.fieldsText (kas.map fun p => (p.1, enc p.2)) ++ '}' :: rest →
      Yields (mapEntries.loop val fuel false acc) c (acc ++ kas) ('}' :: rest)
  | [], fuel, acc, c, rest, _, _, hfuel, _, hc => by
    obtain ⟨f, rfl⟩ : ∃ f, fuel = f + 1 := ⟨fuel - 1, by omega⟩
    simpa using yields_mapEntries_close hc
  | (k, a) :: kas, fuel, acc, c, rest, hval, hasc, hfuel, hroom, hc => by
    have hlt : ∀ p ∈ acc, p.1 < k := fun p hp =>
      (List.pairwise_append.mp hasc).2.2 p hp (k, a) List.mem_cons_self
    have hasc' : ((acc ++ [(k, a)]) ++ kas).Pairwise (fun p q => p.1 < q.1) := by simpa using hasc
    have htext : Value.fieldsText (((k, a) :: kas).map fun p => (p.1, enc p.2)) =
        ',' :: ((quote k).toList ++ ':' :: ((enc a).render.toList ++
          Value.fieldsText (kas.map fun p => (p.1, enc p.2)))) := by
      simp [Value.fieldsText]
    rw [htext] at hc hfuel
    simp only [List.length_cons, List.length_append] at hfuel
    obtain ⟨f, rfl⟩ : ∃ f, fuel = f + 1 := ⟨fuel - 1, by omega⟩
    have hcx : c.rest = ',' :: ((quote k).toList ++ ':' :: ((enc a).render.toList ++
        (Value.fieldsText (kas.map fun p => (p.1, enc p.2)) ++ '}' :: rest))) := by
      rw [hc]
      simp
    refine yields_mapEntries_step (yields_nextKey_next hcx) (fun c' hc' hroom' =>
      hval (k, a) List.mem_cons_self c' (hroom'.trans hroom) _ hc' (fieldsText_follows _ rest))
      fun c' hc' hroom' => ?_
    rw [mapEntries.put_of_lt a hlt]
    simpa using yields_mapEntries_next kas f (acc ++ [(k, a)]) c' rest
      (fun p hp => hval p (List.mem_cons_of_mem _ hp)) hasc' (by omega) (hroom'.trans hroom) hc'

theorem yields_mapEntries {val : Reader α} {enc : α → Value} {kas : List (String × α)}
    {rest : List Char} (hval : ∀ p ∈ kas, Reads room val (enc p.2).render.toList p.2)
    (hasc : kas.Pairwise (fun p q => p.1 < q.1)) (hroom : c.room = room)
    (hc : c.rest = (Value.renderFields (kas.map fun p => (p.1, enc p.2))).toList ++ '}' :: rest) :
    Yields (mapEntries val) c kas ('}' :: rest) := by
  have hrun : (mapEntries val).runOn c = (mapEntries.loop val (c.rest.length + 1) true []).runOn c := by
    simp [mapEntries]
  refine Yields.of_runOn_eq hrun ?_
  cases kas with
  | nil =>
    have hc' : c.rest = '}' :: rest := by simpa [Value.renderFields] using hc
    exact yields_mapEntries_close hc'
  | cons p kas =>
    obtain ⟨k, a⟩ := p
    rw [List.map_cons, Value.renderFields_cons] at hc
    have hcx : c.rest = (quote k).toList ++ ':' :: ((enc a).render.toList ++
        (Value.fieldsText (kas.map fun p => (p.1, enc p.2)) ++ '}' :: rest)) := by
      rw [hc]
      simp
    refine yields_mapEntries_step (yields_nextKey_first hcx) (fun c' hc' hroom' =>
      hval (k, a) List.mem_cons_self c' (hroom'.trans hroom) _ hc' (fieldsText_follows _ rest))
      fun c' hc' hroom' => ?_
    have hfuel : (Value.fieldsText (kas.map fun p => (p.1, enc p.2))).length < c.rest.length := by
      rw [hcx, quote_toList]
      simp
      omega
    simpa [mapEntries.put] using yields_mapEntries_next kas c.rest.length [(k, a)] c' rest
      (fun p hp => hval p (List.mem_cons_of_mem _ hp)) (by simpa using hasc) hfuel
      (hroom'.trans hroom) hc'

/-- A map whose keys ascend is read back from its entries' texts. -/
theorem reads_map {val : Reader α} {enc : α → Value} {kas : List (String × α)} (hroom : 2 ≤ room)
    (hval : ∀ p ∈ kas, Reads (room - 1) val (enc p.2).render.toList p.2)
    (hasc : kas.Pairwise (fun p q => p.1 < q.1)) :
    Reads room (Decoder.map val) (Value.obj (kas.map fun p => (p.1, enc p.2))).render.toList kas := by
  intro c hc₀ rest hc _
  have hc' : c.rest = '{' :: ((Value.renderFields (kas.map fun p => (p.1, enc p.2))).toList ++
      '}' :: rest) := by
    rw [hc, Value.render_obj_toList]
    simp
  have hbody := yields_container hc' (by omega)
    (fun c₁ hr₁ hm₁ => yields_mapEntries hval hasc (by omega) hr₁)
    (fun c₂ hr₂ _ => yields_endMap hr₂)
  refine Yields.tryCatch (Yields.of_runOn_eq ?_ hbody)
  rw [runOn_bind, runOn_skipBlank_of_not_blank hc' (by decide)]
  rfl

/-! ### Reading written records

A record is written as an object of the fields that carry something, in key order, which is
not the order of `RecordSpec.fields`.  The reader fills the slots one field at a time; what
it holds after reading the fields of a set `seen` is described by `mix seen`, and each field
read takes `mix seen` to `mix (i :: seen)`.  When the fields run out, the fields never written
must be the ones the record leaves at their defaults (`mix` of all the written ones is the
record) and no required field may be missing. -/

/-- Two keys at the same position of the field names are the same key. -/
theorem fieldIndex_inj {fields : List String} {k k' : String} {i : Nat}
    (h : fieldIndex fields k = some i) (h' : fieldIndex fields k' = some i) : k = k' := by
  obtain ⟨hi, hk, -⟩ := List.idxOf?_eq_some_iff.mp h
  obtain ⟨hi', hk', -⟩ := List.idxOf?_eq_some_iff.mp h'
  rw [← hk, ← hk']

section RecordReads

variable {σ : Type} {spec : RecordSpec Reader σ α}

/-- The positions read once the field `(k, v)` at position `i` is read, then the fields
`fs`: those read before, and the positions of all the fields from `(k, v)` on. -/
theorem seen_cons_iff {seen seen' : List Nat} {k : String} {v : Value} {i : Nat}
    {fs : Fields} (hi : fieldIndex spec.fields k = some i)
    (h : ∀ j, j ∈ seen' ↔ j ∈ i :: seen ∨ ∃ p ∈ fs, fieldIndex spec.fields p.1 = some j) :
    ∀ j, j ∈ seen' ↔ j ∈ seen ∨ ∃ p ∈ (k, v) :: fs, fieldIndex spec.fields p.1 = some j := by
  intro j
  rw [h]
  simp only [List.mem_cons, exists_eq_or_imp]
  constructor
  · rintro ((rfl | hj) | hj)
    · exact Or.inr (Or.inl hi)
    · exact Or.inl hj
    · exact Or.inr (Or.inr hj)
  · rintro (hj | hj | hj)
    · exact Or.inl (Or.inr hj)
    · exact Or.inl (Or.inl (Option.some.inj (hj.symm.trans hi)))
    · exact Or.inr hj

theorem yields_recordFromMap_close {fuel : Nat} {first : Bool} {st : σ} {seen : List Nat}
    {rest : List Char} (hc : c.rest = '}' :: rest)
    (hmiss : firstMissing spec.fields spec.required seen = none) :
    Yields (recordFromMap.loop false spec (fuel + 1) first st seen) c (spec.build st)
      ('}' :: rest) := by
  obtain ⟨c₁, h₁, hr₁, hm₁⟩ :
      Yields (nextKey first) c none ('}' :: rest) := yields_nextKey_close hc
  exact ⟨c₁, by simp [recordFromMap.loop, h₁, hmiss], hr₁, hm₁⟩

/-- One field the record knows and has not seen: its key, its colon, its value. -/
theorem yields_recordFromMap_step {fuel : Nat} {first : Bool} {st st' : σ} {seen : List Nat}
    {k : String} {i : Nat} {a : α} {t mid rest : List Char}
    (hkey : Yields (nextKey first) c (some k) (':' :: t))
    (hi : fieldIndex spec.fields k = some i) (hfresh : i ∉ seen)
    (hread : ∀ c', c'.rest = t → c'.room = c.room → Yields (spec.read st i) c' st' mid)
    (hk : ∀ c', c'.rest = mid → c'.room = c.room →
      Yields (recordFromMap.loop false spec fuel false st' (i :: seen)) c' a rest) :
    Yields (recordFromMap.loop false spec (fuel + 1) first st seen) c a rest := by
  obtain ⟨c₁, h₁, hr₁, hm₁⟩ := hkey
  obtain ⟨c₂, h₂, hr₂, hm₂⟩ := yields_colon hr₁
  obtain ⟨c₃, h₃, hr₃, hm₃⟩ := hread c₂ hr₂ (hm₂.trans hm₁)
  obtain ⟨c₄, h₄, hr₄, hm₄⟩ := hk c₃ hr₃ (hm₃.trans (hm₂.trans hm₁))
  refine ⟨c₄, ?_, hr₄, hm₄.trans (hm₃.trans (hm₂.trans hm₁))⟩
  simp [recordFromMap.loop, h₁, hi, hfresh, h₂, under, h₃, h₄]

variable (mix : List Nat → σ) (a : α) {room : Nat}

/-- The fields after the first, each key once, each read once into the slots. -/
theorem yields_recordFromMap_next :
    ∀ (fs : Fields) (fuel : Nat) (seen : List Nat) (c : Cursor) (rest : List Char),
      (∀ p ∈ fs, ∃ i, fieldIndex spec.fields p.1 = some i ∧
        ∀ seen', Reads room (spec.read (mix seen') i) p.2.render.toList (mix (i :: seen'))) →
      (∀ p ∈ fs, ∀ i, fieldIndex spec.fields p.1 = some i → i ∉ seen) →
      fs.Pairwise (fun p q => p.1 ≠ q.1) →
      (∀ seen', (∀ j, j ∈ seen' ↔ j ∈ seen ∨ ∃ p ∈ fs, fieldIndex spec.fields p.1 = some j) →
        firstMissing spec.fields spec.required seen' = none ∧ spec.build (mix seen') = a) →
      (Value.fieldsText fs).length < fuel → c.room = room →
      c.rest = Value.fieldsText fs ++ '}' :: rest →
      Yields (recordFromMap.loop false spec fuel false (mix seen) seen) c a ('}' :: rest)
  | [], fuel, seen, c, rest, _, _, _, hend, hfuel, _, hc => by
    obtain ⟨f, rfl⟩ : ∃ f, fuel = f + 1 := ⟨fuel - 1, by omega⟩
    obtain ⟨hmiss, hbuild⟩ := hend seen (by simp)
    rw [← hbuild]
    exact yields_recordFromMap_close hc hmiss
  | (k, v) :: fs, fuel, seen, c, rest, hfield, hfresh, hkeys, hend, hfuel, hroom, hc => by
    obtain ⟨i, hi, hread⟩ := hfield (k, v) List.mem_cons_self
    have htext : Value.fieldsText ((k, v) :: fs) =
        ',' :: ((quote k).toList ++ ':' :: (v.render.toList ++ Value.fieldsText fs)) := by
      simp [Value.fieldsText]
    rw [htext] at hc hfuel
    simp only [List.length_cons, List.length_append] at hfuel
    obtain ⟨f, rfl⟩ : ∃ f, fuel = f + 1 := ⟨fuel - 1, by omega⟩
    have hcx : c.rest = ',' :: ((quote k).toList ++ ':' :: (v.render.toList ++
        (Value.fieldsText fs ++ '}' :: rest))) := by
      rw [hc]
      simp
    have hfresh' : ∀ p ∈ fs, ∀ j, fieldIndex spec.fields p.1 = some j → j ∉ i :: seen := by
      intro p hp j hj hmem
      rcases List.mem_cons.mp hmem with rfl | hmem
      · exact (List.pairwise_cons.mp hkeys).1 p hp (fieldIndex_inj hi hj)
      · exact hfresh p (List.mem_cons_of_mem _ hp) j hj hmem
    refine yields_recordFromMap_step (yields_nextKey_next hcx) hi
      (hfresh (k, v) List.mem_cons_self i hi) (fun c' hc' hroom' =>
        hread seen c' (hroom'.trans hroom) _ hc' (fieldsText_follows _ rest)) fun c' hc' hroom' => ?_
    exact yields_recordFromMap_next fs f (i :: seen) c' rest
      (fun p hp => hfield p (List.mem_cons_of_mem _ hp)) hfresh' (List.pairwise_cons.mp hkeys).2
      (fun seen' hseen' => hend seen' (seen_cons_iff hi hseen')) (by omega) (hroom'.trans hroom) hc'

/-- **A record is read back from the fields it writes.**  The fields may come in any order,
each key once; each is read into the slots, and once they run out the slots build the
record. -/
theorem reads_record {fs : Fields} (hroom : 2 ≤ room) (hinit : mix [] = spec.init)
    (hkeys : fs.Pairwise (fun p q => p.1 ≠ q.1))
    (hfield : ∀ p ∈ fs, ∃ i, fieldIndex spec.fields p.1 = some i ∧
      ∀ seen, Reads (room - 1) (spec.read (mix seen) i) p.2.render.toList (mix (i :: seen)))
    (hend : ∀ seen, (∀ j, j ∈ seen ↔ ∃ p ∈ fs, fieldIndex spec.fields p.1 = some j) →
      firstMissing spec.fields spec.required seen = none ∧ spec.build (mix seen) = a) :
    Reads room (Decoder.record spec) (Value.obj fs).render.toList a := by
  intro c hc₀ rest hc _
  have hc' : c.rest = '{' :: ((Value.renderFields fs).toList ++ '}' :: rest) := by
    rw [hc, Value.render_obj_toList]
    simp
  have hfields : ∀ c₁ : Cursor, c₁.rest = (Value.renderFields fs).toList ++ '}' :: rest →
      c₁.room = room - 1 → Yields (recordFromMap false spec) c₁ a ('}' :: rest) := by
    intro c₁ hr₁ hm₁
    have hrun : (recordFromMap false spec).runOn c₁ =
        (recordFromMap.loop false spec (c₁.rest.length + 1) true (mix []) []).runOn c₁ := by
      simp [recordFromMap, hinit]
    refine Yields.of_runOn_eq hrun ?_
    cases fs with
    | nil =>
      obtain ⟨hmiss, hbuild⟩ := hend [] (by simp)
      have hr₁' : c₁.rest = '}' :: rest := by simpa [Value.renderFields] using hr₁
      rw [← hbuild]
      exact yields_recordFromMap_close hr₁' hmiss
    | cons p fs =>
      obtain ⟨k, v⟩ := p
      obtain ⟨i, hi, hread⟩ := hfield (k, v) List.mem_cons_self
      rw [Value.renderFields_cons] at hr₁
      have hcx : c₁.rest = (quote k).toList ++ ':' :: (v.render.toList ++
          (Value.fieldsText fs ++ '}' :: rest)) := by
        rw [hr₁]
        simp
      have hfresh : ∀ p ∈ fs, ∀ j, fieldIndex spec.fields p.1 = some j → j ∉ [i] := by
        intro p hp j hj hmem
        have hji : j = i := by simpa using hmem
        subst hji
        exact (List.pairwise_cons.mp hkeys).1 p hp (fieldIndex_inj hi hj)
      refine yields_recordFromMap_step (yields_nextKey_first hcx) hi List.not_mem_nil
        (fun c' hc' hroom' => hread [] c' (hroom'.trans hm₁) _ hc' (fieldsText_follows _ rest))
        fun c' hc' hroom' => ?_
      have hfuel : (Value.fieldsText fs).length < c₁.rest.length := by
        rw [hcx, quote_toList]
        simp
        omega
      refine yields_recordFromMap_next mix a fs c₁.rest.length [i] c' rest
        (fun p hp => hfield p (List.mem_cons_of_mem _ hp)) hfresh (List.pairwise_cons.mp hkeys).2
        (fun seen hseen => hend seen fun j => ?_) hfuel (hroom'.trans hm₁) hc'
      simpa using seen_cons_iff (v := v) hi hseen j
  have hbody := yields_container hc' (by omega) (fun c₁ hr₁ hm₁ => hfields c₁ hr₁ (hc₀ ▸ hm₁))
    (fun c₂ hr₂ _ => yields_endMap hr₂)
  refine Yields.tryCatch (Yields.of_runOn_eq ?_ hbody)
  rw [runOn_bind, runOn_skipBlank_of_not_blank hc' (by decide)]
  rfl

end RecordReads

end Containers

end Workflow.Decode
