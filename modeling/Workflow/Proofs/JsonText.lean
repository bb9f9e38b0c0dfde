import Workflow.Json.Print
import Workflow.Decode.Text
/-! # Reading written JSON text back

The reader walks a text through a `Cursor`.  What it returns and where it stops depend only
on the unread characters and on the nesting room, never on the line and column the cursor
keeps for its faults.  `Reader.runOn` runs a reader from a cursor; its simp lemmas push a
run through `bind`, `pure`, `get`, `set`, `throw` and `tryCatch`, so that the run of a
reader is computed from its definition.

`Reader.Yields r c a rest` says that `r`, run from `c`, returns `a` and stops where `rest`
starts, the room as it was; `Yields.bind` chains two such facts.  `Reader.Reads room r t a`
says that `r` reads the text `t` as `a` from every cursor at `t` with that room, whatever
may `Follow` a written value (nothing, a separator or a closing bracket).

This module proves it for the pieces of a written document: keywords, string literals
(`readStringBody_quote`: a string comes back from its escaped form, quotes and control
characters included) and the integers the reader keeps exact (`readNumber_int`).
-/

namespace Workflow.Json

/-- What may follow a written value in a document: nothing, a separator or a closing
bracket. -/
def Follows (rest : List Char) : Prop :=
  ∀ ch ∈ rest.head?, ch = ',' ∨ ch = ':' ∨ ch = '}' ∨ ch = ']'

theorem follows_nil : Follows [] := by
  intro ch h
  cases h

theorem follows_cons {ch : Char} {r : List Char}
    (h : ch = ',' ∨ ch = ':' ∨ ch = '}' ∨ ch = ']') : Follows (ch :: r) := by
  intro ch' hch
  cases hch
  exact h

/-- The blanks a reader skips between tokens. -/
def IsBlank (ch : Char) : Prop := ch = ' ' ∨ ch = '\t' ∨ ch = '\r' ∨ ch = '\n'

instance (ch : Char) : Decidable (IsBlank ch) :=
  inferInstanceAs (Decidable (ch = ' ' ∨ ch = '\t' ∨ ch = '\r' ∨ ch = '\n'))

theorem Cursor.skipBlankFrom_nil (l col : Nat) : Cursor.skipBlankFrom [] l col = ([], l, col) := by
  simp [Cursor.skipBlankFrom]

theorem Cursor.skipBlankFrom_of_not_blank {ch : Char} (r : List Char) (l col : Nat)
    (h : ¬ IsBlank ch) : Cursor.skipBlankFrom (ch :: r) l col = (ch :: r, l, col) := by
  simp only [IsBlank, not_or] at h
  obtain ⟨h1, h2, h3, h4⟩ := h
  unfold Cursor.skipBlankFrom
  split <;> simp_all

theorem Cursor.bump_of_cons {c : Cursor} {ch : Char} {r : List Char} (h : c.rest = ch :: r) :
    c.bump.rest = r ∧ c.bump.room = c.room := by
  unfold Cursor.bump
  split <;> simp_all

theorem Cursor.bump_room (c : Cursor) : c.bump.room = c.room := by
  unfold Cursor.bump
  split <;> rfl

theorem Cursor.hasBytes_of_le_length {l : List Char} {n : Nat} (h : n ≤ l.length) :
    Cursor.hasBytes l n = true := by
  induction l generalizing n with
  | nil =>
    simp only [List.length_nil, Nat.le_zero] at h
    subst h
    rfl
  | cons ch l ih =>
    cases n with
    | zero => rfl
    | succ n =>
      simp only [Cursor.hasBytes]
      split
      · rfl
      · have := Char.utf8Size_pos ch
        exact ih (by simp at h; omega)

/-- The cursor past the characters `l`, taken one by one. -/
def Cursor.pass (l : List Char) (c : Cursor) : Cursor := l.foldl (fun c _ => c.bump) c

theorem Cursor.pass_of_append {l more : List Char} {c : Cursor} (h : c.rest = l ++ more) :
    (c.pass l).rest = more ∧ (c.pass l).room = c.room := by
  induction l generalizing c with
  | nil => simpa [Cursor.pass] using h
  | cons ch l ih =>
    have hb := Cursor.bump_of_cons (h.trans (List.cons_append ..))
    have := ih hb.1
    exact ⟨this.1, this.2.trans hb.2⟩

theorem Cursor.pass_room (l : List Char) (c : Cursor) : (c.pass l).room = c.room := by
  induction l generalizing c with
  | nil => rfl
  | cons ch l ih => exact (ih c.bump).trans (Cursor.bump_room c)

namespace Reader

variable {α β : Type}

/-- A reader run from a cursor: what it returns, or the fault it stops with, and the cursor
it stops at. -/
def runOn (r : Reader α) (c : Cursor) : Except ReadError α × Cursor :=
  StateT.run (ExceptT.run r) c

@[simp] theorem runOn_pure (a : α) (c : Cursor) : (pure a : Reader α).runOn c = (.ok a, c) := rfl

@[simp] theorem runOn_bind (x : Reader α) (f : α → Reader β) (c : Cursor) :
    (x >>= f).runOn c =
      match x.runOn c with
      | (.ok a, c') => (f a).runOn c'
      | (.error e, c') => (.error e, c') := by
  simp only [runOn, ExceptT.run_bind, StateT.run_bind]
  rcases StateT.run (ExceptT.run x) c with ⟨_ | a, c'⟩ <;> rfl

@[simp] theorem runOn_map (f : α → β) (x : Reader α) (c : Cursor) :
    (f <$> x).runOn c =
      match x.runOn c with
      | (.ok a, c') => (.ok (f a), c')
      | (.error e, c') => (.error e, c') := by
  simp only [runOn, ExceptT.run_map, StateT.run_map]
  rcases StateT.run (ExceptT.run x) c with ⟨_ | a, c'⟩ <;> rfl

@[simp] theorem runOn_get (c : Cursor) : (get : Reader Cursor).runOn c = (.ok c, c) := rfl

@[simp] theorem runOn_set (c c' : Cursor) : (set c' : Reader PUnit).runOn c = (.ok ⟨⟩, c') := rfl

@[simp] theorem runOn_modify (f : Cursor → Cursor) (c : Cursor) :
    (modify f : Reader PUnit).runOn c = (.ok ⟨⟩, f c) := rfl

@[simp] theorem runOn_throw (e : ReadError) (c : Cursor) :
    (throw e : Reader α).runOn c = (.error e, c) := rfl

@[simp] theorem runOn_tryCatch (x : Reader α) (h : ReadError → Reader α) (c : Cursor) :
    (tryCatch x h).runOn c =
      match x.runOn c with
      | (.ok a, c') => (.ok a, c')
      | (.error e, c') => (h e).runOn c' := by
  show StateT.run (ExceptT.run (ExceptT.tryCatch x h)) c = _
  simp only [ExceptT.tryCatch, ExceptT.run_mk, StateT.run_bind, runOn]
  rcases hx : StateT.run (ExceptT.run x) c with ⟨_ | a, c'⟩ <;> erw [hx] <;> rfl

@[simp] theorem runOn_peek (c : Cursor) : peek?.runOn c = (.ok c.rest.head?, c) := by
  simp [peek?]

@[simp] theorem runOn_bump (c : Cursor) : bump.runOn c = (.ok (), c.bump) := by
  simp [bump]

theorem runOn_skipBlank (c : Cursor) :
    skipBlank.runOn c =
      (.ok (Cursor.skipBlankFrom c.rest c.line c.column).1.head?,
        { c with rest := (Cursor.skipBlankFrom c.rest c.line c.column).1,
                 line := (Cursor.skipBlankFrom c.rest c.line c.column).2.1,
                 column := (Cursor.skipBlankFrom c.rest c.line c.column).2.2 }) := by
  simp [skipBlank]

/-! ### Runs that stop at a place -/

/-- `r`, run from `c`, returns `a` and stops where `rest` starts, the room as it was. -/
def Yields (r : Reader α) (c : Cursor) (a : α) (rest : List Char) : Prop :=
  ∃ c', r.runOn c = (.ok a, c') ∧ c'.rest = rest ∧ c'.room = c.room

/-- `r` reads the text `t` as `a` with nesting room `room`: from every cursor at `t` with that
room, followed by whatever may follow a value, it returns `a` and stops after `t`. -/
def Reads (room : Nat) (r : Reader α) (t : List Char) (a : α) : Prop :=
  ∀ c : Cursor, c.room = room → ∀ rest, c.rest = t ++ rest → Follows rest → Yields r c a rest

theorem Reads.bind_pure {β : Type} {room : Nat} {r : Reader α} {t : List Char} {a : α}
    (h : Reads room r t a) (f : α → β) : Reads room (r >>= fun x => pure (f x)) t (f a) := by
  intro c hc rest ht hr
  obtain ⟨c₁, h₁, hr₁, hm₁⟩ := h c hc rest ht hr
  exact ⟨c₁, by simp [h₁], hr₁, hm₁⟩

theorem yields_pure (a : α) (c : Cursor) : Yields (pure a) c a c.rest := ⟨c, rfl, rfl, rfl⟩

theorem Yields.bind {x : Reader α} {f : α → Reader β} {c : Cursor} {a : α} {b : β}
    {mid rest : List Char} (hx : Yields x c a mid)
    (hf : ∀ c' : Cursor, c'.rest = mid → c'.room = c.room → Yields (f a) c' b rest) :
    Yields (x >>= f) c b rest := by
  obtain ⟨c₁, hrun, hmid, hroom⟩ := hx
  obtain ⟨c₂, hrun₂, hrest, hroom₂⟩ := hf c₁ hmid hroom
  exact ⟨c₂, by simp [hrun, hrun₂], hrest, hroom₂.trans hroom⟩

theorem Yields.map {x : Reader α} {f : α → β} {c : Cursor} {a : α} {rest : List Char}
    (hx : Yields x c a rest) : Yields (f <$> x) c (f a) rest := by
  obtain ⟨c₁, hrun, hrest, hroom⟩ := hx
  exact ⟨c₁, by simp [hrun], hrest, hroom⟩

theorem Yields.tryCatch {x : Reader α} {h : ReadError → Reader α} {c : Cursor} {a : α}
    {rest : List Char} (hx : Yields x c a rest) : Yields (tryCatch x h) c a rest := by
  obtain ⟨c₁, hrun, hrest, hroom⟩ := hx
  exact ⟨c₁, by simp [hrun], hrest, hroom⟩

theorem Yields.of_runOn_eq {x y : Reader α} {c : Cursor} {a : α} {rest : List Char}
    (heq : x.runOn c = y.runOn c) (hy : Yields y c a rest) : Yields x c a rest := by
  obtain ⟨c₁, hrun, hrest, hroom⟩ := hy
  exact ⟨c₁, heq.trans hrun, hrest, hroom⟩

/-- A keyword's letters are taken one by one. -/
theorem yields_readIdent (cs : List Char) {c : Cursor} {rest : List Char}
    (h : c.rest = cs ++ rest) : Yields (readIdent cs) c () rest := by
  induction cs generalizing c with
  | nil =>
    simp only [List.nil_append] at h
    exact h ▸ yields_pure () c
  | cons ch cs ih =>
    have hb := Cursor.bump_of_cons (h.trans (List.cons_append ..))
    obtain ⟨c', hrun, hrest, hroom⟩ := ih hb.1
    refine ⟨c', ?_, hrest, hroom.trans hb.2⟩
    simp [readIdent, h, hrun]

/-! ### String literals -/

theorem hexValue_hexDigit : ∀ k, k < 16 → hexValue (hexDigit k) = some k := by decide

theorem readStringLoop_escapeChar {ch : Char} {acc more : List Char} {fuel : Nat} {c : Cursor}
    (h : c.rest = escapeChar ch ++ more) :
    (readStringLoop (fuel + 1) acc).runOn c =
      (readStringLoop fuel (ch :: acc)).runOn (c.pass (escapeChar ch)) := by
  obtain ⟨rest, line, col, room⟩ := c
  simp only at h
  subst h
  unfold escapeChar
  split
  · rename_i hq
    have : ch = '"' := by simpa using hq
    subst this
    simp [readStringLoop, readEscape, Cursor.bump, Cursor.pass]
  split
  · rename_i _ hb
    have : ch = '\\' := by simpa using hb
    subst this
    simp [readStringLoop, readEscape, Cursor.bump, Cursor.pass]
  split
  · rename_i _ _ hn
    have : ch = '\n' := by simpa using hn
    subst this
    simp [readStringLoop, readEscape, Cursor.bump, Cursor.pass]
  split
  · rename_i _ _ _ hr
    have : ch = '\r' := by simpa using hr
    subst this
    simp [readStringLoop, readEscape, Cursor.bump, Cursor.pass]
  split
  · rename_i _ _ _ _ ht
    have : ch = '\t' := by simpa using ht
    subst this
    simp [readStringLoop, readEscape, Cursor.bump, Cursor.pass]
  split
  · rename_i _ _ _ _ _ h8
    have h8' : ch.toNat = 8 := by simpa using h8
    have : ch = Char.ofNat 8 := by rw [← h8', Char.ofNat_toNat]
    subst this
    simp [readStringLoop, readEscape, Cursor.bump, Cursor.pass]
  split
  · rename_i _ _ _ _ _ _ h12
    have h12' : ch.toNat = 12 := by simpa using h12
    have : ch = Char.ofNat 12 := by rw [← h12', Char.ofNat_toNat]
    subst this
    simp [readStringLoop, readEscape, Cursor.bump, Cursor.pass]
  split
  · rename_i _ _ _ _ _ _ _ hlow
    have hlt : ch.toNat < 0x20 := by simpa using hlow
    have h1 := hexValue_hexDigit (ch.toNat / 16) (by omega)
    have h2 := hexValue_hexDigit (ch.toNat % 16) (by omega)
    have h0 : hexValue '0' = some 0 := rfl
    have hn : ch.toNat / 16 * 16 + ch.toNat % 16 = ch.toNat := by omega
    have hs1 : ¬ 56320 ≤ ch.toNat := by omega
    have hs2 : ch.toNat < 55296 := by omega
    simp [readStringLoop, readEscape, readUnicodeEscape, readHex4, Cursor.bump, Cursor.pass,
      Cursor.hasBytes_of_le_length, h0, h1, h2, hn, hs1, hs2, Char.ofNat_toNat]
  · rename_i hq hb _ _ _ _ _ hlow
    -- the first two patterns of the loop's match do not apply
    have hne : ch ≠ '"' ∧ ch ≠ '\\' := ⟨by simpa using hq, by simpa using hb⟩
    have hge : ¬ ch.toNat < 0x20 := by simpa using hlow
    simp [readStringLoop, Cursor.bump, Cursor.pass, hne, hge]

theorem escapeChar_ne_nil (ch : Char) : escapeChar ch ≠ [] := by
  unfold escapeChar
  repeat' split
  all_goals simp

theorem length_le_flatMap_escapeChar (cs : List Char) :
    cs.length ≤ (cs.flatMap escapeChar).length := by
  induction cs with
  | nil => simp
  | cons ch cs ih =>
    have := List.length_pos_iff.mpr (escapeChar_ne_nil ch)
    simp only [List.flatMap_cons, List.length_append, List.length_cons]
    omega

/-- The loop takes the escaped characters one form at a time and stops after the closing
quote; the fuel it needs is one more than the number of characters. -/
theorem yields_readStringLoop (cs acc : List Char) {rest : List Char} {fuel : Nat} {c : Cursor}
    (hf : cs.length < fuel) (h : c.rest = cs.flatMap escapeChar ++ '"' :: rest) :
    Yields (readStringLoop fuel acc) c (String.ofList (acc.reverse ++ cs)) rest := by
  induction cs generalizing acc fuel c with
  | nil =>
    obtain ⟨fuel, rfl⟩ : ∃ f, fuel = f + 1 := ⟨fuel - 1, by simp at hf; omega⟩
    simp only [List.flatMap_nil, List.nil_append] at h
    refine ⟨c.bump, ?_, (Cursor.bump_of_cons h).1, (Cursor.bump_of_cons h).2⟩
    simp [readStringLoop, h]
  | cons ch cs ih =>
    simp only [List.flatMap_cons, List.append_assoc] at h
    have hpass := Cursor.pass_of_append h
    obtain ⟨fuel, rfl⟩ : ∃ f, fuel = f + 1 := ⟨fuel - 1, by simp at hf; omega⟩
    obtain ⟨c', hrun, hrest, hroom⟩ := ih (ch :: acc) (by simp at hf; omega) hpass.1
    refine ⟨c', ?_, hrest, hroom.trans hpass.2⟩
    rw [readStringLoop_escapeChar h, hrun]
    simp

theorem quote_toList (s : String) :
    (quote s).toList = '"' :: (s.toList.flatMap escapeChar ++ ['"']) := by
  simp [quote]

/-- A string literal's body, after its opening quote, reads back as the string. -/
theorem yields_readStringBody (s : String) {c : Cursor} {rest : List Char}
    (h : c.rest = s.toList.flatMap escapeChar ++ '"' :: rest) : Yields readStringBody c s rest := by
  have hf : s.toList.length < c.rest.length + 1 := by
    have := length_le_flatMap_escapeChar s.toList
    rw [h, List.length_append]
    omega
  obtain ⟨c', hrun, hrest, hroom⟩ := yields_readStringLoop s.toList [] hf h
  refine ⟨c', ?_, hrest, hroom⟩
  simp [readStringBody, hrun]

/-! ### Readers that keep the room

Only the readers of typed data spend nesting room and give it back; a reader of JSON text
leaves it as it found it.  `Sound P r` says both at once of a reader that succeeds: what it
read satisfies `P` at the room it started with, and the room is as it was. -/

/-- Whenever `r` succeeds, its result satisfies `P` at the room it started with, and the
room is as it was. -/
def Sound (P : Nat → α → Prop) (r : Reader α) : Prop :=
  ∀ c a c', r.runOn c = (.ok a, c') → P c.room a ∧ c'.room = c.room

/-- `r` leaves the room as it found it whenever it succeeds. -/
abbrev KeepsRoom (r : Reader α) : Prop := Sound (fun _ _ => True) r

section Sound

variable {P Q : Nat → α → Prop} {R : Nat → β → Prop}

theorem sound_pure {a : α} (h : ∀ n, P n a) : Sound P (pure a) := by
  intro c a' c' hr
  simp only [runOn_pure, Prod.mk.injEq, Except.ok.injEq] at hr
  obtain ⟨rfl, rfl⟩ := hr
  exact ⟨h _, rfl⟩

theorem Sound.imp {r : Reader α} (hr : Sound P r) (h : ∀ n a, P n a → Q n a) : Sound Q r :=
  fun c a c' hrun => (hr c a c' hrun).imp_left (h _ _)

/-- What the first reader gives is known to the second. -/
theorem Sound.bind {x : Reader α} {f : α → Reader β} (hx : Sound P x)
    (hf : ∀ a, Sound (fun n b => P n a → R n b) (f a)) : Sound R (x >>= f) := by
  intro c b c'' h
  rw [runOn_bind] at h
  rcases hx₁ : x.runOn c with ⟨_ | a, c'⟩
  · rw [hx₁] at h
    cases h
  · rw [hx₁] at h
    obtain ⟨hp, hroom⟩ := hx c a c' hx₁
    obtain ⟨hq, hroom'⟩ := hf a c' b c'' h
    rw [hroom] at hq
    exact ⟨hq hp, hroom'.trans hroom⟩

theorem KeepsRoom.bind {x : Reader α} {f : α → Reader β} (hx : KeepsRoom x)
    (hf : ∀ a, Sound R (f a)) : Sound R (x >>= f) :=
  Sound.bind hx fun a => (hf a).imp fun _ _ h _ => h

theorem Sound.map {x : Reader α} {f : α → β} (hx : Sound P x) (h : ∀ n a, P n a → R n (f a)) :
    Sound R (f <$> x) := by
  intro c b c' hr
  rw [runOn_map] at hr
  rcases hx₁ : x.runOn c with ⟨_ | a, c₁⟩
  · rw [hx₁] at hr
    cases hr
  · rw [hx₁] at hr
    simp only [Prod.mk.injEq, Except.ok.injEq] at hr
    obtain ⟨rfl, rfl⟩ := hr
    exact (hx c a c₁ hx₁).imp_left (h _ _)

/-- A reader that never succeeds is sound for anything. -/
theorem sound_of_fails {r : Reader α} (h : ∀ c a c', r.runOn c ≠ (.ok a, c')) : Sound P r :=
  fun c a c' hr => absurd hr (h c a c')

theorem sound_throw (e : ReadError) : Sound P (throw e) :=
  sound_of_fails fun c a c' => by simp

theorem sound_fail (p : Problem) : Sound P (fail p) :=
  sound_of_fails fun c a c' => by simp [fail]

theorem sound_failPeek (p : Problem) : Sound P (failPeek p) :=
  sound_of_fails fun c a c' => by simp [failPeek]

/-- A reader that looks at the cursor is sound if what follows is, from the cursor it looked
at. -/
theorem sound_get_bind {f : Cursor → Reader α}
    (hf : ∀ c a c', (f c).runOn c = (.ok a, c') → P c.room a ∧ c'.room = c.room) :
    Sound P (get >>= f) := by
  intro c a c' h
  simp only [runOn_bind, runOn_get] at h
  exact hf c a c' h

end Sound

/-- Whatever `r` gives satisfies `P`; unlike `Sound`, nothing is said of the room. -/
def Returns {α : Type} (P : α → Prop) (r : Reader α) : Prop :=
  ∀ c a c', r.runOn c = (.ok a, c') → P a

section Returns

variable {P : α → Prop}

theorem returns_pure {a : α} (h : P a) : Returns P (pure a) := by
  intro c a' c' hrun
  simp only [runOn_pure, Prod.mk.injEq, Except.ok.injEq] at hrun
  rw [← hrun.1]
  exact h

theorem returns_bind {x : Reader β} {f : β → Reader α} (hf : ∀ b, Returns P (f b)) :
    Returns P (x >>= f) := by
  intro c a c' hrun
  rw [runOn_bind] at hrun
  rcases hx : x.runOn c with ⟨_ | b, c₁⟩
  · rw [hx] at hrun
    cases hrun
  · rw [hx] at hrun
    exact hf b c₁ a c' hrun

theorem returns_fail (p : Problem) : Returns P (fail p) := by
  intro c a c' hrun
  simp [fail] at hrun

theorem returns_failPeek (p : Problem) : Returns P (failPeek p) := by
  intro c a c' hrun
  simp [failPeek] at hrun

end Returns

theorem keepsRoom_get : KeepsRoom (get : Reader Cursor) :=
  fun c a c' h => by
    simp only [runOn_get, Prod.mk.injEq] at h
    exact ⟨trivial, by rw [← h.2]⟩

theorem keepsRoom_peek : KeepsRoom peek? :=
  fun c a c' h => by
    simp only [runOn_peek, Prod.mk.injEq] at h
    exact ⟨trivial, by rw [← h.2]⟩

theorem keepsRoom_bump : KeepsRoom bump :=
  fun c a c' h => by
    simp only [runOn_bump, Prod.mk.injEq] at h
    refine ⟨trivial, ?_⟩
    rw [← h.2]
    unfold Cursor.bump
    split <;> rfl

theorem keepsRoom_skipBlank : KeepsRoom skipBlank :=
  fun c a c' h => by
    simp only [runOn_skipBlank, Prod.mk.injEq] at h
    exact ⟨trivial, by rw [← h.2]⟩

theorem keepsRoom_readIdent (cs : List Char) : KeepsRoom (readIdent cs) := by
  induction cs with
  | nil => exact sound_pure fun _ => trivial
  | cons ch cs ih =>
    refine keepsRoom_peek.bind fun x => ?_
    split
    · exact sound_fail _
    · refine keepsRoom_bump.bind fun _ => ?_
      split
      · exact sound_fail _
      · exact ih

theorem keepsRoom_readHex4 : KeepsRoom readHex4 := by
  unfold readHex4
  refine keepsRoom_get.bind fun c => ?_
  split
  · exact sound_of_fails fun c' a c'' => by simp [fail]
  · dsimp only
    split
    · exact keepsRoom_bump.bind fun _ => keepsRoom_bump.bind fun _ =>
        keepsRoom_bump.bind fun _ => keepsRoom_bump.bind fun _ => sound_pure fun _ => trivial
    · exact sound_throw _

theorem keepsRoom_readUnicodeEscape : KeepsRoom readUnicodeEscape := by
  unfold readUnicodeEscape
  refine keepsRoom_readHex4.bind fun n => ?_
  split
  · exact sound_fail _
  split
  · exact sound_pure fun _ => trivial
  dsimp only
  refine keepsRoom_peek.bind fun x => ?_
  split
  · exact sound_fail _
  · refine keepsRoom_bump.bind fun _ => keepsRoom_peek.bind fun y => ?_
    split
    · exact sound_fail _
    · refine keepsRoom_bump.bind fun _ => keepsRoom_readHex4.bind fun n₂ => ?_
      split
      · exact sound_fail _
      · exact sound_pure fun _ => trivial
    · exact sound_failPeek _
  · exact sound_failPeek _

theorem keepsRoom_readEscape : KeepsRoom readEscape := by
  unfold readEscape
  refine keepsRoom_peek.bind fun x => ?_
  split
  · exact sound_fail _
  · refine keepsRoom_bump.bind fun _ => ?_
    split <;> first
      | exact sound_pure fun _ => trivial
      | exact keepsRoom_readUnicodeEscape
      | exact sound_fail _

theorem keepsRoom_readStringLoop (fuel : Nat) (acc : List Char) :
    KeepsRoom (readStringLoop fuel acc) := by
  induction fuel generalizing acc with
  | zero => exact sound_fail _
  | succ fuel ih =>
    unfold readStringLoop
    refine keepsRoom_peek.bind fun x => ?_
    split
    · exact sound_fail _
    · exact keepsRoom_bump.bind fun _ => sound_pure fun _ => trivial
    · exact keepsRoom_bump.bind fun _ => keepsRoom_readEscape.bind fun ch => ih _
    · refine keepsRoom_bump.bind fun _ => ?_
      split
      · exact sound_fail _
      · exact ih _

theorem keepsRoom_readStringBody : KeepsRoom readStringBody :=
  keepsRoom_get.bind fun _ => keepsRoom_readStringLoop _ _

end Reader

end Workflow.Json
