import Workflow.Config.Print
import Workflow.Proofs.ConfigLayers
import Mathlib.Data.List.Forall2
/-! # Configurations read back from their TOML form

`Settings.toToml` writes a configuration as a TOML document and `Settings.ofToml` reads one.
A configuration read from any text is read back from the text it is written as
(`Config.ofToml_toToml`): every section that was given, even an empty one, is given again; a
section that was left out stays out; the defaults a section was filled with are written and
read back as they were; every handler keeps its command, arguments, working directory,
environment and timeout.

The text itself is the business of the format: the assumption is that the document read from
the written text holds what was written (`Item.toOut`), in the order `render` writes it
(`Out.laidOut`: in each table, its values first and then its tables).  The proof has two
halves.

* What the reader gives fits (`Settings.Fits`): ports fit in 16 bits, timeouts and capacities
  in 64, and handlers and environments are maps with their names in order.  Each field read
  keeps this (`Gives`), so `Settings.ofToml` gives it (`Settings.fits_of_ofToml`).
* From a configuration that fits, the reader reads back every document that holds its TOML
  form (`Reads`, `Settings.reads_toOut`).  `Settings.mix c seen` is what the reader holds once
  it has read the fields at positions `seen`, and it is `c` once every written field is read.
-/

namespace Workflow.Toml

/-! ## Documents as the values they hold -/

mutual

/-- The value an item holds, without places, flags and the spelling of keys; a table and an
inline table alike hold a table.  `render` writes no floats, date-times or arrays of tables,
so those hold nothing here. -/
def Item.toOut : Item → Option Out
  | .str s _ => some (.str s)
  | .int i _ => some (.int i)
  | .bool b _ => some (.bool b)
  | .array xs _ => (itemsToOut xs).map .array
  | .inline es .. => (entriesToOut es).map .table
  | .table es .. => (entriesToOut es).map .table
  | .float .. | .datetime .. | .tables .. => none

/-- The values items hold. -/
def itemsToOut : List Item → Option (List Out)
  | [] => some []
  | x :: xs => (Item.toOut x).bind fun o => (itemsToOut xs).map (o :: ·)

/-- The values a table's entries hold, by key name. -/
def entriesToOut : List (Key × Item) → Option (List (String × Out))
  | [] => some []
  | (k, x) :: es => (Item.toOut x).bind fun o => (entriesToOut es).map ((k.name, o) :: ·)

end

namespace Out

mutual
/-- Equality of values to write is decidable, through their lists of items and entries. -/
def decEq : (a b : Out) → Decidable (a = b)
  | .str x, .str y =>
    if h : x = y then isTrue (h ▸ rfl) else isFalse (fun e => by cases e; exact h rfl)
  | .int x, .int y =>
    if h : x = y then isTrue (h ▸ rfl) else isFalse (fun e => by cases e; exact h rfl)
  | .bool x, .bool y =>
    if h : x = y then isTrue (h ▸ rfl) else isFalse (fun e => by cases e; exact h rfl)
  | .array xs, .array ys =>
    match decEqItems xs ys with
    | isTrue h => isTrue (h ▸ rfl)
    | isFalse h => isFalse (fun e => by cases e; exact h rfl)
  | .table xs, .table ys =>
    match decEqEntries xs ys with
    | isTrue h => isTrue (h ▸ rfl)
    | isFalse h => isFalse (fun e => by cases e; exact h rfl)
  | .str _, .int _ | .str _, .bool _ | .str _, .array _ | .str _, .table _
  | .int _, .str _ | .int _, .bool _ | .int _, .array _ | .int _, .table _
  | .bool _, .str _ | .bool _, .int _ | .bool _, .array _ | .bool _, .table _
  | .array _, .str _ | .array _, .int _ | .array _, .bool _ | .array _, .table _
  | .table _, .str _ | .table _, .int _ | .table _, .bool _ | .table _, .array _ =>
    isFalse (fun e => by cases e)

/-- Equality of two lists of values. -/
def decEqItems : (a b : List Out) → Decidable (a = b)
  | [], [] => isTrue rfl
  | [], _ :: _ => isFalse (fun e => by cases e)
  | _ :: _, [] => isFalse (fun e => by cases e)
  | x :: xs, y :: ys =>
    match decEq x y, decEqItems xs ys with
    | isTrue h1, isTrue h2 => isTrue (h1 ▸ h2 ▸ rfl)
    | isFalse h1, _ => isFalse (fun e => by cases e; exact h1 rfl)
    | _, isFalse h2 => isFalse (fun e => by cases e; exact h2 rfl)

/-- Equality of two lists of entries. -/
def decEqEntries : (a b : List (String × Out)) → Decidable (a = b)
  | [], [] => isTrue rfl
  | [], _ :: _ => isFalse (fun e => by cases e)
  | _ :: _, [] => isFalse (fun e => by cases e)
  | (k, x) :: xs, (l, y) :: ys =>
    if hk : k = l then
      match decEq x y, decEqEntries xs ys with
      | isTrue h1, isTrue h2 => isTrue (hk ▸ h1 ▸ h2 ▸ rfl)
      | isFalse h1, _ => isFalse (fun e => by cases e; exact h1 rfl)
      | _, isFalse h2 => isFalse (fun e => by cases e; exact h2 rfl)
    else isFalse (fun e => by cases e; exact hk rfl)
end

instance : DecidableEq Out := decEq

mutual

/-- A value in the order `render` writes it: in each table, the values in order and then
the tables in order, each laid out the same way. -/
def laidOut : Out → Out
  | .table es => .table (es.filter (fun p => !p.2.isTable) ++ tablesLaidOut es)
  | o => o

/-- The tables among entries, each laid out. -/
def tablesLaidOut : List (String × Out) → List (String × Out)
  | [] => []
  | (k, o) :: rest => if o.isTable then (k, laidOut o) :: tablesLaidOut rest else tablesLaidOut rest

end

theorem laidOut_table (es : List (String × Out)) :
    (Out.table es).laidOut = .table (es.filter (fun p => !p.2.isTable) ++ tablesLaidOut es) := by
  rw [laidOut]

theorem laidOut_of_not_isTable {o : Out} (h : o.isTable = false) : o.laidOut = o := by
  cases o with
  | table es => cases h
  | _ => rfl

/-- Laying a table out only moves its entries: it holds the same entries, each laid out. -/
theorem perm_laidOut_entries (es : List (String × Out)) :
    (es.filter (fun p => !p.2.isTable) ++ tablesLaidOut es).Perm
      (es.map fun p => (p.1, p.2.laidOut)) := by
  induction es with
  | nil => rfl
  | cons p es ih =>
    obtain ⟨k, o⟩ := p
    cases ho : o.isTable
    · rw [List.filter_cons_of_pos (by simp [ho]), tablesLaidOut, if_neg (by simp [ho]),
        List.map_cons, laidOut_of_not_isTable ho, List.cons_append]
      exact ih.cons _
    · rw [List.filter_cons_of_neg (by simp [ho]), tablesLaidOut, if_pos ho, List.map_cons]
      exact List.perm_middle.trans (ih.cons _)

/-- A table whose entries are all tables lays out each of them in place. -/
theorem laidOut_tables {β : Type} (xs : List (String × β)) (f : β → List (String × Out)) :
    (Out.table (xs.map fun p => (p.1, .table (f p.2)))).laidOut =
      .table (xs.map fun p => (p.1, (Out.table (f p.2)).laidOut)) := by
  have hvalues : (xs.map fun p => (p.1, Out.table (f p.2))).filter (fun p => !p.2.isTable) = [] :=
    List.filter_eq_nil_iff.mpr fun _ hp => by
      obtain ⟨q, -, rfl⟩ := List.mem_map.mp hp
      simp [isTable]
  have htables : ∀ ys : List (String × β),
      tablesLaidOut (ys.map fun p => (p.1, .table (f p.2))) =
        ys.map fun p => (p.1, (Out.table (f p.2)).laidOut) := by
    intro ys
    induction ys with
    | nil => rfl
    | cons p ys ih => rw [List.map_cons, tablesLaidOut, if_pos (by rfl), ih, List.map_cons]
  rw [laidOut_table, hvalues, htables, List.nil_append]

/-- A table that holds only values is laid out as it is. -/
theorem laidOut_values {es : List (String × Out)} (h : ∀ p ∈ es, p.2.isTable = false) :
    (Out.table es).laidOut = .table es := by
  have htables : tablesLaidOut es = [] := by
    induction es with
    | nil => rfl
    | cons p es ih =>
      obtain ⟨k, o⟩ := p
      rw [tablesLaidOut, if_neg (by simp [h (k, o) List.mem_cons_self]),
        ih fun q hq => h q (List.mem_cons_of_mem _ hq)]
  rw [laidOut_table, htables, List.append_nil, List.filter_eq_self.mpr fun p hp => by simp [h p hp]]

end Out

/-! ### What the values items hold look like -/

namespace Item

theorem toOut_eq_str {it : Item} {s : String} (h : it.toOut = some (.str s)) :
    ∃ sp, it = .str s sp := by
  cases it with
  | str s' sp =>
    simp only [toOut, Option.some.injEq, Out.str.injEq] at h
    exact ⟨sp, by rw [h]⟩
  | _ => simp [toOut] at h

theorem toOut_eq_int {it : Item} {i : Int} (h : it.toOut = some (.int i)) :
    ∃ sp, it = .int i sp := by
  cases it with
  | int i' sp =>
    simp only [toOut, Option.some.injEq, Out.int.injEq] at h
    exact ⟨sp, by rw [h]⟩
  | _ => simp [toOut] at h

theorem toOut_eq_array {it : Item} {os : List Out} (h : it.toOut = some (.array os)) :
    ∃ xs sp, it = .array xs sp ∧ itemsToOut xs = some os := by
  cases it with
  | array xs sp =>
    simp only [toOut, Option.map_eq_some_iff, Out.array.injEq, exists_eq_right] at h
    exact ⟨xs, sp, rfl, h⟩
  | _ => simp [toOut] at h

/-- An item that holds a table is a table or an inline table, its entries holding the
table's entries. -/
theorem toOut_eq_table {it : Item} {L : List (String × Out)} (h : it.toOut = some (.table L)) :
    ∃ es, Decode.TomlDecode.entriesOf it = some es ∧ entriesToOut es = some L := by
  cases it with
  | inline es =>
    simp only [toOut, Option.map_eq_some_iff, Out.table.injEq, exists_eq_right] at h
    exact ⟨es, rfl, h⟩
  | table es =>
    simp only [toOut, Option.map_eq_some_iff, Out.table.injEq, exists_eq_right] at h
    exact ⟨es, rfl, h⟩
  | _ => simp [toOut] at h

end Item

theorem itemsToOut_cons {x : Item} {xs : List Item} {os : List Out}
    (h : itemsToOut (x :: xs) = some os) :
    ∃ o os', x.toOut = some o ∧ itemsToOut xs = some os' ∧ os = o :: os' := by
  simp only [itemsToOut, Option.bind_eq_some_iff, Option.map_eq_some_iff] at h
  obtain ⟨o, ho, os', hos', rfl⟩ := h
  exact ⟨o, os', ho, hos', rfl⟩

theorem entriesToOut_cons {k : Key} {x : Item} {es : List (Key × Item)}
    {L : List (String × Out)} (h : entriesToOut ((k, x) :: es) = some L) :
    ∃ o L', x.toOut = some o ∧ entriesToOut es = some L' ∧ L = (k.name, o) :: L' := by
  simp only [entriesToOut, Option.bind_eq_some_iff, Option.map_eq_some_iff] at h
  obtain ⟨o, ho, L', hL', rfl⟩ := h
  exact ⟨o, L', ho, hL', rfl⟩

end Workflow.Toml

namespace Workflow.Decode.TomlDecode

open Toml

variable {α β σ : Type}

theorem bind_apply (r : TomlDecode β) (f : β → TomlDecode α) (it : Item) :
    (r >>= f) it = (r it).bind fun b => f b it := rfl

theorem read_apply (it : Item) : (read : TomlDecode Item) it = .ok it := rfl

theorem here_of_ok {r : TomlDecode α} {it : Item} {a : α} (h : r it = .ok a) :
    here r it = .ok a := by
  simp [here, h]

theorem here_eq_ok {r : TomlDecode α} {it : Item} {a : α} (h : here r it = .ok a) :
    r it = .ok a := by
  unfold here at h
  split at h
  · cases h
  · assumption

theorem entry_eq_ok {k : Key} {v : Item} {r : TomlDecode α} {it : Item} {a : α}
    (h : entry k v r it = .ok a) : r v = .ok a := by
  unfold entry at h
  split at h
  · cases h
  · assumption

theorem bind_eq_ok {r : TomlDecode β} {f : β → TomlDecode α} {it : Item} {a : α}
    (h : (r >>= f) it = .ok a) : ∃ b, r it = .ok b ∧ f b it = .ok a := by
  rw [bind_apply] at h
  cases hr : r it with
  | error e =>
    rw [hr] at h
    cases h
  | ok b => exact ⟨b, rfl, by rwa [hr] at h⟩

theorem throwFault_ne_ok (f : Fault) (it : Item) (a : α) : throwFault f it ≠ .ok a := nofun

theorem wrongKind_ne_ok (expected : String) (it : Item) (a : α) :
    wrongKind expected it ≠ .ok a :=
  fun h => by
    obtain ⟨_, -, h⟩ := bind_eq_ok h
    exact throwFault_ne_ok _ _ _ h

/-! ## What the readers give -/

/-- Everything `r` reads satisfies `P`. -/
def Gives (P : α → Prop) (r : TomlDecode α) : Prop := ∀ it a, r it = .ok a → P a

theorem gives_true (r : TomlDecode α) : Gives (fun _ => True) r := fun _ _ _ => trivial

theorem Gives.bind_pure {P : β → Prop} {Q : α → Prop} {r : TomlDecode β} {f : β → α}
    (hr : Gives P r) (h : ∀ b, P b → Q (f b)) : Gives Q (r >>= fun b => pure (f b)) := by
  intro it a hra
  obtain ⟨b, hb, hf⟩ := bind_eq_ok hra
  cases hf
  exact h b (hr it b hb)

theorem gives_unsigned (max : Nat) (name : String) :
    Gives (· ≤ max) (Decoder.unsigned max name : TomlDecode Nat) := by
  intro it a h
  obtain ⟨b, hb, h⟩ := bind_eq_ok (here_eq_ok h)
  cases hb
  cases it with
  | int i sp =>
    dsimp only at h
    cases hfits : (decide (i < 0) || decide (i.toNat > max)) with
    | true =>
      rw [hfits, if_pos rfl] at h
      exact absurd h (throwFault_ne_ok _ _ _)
    | false =>
      rw [hfits, if_neg Bool.false_ne_true] at h
      cases h
      simp only [Bool.or_eq_false_iff, decide_eq_false_iff_not] at hfits
      omega
  | _ => exact absurd h (wrongKind_ne_ok _ _ _)

theorem Gives.option {P : α → Prop} {r : TomlDecode α} (h : Gives P r) :
    Gives (fun o => ∀ a ∈ o, P a) (Decoder.option r) := by
  intro it o ho
  have hmap : (some <$> r) it = .ok o := here_eq_ok ho
  cases hr : r it with
  | error e =>
    simp [Functor.map, Except.map, hr] at hmap
  | ok a =>
    simp only [Functor.map, Except.map, hr, Except.ok.injEq] at hmap
    subst hmap
    intro a' ha'
    cases ha'
    exact h it a hr

/-- Running a reader over a list gives only what the reader gives. -/
theorem mapM_gives {γ : Type} {f : γ → TomlDecode β} {Q : β → Prop} {it : Item}
    (hf : ∀ x b, f x it = .ok b → Q b) :
    ∀ {xs : List γ} {bs : List β}, xs.mapM f it = .ok bs → ∀ b ∈ bs, Q b
  | [], bs, h => by
    cases h
    exact fun _ hb => absurd hb List.not_mem_nil
  | x :: xs, bs, h => by
    rw [List.mapM_cons] at h
    obtain ⟨b, hb, h⟩ := bind_eq_ok h
    obtain ⟨bs', hbs', h⟩ := bind_eq_ok h
    cases h
    rintro b' (_ | ⟨_, hb'⟩)
    · exact hf x b hb
    · exact mapM_gives hf hbs' b' hb'

theorem Gives.map {P : α → Prop} {r : TomlDecode α} (h : Gives P r) :
    Gives (fun kvs => ∀ p ∈ kvs, P p.2) (Decoder.map r) := by
  intro it kvs hkvs
  obtain ⟨b, hb, hkvs⟩ := bind_eq_ok (here_eq_ok hkvs)
  cases hb
  cases hes : entriesOf it with
  | some es =>
    rw [hes] at hkvs
    refine mapM_gives (fun e p hp => ?_) hkvs
    obtain ⟨a, ha, hp⟩ := bind_eq_ok hp
    cases hp
    exact h _ a (entry_eq_ok ha)
  | none =>
    rw [hes] at hkvs
    exact absurd hkvs (wrongKind_ne_ok _ _ _)

section Records

variable {spec : RecordSpec TomlDecode σ α} {I : σ → Prop}

theorem entriesLoop_gives {P : α → Prop} (hread : ∀ st i, I st → Gives I (spec.read st i))
    (hbuild : ∀ st, I st → P (spec.build st)) (it : Item) :
    ∀ (es : List (Key × Item)) (st : σ) (seen : List Nat) (a : α), I st →
      recordFromEntries.loop spec es st seen it = .ok a → P a
  | [], st, seen, a, hst, h => by
    rw [recordFromEntries.loop] at h
    cases hm : firstMissing spec.fields spec.required seen with
    | some f =>
      rw [hm] at h
      exact absurd h (throwFault_ne_ok _ _ _)
    | none =>
      rw [hm] at h
      cases h
      exact hbuild st hst
  | (k, v) :: es, st, seen, a, hst, h => by
    rw [recordFromEntries.loop] at h
    cases hi : fieldIndex spec.fields k.name with
    | some i =>
      rw [hi] at h
      obtain ⟨st', hst', h⟩ := bind_eq_ok h
      exact entriesLoop_gives hread hbuild it es st' _ a (hread st i hst v st' (entry_eq_ok hst')) h
    | none =>
      rw [hi] at h
      exact entriesLoop_gives hread hbuild it es st seen a hst h

theorem itemsLoop_gives (hread : ∀ st i, I st → Gives I (spec.read st i)) (n : Nat)
    (it : Item) :
    ∀ (fs : List (String × Nat)) (vs : List Item) (st st' : σ), I st →
      recordFromItems.loop spec n fs vs st it = .ok st' → I st'
  | [], vs, st, st', hst, h => by
    cases h
    exact hst
  | (f, i) :: fs, [], st, st', hst, h => by
    rw [recordFromItems.loop] at h
    cases hreq : spec.required.contains f with
    | true =>
      rw [hreq, if_pos rfl] at h
      exact absurd h (throwFault_ne_ok _ _ _)
    | false =>
      rw [hreq, if_neg Bool.false_ne_true] at h
      exact itemsLoop_gives hread n it fs [] st st' hst h
  | (f, i) :: fs, v :: vs, st, st', hst, h => by
    rw [recordFromItems.loop] at h
    obtain ⟨st₁, hst₁, h⟩ := bind_eq_ok h
    exact itemsLoop_gives hread n it fs vs st₁ st' (hread st i hst v st₁ hst₁) h

/-- **What a record reader gives.**  When the slots start out satisfying `I` and reading any
field keeps it, every record read, from a table or from an array, is built from slots that
satisfy `I`. -/
theorem gives_record {P : α → Prop} (hinit : I spec.init)
    (hread : ∀ st i, I st → Gives I (spec.read st i))
    (hbuild : ∀ st, I st → P (spec.build st)) :
    Gives P (Decoder.record spec) := by
  intro it a h
  obtain ⟨b, hb, h⟩ := bind_eq_ok (here_eq_ok h)
  cases hb
  cases hes : entriesOf it with
  | some es =>
    rw [hes] at h
    exact entriesLoop_gives hread hbuild it es _ [] a hinit h
  | none =>
    cases hxs : itemsOf it with
    | some xs =>
      rw [hes, hxs] at h
      obtain ⟨st, hst, h⟩ := bind_eq_ok h
      cases h
      exact hbuild st (itemsLoop_gives hread _ it _ xs _ st hinit hst)
    | none =>
      rw [hes, hxs] at h
      exact absurd h (wrongKind_ne_ok _ _ _)

end Records

/-! ## Reading written values back -/

/-- `r` reads `a` from every item that holds `o`. -/
def Reads (r : TomlDecode α) (o : Out) (a : α) : Prop :=
  ∀ it : Item, it.toOut = some o → r it = .ok a

theorem Reads.bind_pure {r : TomlDecode β} {f : β → α} {o : Out} {b : β} {a : α}
    (h : Reads r o b) (heq : f b = a) : Reads (r >>= fun x => pure (f x)) o a := by
  intro it hit
  rw [bind_apply, h it hit, ← heq]
  rfl

theorem reads_text (expected s : String) :
    Reads (Decoder.text expected : TomlDecode String) (.str s) s := by
  intro it hit
  obtain ⟨sp, rfl⟩ := Item.toOut_eq_str hit
  rfl

theorem reads_unsigned {max n : Nat} (name : String) (h : n ≤ max) :
    Reads (Decoder.unsigned max name : TomlDecode Nat) (.int n) n := by
  intro it hit
  obtain ⟨sp, rfl⟩ := Item.toOut_eq_int hit
  have hfits : (decide ((n : Int) < 0) || decide ((n : Int).toNat > max)) = false := by
    simp only [Int.toNat_natCast, Bool.or_eq_false_iff, decide_eq_false_iff_not]
    omega
  apply here_of_ok
  simp only [bind_apply, read_apply, Except.bind]
  rw [hfits, if_neg Bool.false_ne_true, Int.toNat_natCast]
  rfl

theorem Reads.option {r : TomlDecode α} {o : Out} {a : α} (h : Reads r o a) :
    Reads (Decoder.option r) o (some a) := by
  intro it hit
  exact here_of_ok (by simp [Functor.map, Except.map, h it hit])

theorem reads_unitVariant (s : String) :
    Reads (Decoder.unitVariant : TomlDecode String) (.str s) s := by
  intro it hit
  obtain ⟨sp, rfl⟩ := Item.toOut_eq_str hit
  rfl

theorem itemsToOut_forall₂ : ∀ {xs : List Item} {os : List Out}, itemsToOut xs = some os →
    List.Forall₂ (fun x o => x.toOut = some o) xs os
  | [], os, h => by
    cases (Option.some.inj h).symm
    exact .nil
  | x :: xs, os, h => by
    obtain ⟨o, os', hx, hxs, rfl⟩ := itemsToOut_cons h
    exact .cons hx (itemsToOut_forall₂ hxs)

theorem entriesToOut_forall₂ : ∀ {es : List (Key × Item)} {L : List (String × Out)},
    entriesToOut es = some L →
      List.Forall₂ (fun e p => e.1.name = p.1 ∧ e.2.toOut = some p.2) es L
  | [], L, h => by
    cases (Option.some.inj h).symm
    exact .nil
  | (k, x) :: es, L, h => by
    obtain ⟨o, L', hx, hes, rfl⟩ := entriesToOut_cons h
    exact .cons ⟨rfl, hx⟩ (entriesToOut_forall₂ hes)

/-- Running a reader over items that hold what it reads gives what it reads, in order. -/
theorem onEach_reads {r : TomlDecode α} {enc : α → Out} {it : Item} :
    ∀ {ys : List Item} {xs : List α},
      List.Forall₂ (fun y x => y.toOut = some (enc x)) ys xs →
      (∀ x ∈ xs, Reads r (enc x) x) → onEach r ys it = .ok xs
  | _, _, .nil, _ => rfl
  | y :: _, x :: _, .cons hy hys, h => by
    rw [onEach, bind_apply, h x List.mem_cons_self y hy]
    simp only [Except.bind, bind_apply,
      onEach_reads hys fun x hx => h x (List.mem_cons_of_mem _ hx)]
    rfl

/-- Reading the entries of a table, each under its name, gives the bindings they hold. -/
theorem mapM_entries_reads {f : Key × Item → TomlDecode (String × α)} {r : TomlDecode α}
    {enc : α → Out} {it : Item} (hf : ∀ k v a, r v = .ok a → f (k, v) it = .ok (k.name, a)) :
    ∀ {es : List (Key × Item)} {kvs : List (String × α)},
      List.Forall₂ (fun e p => e.1.name = p.1 ∧ e.2.toOut = some (enc p.2)) es kvs →
      (∀ p ∈ kvs, Reads r (enc p.2) p.2) → es.mapM f it = .ok kvs
  | _, _, .nil, _ => rfl
  | (k, v) :: _, (n, a) :: _, .cons ⟨hname, hv⟩ hs, h => by
    rw [List.mapM_cons, bind_apply, hf k v a (h (n, a) List.mem_cons_self v hv)]
    simp only [Except.bind, bind_apply,
      mapM_entries_reads hf hs fun p hp => h p (List.mem_cons_of_mem _ hp)]
    rw [hname]
    rfl

theorem reads_seq {r : TomlDecode α} (enc : α → Out) {xs : List α}
    (h : ∀ x ∈ xs, Reads r (enc x) x) : Reads (Decoder.seq r) (.array (xs.map enc)) xs := by
  intro it hit
  obtain ⟨ys, sp, rfl, hys⟩ := Item.toOut_eq_array hit
  apply here_of_ok
  simp only [bind_apply, read_apply, Except.bind, itemsOf]
  have hall : List.Forall₂ (fun y x => y.toOut = some (enc x)) ys xs := by
    simpa using itemsToOut_forall₂ hys
  exact onEach_reads hall h

theorem reads_map {r : TomlDecode α} (enc : α → Out) {kvs : List (String × α)}
    (h : ∀ p ∈ kvs, Reads r (enc p.2) p.2) :
    Reads (Decoder.map r) (.table (kvs.map fun p => (p.1, enc p.2))) kvs := by
  intro it hit
  obtain ⟨es, hes, hL⟩ := Item.toOut_eq_table hit
  apply here_of_ok
  simp only [bind_apply, read_apply, Except.bind, hes]
  have hall : List.Forall₂ (fun e p => e.1.name = p.1 ∧ e.2.toOut = some (enc p.2)) es kvs := by
    simpa using entriesToOut_forall₂ hL
  refine mapM_entries_reads (fun k v a hv => ?_) hall h
  simp only [bind_apply, entry, hv, Except.bind]
  rfl

/-! ### Records -/

section Records

variable {spec : RecordSpec TomlDecode σ α} {mix : List Nat → σ}

/-- Every entry of `L` whose field has position `j` has been read: `j` is among `seen`. -/
def EntriesSeen (fields : List String) (seen : List Nat) (L : List (String × Out)) : Prop :=
  ∀ p ∈ L, ∀ j, fieldIndex fields p.1 = some j → j ∈ seen

/-- The loop over a table's entries: each entry is read into the slots at its field's
position, so once the entries run out every field written has been read. -/
theorem loop_reads (mix : List Nat → σ) (a : α) (it : Item) :
    ∀ (es : List (Key × Item)) (L : List (String × Out)) (seen : List Nat),
      entriesToOut es = some L →
      (∀ p ∈ L, ∃ i, fieldIndex spec.fields p.1 = some i ∧
        ∀ seen, Reads (spec.read (mix seen) i) p.2 (mix (i :: seen))) →
      (∀ seen', EntriesSeen spec.fields seen' L → (∀ j ∈ seen, j ∈ seen') →
        firstMissing spec.fields spec.required seen' = none ∧ spec.build (mix seen') = a) →
      recordFromEntries.loop spec es (mix seen) seen it = .ok a
  | [], L, seen, hL, _, hend => by
    cases (Option.some.inj hL).symm
    obtain ⟨hmiss, hbuild⟩ := hend seen (fun _ hp => absurd hp List.not_mem_nil) fun _ hj => hj
    rw [recordFromEntries.loop, hmiss, ← hbuild]
    rfl
  | (k, x) :: es, L, seen, hL, hread, hend => by
    obtain ⟨o, L', hx, hL', rfl⟩ := entriesToOut_cons hL
    obtain ⟨i, hi, hr⟩ := hread (k.name, o) List.mem_cons_self
    rw [recordFromEntries.loop, hi]
    simp only [bind_apply, entry, hr seen x hx, Except.bind]
    refine loop_reads mix a it es L' (i :: seen) hL'
      (fun p hp => hread p (List.mem_cons_of_mem _ hp))
      fun seen' hseen hsub => hend seen' ?_ fun j hj => hsub j (List.mem_cons_of_mem _ hj)
    rintro p (_ | ⟨_, hp⟩) j hj
    · rw [hi] at hj
      cases hj
      exact hsub i List.mem_cons_self
    · exact hseen p hp j hj

/-- **A record is read back from a table of its fields.**  Each field is read into the
slots; once they are all read, no required field is missing and the slots build the
record. -/
theorem reads_record (mix : List Nat → σ) (a : α) {L : List (String × Out)}
    (hinit : mix [] = spec.init)
    (hread : ∀ p ∈ L, ∃ i, fieldIndex spec.fields p.1 = some i ∧
      ∀ seen, Reads (spec.read (mix seen) i) p.2 (mix (i :: seen)))
    (hend : ∀ seen, EntriesSeen spec.fields seen L →
      firstMissing spec.fields spec.required seen = none ∧ spec.build (mix seen) = a) :
    Reads (Decoder.record spec) (.table L) a := by
  intro it hit
  obtain ⟨es, hes, hL⟩ := Item.toOut_eq_table hit
  apply here_of_ok
  simp only [bind_apply, read_apply, Except.bind, hes]
  show recordFromEntries.loop spec es spec.init [] it = .ok a
  rw [← hinit]
  exact loop_reads mix a it es L [] hL hread fun seen' hseen _ => hend seen' hseen

/-- Each entry of `es`, as the document lays it out, is read into the slots at its field's
position: from the slots after `seen` to those after `i :: seen`. -/
def EntriesReadBack (spec : RecordSpec TomlDecode σ α) (mix : List Nat → σ)
    (es : List (String × Out)) : Prop :=
  ∀ p ∈ es, ∃ i, fieldIndex spec.fields p.1 = some i ∧
    ∀ seen, Reads (spec.read (mix seen) i) p.2.laidOut (mix (i :: seen))

/-- **A record is read back from its table as `render` lays it out.**  Laying out only moves
entries, so every entry is still read once and every field written is seen. -/
theorem reads_laidOut (mix : List Nat → σ) (a : α) {es : List (String × Out)}
    (hinit : mix [] = spec.init) (hread : EntriesReadBack spec mix es)
    (hend : ∀ seen, EntriesSeen spec.fields seen es →
      firstMissing spec.fields spec.required seen = none ∧ spec.build (mix seen) = a) :
    Reads (Decoder.record spec) (Out.table es).laidOut a := by
  have hperm := Out.perm_laidOut_entries es
  rw [Out.laidOut_table]
  refine reads_record mix a hinit (fun p hp => ?_) fun seen hseen => hend seen fun p hp j hj => ?_
  · obtain ⟨q, hq, rfl⟩ := List.mem_map.mp (hperm.subset hp)
    exact hread q hq
  · exact hseen (p.1, p.2.laidOut) (hperm.symm.subset (List.mem_map_of_mem hp)) j hj

end Records

end Workflow.Decode.TomlDecode

namespace Workflow.Config

open Toml Decode Decode.TomlDecode

/-! ## Maps read in any order -/

section Sorted

variable {β : Type}

theorem sortedOf_eq_foldl (kvs : List (String × β)) :
    sortedOf kvs = kvs.foldl insertStep [] := rfl

theorem namesAscending_sortedOf (kvs : List (String × β)) : NamesAscending (sortedOf kvs) :=
  namesAscending_nil.foldl_insertSorted kvs

/-- A map already in name order is its own sorted form. -/
theorem sortedOf_of_namesAscending {kvs : List (String × β)} (h : NamesAscending kvs) :
    sortedOf kvs = kvs :=
  NamesAscending.ext (namesAscending_sortedOf kvs) h fun k => by
    rw [sortedOf_eq_foldl, lookup_foldl_insertSorted h]
    simp

/-- Sorting keeps only values that were given. -/
theorem sortedOf_values {P : β → Prop} {kvs : List (String × β)} (h : ∀ p ∈ kvs, P p.2) :
    ∀ p ∈ sortedOf kvs, P p.2 := by
  rw [sortedOf_eq_foldl]
  suffices ∀ acc : List (String × β), (∀ p ∈ acc, P p.2) →
      ∀ p ∈ kvs.foldl insertStep acc, P p.2 from
    this [] fun _ hp => absurd hp List.not_mem_nil
  induction kvs with
  | nil => exact fun acc hacc => hacc
  | cons q kvs ih =>
    intro acc hacc
    refine ih (fun p hp => h p (List.mem_cons_of_mem _ hp)) _ fun p hp => ?_
    rw [insertStep, insertSorted_eq_put] at hp
    rcases TextDecode.mapEntries.mem_put hp with rfl | hp
    · exact h q List.mem_cons_self
    · exact hacc p hp

end Sorted

/-! ## What the reader gives -/

/-- Queue settings as the reader gives them: the timeout and the capacity fit in 64 bits. -/
structure Sqs.Fits (q : Sqs) : Prop where
  timeout : q.timeoutSecs ≤ u64Max
  capacity : q.memoryCapacity ≤ u64Max

/-- A handler as the reader gives it: its environment is a map in name order, and its
timeout fits in 64 bits. -/
structure Handler.Fits (h : Handler) : Prop where
  env : NamesAscending h.env
  timeout : ∀ t ∈ h.timeoutSecs, t ≤ u64Max

/-- A configuration as the reader gives it: the port fits in 16 bits, the queue settings
fit, and the handlers are a map in name order whose handlers fit. -/
structure Settings.Fits (c : Settings) : Prop where
  port : ∀ s ∈ c.server, s.port ≤ Nat.pow 2 16 - 1
  queue : ∀ sv ∈ c.services, sv.sqs.Fits
  handlers : NamesAscending c.handlers
  handler : ∀ p ∈ c.handlers, p.2.Fits

theorem Settings.Fits.wellFormed {c : Settings} (h : c.Fits) : c.WellFormed := h.handlers

theorem gives_server :
    Gives (fun s : Server => s.port ≤ Nat.pow 2 16 - 1) (Decoder.record Server.spec) := by
  refine gives_record (I := fun s : Server => s.port ≤ Nat.pow 2 16 - 1) (by decide)
    (fun st i hst => ?_) fun _ h => h
  match i with
  | 0 => exact Gives.bind_pure (gives_unsigned _ _) fun _ h => h
  | _ + 1 => exact Gives.bind_pure (gives_true _) fun _ _ => hst

theorem gives_sqs : Gives Sqs.Fits (Decoder.record Sqs.spec) := by
  refine gives_record ⟨by decide, by decide⟩ (fun st i hst => ?_) fun _ h => h
  match i with
  | 0 => exact Gives.bind_pure (gives_true _) fun _ _ => { hst with }
  | 1 => exact Gives.bind_pure (gives_unsigned _ _) fun _ h => { hst with timeout := h }
  | _ + 2 => exact Gives.bind_pure (gives_unsigned _ _) fun _ h => { hst with capacity := h }

theorem gives_services :
    Gives (fun sv : Services => sv.sqs.Fits) (Decoder.record Services.spec) := by
  refine gives_record (I := fun sv : Services => sv.sqs.Fits) ⟨by decide, by decide⟩
    (fun _ _ _ => ?_) fun _ h => h
  exact Gives.bind_pure gives_sqs fun _ h => h

theorem gives_handler : Gives Handler.Fits (Decoder.record Handler.spec) := by
  refine gives_record ⟨namesAscending_nil, by simp [Handler.spec]⟩ (fun st i hst => ?_)
    fun _ h => h
  match i with
  | 0 => exact Gives.bind_pure (gives_true _) fun _ _ => { hst with }
  | 1 => exact Gives.bind_pure (gives_true _) fun _ _ => { hst with }
  | 2 => exact Gives.bind_pure (gives_true _) fun _ _ => { hst with }
  | 3 =>
    exact Gives.bind_pure (gives_true _) fun kvs _ =>
      { hst with env := namesAscending_sortedOf kvs }
  | _ + 4 => exact Gives.bind_pure (gives_unsigned _ _).option fun _ h => { hst with timeout := h }

theorem gives_settings : Gives Settings.Fits (Decoder.record Settings.spec) := by
  refine gives_record ⟨by simp [Settings.spec], by simp [Settings.spec], namesAscending_nil,
    by simp [Settings.spec]⟩ (fun st i hst => ?_) fun _ h => h
  match i with
  | 0 => exact Gives.bind_pure gives_server.option fun _ h => { hst with port := h }
  | 1 => exact Gives.bind_pure (gives_true _) fun _ _ => { hst with }
  | 2 => exact Gives.bind_pure gives_services.option fun _ h => { hst with queue := h }
  | 3 =>
    exact Gives.bind_pure gives_handler.map fun kvs h =>
      { hst with handlers := namesAscending_sortedOf kvs, handler := sortedOf_values h }
  | _ + 4 => exact Gives.bind_pure (gives_true _) fun _ _ => { hst with }

/-- A configuration is read from a text when the text is a document and the document reads
as the configuration. -/
theorem Settings.ofToml_eq_ok {text : String} {c : Settings} (h : Settings.ofToml text = .ok c) :
    ∃ root, Toml.parse text = .ok root ∧
      decodeToml (Decoder.record Settings.spec) root = .ok c := by
  unfold Settings.ofToml at h
  split at h
  · cases h
  · rename_i root hroot
    split at h
    · rename_i c' hc'
      cases h
      exact ⟨root, hroot, hc'⟩
    · cases h

/-- **What a configuration read from a text satisfies.**  Every configuration
`Settings.ofToml` gives fits: its port, timeouts and capacity are in range, and its handlers
and their environments are maps in name order. -/
theorem Settings.fits_of_ofToml {text : String} {c : Settings} (h : Settings.ofToml text = .ok c) :
    c.Fits := by
  obtain ⟨root, -, hd⟩ := Settings.ofToml_eq_ok h
  exact gives_settings root c hd

/-! ## Reading a written configuration back -/

section Fields

variable {β : Type} {i : Nat} {seen : List Nat}

theorem mem_present {fs : List (String × Option β)} {p : String × β} :
    p ∈ present fs ↔ (p.1, some p.2) ∈ fs := by
  constructor
  · intro hp
    obtain ⟨⟨k, o⟩, hmem, heq⟩ := List.mem_filterMap.mp hp
    cases o with
    | none => cases heq
    | some x =>
      cases heq
      exact hmem
  · intro hp
    exact List.mem_filterMap.mpr ⟨(p.1, some p.2), hp, rfl⟩

theorem map_nonEmpty_eq_some {γ : Type} {xs : List β} {f : List β → γ} {o : γ}
    (h : (nonEmpty xs).map f = some o) : xs ≠ [] ∧ o = f xs := by
  unfold nonEmpty at h
  split at h
  · cases h
  · rename_i hne
    cases h
    exact ⟨fun h => hne (by simp [h]), rfl⟩

theorem map_nonEmpty_of_ne_nil {γ : Type} {xs : List β} (f : List β → γ) (h : xs ≠ []) :
    (nonEmpty xs).map f = some (f xs) := by
  simp [nonEmpty, h]

/-- An optional slot holds the value written once its field is read, and nothing was written
when it is not. -/
theorem ite_mem_option {o : Option β} (h : ∀ x, o = some x → i ∈ seen) :
    (if i ∈ seen then o else none) = o := by
  cases o with
  | none => exact ite_self _
  | some x => exact if_pos (h x rfl)

/-- A list slot holds the list written once its field is read, and the list is empty when
nothing was written. -/
theorem ite_mem_list {xs : List β} (h : xs ≠ [] → i ∈ seen) :
    (if i ∈ seen then xs else []) = xs := by
  cases xs with
  | nil => exact ite_self _
  | cons x xs => exact if_pos (h (List.cons_ne_nil x xs))

end Fields

theorem reads_transport (t : Transport) :
    Reads (Transport.decode : TomlDecode Transport) (.str t.name) t := by
  intro it hit
  show ((Decoder.unitVariant : TomlDecode String) >>= _) it = _
  rw [bind_apply, TomlDecode.reads_unitVariant _ it hit]
  cases t <;> rfl

/-- The server slots once the fields at positions `seen` are read. -/
def Server.mix (s : Server) (seen : List Nat) : Server where
  port := if 0 ∈ seen then s.port else defaultPort
  bind := if 1 ∈ seen then s.bind else defaultBind

theorem Server.reads_toOut {s : Server} (hs : s.port ≤ Nat.pow 2 16 - 1) :
    Reads (Decoder.record Server.spec) (Out.table s.toOut).laidOut s := by
  refine reads_laidOut (Server.mix s) s (by simp [Server.mix, Server.spec]) ?_ fun seen hseen => ?_
  · intro p hp
    simp only [Server.toOut, List.mem_cons, List.not_mem_nil, or_false] at hp
    rcases hp with rfl | rfl
    · exact ⟨0, rfl, fun seen =>
        (TomlDecode.reads_unsigned _ hs).bind_pure (by simp [Server.mix])⟩
    · exact ⟨1, rfl, fun seen => (TomlDecode.reads_text _ _).bind_pure (by simp [Server.mix])⟩
  · have h0 : 0 ∈ seen := hseen ("port", .int s.port) (by simp [Server.toOut]) 0 rfl
    have h1 : 1 ∈ seen := hseen ("bind", .str s.bind) (by simp [Server.toOut]) 1 rfl
    exact ⟨by simp [firstMissing, Server.spec], by simp [Server.spec, Server.mix, h0, h1]⟩

/-- The definitions slots once the fields at positions `seen` are read. -/
def Definitions.mix (d : Definitions) (seen : List Nat) : Definitions where
  path := if 0 ∈ seen then d.path else none

theorem Definitions.reads_toOut (d : Definitions) :
    Reads (Decoder.record Definitions.spec) (Out.table d.toOut).laidOut d := by
  refine reads_laidOut (Definitions.mix d) d (by simp [Definitions.mix, Definitions.spec]) ?_
    fun seen hseen => ?_
  · rintro ⟨k, o⟩ hp
    simp only [Definitions.toOut, mem_present, List.mem_singleton, Prod.mk.injEq] at hp
    obtain ⟨rfl, ho⟩ := hp
    obtain ⟨x, hx, rfl⟩ := Option.map_eq_some_iff.mp ho.symm
    exact ⟨0, rfl, fun seen =>
      (TomlDecode.reads_text _ x).option.bind_pure (by simp [Definitions.mix, hx])⟩
  · refine ⟨by simp [firstMissing, Definitions.spec], ?_⟩
    show Definitions.mix d seen = d
    rw [Definitions.mix, ite_mem_option fun x hx => hseen ("path", .str x)
      (mem_present.mpr (by simp [hx])) 0 rfl]

/-- The queue slots once the fields at positions `seen` are read. -/
def Sqs.mix (q : Sqs) (seen : List Nat) : Sqs where
  transport := if 0 ∈ seen then q.transport else .memory
  timeoutSecs := if 1 ∈ seen then q.timeoutSecs else defaultQueueTimeout
  memoryCapacity := if 2 ∈ seen then q.memoryCapacity else defaultQueueCapacity

theorem Sqs.reads_toOut {q : Sqs} (hq : q.Fits) :
    Reads (Decoder.record Sqs.spec) (Out.table q.toOut).laidOut q := by
  refine reads_laidOut (Sqs.mix q) q (by simp [Sqs.mix, Sqs.spec]) ?_ fun seen hseen => ?_
  · intro p hp
    simp only [Sqs.toOut, List.mem_cons, List.not_mem_nil, or_false] at hp
    rcases hp with rfl | rfl | rfl
    · exact ⟨0, rfl, fun seen => (reads_transport _).bind_pure (by simp [Sqs.mix])⟩
    · exact ⟨1, rfl, fun seen =>
        (TomlDecode.reads_unsigned _ hq.timeout).bind_pure (by simp [Sqs.mix])⟩
    · exact ⟨2, rfl, fun seen =>
        (TomlDecode.reads_unsigned _ hq.capacity).bind_pure (by simp [Sqs.mix])⟩
  · have h0 : 0 ∈ seen := hseen ("transport", .str q.transport.name) (by simp [Sqs.toOut]) 0 rfl
    have h1 : 1 ∈ seen := hseen ("timeout_secs", .int q.timeoutSecs) (by simp [Sqs.toOut]) 1 rfl
    have h2 : 2 ∈ seen :=
      hseen ("memory_capacity", .int q.memoryCapacity) (by simp [Sqs.toOut]) 2 rfl
    exact ⟨by simp [firstMissing, Sqs.spec], by simp [Sqs.spec, Sqs.mix, h0, h1, h2]⟩

/-- The services slots once the fields at positions `seen` are read. -/
def Services.mix (sv : Services) (seen : List Nat) : Services where
  sqs := if 0 ∈ seen then sv.sqs else {}

theorem Services.reads_toOut {sv : Services} (hsv : sv.sqs.Fits) :
    Reads (Decoder.record Services.spec) (Out.table [("sqs", .table sv.sqs.toOut)]).laidOut sv := by
  refine reads_laidOut (Services.mix sv) sv (by simp [Services.mix, Services.spec]) ?_
    fun seen hseen => ?_
  · intro p hp
    rw [List.mem_singleton] at hp
    subst hp
    exact ⟨0, rfl, fun seen => (Sqs.reads_toOut hsv).bind_pure (by simp [Services.mix])⟩
  · have h0 : 0 ∈ seen := hseen ("sqs", .table sv.sqs.toOut) List.mem_cons_self 0 rfl
    exact ⟨by simp [firstMissing, Services.spec], by simp [Services.spec, Services.mix, h0]⟩

/-- The handler slots once the fields at positions `seen` are read. -/
def Handler.mix (h : Handler) (seen : List Nat) : Handler where
  command := if 0 ∈ seen then h.command else ""
  args := if 1 ∈ seen then h.args else []
  cwd := if 2 ∈ seen then h.cwd else none
  env := if 3 ∈ seen then h.env else []
  timeoutSecs := if 4 ∈ seen then h.timeoutSecs else none

theorem Handler.reads_toOut {h : Handler} (hh : h.Fits) :
    Reads (Decoder.record Handler.spec) (Out.table h.toOut).laidOut h := by
  refine reads_laidOut (Handler.mix h) h (by simp [Handler.mix, Handler.spec]) ?_
    fun seen hseen => ?_
  · rintro ⟨k, o⟩ hp
    rcases List.mem_cons.mp hp with hp | hp
    · cases hp
      exact ⟨0, rfl, fun seen => (TomlDecode.reads_text _ _).bind_pure (by simp [Handler.mix])⟩
    simp only [mem_present, List.mem_cons, Prod.mk.injEq, List.not_mem_nil, or_false] at hp
    rcases hp with ⟨rfl, ho⟩ | ⟨rfl, ho⟩ | ⟨rfl, ho⟩ | ⟨rfl, ho⟩
    · obtain ⟨-, rfl⟩ := map_nonEmpty_eq_some ho.symm
      exact ⟨1, rfl, fun seen =>
        (TomlDecode.reads_seq Out.str fun x _ => TomlDecode.reads_text _ x).bind_pure
          (by simp [Handler.mix])⟩
    · obtain ⟨x, hx, rfl⟩ := Option.map_eq_some_iff.mp ho.symm
      exact ⟨2, rfl, fun seen =>
        (TomlDecode.reads_text _ x).option.bind_pure (by simp [Handler.mix, hx])⟩
    · obtain ⟨-, rfl⟩ := map_nonEmpty_eq_some ho.symm
      refine ⟨3, rfl, fun seen => ?_⟩
      rw [Out.laidOut_values fun p hp => by
        obtain ⟨q, -, rfl⟩ := List.mem_map.mp hp
        rfl]
      exact (TomlDecode.reads_map Out.str fun p _ => TomlDecode.reads_text _ p.2).bind_pure
        (by simp [Handler.mix, sortedOf_of_namesAscending hh.env])
    · obtain ⟨t, ht, rfl⟩ := Option.map_eq_some_iff.mp ho.symm
      obtain ⟨n, hn, rfl⟩ : ∃ n, h.timeoutSecs = some n ∧ (n : Int) = t := by
        cases hts : h.timeoutSecs with
        | none => simp [hts] at ht
        | some n =>
          simp only [hts, Option.bind_eq_bind, Option.bind_some, Option.pure_def,
            Option.some.injEq] at ht
          exact ⟨n, rfl, ht⟩
      exact ⟨4, rfl, fun seen => (TomlDecode.reads_unsigned _ (hh.timeout n hn)).option.bind_pure
        (by simp [Handler.mix, hn])⟩
  · have h0 : 0 ∈ seen := hseen ("command", .str h.command) List.mem_cons_self 0 rfl
    have h1 : h.args ≠ [] → 1 ∈ seen := fun hne =>
      hseen ("args", .array (h.args.map .str))
        (List.mem_cons_of_mem _ (mem_present.mpr (by simp [map_nonEmpty_of_ne_nil _ hne]))) 1 rfl
    have h2 : ∀ x, h.cwd = some x → 2 ∈ seen := fun x hx =>
      hseen ("cwd", .str x) (List.mem_cons_of_mem _ (mem_present.mpr (by simp [hx]))) 2 rfl
    have h3 : h.env ≠ [] → 3 ∈ seen := fun hne =>
      hseen ("env", .table (h.env.map fun p => (p.1, .str p.2)))
        (List.mem_cons_of_mem _ (mem_present.mpr (by simp [map_nonEmpty_of_ne_nil _ hne]))) 3 rfl
    have h4 : ∀ t, h.timeoutSecs = some t → 4 ∈ seen := fun t ht =>
      hseen ("timeout_secs", .int t) (List.mem_cons_of_mem _ (mem_present.mpr (by simp [ht]))) 4 rfl
    refine ⟨by simp [firstMissing, Handler.spec, h0], ?_⟩
    show Handler.mix h seen = h
    rw [Handler.mix, if_pos h0, ite_mem_list h1, ite_mem_option h2, ite_mem_list h3,
      ite_mem_option h4]

/-- The logging slots once the fields at positions `seen` are read. -/
def Logging.mix (l : Logging) (seen : List Nat) : Logging where
  level := if 0 ∈ seen then l.level else "info"
  jsonDir := if 1 ∈ seen then l.jsonDir else none

theorem Logging.reads_toOut (l : Logging) :
    Reads (Decoder.record Logging.spec) (Out.table l.toOut).laidOut l := by
  refine reads_laidOut (Logging.mix l) l (by simp [Logging.mix, Logging.spec]) ?_
    fun seen hseen => ?_
  · rintro ⟨k, o⟩ hp
    rcases List.mem_cons.mp hp with hp | hp
    · cases hp
      exact ⟨0, rfl, fun seen => (TomlDecode.reads_text _ _).bind_pure (by simp [Logging.mix])⟩
    simp only [mem_present, List.mem_singleton, Prod.mk.injEq] at hp
    obtain ⟨rfl, ho⟩ := hp
    obtain ⟨x, hx, rfl⟩ := Option.map_eq_some_iff.mp ho.symm
    exact ⟨1, rfl, fun seen =>
      (TomlDecode.reads_text _ x).option.bind_pure (by simp [Logging.mix, hx])⟩
  · have h0 : 0 ∈ seen := hseen ("level", .str l.level) List.mem_cons_self 0 rfl
    have h1 : ∀ x, l.jsonDir = some x → 1 ∈ seen := fun x hx =>
      hseen ("json_dir", .str x) (List.mem_cons_of_mem _ (mem_present.mpr (by simp [hx]))) 1 rfl
    refine ⟨by simp [firstMissing, Logging.spec], ?_⟩
    show Logging.mix l seen = l
    rw [Logging.mix, if_pos h0, ite_mem_option h1]

/-- A configuration's slots once the sections at positions `seen` are read. -/
def Settings.mix (c : Settings) (seen : List Nat) : Settings where
  server := if 0 ∈ seen then c.server else none
  definitions := if 1 ∈ seen then c.definitions else none
  services := if 2 ∈ seen then c.services else none
  handlers := if 3 ∈ seen then c.handlers else []
  logging := if 4 ∈ seen then c.logging else none

/-- **A configuration that fits is read back from its TOML form**, laid out as `render`
writes it: each section given is read back, each section left out stays out. -/
theorem Settings.reads_toOut {c : Settings} (hc : c.Fits) :
    Reads (Decoder.record Settings.spec) (Out.table c.toOut).laidOut c := by
  refine reads_laidOut (Settings.mix c) c (by simp [Settings.mix, Settings.spec]) ?_
    fun seen hseen => ?_
  · rintro ⟨k, o⟩ hp
    simp only [Settings.toOut, mem_present, List.mem_cons, Prod.mk.injEq, List.not_mem_nil,
      or_false] at hp
    rcases hp with ⟨rfl, ho⟩ | ⟨rfl, ho⟩ | ⟨rfl, ho⟩ | ⟨rfl, ho⟩ | ⟨rfl, ho⟩
    · obtain ⟨sv, hsv, rfl⟩ := Option.map_eq_some_iff.mp ho.symm
      exact ⟨0, rfl, fun seen => (Server.reads_toOut (hc.port sv hsv)).option.bind_pure
        (by simp [Settings.mix, hsv])⟩
    · obtain ⟨d, hd, rfl⟩ := Option.map_eq_some_iff.mp ho.symm
      exact ⟨1, rfl, fun seen => (Definitions.reads_toOut d).option.bind_pure
        (by simp [Settings.mix, hd])⟩
    · obtain ⟨sv, hsv, rfl⟩ := Option.map_eq_some_iff.mp ho.symm
      exact ⟨2, rfl, fun seen => (Services.reads_toOut (hc.queue sv hsv)).option.bind_pure
        (by simp [Settings.mix, hsv])⟩
    · obtain ⟨-, rfl⟩ := map_nonEmpty_eq_some ho.symm
      refine ⟨3, rfl, fun seen => ?_⟩
      rw [Out.laidOut_tables c.handlers Handler.toOut]
      refine (TomlDecode.reads_map (fun h => (Out.table h.toOut).laidOut)
        fun p hp => Handler.reads_toOut (hc.handler p hp)).bind_pure ?_
      simp [Settings.mix, sortedOf_of_namesAscending hc.handlers]
    · obtain ⟨l, hl, rfl⟩ := Option.map_eq_some_iff.mp ho.symm
      exact ⟨4, rfl, fun seen => (Logging.reads_toOut l).option.bind_pure
        (by simp [Settings.mix, hl])⟩
  · have h0 : ∀ sv, c.server = some sv → 0 ∈ seen := fun sv hsv =>
      hseen ("server", .table sv.toOut) (mem_present.mpr (by simp [hsv])) 0 rfl
    have h1 : ∀ d, c.definitions = some d → 1 ∈ seen := fun d hd =>
      hseen ("definitions", .table d.toOut) (mem_present.mpr (by simp [hd])) 1 rfl
    have h2 : ∀ sv, c.services = some sv → 2 ∈ seen := fun sv hsv =>
      hseen ("services", .table [("sqs", .table sv.sqs.toOut)])
        (mem_present.mpr (by simp [hsv])) 2 rfl
    have h3 : c.handlers ≠ [] → 3 ∈ seen := fun hne =>
      hseen ("handlers", .table (c.handlers.map fun p => (p.1, .table p.2.toOut)))
        (mem_present.mpr (by simp [map_nonEmpty_of_ne_nil _ hne])) 3 rfl
    have h4 : ∀ l, c.logging = some l → 4 ∈ seen := fun l hl =>
      hseen ("logging", .table l.toOut) (mem_present.mpr (by simp [hl])) 4 rfl
    refine ⟨by simp [firstMissing, Settings.spec], ?_⟩
    show Settings.mix c seen = c
    rw [Settings.mix, ite_mem_option h0, ite_mem_option h1, ite_mem_option h2, ite_mem_list h3,
      ite_mem_option h4]

/-- A configuration that fits is read back from its TOML text, provided the document read
from the text holds what was written, laid out as written. -/
theorem Settings.ofToml_toToml_of_fits {c : Settings} (hc : c.Fits)
    (htext : ∃ d, Toml.parse c.toToml = .ok d ∧ d.toOut = some (Out.table c.toOut).laidOut) :
    Settings.ofToml c.toToml = .ok c := by
  obtain ⟨d, hd, hout⟩ := htext
  unfold Settings.ofToml
  rw [hd]
  simp only [decodeToml, Settings.reads_toOut hc d hout]

/-- **A configuration read from a text is read back from the text it is written as.**  Every
section given, even an empty one, is given again; every section left out stays out; the
defaults a section was filled with are written and read back as they were; every handler
keeps its command, arguments, working directory, environment and timeout.  What is assumed is
the format's own round trip: the document read from the written text holds what was written,
in the order `render` writes it. -/
theorem ofToml_toToml {text : String} {c : Settings} (hread : Settings.ofToml text = .ok c)
    (htext : ∃ d, Toml.parse c.toToml = .ok d ∧ d.toOut = some (Out.table c.toOut).laidOut) :
    Settings.ofToml c.toToml = .ok c :=
  Settings.ofToml_toToml_of_fits (Settings.fits_of_ofToml hread) htext

/-- A bare `[definitions]` header is an empty section that is written and read back as one. -/
theorem bare_definitions_reads_back :
    Settings.ofToml "[definitions]\n" = .ok { definitions := some {} } ∧
    (∃ d, Toml.parse (Settings.toToml { definitions := some {} }) = .ok d ∧
      d.toOut = some (Out.table (Settings.toOut { definitions := some {} })).laidOut) ∧
    Settings.ofToml (Settings.toToml { definitions := some {} }) =
      .ok { definitions := some {} } := by
  have hread : Settings.ofToml "[definitions]\n" = .ok { definitions := some {} } := by
    have h : (Settings.ofToml "[definitions]\n").toOption = some { definitions := some {} } := by
      decide +kernel
    generalize Settings.ofToml "[definitions]\n" = e at h ⊢
    cases e <;> simp_all [Except.toOption]
  -- the tables are listed by well-founded recursion, which the kernel does not unfold
  have htables : tablesOf [] (Settings.toOut { definitions := some {} }) =
      [([], [("definitions", .table [])]), (["definitions"], [])] := by
    simp [tablesOf, nestedTables, Settings.toOut, present, Definitions.toOut, nonEmpty]
  have htext : ∃ d, Toml.parse (Settings.toToml { definitions := some {} }) = .ok d ∧
      d.toOut = some (Out.table (Settings.toOut { definitions := some {} })).laidOut := by
    have hwritten : Settings.toToml { definitions := some {} } = "[definitions]\n" := by
      unfold Settings.toToml render
      rw [htables]
      decide +kernel
    have h : (Toml.parse "[definitions]\n").toOption.bind Item.toOut =
        some (Out.table (Settings.toOut { definitions := some {} })).laidOut := by
      decide +kernel
    rw [hwritten]
    generalize Toml.parse "[definitions]\n" = e at h ⊢
    cases e with
    | error => simp [Except.toOption] at h
    | ok d => exact ⟨d, rfl, by simpa [Except.toOption] using h⟩
  exact ⟨hread, htext, ofToml_toToml hread htext⟩

end Workflow.Config