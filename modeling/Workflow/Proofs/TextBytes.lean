import Workflow.Exec.Basic
import Workflow.Text.Blank
/-! # Texts as bytes

A handler process is handed its request as the UTF-8 bytes of a text (`bytesOf`) and reads
them strictly (`Host.decodeUtf8`); what it writes back is read leniently (`lossyUtf8`) and
trimmed.  On the bytes of a text each of these readings gives the text back:

* `decodeUtf8_bytesOf`: the strict reading accepts them;
* `lossyUtf8_bytesOf`: the lenient reading replaces nothing.  The encoding of a character is
  one of the well-formed sequences the lenient reader looks for, so its first step takes it
  back to the character (`lossyChars_utf8EncodeChar`); the proof goes by the nine kinds of
  first byte UTF-8 allows, from the one-byte characters to the four-byte ones after U+100000;
* `trim_of_ends`: trimming keeps a text that neither starts nor ends with a blank.
-/

namespace Workflow

namespace Exec

/-! ## Encoding -/

/-- The loop of `ByteArray.toList` conses the bytes from position `i` on, then turns what it
collected around. -/
theorem toList_loop (b : ByteArray) (i : Nat) (r : List UInt8) :
    ByteArray.toList.loop b i r = r.reverse ++ b.data.toList.drop i := by
  fun_induction ByteArray.toList.loop b i r with
  | case1 i r h ih =>
    have hi : i < b.data.toList.length := by simpa using h
    rw [ih, List.drop_eq_getElem_cons hi]
    simp [ByteArray.get!, h]
  | case2 i r h =>
    have hi : b.data.toList.length ≤ i := by simpa using h
    simp [List.drop_eq_nil_of_le hi]

theorem bytesOf_eq (s : String) : bytesOf s = s.toList.flatMap String.utf8EncodeChar := by
  rw [bytesOf, ByteArray.toList, toList_loop, String.toUTF8_eq_toByteArray,
    ← String.utf8Encode_toList]
  simp [List.utf8Encode]

/-- **The strict reading accepts the bytes of a text**, and gives the text. -/
theorem decodeUtf8_bytesOf (s : String) : Host.decodeUtf8 (bytesOf s) = some s := by
  have h : ByteArray.mk (bytesOf s).toArray = s.toByteArray := by
    rw [bytesOf, ByteArray.toList, toList_loop]
    simp
  rw [Host.decodeUtf8, h]
  simp [String.fromUTF8?, s.isValidUTF8, String.fromUTF8]

/-! ## The lenient reading -/

section Lossy

variable {fuel : Nat} {rest : List UInt8}

theorem toNat_byte {n : Nat} (h : n < 256) : (UInt8.ofNat n).toNat = n :=
  UInt8.toNat_ofNat_of_lt' h

@[simp] theorem inRange_iff {lo hi b : UInt8} :
    inRange lo hi b = true ↔ lo.toNat ≤ b.toNat ∧ b.toNat ≤ hi.toNat := by
  simp [inRange, UInt8.le_iff_toNat_le]

theorem ofNat_eq_of_toNat {c : Char} {n : Nat} (h : n = c.toNat) : Char.ofNat n = c := by
  rw [h, Char.ofNat_toNat]

/-- **The lenient reader takes the encoding of a character back to it**, whatever follows,
using up one step of its fuel. -/
theorem lossyChars_utf8EncodeChar (c : Char) :
    lossyChars (fuel + 1) (String.utf8EncodeChar c ++ rest) = c :: lossyChars fuel rest := by
  have hvalid : c.toNat < 0xD800 ∨ (0xDFFF < c.toNat ∧ c.toNat < 0x110000) := c.valid
  have hv : c.val.toNat = c.toNat := rfl
  simp only [String.utf8EncodeChar, hv]
  -- the kinds of first byte: one byte; two; `E0`, `E1`–`EC`, `ED` (below the surrogates)
  -- and `EE`–`EF` for three; `F0`, `F1`–`F3` and `F4` for four
  have hrow : c.toNat ≤ 0x7F ∨ (0x80 ≤ c.toNat ∧ c.toNat ≤ 0x7FF) ∨
      (0x800 ≤ c.toNat ∧ c.toNat ≤ 0xFFF) ∨ (0x1000 ≤ c.toNat ∧ c.toNat ≤ 0xCFFF) ∨
      (0xD000 ≤ c.toNat ∧ c.toNat ≤ 0xD7FF) ∨ (0xE000 ≤ c.toNat ∧ c.toNat ≤ 0xFFFF) ∨
      (0x10000 ≤ c.toNat ∧ c.toNat ≤ 0x3FFFF) ∨ (0x40000 ≤ c.toNat ∧ c.toNat ≤ 0xFFFFF) ∨
      (0x100000 ≤ c.toNat ∧ c.toNat ≤ 0x10FFFF) := by
    omega
  -- in each, the first byte picks the continuation ranges, the bytes after it fit them,
  -- and the code point they spell is the character's
  rcases hrow with h | h | h | h | h | h | h | h | h
  all_goals
    simp (disch := omega) only [if_pos, if_neg, List.cons_append, List.nil_append, lossyChars,
      UInt8.lt_iff_toNat_lt, toNat_byte, UInt8.reduceToNat, continuationRanges, inRange_iff,
      beq_iff_eq, ← UInt8.toNat_inj, Bool.or_eq_true, fitting, codePoint, List.take_succ_cons,
      List.drop_succ_cons, List.take_zero, List.drop_zero, List.foldl_cons, List.foldl_nil,
      List.length_cons, List.length_nil, ite_true]
    rw [ofNat_eq_of_toNat (c := c) (by omega)]

theorem lossyChars_flatMap :
    ∀ (cs : List Char) (fuel : Nat), (cs.flatMap String.utf8EncodeChar).length < fuel →
      lossyChars fuel (cs.flatMap String.utf8EncodeChar) = cs
  | [], fuel, _ => by cases fuel <;> rfl
  | c :: cs, fuel, hfuel => by
    have hne : 0 < (String.utf8EncodeChar c).length :=
      List.length_pos_iff.mpr String.utf8EncodeChar_ne_nil
    rw [List.flatMap_cons, List.length_append] at hfuel
    obtain ⟨f, rfl⟩ : ∃ f, fuel = f + 1 := ⟨fuel - 1, by omega⟩
    rw [List.flatMap_cons, lossyChars_utf8EncodeChar, lossyChars_flatMap cs f (by omega)]

/-- **The lenient reading of the bytes of a text is the text.** -/
theorem lossyUtf8_bytesOf (s : String) : lossyUtf8 (bytesOf s) = s := by
  rw [lossyUtf8, bytesOf_eq, lossyChars_flatMap s.toList _ (by omega), String.ofList_toList]

end Lossy

end Exec

/-! ## Trimming -/

namespace Text

theorem dropBlank_of_head {cs : List Char} (h : ∀ c ∈ cs.head?, isBlank c = false) :
    dropBlank cs = cs := by
  cases cs with
  | nil => rfl
  | cons c cs => simp [dropBlank, h c rfl]

/-- **Trimming keeps a text whose first and last characters are not blank.** -/
theorem trim_of_ends {s : String} (hhead : ∀ c ∈ s.toList.head?, isBlank c = false)
    (hlast : ∀ c ∈ s.toList.getLast?, isBlank c = false) : trim s = s := by
  have hrev : ∀ c ∈ s.toList.reverse.head?, isBlank c = false := by
    simpa [List.head?_reverse] using hlast
  rw [trim, trimList, dropBlank_of_head hhead, dropBlank_of_head hrev, List.reverse_reverse,
    String.ofList_toList]

end Text

end Workflow
