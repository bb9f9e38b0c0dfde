import Workflow.Path.Basic
import Workflow.Proofs.JsonValue
import Workflow.Proofs.TextBytes
import Workflow.Proofs.Endings
/-! # Writing a path and reading it back

A path's segments can be written as text (`Path.render`): `$`, then for each segment a
position in brackets (`[3]`), a name in quoted brackets (`['a b']`) when it holds no `]`, and
a name after a dot (`.a]b`) when it does.  Reading (`Path.parse`) inverts this writing on
exactly the lists of segments that reading can produce (`Path.Admissible`): every name either
holds no `]`, or is one that a dot can carry (not empty, not `*`, without `.` or `[`, and at
the end of the path without a trailing blank, since the text is trimmed); every position fits
in 64 bits.

The proof rests on what reading one segment does, in both directions: a successful step reads
a dotted name up to the next `.` or `[`, or a bracket up to the first `]`
(`parseSegments_eq_ok`), and conversely text of either shape is read as that segment, whatever
follows it (`parseSegments_dotted`, `parseSegments_bracket`).
-/

namespace Workflow

/-! ### Trimming -/

namespace Text

theorem head_dropBlank {cs : List Char} : ∀ c ∈ (dropBlank cs).head?, isBlank c = false := by
  induction cs with
  | nil => simp [dropBlank]
  | cons d ds ih =>
    intro c hc
    by_cases hd : isBlank d = true
    · rw [dropBlank, List.dropWhile_cons_of_pos hd] at hc
      exact ih c hc
    · rw [dropBlank, List.dropWhile_cons_of_neg hd] at hc
      cases hc
      simpa using hd

theorem trimList_of_ends {cs : List Char} (hhead : ∀ c ∈ cs.head?, isBlank c = false)
    (hlast : ∀ c ∈ cs.getLast?, isBlank c = false) : trimList cs = cs := by
  have hrev : ∀ c ∈ cs.reverse.head?, isBlank c = false := by
    simpa [List.head?_reverse] using hlast
  rw [trimList, dropBlank_of_head hhead, dropBlank_of_head hrev, List.reverse_reverse]

theorem getLast?_trimList {cs : List Char} : ∀ c ∈ (trimList cs).getLast?, isBlank c = false := by
  rw [trimList, List.getLast?_reverse]
  exact head_dropBlank

theorem isBlank_of_isDigit {c : Char} (h : c.isDigit = true) : isBlank c = false := by
  simp only [Char.isDigit, Bool.and_eq_true, decide_eq_true_eq] at h
  have h1 : 48 ≤ c.toNat := h.1
  have h2 : c.toNat ≤ 57 := h.2
  simp only [isBlank, Bool.or_eq_false_iff, Bool.and_eq_false_iff, decide_eq_false_iff_not,
    beq_eq_false_iff_ne]
  omega

theorem mem_of_mem_trimList {cs : List Char} {c : Char} (h : c ∈ trimList cs) : c ∈ cs := by
  rw [trimList, List.mem_reverse] at h
  exact (List.dropWhile_suffix _).subset (List.mem_reverse.mp ((List.dropWhile_suffix _).subset h))

end Text

/-! ### The inside of brackets -/

namespace Path

theorem parseIndex_toDigits {n : Nat} (h : n ≤ maxIndex) :
    parseIndex (Nat.toDigits 10 n) = some n := by
  obtain ⟨d, ds, hds, hd⟩ := Json.Value.toDigits_head n
  have hdigits : ∀ c ∈ Nat.toDigits 10 n, c.isDigit = true :=
    fun c hc => Nat.isDigit_of_mem_toDigits (by omega) (by omega) hc
  have hfold : (Nat.toDigits 10 n).foldl (fun acc c => acc * 10 + (c.toNat - 48)) 0 = n := by
    have := Nat.ofDigitChars_ten_toDigits (n := n)
    rw [Nat.ofDigitChars_eq_foldl] at this
    simpa [Nat.mul_comm] using this
  have hplus : d ≠ '+' := by
    rintro rfl
    revert hd
    decide
  simp only [parseIndex]
  split
  · next rest heq =>
    rw [hds] at heq
    cases heq
    exact absurd rfl hplus
  · rw [hfold, if_pos h, hds]
    simp only [List.isEmpty_cons, Bool.false_or, Bool.not_eq_eq_eq_not, Bool.not_true]
    rw [if_neg]
    rw [← hds]
    simpa using hdigits

theorem le_maxIndex_of_parseIndex {cs : List Char} {n : Nat} (h : parseIndex cs = some n) :
    n ≤ maxIndex := by
  have bounded : ∀ (bad : Bool) (m : Nat),
      (if bad = true then none else if m ≤ maxIndex then some m else none) = some n →
        n ≤ maxIndex := by
    intro bad m hm
    split at hm
    · cases hm
    · split at hm
      · next hle => cases hm; exact hle
      · cases hm
  unfold parseIndex at h
  split at h <;> exact bounded _ _ h

theorem unquote_quoted (q : Char) (k : List Char) : unquote q (q :: (k ++ [q])) = some k := by
  simp [unquote]

theorem unquote_of_head {q : Char} {cs : List Char} (h : ∀ c ∈ cs.head?, c ≠ q) :
    unquote q cs = none := by
  cases cs with
  | nil => rfl
  | cons c rest =>
    have hc : (c == q) = false := by simpa using h c rfl
    simp [unquote, hc]

theorem mem_of_unquote {q : Char} {cs name : List Char} (h : unquote q cs = some name) :
    ∀ c ∈ name, c ∈ cs := by
  intro c hc
  cases cs with
  | nil => cases h
  | cons d rest =>
    simp only [unquote] at h
    split at h
    · split at h
      · next mid hmid =>
        split at h
        · cases h
          have : c ∈ rest.reverse := by
            rw [hmid]
            exact List.mem_cons_of_mem _ (List.mem_reverse.mp hc)
          exact List.mem_cons_of_mem _ (List.mem_reverse.mp this)
        · cases h
      · cases h
    · cases h

theorem parseBracket_toDigits {n : Nat} (h : n ≤ maxIndex) :
    parseBracket (Nat.toDigits 10 n) = some (.index n) := by
  obtain ⟨d, ds, hds, hd⟩ := Json.Value.toDigits_head n
  have hne : ∀ q, q = '\'' ∨ q = '"' → ∀ c ∈ (Nat.toDigits 10 n).head?, c ≠ q := by
    rintro q hq c hc rfl
    rw [hds] at hc
    cases hc
    rcases hq with rfl | rfl <;> revert hd <;> decide
  rw [parseBracket, unquote_of_head (hne _ (.inl rfl)), unquote_of_head (hne _ (.inr rfl)),
    parseIndex_toDigits h]
  rfl

theorem parseBracket_quoted (k : String) :
    parseBracket ('\'' :: (k.toList ++ ['\''])) = some (.key k) := by
  rw [parseBracket, unquote_quoted]
  simp only [String.ofList_toList]

/-- What brackets can hold: a position that fits in 64 bits, or a name made of characters
from inside them. -/
theorem parseBracket_eq_some {inner : List Char} {seg : Segment} (h : parseBracket inner = some seg) :
    (∃ n, seg = .index n ∧ n ≤ maxIndex) ∨ ∃ k, seg = .key k ∧ ∀ c ∈ k.toList, c ∈ inner := by
  simp only [parseBracket] at h
  split at h
  · next name hname =>
    cases h
    exact .inr ⟨_, rfl, by simpa using mem_of_unquote hname⟩
  · split at h
    · next name hname =>
      cases h
      exact .inr ⟨_, rfl, by simpa using mem_of_unquote hname⟩
    · obtain ⟨n, hn, rfl⟩ := Option.map_eq_some_iff.mp h
      exact .inl ⟨n, rfl, le_maxIndex_of_parseIndex hn⟩

/-! ### One segment -/

theorem takeWhile_of_head {p : Char → Bool} {l : List Char} (h : ∀ c ∈ l.head?, p c = false) :
    l.takeWhile p = [] := by
  cases l with
  | nil => rfl
  | cons c t => simp [h c rfl]

theorem dropWhile_of_head {p : Char → Bool} {l : List Char} (h : ∀ c ∈ l.head?, p c = false) :
    l.dropWhile p = l := by
  cases l with
  | nil => rfl
  | cons c t => simp [h c rfl]

theorem head_dropWhile {p : Char → Bool} {l : List Char} :
    ∀ c ∈ (l.dropWhile p).head?, p c = false := by
  intro c hc
  have hne : l.dropWhile p ≠ [] := fun h => by simp [h] at hc
  rw [List.head?_eq_some_head hne, Option.mem_def, Option.some.injEq] at hc
  rw [← hc]
  exact List.head_dropWhile_not p hne

/-- **Reading a dotted name.**  A dot and a name that is not empty, not `*` and holds no `.`
or `[`, followed by text that starts with `.` or `[` or is empty: the name is one segment
and reading goes on after it. -/
theorem parseSegments_dotted {name tail : List Char} (hne : name ≠ []) (hstar : name ≠ ['*'])
    (hname : ∀ c ∈ name, endsMember c = false) (htail : ∀ c ∈ tail.head?, endsMember c = true) :
    parseSegments ('.' :: (name ++ tail)) =
      (parseSegments tail).map (.key (String.ofList name) :: ·) := by
  have hpos : ∀ c ∈ name, (!endsMember c) = true := fun c hc => by simp [hname c hc]
  have hstop : ∀ c ∈ tail.head?, (!endsMember c) = false := fun c hc => by simp [htail c hc]
  have htake : (name ++ tail).takeWhile (fun c => !endsMember c) = name := by
    rw [List.takeWhile_append_of_pos hpos, takeWhile_of_head hstop, List.append_nil]
  have hdrop : (name ++ tail).dropWhile (fun c => !endsMember c) = tail := by
    rw [List.dropWhile_append_of_pos hpos, dropWhile_of_head hstop]
  obtain ⟨d, ds, rfl⟩ := List.exists_cons_of_ne_nil hne
  have hd : d ≠ '.' := by
    rintro rfl
    simp [endsMember] at hname
  rw [parseSegments.eq_2]
  simp only [List.cons_append, List.head?_cons, beq_iff_eq, Option.some.injEq, hd,
    if_false]
  rw [← List.cons_append, htake, hdrop]
  simp only [List.isEmpty_cons, hstar, Bool.false_eq_true, if_false]
  cases parseSegments tail <;> rfl

/-- **Reading brackets.**  Brackets whose inside holds no `]` and, trimmed, reads as a
segment are that segment, and reading goes on after the `]`. -/
theorem parseSegments_bracket {inner after : List Char} {seg : Segment} (hinner : ']' ∉ inner)
    (hseg : parseBracket (Text.trimList inner) = some seg) :
    parseSegments ('[' :: (inner ++ ']' :: after)) = (parseSegments after).map (seg :: ·) := by
  have hpos : ∀ c ∈ inner, (c != ']') = true := fun c hc => by
    have : c ≠ ']' := fun h => hinner (h ▸ hc)
    simpa using this
  have hdrop : (inner ++ ']' :: after).dropWhile (fun c => c != ']') = ']' :: after := by
    rw [List.dropWhile_append_of_pos hpos]
    simp
  have htake : (inner ++ ']' :: after).takeWhile (fun c => c != ']') = inner := by
    rw [List.takeWhile_append_of_pos hpos]
    simp
  rw [parseSegments.eq_3]
  split
  · next hnil => rw [hdrop] at hnil; cases hnil
  · next head after' hcons =>
    rw [hdrop] at hcons
    cases hcons
    rw [htake, hseg]
    cases parseSegments after <;> rfl

/-- A reading that starts with a dot reads a name up to the next `.` or `[`, neither empty nor
`*`, and then the remaining segments. -/
theorem parseSegments_dot_eq_ok {r : List Char} {segs : List Segment}
    (h : parseSegments ('.' :: r) = .ok segs) :
    ∃ name tail rest, '.' :: r = '.' :: (name ++ tail) ∧ name ≠ [] ∧ name ≠ ['*'] ∧
      (∀ c ∈ name, endsMember c = false) ∧ (∀ c ∈ tail.head?, endsMember c = true) ∧
      parseSegments tail = .ok rest ∧ segs = .key (String.ofList name) :: rest := by
  rw [parseSegments.eq_2] at h
  split at h
  · cases h
  dsimp only at h
  split at h
  · cases h
  split at h
  · cases h
  next hempty hstar =>
  split at h
  · next rest hrest =>
    cases h
    refine ⟨_, _, rest, by rw [List.takeWhile_append_dropWhile], ?_, ?_, ?_, ?_, hrest, rfl⟩
    · simpa using hempty
    · simpa using hstar
    · intro c hc
      simpa using List.all_eq_true.mp List.all_takeWhile c hc
    · intro c hc
      simpa using head_dropWhile c hc
  · cases h

/-- A reading that starts with a bracket reads up to the first `]`, whose trimmed inside reads
as a segment, and then the remaining segments. -/
theorem parseSegments_bracket_eq_ok {r : List Char} {segs : List Segment}
    (h : parseSegments ('[' :: r) = .ok segs) :
    ∃ inner after seg rest, '[' :: r = '[' :: (inner ++ ']' :: after) ∧ ']' ∉ inner ∧
      parseBracket (Text.trimList inner) = some seg ∧ parseSegments after = .ok rest ∧
      segs = seg :: rest := by
  rw [parseSegments.eq_3] at h
  split at h
  · cases h
  next head after hcons =>
  split at h
  · cases h
  next seg hseg =>
  split at h
  · next rest hrest =>
    cases h
    have hhead : head = ']' := by
      have := head_dropWhile (p := fun c => c != ']') (l := r) head (by rw [hcons]; rfl)
      simpa using this
    subst hhead
    refine ⟨_, after, seg, rest, ?_, ?_, hseg, hrest, rfl⟩
    · rw [← hcons, List.takeWhile_append_dropWhile]
    · intro hmem
      have := List.all_eq_true.mp List.all_takeWhile _ hmem
      simp at this
  · cases h

/-- **What a successful reading step reads.**  Text that reads as segments is empty; or it is
a dot and a name read up to the next `.` or `[` (not empty, not `*`); or it is brackets with
no `]` inside, whose trimmed inside reads as a segment.  What follows reads as the remaining
segments. -/
theorem parseSegments_eq_ok {cs : List Char} {segs : List Segment}
    (h : parseSegments cs = .ok segs) :
    (cs = [] ∧ segs = []) ∨
    (∃ name tail rest, cs = '.' :: (name ++ tail) ∧ name ≠ [] ∧ name ≠ ['*'] ∧
      (∀ c ∈ name, endsMember c = false) ∧ (∀ c ∈ tail.head?, endsMember c = true) ∧
      parseSegments tail = .ok rest ∧ segs = .key (String.ofList name) :: rest) ∨
    (∃ inner after seg rest, cs = '[' :: (inner ++ ']' :: after) ∧ ']' ∉ inner ∧
      parseBracket (Text.trimList inner) = some seg ∧ parseSegments after = .ok rest ∧
      segs = seg :: rest) := by
  rcases cs with _ | ⟨c, r⟩
  · rw [parseSegments.eq_1] at h
    cases h
    exact .inl ⟨rfl, rfl⟩
  by_cases hdot : c = '.'
  · subst hdot
    exact .inr (.inl (parseSegments_dot_eq_ok h))
  by_cases hbr : c = '['
  · subst hbr
    exact .inr (.inr (parseSegments_bracket_eq_ok h))
  · rw [parseSegments.eq_4 _ (by simp) (by simp [hdot]) (by simp [hbr])] at h
    cases h

end Path

/-! ### Writing a path -/

namespace Segment

/-- The text a path writes for a segment: a position in brackets, a name in quoted brackets
when it holds no `]`, and after a dot when it does. -/
def render : Segment → String
  | .index n => "[" ++ toString n ++ "]"
  | .key k => if ']' ∈ k.toList then "." ++ k else "['" ++ k ++ "']"

/-- Whether the segment, written by `render`, reads back as itself; `last` tells whether it
ends the path, whose text is trimmed.  A position fits in 64 bits; a name holds no `]` (it is
written in quotes), or else a dot can carry it: it is not empty, not `*`, holds no `.` or `[`,
and at the end of the path does not end with a blank. -/
def Admissible (last : Bool) : Segment → Prop
  | .index n => n ≤ Path.maxIndex
  | .key k => ']' ∉ k.toList ∨
      (k ≠ "" ∧ k ≠ "*" ∧ '.' ∉ k.toList ∧ '[' ∉ k.toList ∧
        (last = true → ∀ c ∈ k.toList.getLast?, Text.isBlank c = false))

theorem render_index_toList (n : Nat) :
    (Segment.index n).render.toList = '[' :: (Nat.toDigits 10 n ++ [']']) := by
  simp [render, Nat.toList_repr]

theorem render_key_toList (k : String) :
    (Segment.key k).render.toList =
      if ']' ∈ k.toList then '.' :: k.toList else '[' :: '\'' :: (k.toList ++ ['\'', ']']) := by
  by_cases hk : ']' ∈ k.toList <;> simp [render, hk]

theorem head_render (s : Segment) : ∀ c ∈ s.render.toList.head?, Path.endsMember c = true := by
  cases s with
  | index n => simp [render_index_toList, Path.endsMember]
  | key k =>
    rw [render_key_toList]
    split <;> simp [Path.endsMember]

theorem render_ne_nil (s : Segment) : s.render.toList ≠ [] := by
  cases s with
  | index n => simp [render_index_toList]
  | key k =>
    rw [render_key_toList]
    split <;> simp

/-- The text of an admissible last segment does not end with a blank: it ends with `]`, or
with the last character of a dotted name. -/
theorem getLast_render {s : Segment} (hs : s.Admissible true) :
    ∀ c ∈ s.render.toList.getLast?, Text.isBlank c = false := by
  cases s with
  | index n =>
    rw [render_index_toList, ← List.cons_append, List.getLast?_concat]
    intro c hc
    cases hc
    decide
  | key k =>
    rw [render_key_toList]
    split
    · next hk =>
      obtain ⟨hne, -, -, -, hlast⟩ := hs.resolve_left fun h => h hk
      have hne' : k.toList ≠ [] := fun h => hne (String.toList_eq_nil_iff.mp h)
      rw [List.getLast?_cons_of_ne_nil hne']
      exact hlast rfl
    · have hsplit : '[' :: '\'' :: (k.toList ++ ['\'', ']']) =
          ('[' :: '\'' :: (k.toList ++ ['\''])) ++ [']'] := by simp
      rw [hsplit, List.getLast?_concat]
      intro c hc
      cases hc
      decide

end Segment

namespace Path

/-- The text of a path with the given segments: `$`, then each segment's text. -/
def render (segs : List Segment) : String := "$" ++ String.join (segs.map Segment.render)

/-- Whether every segment, written by `render`, reads back as itself. -/
def Admissible : List Segment → Prop
  | [] => True
  | s :: rest => s.Admissible rest.isEmpty ∧ Admissible rest

theorem render_toList (segs : List Segment) :
    (render segs).toList = '$' :: segs.flatMap (fun s => s.render.toList) := by
  simp [render, String.toList_join, List.flatMap_map]

/-- The text of an admissible segment, followed by text that starts with `.` or `[` or is
empty, reads as the segment. -/
theorem parseSegments_render {s : Segment} {last : Bool} {tail : List Char}
    (hs : s.Admissible last) (htail : ∀ c ∈ tail.head?, endsMember c = true) :
    parseSegments (s.render.toList ++ tail) = (parseSegments tail).map (s :: ·) := by
  cases s with
  | index n =>
    obtain ⟨d, ds, hds, hd⟩ := Json.Value.toDigits_head n
    have hdigits : ∀ c ∈ Nat.toDigits 10 n, c.isDigit = true :=
      fun c hc => Nat.isDigit_of_mem_toDigits (by omega) (by omega) hc
    have hbracket : ']' ∉ Nat.toDigits 10 n := fun h => by
      have := hdigits _ h
      revert this
      decide
    have htrim : Text.trimList (Nat.toDigits 10 n) = Nat.toDigits 10 n := by
      refine Text.trimList_of_ends (fun c hc => ?_) (fun c hc => ?_)
      · exact Text.isBlank_of_isDigit (hdigits c (List.mem_of_mem_head? hc))
      · exact Text.isBlank_of_isDigit (hdigits c (List.mem_of_mem_getLast? hc))
    rw [Segment.render_index_toList, List.cons_append, List.append_assoc, List.singleton_append,
      parseSegments_bracket hbracket (by rw [htrim]; exact parseBracket_toDigits hs)]
  | key k =>
    rw [Segment.render_key_toList]
    split
    · next hk =>
      obtain ⟨hne, hstar, hdot, hopen, -⟩ := hs.resolve_left fun h => h hk
      have hname : ∀ c ∈ k.toList, endsMember c = false := by
        intro c hc
        have h1 : c ≠ '.' := fun h => hdot (h ▸ hc)
        have h2 : c ≠ '[' := fun h => hopen (h ▸ hc)
        simp [endsMember, h1, h2]
      have hne' : k.toList ≠ [] := fun h => hne (String.toList_eq_nil_iff.mp h)
      have hstar' : k.toList ≠ ['*'] := fun h => hstar (String.toList_inj.mp (by simpa using h))
      rw [List.cons_append, parseSegments_dotted hne' hstar' hname htail, String.ofList_toList]
    · next hk =>
      have hinner : ']' ∉ '\'' :: (k.toList ++ ['\'']) := by simp [hk]
      have htrim : Text.trimList ('\'' :: (k.toList ++ ['\''])) = '\'' :: (k.toList ++ ['\'']) := by
        refine Text.trimList_of_ends ?_ ?_
        · intro c hc
          cases hc
          decide
        · rw [← List.cons_append, List.getLast?_concat]
          intro c hc
          cases hc
          decide
      have hsplit : '[' :: '\'' :: (k.toList ++ ['\'', ']']) ++ tail =
          '[' :: (('\'' :: (k.toList ++ ['\''])) ++ ']' :: tail) := by simp
      rw [hsplit, parseSegments_bracket hinner (by rw [htrim]; exact parseBracket_quoted k)]

theorem parseSegments_flatMap_render : ∀ {segs : List Segment}, Admissible segs →
    parseSegments (segs.flatMap fun s => s.render.toList) = .ok segs
  | [], _ => by rw [List.flatMap_nil, parseSegments.eq_1]
  | s :: rest, ⟨hs, hrest⟩ => by
    have htail : ∀ c ∈ (rest.flatMap fun s => s.render.toList).head?, endsMember c = true := by
      cases rest with
      | nil => simp
      | cons s' rest' =>
        obtain ⟨d, ds, hds⟩ := List.exists_cons_of_ne_nil (Segment.render_ne_nil s')
        have hd := Segment.head_render s'
        rw [hds] at hd
        rw [List.flatMap_cons, hds]
        exact hd
    rw [List.flatMap_cons, parseSegments_render hs htail, parseSegments_flatMap_render hrest]
    rfl

theorem getLast?_append_of_ne_nil {l l' : List Char} (h : l' ≠ []) :
    (l ++ l').getLast? = l'.getLast? := by
  rw [List.getLast?_append, List.getLast?_eq_some_getLast h]
  rfl

theorem getLast_render_toList : ∀ {segs : List Segment}, Admissible segs →
    ∀ c ∈ ('$' :: segs.flatMap fun s => s.render.toList).getLast?, Text.isBlank c = false
  | [], _ => by
    intro c hc
    cases hc
    decide
  | [s], ⟨hs, _⟩ => by
    rw [List.flatMap_cons, List.flatMap_nil, List.append_nil,
      List.getLast?_cons_of_ne_nil (Segment.render_ne_nil s)]
    exact Segment.getLast_render hs
  | s :: s' :: rest, ⟨_, hrest⟩ => by
    have hne : ((s' :: rest).flatMap fun s => s.render.toList) ≠ [] := by
      rw [List.flatMap_cons]
      exact List.append_ne_nil_of_left_ne_nil (Segment.render_ne_nil s') _
    have hlast := getLast_render_toList hrest
    rw [List.getLast?_cons_of_ne_nil hne] at hlast
    rw [List.flatMap_cons, ← List.cons_append, getLast?_append_of_ne_nil hne]
    exact hlast

/-- **Reading a written path.**  The text of admissible segments reads as those segments, and
the path keeps that text. -/
theorem parse_render {segs : List Segment} (h : Admissible segs) :
    parse (render segs) = .ok ⟨render segs, segs⟩ := by
  have hhead : ∀ c ∈ ('$' :: segs.flatMap fun s => s.render.toList).head?,
      Text.isBlank c = false := by
    simp only [List.head?_cons, Option.mem_def, Option.some.injEq, forall_eq']
    decide
  rw [parse, render_toList, Text.trimList_of_ends hhead (getLast_render_toList h)]
  simp only [parseSegments_flatMap_render h]

/-! ### What reading gives -/

theorem eq_nil_of_parseSegments {cs : List Char} (h : parseSegments cs = .ok []) : cs = [] := by
  rcases parseSegments_eq_ok h with ⟨hcs, -⟩ | ⟨_, _, _, _, _, _, _, _, _, hsegs⟩ |
    ⟨_, _, _, _, _, _, _, _, hsegs⟩
  · exact hcs
  · cases hsegs
  · cases hsegs

theorem admissible_bracket {inner : List Char} {seg : Segment} {last : Bool} (hinner : ']' ∉ inner)
    (hseg : parseBracket (Text.trimList inner) = some seg) : seg.Admissible last := by
  rcases parseBracket_eq_some hseg with ⟨n, rfl, hn⟩ | ⟨k, rfl, hk⟩
  · exact hn
  · exact .inl fun h => hinner (Text.mem_of_mem_trimList (hk _ h))

/-- A dotted name is admissible wherever it stands: reading stops it at the next `.` or `[`,
and at the end of the path the text was trimmed. -/
theorem admissible_dotted {name : List Char} {last : Bool} (hne : name ≠ [])
    (hstar : name ≠ ['*']) (hname : ∀ c ∈ name, endsMember c = false)
    (hlast : last = true → ∀ c ∈ name.getLast?, Text.isBlank c = false) :
    (Segment.key (String.ofList name)).Admissible last := by
  refine .inr ⟨?_, ?_, ?_, ?_, ?_⟩
  · intro h
    exact hne (by simpa using congrArg String.toList h)
  · intro h
    exact hstar (by simpa using congrArg String.toList h)
  · intro h
    simp [endsMember] at hname
    exact (hname '.' (by simpa using h)).1 rfl
  · intro h
    simp [endsMember] at hname
    exact (hname '[' (by simpa using h)).2 rfl
  · simpa using hlast

/-- **Reading gives admissible segments**, from text that does not end with a blank. -/
theorem admissible_of_parseSegments : ∀ (n : Nat) {cs : List Char} {segs : List Segment},
    cs.length ≤ n → parseSegments cs = .ok segs →
      (∀ c ∈ cs.getLast?, Text.isBlank c = false) → Admissible segs
  | 0, cs, segs, hlen, h, _ => by
    rw [List.eq_nil_of_length_eq_zero (Nat.le_zero.mp hlen), parseSegments.eq_1] at h
    cases h
    trivial
  | n + 1, cs, segs, hlen, h, hend => by
    rcases parseSegments_eq_ok h with ⟨-, rfl⟩ |
      ⟨name, tail, rest, rfl, hne, hstar, hname, -, hrest, rfl⟩ |
      ⟨inner, after, seg, rest, rfl, hinner, hseg, hrest, rfl⟩
    · trivial
    · have htail : ∀ c ∈ tail.getLast?, Text.isBlank c = false := by
        intro c hc
        have hne' : tail ≠ [] := fun h => by simp [h] at hc
        apply hend c
        rw [← List.cons_append, getLast?_append_of_ne_nil hne']
        exact hc
      refine ⟨admissible_dotted hne hstar hname fun hlast => ?_,
        admissible_of_parseSegments n (by simp at hlen; omega) hrest htail⟩
      rw [List.isEmpty_iff.mp hlast] at hrest
      obtain rfl : tail = [] := eq_nil_of_parseSegments hrest
      rw [List.append_nil, List.getLast?_cons_of_ne_nil hne] at hend
      exact hend
    · have hafter : ∀ c ∈ after.getLast?, Text.isBlank c = false := by
        intro c hc
        have hne' : after ≠ [] := fun h => by simp [h] at hc
        apply hend c
        have hsplit : '[' :: (inner ++ ']' :: after) = ('[' :: inner ++ [']']) ++ after := by simp
        rw [hsplit, getLast?_append_of_ne_nil hne']
        exact hc
      exact ⟨admissible_bracket hinner hseg,
        admissible_of_parseSegments n (by simp at hlen; omega) hrest hafter⟩

/-- **Reading gives admissible segments.** -/
theorem admissible_of_parse {text : String} {p : Path} (h : parse text = .ok p) :
    Admissible p.segments := by
  unfold parse at h
  split at h
  · next rest htrim =>
    split at h
    · next segs hsegs =>
      cases h
      refine admissible_of_parseSegments rest.length (Nat.le_refl _) hsegs fun c hc => ?_
      have hne : rest ≠ [] := fun h => by simp [h] at hc
      apply @Text.getLast?_trimList text.toList c
      rw [htrim, List.getLast?_cons_of_ne_nil hne]
      exact hc
    · cases h
  · cases h

/-- **Reading inverts writing, on exactly what reading produces.**  The text of admissible
segments reads back as those segments, keeping that text; and whatever reading accepts has
admissible segments. -/
theorem parse_inverts_render :
    (∀ segs : List Segment, Admissible segs → parse (render segs) = .ok ⟨render segs, segs⟩) ∧
    (∀ (text : String) (p : Path), parse text = .ok p → Admissible p.segments) :=
  ⟨fun _ => parse_render, fun _ _ => admissible_of_parse⟩

/-- `['a b']`, `[3]` and `.x]` are written and read back; ` $.a] .b ` reads, once trimmed,
as the names `a] ` and `b`, which are admissible. -/
theorem parse_inverts_render_mixed :
    Admissible [.key "a b", .index 3, .key "x]"] ∧
      render [.key "a b", .index 3, .key "x]"] = "$['a b'][3].x]" ∧
      parse "$['a b'][3].x]" = .ok ⟨"$['a b'][3].x]", [.key "a b", .index 3, .key "x]"]⟩ ∧
      parse " $.a] .b " = .ok ⟨" $.a] .b ", [.key "a] ", .key "b"]⟩ ∧
      Admissible [.key "a] ", .key "b"] := by
  have hadm : Admissible [.key "a b", .index 3, .key "x]"] :=
    ⟨.inl (by decide), (by decide : 3 ≤ maxIndex), .inr ⟨by decide, by decide, by decide, by decide,
      fun _ => by simp [Text.isBlank]⟩, trivial⟩
  have hrender : render [.key "a b", .index 3, .key "x]"] = "$['a b'][3].x]" := by decide
  have hread : parse " $.a] .b " = .ok ⟨" $.a] .b ", [.key "a] ", .key "b"]⟩ :=
    Except.eq_ok_of_toOption (by decide +kernel)
  have hback := parse_inverts_render.1 _ hadm
  rw [hrender] at hback
  exact ⟨hadm, hrender, hback, hread, parse_inverts_render.2 _ _ hread⟩

end Path

end Workflow
