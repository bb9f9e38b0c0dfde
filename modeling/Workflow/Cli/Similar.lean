/-! # Similar words

When a word on the command line names nothing, the words it is close to are offered
instead.  Closeness is the Jaro similarity of the two words' characters:

    jaro a b = (m / |a| + m / |b| + (m - t) / m) / 3

where `m` counts the characters of `a` that match an equal, not yet matched character of
`b` at most `max |a| |b| / 2 - 1` places away (each matched to the first such), and `t` is
half the number of matched pairs that come in a different order.  Two empty words are alike
(1), an empty and a non-empty one not at all (0).  A word is offered when its similarity is
above 0.7; the similarity is kept as an exact fraction.
-/

namespace Workflow.Cli

/-- A similarity as the fraction `num / den`, with `den` positive. -/
structure Similarity where
  num : Nat
  den : Nat
deriving DecidableEq, Repr, Inhabited

namespace Similarity

/-- Whether one similarity is below another. -/
def lt (a b : Similarity) : Bool := a.num * b.den < b.num * a.den

/-- Whether a similarity is above 0.7. -/
def isClose (s : Similarity) : Bool := 10 * s.num > 7 * s.den

end Similarity

/-- Mark the first unmatched position of `b` within `[lo, hi)` holding `c`. -/
def claim (c : Char) (lo hi : Nat) : List (Char × Bool) → Nat → Option (List (Char × Bool))
  | [], _ => none
  | (d, used) :: rest, j =>
    if j ≥ hi then none
    else if lo ≤ j && d == c && !used then some ((d, true) :: rest)
    else (claim c lo hi rest (j + 1)).map ((d, used) :: ·)

/-- Match the characters of `a` against `b`: which of `a` matched, and `b` with its
matched positions marked. -/
def matchAll (range : Nat) (b : List (Char × Bool)) : List Char → Nat → List Bool × List (Char × Bool)
  | [], _ => ([], b)
  | c :: cs, i =>
    let lo := i - range
    let hi := min b.length (i + range + 1)
    match claim c lo hi b 0 with
    | some b' =>
      let (flags, b'') := matchAll range b' cs (i + 1)
      (true :: flags, b'')
    | none =>
      let (flags, b'') := matchAll range b cs (i + 1)
      (false :: flags, b'')

/-- The Jaro similarity of two words. -/
def jaro (a b : String) : Similarity :=
  let as := a.toList
  let bs := b.toList
  if as.isEmpty && bs.isEmpty then ⟨1, 1⟩
  else if as.isEmpty || bs.isEmpty then ⟨0, 1⟩
  else
    let range := max as.length bs.length / 2 - 1
    let (flags, marked) := matchAll range (bs.map fun c => (c, false)) as 0
    let fromA := (as.zip flags).filterMap fun (c, f) => if f then some c else none
    let fromB := marked.filterMap fun (c, f) => if f then some c else none
    let m := fromA.length
    if m == 0 then ⟨0, 1⟩
    else
      let t := ((fromA.zip fromB).filter fun (x, y) => x != y).length / 2
      let la := as.length
      let lb := bs.length
      -- (m/la + m/lb + (m-t)/m) / 3 over the common denominator 3·la·lb·m
      ⟨m * m * lb + m * m * la + (m - t) * la * lb, 3 * la * lb * m⟩

/-- Insert into a list kept in rising similarity, after those as similar. -/
def insertRising (x : Similarity × String) : List (Similarity × String) → List (Similarity × String)
  | [] => [x]
  | y :: ys => if x.1.lt y.1 then x :: y :: ys else y :: insertRising x ys

/-- The candidates close to a word, least similar first (equally similar ones in the order
given). -/
def similarTo (word : String) (candidates : List String) : List String :=
  let close := candidates.filterMap fun c =>
    let s := jaro word c
    if s.isClose then some (s, c) else none
  (close.foldl (fun acc x => insertRising x acc) []).map Prod.snd

end Workflow.Cli
