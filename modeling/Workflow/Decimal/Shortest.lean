import Workflow.Decimal.Binary
/-! # Shortest decimal digits of a double

`shortest b` finds, for a finite double, the decimal `d · 10^k` with the fewest significant
digits that reads back as the same double; of two such decimals with that many digits it takes
the one nearer the double, and an exact tie goes to the even digit string.

The set of reals that round to a double `m · 2^e` is an interval around it whose ends are the
midpoints to its neighbours (the gap below is half as wide when `m` is the smallest normal
significand and the exponent is not the least); the ends belong to it when `m` is even.  For
`n = 1, 2, …` digits the decimals of `n` digits nearest the value from below and from above
are the only ones that can fall into a convex interval around it, so it suffices to test those
two.  Seventeen digits always suffice for a double.
-/

namespace Workflow.Decimal

/-- A decimal `digits · 10^exponent` with no trailing zero in `digits` (unless it is zero). -/
structure Trimmed where
  digits : Nat
  exponent : Int
deriving Repr, DecidableEq

/-- A ratio of naturals, `num / den`. -/
private structure Ratio where
  num : Nat
  den : Nat

/-- `c · 10^k` as a ratio. -/
private def decRatio (c : Nat) (k : Int) : Ratio :=
  if k ≥ 0 then ⟨c * Nat.pow 10 k.toNat, 1⟩ else ⟨c, Nat.pow 10 (-k).toNat⟩

/-- `x · 2^s` as a ratio. -/
private def binRatio (x : Nat) (s : Int) : Ratio :=
  if s ≥ 0 then ⟨x * Nat.pow 2 s.toNat, 1⟩ else ⟨x, Nat.pow 2 (-s).toNat⟩

private def Ratio.le (a b : Ratio) : Bool := a.num * b.den ≤ b.num * a.den

private def Ratio.lt (a b : Ratio) : Bool := a.num * b.den < b.num * a.den

/-- The number of decimal digits of a positive natural. -/
def digitCount (n : Nat) : Nat := (Nat.toDigits 10 n).length

/-- `⌊log₁₀ (n / d)⌋` for positive `n` and `d`. -/
def floorLog10 (n d : Nat) : Int :=
  let a : Int := (digitCount n : Int) - (digitCount d : Int)
  -- `n / d` lies in `(10^(a-1), 10^(a+1))`; one comparison decides.
  let atLeast : Bool :=
    if a ≥ 0 then n ≥ d * Nat.pow 10 a.toNat else n * Nat.pow 10 (-a).toNat ≥ d
  if atLeast then a else a - 1

/-- Drop the trailing zeros of a decimal, raising its exponent. -/
def Trimmed.normalize (c : Nat) (k : Int) : Trimmed :=
  go c k c
where
  go (c : Nat) (k : Int) : Nat → Trimmed
    | 0 => ⟨c, k⟩
    | fuel + 1 => if c != 0 && c % 10 == 0 then go (c / 10) (k + 1) fuel else ⟨c, k⟩

/-- The shortest decimal that reads back as the positive double `m · 2^e`, nearest of the
shortest, ties to even. -/
def shortestOf (m : Nat) (e : Int) : Trimmed :=
  if m == 0 then ⟨0, 0⟩
  else
    let lowerHalfGap := m == Nat.pow 2 52 && e > -1074
    -- ends of the rounding interval, in units of `2^(e-2)`
    let s := e - 2
    let lo := binRatio (if lowerHalfGap then 4 * m - 1 else 4 * m - 2) s
    let hi := binRatio (4 * m + 2) s
    let v := binRatio (4 * m) s
    let inclusive := m % 2 == 0
    let inside (r : Ratio) : Bool :=
      if inclusive then lo.le r && r.le hi else lo.lt r && r.lt hi
    let e10 := floorLog10 v.num v.den
    let rec search : Nat → Nat → Trimmed
      | 0, _ => Trimmed.normalize m 0
      | fuel + 1, n =>
        let k := e10 - (n : Int) + 1
        -- `below = ⌊v / 10^k⌋`
        let below := if k ≥ 0 then v.num / (v.den * Nat.pow 10 k.toNat) else (v.num * Nat.pow 10 (-k).toNat) / v.den
        let above := below + 1
        let okBelow := inside (decRatio below k)
        let okAbove := inside (decRatio above k)
        if okBelow && okAbove then
          -- compare `2v` with `(2·below + 1) · 10^k`
          let mid := decRatio (2 * below + 1) k
          let twice : Ratio := ⟨2 * v.num, v.den⟩
          if twice.lt mid then Trimmed.normalize below k
          else if mid.lt twice then Trimmed.normalize above k
          else Trimmed.normalize (if below % 2 == 0 then below else above) k
        else if okBelow then Trimmed.normalize below k
        else if okAbove then Trimmed.normalize above k
        else search fuel (n + 1)
    search 17 1

/-- The shortest decimal of the magnitude of the double with these bits. -/
def shortest (b : UInt64) : Trimmed :=
  let p := Binary.ofBits b
  shortestOf p.mantissa p.exponent

end Workflow.Decimal
