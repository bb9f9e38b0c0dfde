/-! # Doubles as exact binary numbers

A finite IEEE double is `± m · 2^e` with a 53-bit significand `m`.  This module reads that
form off the bits (`Binary.ofBits`) and goes the other way with correct rounding
(`Binary.roundRatio`): the double nearest a positive ratio of naturals, a tie going to the
even significand, values past the largest finite double becoming infinity and those below
the smallest subnormal rounding to zero or to it.

Everything is exact `Nat` arithmetic, so the results do not depend on how a platform rounds.
-/

namespace Workflow.Decimal

/-- A finite double as sign, significand and binary exponent: `(-1)^sign · mantissa · 2^exponent`. -/
structure Binary where
  negative : Bool
  mantissa : Nat
  exponent : Int
deriving Repr, DecidableEq

namespace Binary

/-- The bits of the significand field. -/
def fractionMask : UInt64 := 0xFFFFFFFFFFFFF

/-- The parts of the double with these bits; the exponent field all ones (infinities and NaN)
is read as if it were finite. -/
def ofBits (b : UInt64) : Binary :=
  let negative := (b >>> 63) == 1
  let field := ((b >>> 52) &&& 0x7FF).toNat
  let fraction := (b &&& fractionMask).toNat
  if field == 0 then ⟨negative, fraction, -1074⟩
  else ⟨negative, fraction + Nat.pow 2 52, (field : Int) - 1075⟩

/-- Whether the bits are those of an infinity or a NaN. -/
def isSpecial (b : UInt64) : Bool := ((b >>> 52) &&& 0x7FF) == 0x7FF

/-- `n / d` rounded to the nearest natural, a tie going to the even one. -/
def roundDiv (n d : Nat) : Nat :=
  let q := n / d
  let r := n % d
  if 2 * r > d then q + 1
  else if 2 * r == d then (if q % 2 == 0 then q else q + 1)
  else q

/-- `⌊log₂ (n / d)⌋` for positive `n` and `d`. -/
def floorLog2 (n d : Nat) : Int :=
  let a : Int := (n.log2 : Int) - (d.log2 : Int)
  -- `n / d` lies in `[2^(a-1), 2^(a+1))`; one comparison decides.
  let atLeast : Bool :=
    if a ≥ 0 then n ≥ d * Nat.pow 2 a.toNat else n * Nat.pow 2 (-a).toNat ≥ d
  if atLeast then a else a - 1

/-- The bits of positive infinity. -/
def infinityBits : UInt64 := 0x7FF0000000000000

/-- The bits of the double nearest `n / d` (with sign), a tie going to the even significand;
past the largest finite double the result is infinity. -/
def roundRatio (negative : Bool) (n d : Nat) : UInt64 :=
  let sign : UInt64 := if negative then 0x8000000000000000 else 0
  if n == 0 || d == 0 then sign
  else
    let q0 := max (floorLog2 n d - 52) (-1074)
    -- the significand at exponent `q0`, rounded
    let m0 := if q0 ≥ 0 then roundDiv n (d * Nat.pow 2 q0.toNat) else roundDiv (n * Nat.pow 2 (-q0).toNat) d
    let (m, q) := if m0 == Nat.pow 2 53 then (Nat.pow 2 52, q0 + 1) else (m0, q0)
    if q + 52 > 1023 then sign ||| infinityBits
    else if m < Nat.pow 2 52 then sign ||| (UInt64.ofNat m)
    else sign ||| (UInt64.ofNat ((q + 1075).toNat) <<< 52) ||| (UInt64.ofNat (m - Nat.pow 2 52))

/-- The double nearest the natural `n`. -/
def ofNat (n : Nat) : UInt64 := roundRatio false n 1

/-- The double nearest `10^k`. -/
def powTen (k : Nat) : UInt64 := roundRatio false (Nat.pow 10 k) 1

end Binary

end Workflow.Decimal
