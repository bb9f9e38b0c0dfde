import Workflow.Decimal.Shortest
/-! # Writing a decimal out

A decimal `d · 10^k` is written either positionally (`1234.5`, `0.001`, `100.0`) or with an
exponent (`1.5e16`, `1e-7`).  A `Layout` record holds the decisions a format makes; the two
formats this library writes are

* `Layout.json`: positional for scientific exponents `-5 … 15`, a whole number keeps `.0`,
  otherwise the exponent follows `e` with a sign only when negative (`1e16`, `1.5e-10`);
* `Layout.plain`: always positional, a whole number keeps `.0` (`10000000000000000.0`).
-/

namespace Workflow.Decimal

/-- The decisions a number format makes when it writes a decimal. -/
structure Layout where
  /-- Scientific exponents written positionally, as an inclusive range; `none` for all. -/
  positional : Option (Int × Int)
  /-- Whether a whole number written positionally ends in `.0`. -/
  pointZero : Bool

/-- Positional for scientific exponents `-5 … 15`, `.0` kept, `e` and a bare exponent otherwise. -/
def Layout.json : Layout := ⟨some (-5, 15), true⟩

/-- Always positional, `.0` kept. -/
def Layout.plain : Layout := ⟨none, true⟩

/-- `n` copies of the digit zero. -/
def zeros (n : Nat) : String := String.ofList (List.replicate n '0')

/-- The digits of a natural number in base ten. -/
def digitString (n : Nat) : String := String.ofList (Nat.toDigits 10 n)

/-- `d · 10^k` written positionally. -/
def positionalText (pointZero : Bool) (d : Trimmed) : String :=
  let ds := Nat.toDigits 10 d.digits
  if d.exponent ≥ 0 then
    String.ofList ds ++ zeros d.exponent.toNat ++ (if pointZero then ".0" else "")
  else
    let shift := (-d.exponent).toNat
    if ds.length > shift then
      String.ofList (ds.take (ds.length - shift)) ++ "." ++ String.ofList (ds.drop (ds.length - shift))
    else
      "0." ++ zeros (shift - ds.length) ++ String.ofList ds

/-- `d · 10^k` written as `m.mmm` `e` exponent, the exponent signed only when negative. -/
def scientificText (d : Trimmed) : String :=
  let ds := Nat.toDigits 10 d.digits
  let e10 : Int := (ds.length : Int) - 1 + d.exponent
  let mantissa := match ds with
    | [] => "0"
    | [c] => String.ofList [c]
    | c :: rest => String.ofList [c] ++ "." ++ String.ofList rest
  mantissa ++ "e" ++ toString e10

/-- A decimal written by a layout, with a minus sign when `negative`. -/
def Layout.render (l : Layout) (negative : Bool) (d : Trimmed) : String :=
  let e10 : Int := (digitCount d.digits : Int) - 1 + d.exponent
  let body :=
    match l.positional with
    | none => positionalText l.pointZero d
    | some (lo, hi) =>
      if d.digits == 0 || (lo ≤ e10 && e10 ≤ hi) then positionalText l.pointZero d
      else scientificText d
  (if negative then "-" else "") ++ body

/-- The shortest text of the double with these bits in a layout; infinities and NaN are
written `inf`, `-inf` and `NaN`. -/
def Layout.renderBits (l : Layout) (b : UInt64) : String :=
  if Binary.isSpecial b then
    if (b &&& Binary.fractionMask) != 0 then "NaN"
    else if (b >>> 63) == 1 then "-inf" else "inf"
  else l.render ((b >>> 63) == 1) (shortest b)

end Workflow.Decimal
