import Workflow.Decimal.Binary
/-! # Reading a decimal text as a double

`readFloat` reads the plain decimal form of a double, correctly rounded:

* an optional `+` or `-`;
* then `inf`, `infinity` or `nan` in any case, or digits with at most one `.` (at least one
  digit on either side of it), then optionally `e` or `E`, an optional sign and at least one
  digit;
* nothing else, blanks included.

The value is the exact decimal `digits · 10^exponent`, rounded once to the nearest double
(`Binary.roundRatio`).  Exponents far outside the range of doubles are settled without
computing the power: a nonzero decimal above `10^400` is infinite and one below `10^-400`
is zero.
-/

namespace Workflow.Decimal

/-- A decimal read from text: sign, digits as a natural, and the power of ten they scale by. -/
structure Scientific where
  negative : Bool
  digits : Nat
  exponent : Int
deriving Repr, DecidableEq

/-- What a decimal text reads as: a finite decimal, an infinity or a NaN. -/
inductive FloatText where
  | finite (s : Scientific)
  | infinite (negative : Bool)
  | notANumber
deriving Repr, DecidableEq

/-- The decimal digits at the front of a list, as a natural and their count, and the rest. -/
def takeNatural (cs : List Char) : Nat × Nat × List Char :=
  let ds := cs.takeWhile Char.isDigit
  (ds.foldl (fun n d => 10 * n + (d.toNat - '0'.toNat)) 0, ds.length, cs.dropWhile Char.isDigit)

/-- The optional exponent part: nothing, or a marker, an optional sign and at least one digit. -/
def readExponent : List Char → Option Int
  | [] => some 0
  | c :: rest =>
    if c == 'e' || c == 'E' then
      let (negative, rest) := match rest with
        | '-' :: r => (true, r)
        | '+' :: r => (false, r)
        | r => (false, r)
      let (n, count, tail) := takeNatural rest
      if count == 0 || !tail.isEmpty then none
      else some (if negative then -(n : Int) else n)
    else none

/-- The spellings of infinity and NaN, in lower case. -/
def specialName (cs : List Char) : Option Bool :=
  let lower := String.ofList (cs.map Char.toLower)
  if lower == "inf" || lower == "infinity" then some true
  else if lower == "nan" then some false
  else none

/-- The unsigned part of a decimal text. -/
def readUnsigned (negative : Bool) (cs : List Char) : Option FloatText :=
  let (whole, wholeCount, rest) := takeNatural cs
  let (digits, fracCount, rest) := match rest with
    | '.' :: r =>
      let (frac, count, r) := takeNatural r
      (whole * Nat.pow 10 count + frac, count, r)
    | r => (whole, 0, r)
  let decimal : Option FloatText :=
    if wholeCount + fracCount == 0 then none
    else (readExponent rest).map fun e => .finite ⟨negative, digits, e - fracCount⟩
  decimal.orElse fun _ =>
    (specialName cs).map fun isInf => if isInf then .infinite negative else .notANumber

/-- The reading of a decimal text, if it has the form above. -/
def readFloatText (s : String) : Option FloatText :=
  match s.toList with
  | [] => none
  | '-' :: [] => none
  | '+' :: [] => none
  | '-' :: rest => readUnsigned true rest
  | '+' :: rest => readUnsigned false rest
  | cs => readUnsigned false cs

/-- The bits of the double nearest a decimal. -/
def Scientific.toBits (d : Scientific) : UInt64 :=
  let sign : UInt64 := if d.negative then 0x8000000000000000 else 0
  if d.digits == 0 then sign
  else if d.exponent ≥ 0 then
    if d.exponent > 400 then sign ||| Binary.infinityBits
    else Binary.roundRatio d.negative (d.digits * Nat.pow 10 d.exponent.toNat) 1
  else
    -- the decimal is below `10^(digit count + exponent)`
    if ((Nat.toDigits 10 d.digits).length : Int) + d.exponent < -400 then sign
    else Binary.roundRatio d.negative d.digits (Nat.pow 10 (-d.exponent).toNat)

/-- The bits of a quiet NaN. -/
def nanBits : UInt64 := 0x7FF8000000000000

/-- The bits of the double a text reads as. -/
def FloatText.toBits : FloatText → UInt64
  | .finite d => d.toBits
  | .infinite negative => (if negative then 0x8000000000000000 else 0) ||| Binary.infinityBits
  | .notANumber => nanBits

/-- The double a decimal text reads as, by its bits. -/
def readFloat (s : String) : Option UInt64 := (readFloatText s).map FloatText.toBits

end Workflow.Decimal
