import Workflow.Decimal.Parse
import Workflow.Decimal.Binary
/-! # What a YAML scalar means

A plain scalar without a tag is read by its form (YAML 1.2 core schema):

* empty, `~`, `null`, `Null`, `NULL`: null;
* `true`, `True`, `TRUE`, `false`, `False`, `FALSE`: a boolean;
* an integer: decimal, or `0x`, `0o`, `0b` followed by digits of that base, with an
  optional sign; a decimal with a leading zero (`012`) is text;
* a finite float (`1.5`, `1e3`, `.5`), or `.inf`, `-.inf`, `.nan` in their three spellings;
* anything else: text.

A quoted or block scalar is always text.  The tags `!!bool`, `!!int`, `!!float` and
`!!null` force a reading and make a scalar that does not fit one a fault; a local tag
(`!name`) on a plain scalar is read as if it were not there.
-/

namespace Workflow.Yaml

/-- The full name of a tag of the core schema. -/
def coreTag (name : String) : String := "tag:yaml.org,2002:" ++ name

/-- What a scalar reads as. -/
inductive Resolved where
  | null
  | bool (b : Bool)
  | unsigned (n : Nat)
  | signed (i : Int)
  | float (bits : UInt64)
  | text (s : String)
deriving DecidableEq, Repr

/-- Whether a scalar spells null. -/
def isNullWord (s : String) : Bool := s == "~" || s == "null" || s == "Null" || s == "NULL"

/-- The boolean a scalar spells. -/
def boolWord (s : String) : Option Bool :=
  if s == "true" || s == "True" || s == "TRUE" then some true
  else if s == "false" || s == "False" || s == "FALSE" then some false
  else none

/-- Whether a scalar is digits after a leading zero, which YAML 1.2 reads as text. -/
def leadingZeroDigits (s : String) : Bool :=
  let cs := match s.toList with
    | '-' :: r | '+' :: r => r
    | r => r
  cs.length > 1 && cs.head? == some '0' && (cs.drop 1).all Char.isDigit

/-- The digits of a natural in a base, none unless every character is one. -/
def digitsIn (base : Nat) (cs : List Char) : Option Nat :=
  if cs.isEmpty then none
  else cs.foldlM (fun acc c => do
    let d ← if '0' ≤ c && c ≤ '9' then some (c.toNat - '0'.toNat)
      else if 'a' ≤ c && c ≤ 'z' then some (c.toNat - 'a'.toNat + 10)
      else if 'A' ≤ c && c ≤ 'Z' then some (c.toNat - 'A'.toNat + 10)
      else none
    if d < base then some (acc * base + d) else none) 0

/-- A natural written in a base, allowing a leading `+` as number parsing does. -/
def natInBase (base : Nat) (s : String) : Option Nat :=
  match s.toList with
  | '+' :: rest => digitsIn base rest
  | cs => digitsIn base cs

/-- The prefixed forms `0x`, `0o`, `0b` after a sign has been taken off. -/
def prefixedNat (s : String) : Option (Option Nat) :=
  let radix (p : String) (base : Nat) : Option (Option Nat) :=
    if s.startsWith p then
      let rest := (s.drop 2).toString
      if rest.startsWith "+" || rest.startsWith "-" then some none
      else some (natInBase base rest)
    else none
  (radix "0x" 16).orElse fun _ => (radix "0o" 8).orElse fun _ => radix "0b" 2

/-- The largest 64-bit unsigned integer. -/
def maxUnsigned : Nat := Nat.pow 2 64 - 1

/-- The largest 128-bit unsigned integer. -/
def maxUnsigned128 : Nat := Nat.pow 2 128 - 1

/-- A non-negative integer a scalar spells, up to 128 bits. -/
def unsignedWord (s : String) : Option Nat :=
  let unpositive := if s.startsWith "+" then (s.drop 1).toString else s
  match prefixedNat unpositive with
  | some (some n) => if n ≤ maxUnsigned128 then some n else none
  | _ =>
    if unpositive.startsWith "+" || unpositive.startsWith "-" || leadingZeroDigits s then none
    else (natInBase 10 unpositive).filter (· ≤ maxUnsigned128)

/-- A negative integer a scalar spells, down to -2^127. -/
def negativeWord (s : String) : Option Int :=
  let bound : Nat := Nat.pow 2 127
  let neg (n : Nat) : Option Int := if n ≤ bound then some (-(n : Int)) else none
  if s.startsWith "-" then
    let rest := (s.drop 1).toString
    match prefixedNat rest with
    | some (some n) => neg n
    | _ =>
      if leadingZeroDigits s || rest.startsWith "+" || rest.startsWith "-" then none
      else (digitsIn 10 rest.toList).bind neg
  else none

/-- The finite double a scalar spells, or one of the YAML spellings of infinity and NaN. -/
def floatWord (s : String) : Option UInt64 :=
  let unpositive := if s.startsWith "+" then some (s.drop 1).toString else some s
  match unpositive with
  | none => none
  | some u =>
    if s.startsWith "+" && (u.startsWith "+" || u.startsWith "-") then none
    else if u == ".inf" || u == ".Inf" || u == ".INF" then some Decimal.Binary.infinityBits
    else if s == "-.inf" || s == "-.Inf" || s == "-.INF" then
      some (0x8000000000000000 ||| Decimal.Binary.infinityBits)
    else if s == ".nan" || s == ".NaN" || s == ".NAN" then some Decimal.nanBits
    else
      match Decimal.readFloat u with
      | some b => if Decimal.Binary.isSpecial b then none else some b
      | none => none

/-- The reading of a plain scalar without a tag. -/
def resolvePlain (s : String) : Resolved :=
  if s.isEmpty || isNullWord s then .null
  else match boolWord s with
    | some b => .bool b
    | none =>
      match unsignedWord s with
      | some n => .unsigned n
      | none =>
        match negativeWord s with
        | some i => .signed i
        | none =>
          if !leadingZeroDigits s then
            match floatWord s with
            | some b => .float b
            | none => .text s
          else .text s

/-- Why a tagged scalar does not fit its tag: the text and what the tag wants. -/
structure TagMismatch where
  text : String
  expected : String
deriving DecidableEq, Repr

/-- The reading of a scalar with its style and tag. -/
def resolve (s : String) (plain : Bool) (tag : Option String) : Except TagMismatch Resolved :=
  match tag with
  | some t =>
    if t == coreTag "bool" then
      match boolWord s with
      | some b => .ok (.bool b)
      | none => .error ⟨s, "a boolean"⟩
    else if t == coreTag "int" then
      match unsignedWord s with
      | some n => .ok (.unsigned n)
      | none =>
        match negativeWord s with
        | some i => .ok (.signed i)
        | none => .error ⟨s, "an integer"⟩
    else if t == coreTag "float" then
      match floatWord s with
      | some b => .ok (.float b)
      | none => .error ⟨s, "a float"⟩
    else if t == coreTag "null" then
      if isNullWord s then .ok .null else .error ⟨s, "null"⟩
    else if t.startsWith "!" && plain then .ok (resolvePlain s)
    else .ok (.text s)
  | none => .ok (if plain then resolvePlain s else .text s)

/-- Whether a tag is a local tag naming a variant (`!name`). -/
def localTagName (tag : Option String) : Option String :=
  match tag with
  | some t =>
    if t.startsWith "!" && t.length > 1 then some (t.drop 1).toString else none
  | none => none

end Workflow.Yaml
