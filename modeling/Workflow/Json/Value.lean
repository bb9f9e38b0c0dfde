import Workflow.Decimal.Binary
/-! # JSON values

The data every workflow reads, writes and passes between states.

* **Numbers** keep the distinction the reader makes: an integer literal that fits in
  64 bits (signed or unsigned) stays an exact integer, and everything else is a double,
  stored by its IEEE bits so that values have decidable equality.
* **Objects** are lists of fields kept sorted by key, each key once.  Keys compare by code
  point, which is also their UTF-8 byte order.  `Fields.insert` keeps that invariant, and
  `Fields.ofList` builds an object from fields in reading order, the later of two equal
  keys winning.
-/

namespace Workflow.Json

/-- A number as read: an exact integer in `[-2^63, 2^64)`, or a finite double by its bits. -/
inductive Number where
  | int (i : Int)
  | float (bits : UInt64)
deriving DecidableEq, Repr, Inhabited

/-- A JSON value.  `obj` holds its fields sorted by key, each key once. -/
inductive Value where
  | null
  | bool (b : Bool)
  | num (n : Number)
  | str (s : String)
  | arr (items : List Value)
  | obj (fields : List (String × Value))
deriving Repr, Inhabited

namespace Value

mutual
/-- Equality of values is decidable, through their lists of items and fields. -/
def decEq : (a b : Value) → Decidable (a = b)
  | .null, .null => isTrue rfl
  | .bool x, .bool y =>
    if h : x = y then isTrue (h ▸ rfl) else isFalse (fun e => by cases e; exact h rfl)
  | .num x, .num y =>
    if h : x = y then isTrue (h ▸ rfl) else isFalse (fun e => by cases e; exact h rfl)
  | .str x, .str y =>
    if h : x = y then isTrue (h ▸ rfl) else isFalse (fun e => by cases e; exact h rfl)
  | .arr xs, .arr ys =>
    match decEqItems xs ys with
    | isTrue h => isTrue (h ▸ rfl)
    | isFalse h => isFalse (fun e => by cases e; exact h rfl)
  | .obj xs, .obj ys =>
    match decEqFields xs ys with
    | isTrue h => isTrue (h ▸ rfl)
    | isFalse h => isFalse (fun e => by cases e; exact h rfl)
  | .null, .bool _ | .null, .num _ | .null, .str _ | .null, .arr _ | .null, .obj _ =>
    isFalse (fun e => by cases e)
  | .bool _, .null | .bool _, .num _ | .bool _, .str _ | .bool _, .arr _ | .bool _, .obj _ =>
    isFalse (fun e => by cases e)
  | .num _, .null | .num _, .bool _ | .num _, .str _ | .num _, .arr _ | .num _, .obj _ =>
    isFalse (fun e => by cases e)
  | .str _, .null | .str _, .bool _ | .str _, .num _ | .str _, .arr _ | .str _, .obj _ =>
    isFalse (fun e => by cases e)
  | .arr _, .null | .arr _, .bool _ | .arr _, .num _ | .arr _, .str _ | .arr _, .obj _ =>
    isFalse (fun e => by cases e)
  | .obj _, .null | .obj _, .bool _ | .obj _, .num _ | .obj _, .str _ | .obj _, .arr _ =>
    isFalse (fun e => by cases e)

/-- Equality of two lists of items. -/
def decEqItems : (a b : List Value) → Decidable (a = b)
  | [], [] => isTrue rfl
  | [], _ :: _ => isFalse (fun e => by cases e)
  | _ :: _, [] => isFalse (fun e => by cases e)
  | x :: xs, y :: ys =>
    match decEq x y, decEqItems xs ys with
    | isTrue h1, isTrue h2 => isTrue (h1 ▸ h2 ▸ rfl)
    | isFalse h1, _ => isFalse (fun e => by cases e; exact h1 rfl)
    | _, isFalse h2 => isFalse (fun e => by cases e; exact h2 rfl)

/-- Equality of two lists of fields. -/
def decEqFields : (a b : List (String × Value)) → Decidable (a = b)
  | [], [] => isTrue rfl
  | [], _ :: _ => isFalse (fun e => by cases e)
  | _ :: _, [] => isFalse (fun e => by cases e)
  | (k, x) :: xs, (l, y) :: ys =>
    if hk : k = l then
      match decEq x y, decEqFields xs ys with
      | isTrue h1, isTrue h2 => isTrue (hk ▸ h1 ▸ h2 ▸ rfl)
      | isFalse h1, _ => isFalse (fun e => by cases e; exact h1 rfl)
      | _, isFalse h2 => isFalse (fun e => by cases e; exact h2 rfl)
    else isFalse (fun e => by cases e; exact hk rfl)
end

instance : DecidableEq Value := decEq

end Value

/-- Fields of an object, sorted by key. -/
abbrev Fields := List (String × Value)

namespace Fields

/-- The value bound to `k`, if any. -/
def get? (fs : Fields) (k : String) : Option Value :=
  (fs.find? (fun p => p.1 == k)).map Prod.snd

/-- Bind `k` to `v`, replacing an earlier binding and keeping the keys sorted. -/
def insert : Fields → String → Value → Fields
  | [], k, v => [(k, v)]
  | (k', v') :: rest, k, v =>
    if k < k' then (k, v) :: (k', v') :: rest
    else if k = k' then (k, v) :: rest
    else (k', v') :: insert rest k v

/-- An object's fields from fields in reading order; of two equal keys the later wins. -/
def ofList (fs : List (String × Value)) : Fields :=
  fs.foldl (fun acc p => Fields.insert acc p.1 p.2) []

/-- The keys, in order. -/
def keys (fs : Fields) : List String := fs.map Prod.fst

end Fields

/-- The object with the given fields, in any order; of two equal keys the later wins. -/
def Value.object (fs : List (String × Value)) : Value := .obj (Fields.ofList fs)

/-- A string value. -/
def Value.ofString (s : String) : Value := .str s

/-- An integer value. -/
def Value.ofInt (i : Int) : Value := .num (.int i)

/-- A natural number as an integer value. -/
def Value.ofNat (n : Nat) : Value := .num (.int n)

/-- The empty object. -/
def Value.emptyObject : Value := .obj []

namespace Number

/-- The double nearest the number (a tie to the even significand); a double is itself. -/
def toFloat : Number → Float
  | .int i => Float.ofBits (Decimal.Binary.roundRatio (i < 0) i.natAbs 1)
  | .float b => Float.ofBits b

/-- Whether the number equals zero, either sign of a double's zero included. -/
def isZero : Number → Bool
  | .int i => i == 0
  | .float b => (b &&& 0x7FFFFFFFFFFFFFFF) == 0

/-- Whether the number is an exact integer. -/
def isInt : Number → Bool
  | .int _ => true
  | .float _ => false

end Number

namespace Value

/-- The field `k` of an object; nothing for any other value. -/
def field? : Value → String → Option Value
  | .obj fs, k => Fields.get? fs k
  | _, _ => none

/-- The item at position `i` of an array; nothing for any other value. -/
def item? : Value → Nat → Option Value
  | .arr xs, i => xs[i]?
  | _, _ => none

/-- Whether the value is `null`. -/
def isNull : Value → Bool
  | .null => true
  | _ => false

/-- The text of a string value. -/
def asString? : Value → Option String
  | .str s => some s
  | _ => none

/-- The truth value of a boolean. -/
def asBool? : Value → Option Bool
  | .bool b => some b
  | _ => none

/-- The fields of an object. -/
def asObject? : Value → Option Fields
  | .obj fs => some fs
  | _ => none

/-- The items of an array. -/
def asArray? : Value → Option (List Value)
  | .arr xs => some xs
  | _ => none

/-- The number, as a double, of a numeric value. -/
def asFloat? : Value → Option Float
  | .num n => some n.toFloat
  | _ => none

/-- A value is falsy when it is `null`, `false`, a number equal to zero or the empty string;
every array and object, empty or not, is truthy. -/
def isFalsy : Value → Bool
  | .null => true
  | .bool b => !b
  | .num n => n.isZero
  | .str s => s.isEmpty
  | _ => false

end Value

end Workflow.Json
