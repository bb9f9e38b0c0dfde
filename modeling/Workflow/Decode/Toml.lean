import Workflow.Decode.Class
import Workflow.Toml.Parse
/-! # Decoding from a TOML document

The `Decoder` instance for `TomlDecode` reads typed data out of a TOML item.  A fault points
at the item it is about: the innermost item that has a place, or else the key it stands
under, and it lists the keys leading to it from the root.

Integers are 64-bit signed numbers and show as such in faults; a date-time reads as a map;
TOML has no null, so an optional field that is present is always some value.  Tables are
visited in the order they were written; a record may also be read from an array, its items
in field order (items past the last field are ignored).
-/

namespace Workflow.Decode

open Json Toml

/-- Decoding from a TOML item. -/
abbrev TomlDecode := ReaderT Item (Except TomlError)

namespace TomlDecode

/-- Fail with a fault; the place is filled in on the way out. -/
def throwFault {α : Type} (f : Fault) : TomlDecode α := throw ⟨f.message .plain, none, []⟩

/-- How an item is described in a fault. -/
def unexpectedOf : Item → Unexpected
  | .str s _ => .str s
  | .int i _ => .signed i
  | .float b _ => .float b
  | .bool b _ => .bool b
  | .datetime .. => .map
  | .array .. | .tables .. => .seq
  | .inline .. | .table .. => .map

/-- Fail because the item is of the wrong kind. -/
def wrongKind {α : Type} (expected : String) : TomlDecode α := do
  throwFault (.invalidType (unexpectedOf (← read)) expected)

/-- Run a reader on the current item, pointing its faults that have no place at the item. -/
def here {α : Type} (r : TomlDecode α) : TomlDecode α := fun it =>
  match r it with
  | .error e => .error (if e.span.isNone then { e with span := it.span? } else e)
  | ok => ok

/-- Run a reader on the item under a key; its faults without a place point at the item or
else the key, and name the key. -/
def entry {α : Type} (k : Key) (v : Item) (r : TomlDecode α) : TomlDecode α := fun _ =>
  match r v with
  | .error e =>
    let span := if e.span.isNone then v.span?.orElse fun _ => k.span else e.span
    .error { e with span, keys := k.name :: e.keys }
  | ok => ok

/-- Run a reader on each item in turn. -/
def onEach {α : Type} (r : TomlDecode α) : List Item → TomlDecode (List α)
  | [] => pure []
  | v :: vs => do
    let a ← fun _ => r v
    let rest ← onEach r vs
    return a :: rest

/-- The entries of a table-like item. -/
def entriesOf : Item → Option (List (Key × Item))
  | .table es .. | .inline es .. => some es
  | _ => none

/-- The items of an array-like item. -/
def itemsOf : Item → Option (List Item)
  | .array xs _ | .tables xs _ => some xs
  | _ => none

/-- A record from a table's entries, in the order written; unknown keys are skipped. -/
def recordFromEntries {σ α : Type} (spec : RecordSpec TomlDecode σ α) (es : List (Key × Item)) :
    TomlDecode α := do
  let rec loop : List (Key × Item) → σ → List Nat → TomlDecode α
    | [], st, seen =>
      match firstMissing spec.fields spec.required seen with
      | some f => throwFault (.missingField f)
      | none => return spec.build st
    | (k, v) :: rest, st, seen =>
      match fieldIndex spec.fields k.name with
      | some i => do
        let st ← entry k v (spec.read st i)
        loop rest st (i :: seen)
      | none => loop rest st seen
  loop es spec.init []

/-- A record from an array's items, in field order. -/
def recordFromItems {σ α : Type} (spec : RecordSpec TomlDecode σ α) (items : List Item) :
    TomlDecode α := do
  let n := spec.fields.length
  let rec loop : List (String × Nat) → List Item → σ → TomlDecode σ
    | [], _, st => return st
    | (f, i) :: rest, vs, st =>
      match vs with
      | v :: more => do
        let st ← fun _ => spec.read st i v
        loop rest more st
      | [] =>
        if spec.required.contains f then
          throwFault (.invalidLength i (spec.expected ++ " with " ++ toString n ++ " elements"))
        else loop rest [] st
  return spec.build (← loop spec.fields.zipIdx items spec.init)

mutual

/-- An item as a JSON value: tables become objects, date-times their text. -/
def toValue : Item → Value
  | .str s _ => .str s
  | .int i _ => .num (.int i)
  | .float b _ => .num (.float b)
  | .bool b _ => .bool b
  | .datetime t _ => .str t
  | .array xs _ => .arr (itemsValue xs)
  | .tables xs _ => .arr (itemsValue xs)
  | .inline es .. => Value.object (entriesValue es)
  | .table es .. => Value.object (entriesValue es)

/-- Items as JSON values. -/
def itemsValue : List Item → List Value
  | [] => []
  | x :: xs => toValue x :: itemsValue xs

/-- Entries as JSON fields. -/
def entriesValue : List (Key × Item) → List (String × Value)
  | [] => []
  | (k, v) :: es => (k.name, toValue v) :: entriesValue es

end

end TomlDecode

open TomlDecode in
instance : Decoder TomlDecode where
  text expected := here do
    match ← read with
    | .str s _ => return s
    | _ => wrongKind expected
  bool := here do
    match ← read with
    | .bool b _ => return b
    | _ => wrongKind "a boolean"
  unsigned max name := here do
    match ← read with
    | .int i _ =>
      if i < 0 || i.toNat > max then throwFault (.invalidValue (.signed i) name)
      else return i.toNat
    | _ => wrongKind name
  double := here do
    match ← read with
    | .int i _ => return Decimal.Binary.roundRatio (i < 0) i.natAbs 1
    | .float b _ => return b
    | _ => wrongKind "f64"
  value := here do return toValue (← read)
  option inner := here (some <$> inner)
  seq elem := here do
    match itemsOf (← read) with
    | some xs => onEach elem xs
    | none => wrongKind "a sequence"
  map val := here do
    match entriesOf (← read) with
    | some es => es.mapM fun (k, v) => do return (k.name, ← entry k v val)
    | none => wrongKind "a map"
  record spec := here do
    let it ← read
    match entriesOf it, itemsOf it with
    | some es, _ => recordFromEntries spec es
    | _, some xs => recordFromItems spec xs
    | _, _ => wrongKind spec.expected
  unitVariant := here do
    match ← read with
    | .str s _ => return s
    | .inline [] .. => throwFault (.custom "wanted exactly 1 element, found 0 elements")
    | .inline [(k, _)] .. => return k.name
    | .inline .. => throwFault (.custom "wanted exactly 1 element, more than 1 element")
    | .table [] .. => throwFault (.custom "expected table with exactly 1 entry, found empty table")
    | .table ((k, _) :: _) .. => return k.name
    | _ => throwFault (.custom "wanted string or table")
  fault f := throwFault f

/-- Decode a TOML item with a typed reader. -/
def decodeToml {α : Type} (r : TomlDecode α) (it : Item) : Except TomlError α := r it

end Workflow.Decode
