import Workflow.Decode.Class
import Workflow.Json.Read
/-! # Decoding from a JSON value

The `Decoder` instance for `TreeDecode` reads typed data out of a `Value` that was read
before.  Its faults carry no place.  Objects are visited in key order, so a value cannot
give a field twice; a record read from an array must use every item
("fewer elements in array" otherwise).
-/

namespace Workflow.Decode

open Json

/-- Decoding from a value already read. -/
abbrev TreeDecode := ReaderT Value (Except ReadError)

namespace TreeDecode

/-- Fail with a fault, without a place. -/
def throwFault {α : Type} (f : Fault) : TreeDecode α := throw ⟨.custom (f.message .json), none⟩

/-- Fail because the value is of the wrong kind. -/
def wrongKind {α : Type} (expected : String) : TreeDecode α := do
  throwFault (.invalidType (.ofValue (← read)) expected)

/-- Run a reader on another value. -/
def on {α : Type} (v : Value) (r : TreeDecode α) : TreeDecode α := fun _ => r v

/-- Run a reader on each value in turn. -/
def onEach {α : Type} (r : TreeDecode α) : List Value → TreeDecode (List α)
  | [] => pure []
  | v :: vs => do
    let a ← on v r
    let rest ← onEach r vs
    return a :: rest

/-- A record from an object's fields, visited in key order. -/
def recordFromFields {σ α : Type} (spec : RecordSpec TreeDecode σ α) (fs : Fields) :
    TreeDecode α := do
  let rec loop : List (String × Value) → σ → List Nat → TreeDecode α
    | [], st, seen =>
      match firstMissing spec.fields spec.required seen with
      | some f => throwFault (.missingField f)
      | none => return spec.build st
    | (k, v) :: rest, st, seen =>
      match fieldIndex spec.fields k with
      | some i => do
        let st ← on v (spec.read st i)
        loop rest st (i :: seen)
      | none => loop rest st seen
  loop fs spec.init []

/-- A record from an array's items, in field order. -/
def recordFromItems {σ α : Type} (spec : RecordSpec TreeDecode σ α) (items : List Value) :
    TreeDecode α := do
  let n := spec.fields.length
  let rec loop : List (String × Nat) → List Value → σ → TreeDecode (σ × List Value)
    | [], vs, st => return (st, vs)
    | (f, i) :: rest, vs, st =>
      match vs with
      | v :: more => do
        let st ← on v (spec.read st i)
        loop rest more st
      | [] =>
        if spec.required.contains f then
          throwFault (.invalidLength i (spec.expected ++ " with " ++ toString n ++ " elements"))
        else loop rest [] st
  let (st, left) ← loop spec.fields.zipIdx items spec.init
  if left.isEmpty then return spec.build st
  else throwFault (.invalidLength items.length "fewer elements in array")

end TreeDecode

open TreeDecode in
instance : Decoder TreeDecode where
  text expected := do
    match ← read with
    | .str s => return s
    | _ => wrongKind expected
  bool := do
    match ← read with
    | .bool b => return b
    | _ => wrongKind "a boolean"
  unsigned max name := do
    match ← read with
    | .num (.int i) =>
      if i < 0 then throwFault (.invalidValue (.signed i) name)
      else if i.toNat > max then throwFault (.invalidValue (.unsigned i.toNat) name)
      else return i.toNat
    | .num (.float b) => throwFault (.invalidType (.float b) name)
    | _ => wrongKind name
  double := do
    match ← read with
    | .num (.int i) => return Decimal.Binary.roundRatio (i < 0) i.natAbs 1
    | .num (.float b) => return b
    | _ => wrongKind "f64"
  value := read
  option inner := do
    match ← read with
    | .null => return none
    | _ => some <$> inner
  seq elem := do
    match ← read with
    | .arr xs => onEach elem xs
    | _ => wrongKind "a sequence"
  map val := do
    match ← read with
    | .obj fs => do
      let vs ← onEach val (fs.map Prod.snd)
      return (fs.map Prod.fst).zip vs
    | _ => wrongKind "a map"
  record spec := do
    match ← read with
    | .obj fs => recordFromFields spec fs
    | .arr xs => recordFromItems spec xs
    | _ => wrongKind spec.expected
  unitVariant := do
    match ← read with
    | .str s => return s
    | .obj [(name, v)] =>
      match v with
      | .null => return name
      | _ => throwFault (.invalidType (.ofValue v) "unit")
    | .obj _ => throwFault (.invalidValue .map "map with a single key")
    | v => throwFault (.invalidType (.ofValue v) "string or map")
  fault f := throwFault f

/-- Decode a value with a typed reader. -/
def decodeValue {α : Type} (r : TreeDecode α) (v : Value) : Except ReadError α := r v

end Workflow.Decode
