import Workflow.Decode.Fault
/-! # Decoders

A `Decoder` reads typed data from a document, whatever its format.  Typed readers (for a
state, a config section, …) are written once against this interface and run on every
format that has an instance: JSON text, JSON values already read, and YAML documents.

Records are described by a `RecordSpec`: the record's name, its fields in order, which of
them must be present, a value of partly filled slots, how to read one field into the slots
and how to build the record from them.  An instance reads a record either from a map (each
key once; unknown keys skipped; a key given twice is `duplicateField`; a required field
left out is `missingField`, the first in field order) or, where the format allows it, from
a sequence holding the fields in order (a sequence too short for a required field is
`invalidLength`).
-/

namespace Workflow.Decode

open Json

/-- How to read one record type. -/
structure RecordSpec (m : Type → Type) (σ α : Type) where
  /-- The record's name, as faults show it (`struct Name`). -/
  name : String
  /-- Field names in order. -/
  fields : List String
  /-- The fields that must be present. -/
  required : List String
  /-- No field read yet. -/
  init : σ
  /-- Read the field with this position in `fields` into the slots. -/
  read : σ → Nat → m σ
  /-- The record from its slots, defaults for what was not read. -/
  build : σ → α

/-- What a record reader expects, as faults show it. -/
def RecordSpec.expected {m : Type → Type} {σ α : Type} (r : RecordSpec m σ α) : String :=
  "struct " ++ r.name

/-- Reading typed data from a document. -/
class Decoder (m : Type → Type) where
  /-- A string; `expected` names it in faults (`a string`, `path string`). -/
  text (expected : String) : m String
  /-- A boolean. -/
  bool : m Bool
  /-- A natural number at most `max`, named `name` in faults (`u16`, `u32`, `u64`). -/
  unsigned (max : Nat) (name : String) : m Nat
  /-- A double, by its bits. -/
  double : m UInt64
  /-- Any value. -/
  value : m Value
  /-- An optional value: `null` is none. -/
  option {α : Type} : m α → m (Option α)
  /-- A sequence. -/
  seq {α : Type} : m α → m (List α)
  /-- A map with string keys; of two equal keys the later wins. -/
  map {α : Type} : m α → m (List (String × α))
  /-- A record. -/
  record {σ α : Type} : RecordSpec m σ α → m α
  /-- The name of a variant that carries nothing. -/
  unitVariant : m String
  /-- Fail with a fault. -/
  fault {α : Type} : Fault → m α

/-- A string. -/
def Decoder.string {m : Type → Type} [Decoder m] : m String := Decoder.text "a string"

/-- A field name's position among the fields. -/
def fieldIndex (fields : List String) (k : String) : Option Nat := fields.idxOf? k

/-- The first required field that was not seen. -/
def firstMissing (fields required : List String) (seen : List Nat) : Option String :=
  (fields.zipIdx.find? (fun (f, i) => required.contains f && !seen.contains i)).map Prod.fst

end Workflow.Decode
