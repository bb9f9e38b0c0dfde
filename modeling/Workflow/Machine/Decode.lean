import Workflow.Machine.Basic
import Workflow.Decode.Class
/-! # Reading definitions

Typed readers for catalogs, machines, states and their rules, written once for every
document format (`Decoder`).  Field names are those of the definition language: capitalised
(`StartAt`, `InputPath`, `Retry`, …) except `handler` and `environment`, and the entry's
`name` and `definition`.

* A path field that is present reads `null` as `PathSpec.null`; left out it stays
  `PathSpec.omitted`.
* An optional value field (`Parameters`, `Result`, `Seconds`) reads `null` as absent.
* `MaxAttempts` must fit in 32 bits; `IntervalSeconds` and `BackoffRate` are doubles.
* A state's `Type` must be present; a machine needs `StartAt` and `States`; an entry needs
  `definition`; a catch rule needs `Next`.
-/

namespace Workflow

open Json Decode

section
variable {m : Type → Type} [Monad m] [Decoder m]

/-- The largest 32-bit unsigned number. -/
def u32Max : Nat := Nat.pow 2 32 - 1

/-- A path field that is present: `null` or a path. -/
def PathSpec.decode : m PathSpec := do
  match ← Decoder.option Decoder.string with
  | some s => return .path s
  | none => return .null

/-- A state's kind, by name. -/
def StateKind.decode : m StateKind := do return StateKind.ofName (← Decoder.unitVariant)

/-- An optional string. -/
def optionalString : m (Option String) := Decoder.option Decoder.string

/-- An optional list of error names. -/
def errorNames : m (Option (List String)) := Decoder.option (Decoder.seq Decoder.string)

/-- How to read a retry rule. -/
def RetryRule.spec : RecordSpec m RetryRule RetryRule where
  name := "RetryRule"
  fields := ["ErrorEquals", "MaxAttempts", "IntervalSeconds", "BackoffRate"]
  required := []
  init := {}
  read r i := match i with
    | 0 => do return { r with errorEquals := ← errorNames }
    | 1 => do return { r with maxAttempts := ← Decoder.option (Decoder.unsigned u32Max "u32") }
    | 2 => do return { r with intervalSeconds := ← Decoder.option Decoder.double }
    | _ => do return { r with backoffRate := ← Decoder.option Decoder.double }
  build := id

/-- How to read a catch rule. -/
def CatchRule.spec : RecordSpec m CatchRule CatchRule where
  name := "CatchRule"
  fields := ["ErrorEquals", "Next", "ResultPath"]
  required := ["Next"]
  init := {}
  read c i := match i with
    | 0 => do return { c with errorEquals := ← errorNames }
    | 1 => do return { c with next := ← Decoder.string }
    | _ => do return { c with resultPath := ← PathSpec.decode }
  build := id

/-- The field names of a state, in order. -/
def State.fieldNames : List String :=
  ["Type", "Comment", "InputPath", "Parameters", "ResultPath", "OutputPath", "Next", "End",
    "Retry", "Catch", "Resource", "handler", "environment", "Result", "Seconds", "SecondsPath",
    "Timestamp", "TimestampPath", "Choices", "Default", "Error", "Cause", "Branches"]

/-- Read the state field with position `i` in `State.fieldNames`. -/
def State.readField (s : State) (i : Nat) : m State :=
  match i with
  | 0 => do return { s with kind := ← StateKind.decode }
  | 1 => do return { s with comment := ← optionalString }
  | 2 => do return { s with inputPath := ← PathSpec.decode }
  | 3 => do return { s with parameters := ← Decoder.option Decoder.value }
  | 4 => do return { s with resultPath := ← PathSpec.decode }
  | 5 => do return { s with outputPath := ← PathSpec.decode }
  | 6 => do return { s with next := ← optionalString }
  | 7 => do return { s with isEnd := ← Decoder.bool }
  | 8 => do return { s with retriers := ← Decoder.seq (Decoder.record RetryRule.spec) }
  | 9 => do return { s with catchers := ← Decoder.seq (Decoder.record CatchRule.spec) }
  | 10 => do return { s with resource := ← optionalString }
  | 11 => do return { s with handler := ← optionalString }
  | 12 => do return { s with environment := ← Decoder.map Decoder.string }
  | 13 => do return { s with result := ← Decoder.option Decoder.value }
  | 14 => do return { s with seconds := ← Decoder.option Decoder.value }
  | 15 => do return { s with secondsPath := ← optionalString }
  | 16 => do return { s with timestamp := ← optionalString }
  | 17 => do return { s with timestampPath := ← optionalString }
  | 18 => do return { s with choices := ← Decoder.seq Decoder.value }
  | 19 => do return { s with defaultState := ← optionalString }
  | 20 => do return { s with failError := ← optionalString }
  | 21 => do return { s with failCause := ← optionalString }
  | _ => do return { s with branches := ← Decoder.seq Decoder.value }

/-- How to read a state. -/
def State.spec : RecordSpec m State State where
  name := "StateDefinition"
  fields := State.fieldNames
  required := ["Type"]
  init := {}
  read := State.readField
  build := id

/-- How to read a machine. -/
def Machine.spec : RecordSpec m Machine Machine where
  name := "StateMachineDefinition"
  fields := ["StartAt", "States", "Comment"]
  required := ["StartAt", "States"]
  init := {}
  read mc i := match i with
    | 0 => do return { mc with startAt := ← Decoder.string }
    | 1 => do return { mc with states := ← Decoder.map (Decoder.record State.spec) }
    | _ => do return { mc with comment := ← optionalString }
  build := id

/-- A machine. -/
def Machine.decode : m Machine := Decoder.record Machine.spec

/-- How to read a catalog entry. -/
def CatalogEntry.spec : RecordSpec m CatalogEntry CatalogEntry where
  name := "StateMachine"
  fields := ["name", "definition"]
  required := ["definition"]
  init := {}
  read e i := match i with
    | 0 => do return { e with name := ← optionalString }
    | _ => do return { e with machine := ← Machine.decode }
  build := id

/-- A catalog: entries by key. -/
def Catalog.decode : m Catalog := do
  return ⟨← Decoder.map (Decoder.record CatalogEntry.spec)⟩

end

end Workflow
