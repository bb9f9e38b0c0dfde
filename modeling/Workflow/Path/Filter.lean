import Workflow.Path.Update
/-! # The data filters of a state

A state reshapes the data that passes through it in four places, each set by a field of
the state:

* the **input filter** (`InputPath`) picks what the state's work receives;
* the **parameter template** (`Parameters`) rebuilds that from a template whose fields
  ending in `.$` are paths into it;
* **result placement** (`ResultPath`) puts the work's result into the state's input;
* the **output filter** (`OutputPath`) picks what leaves the state.

A path field can be left out, set to `null`, or set to a path (`PathSpec`); left out it
acts as `$`.  The filters differ in what `null` means: the input and output filters give
`{}`, result placement keeps the input and drops the result.
-/

namespace Workflow

open Json

/-- A path field of a state: left out, set to `null`, or set to a path's text. -/
inductive PathSpec where
  | omitted
  | null
  | path (text : String)
deriving DecidableEq, Repr, Inhabited

namespace PathSpec

/-- The path a field stands for: `$` when left out, none when `null`. -/
def effective : PathSpec → Option String
  | .omitted => some "$"
  | .null => none
  | .path p => some p

/-- Whether the field was left out. -/
def isOmitted : PathSpec → Bool
  | .omitted => true
  | _ => false

/-- The field as it is written back: `$` when left out, `null`, or the path's text. -/
def toValue : PathSpec → Value
  | .omitted => .str "$"
  | .null => .null
  | .path p => .str p

/-- The field as text: `$`, `null`, or the path. -/
def display : PathSpec → String
  | .omitted => "$"
  | .null => "null"
  | .path p => p

end PathSpec

/-- What the state's work receives: `{}` for `null`, else the selection, which must exist.
A `null` input is read as `{}`. -/
def inputFilter (input : Value) (spec : PathSpec) : Except PathError Value :=
  match spec.effective with
  | none => .ok (.obj [])
  | some path => selectRequired (if input.isNull then .obj [] else input) path

/-- The suffix that marks a template field as a path. -/
def pathSuffix : String := ".$"

/-- The name a template field binds when it ends in `.$`. -/
def templateName? (key : String) : Option String :=
  if key.endsWith pathSuffix then some (String.ofList (key.toList.take (key.length - 2)))
  else none

mutual
/-- A template resolved against an input: a field `k.$` binds `k` to the selection its
path makes, an object field is resolved in turn, any other field is copied.  A value that
is not an object is its own resolution. -/
def resolveTemplate (input : Value) : Value → Except PathError Value
  | .obj fs => do return .obj (← resolveFields input fs [])
  | v => .ok v

/-- The fields of a template resolved in key order into `acc`; a later binding of the same
name replaces an earlier one. -/
def resolveFields (input : Value) : List (String × Value) → Fields → Except PathError Fields
  | [], acc => .ok acc
  | (k, v) :: rest, acc =>
    match templateName? k with
    | some name =>
      match v with
      | .str path => do
        let w ← selectRequired input path
        resolveFields input rest (Fields.insert acc name w)
      | _ => .error (.invalidParameter k)
    | none =>
      match v with
      | .obj fs => do
        let w ← resolveFields input fs []
        resolveFields input rest (Fields.insert acc k (.obj w))
      | _ => resolveFields input rest (Fields.insert acc k v)
end

/-- The effective input after the parameter template, when the state has one. -/
def applyParameters (input : Value) : Option Value → Except PathError Value
  | none => .ok input
  | some template => resolveTemplate input template

/-- The state's input with the result put in place: the result itself when the field is
left out or `$`, the input unchanged for `null`, else the input with the result written at
the path. -/
def placeResult (input : Value) (spec : PathSpec) (result : Value) : Except PathError Value :=
  match spec with
  | .omitted => .ok result
  | .null => .ok input
  | .path text => do
    let p ← Path.parse text
    if p.isRoot then return result else p.set input result

/-- What leaves the state: `{}` for `null`, else the selection, which must exist and not be
falsy. -/
def outputFilter (data : Value) (spec : PathSpec) : Except PathError Value :=
  match spec.effective with
  | none => .ok (.obj [])
  | some path => do
    let p ← Path.parse path
    let selected := if p.isRoot then some data else p.select data
    match selected with
    | some v => if v.isFalsy then throw (.noMatch path) else return v
    | none => throw (.noMatch path)

end Workflow
