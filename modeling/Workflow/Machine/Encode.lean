import Workflow.Machine.Basic
/-! # Writing definitions back as JSON

`Catalog.toValue` gives the JSON form of a catalog, the form the readers of
`Machine.Decode` accept.  A field is written only when it carries something: absent
options, empty lists and maps, and path fields left out are not written, while a path
field set to `null` is written as `null`.  `End` is always written.  Doubles stay doubles
(`1.0`, not `1`).
-/

namespace Workflow

open Json

/-- A field when it is present. -/
def optField (k : String) : Option Value → List (String × Value)
  | some v => [(k, v)]
  | none => []

/-- A path field unless it was left out. -/
def pathField (k : String) : PathSpec → List (String × Value)
  | .omitted => []
  | p => [(k, p.toValue)]

/-- A list field unless it is empty. -/
def listField (k : String) (xs : List Value) : List (String × Value) :=
  if xs.isEmpty then [] else [(k, .arr xs)]

/-- A list of strings as a JSON array. -/
def stringsValue (xs : List String) : Value := .arr (xs.map .str)

/-- The JSON form of a retry rule. -/
def RetryRule.toValue (r : RetryRule) : Value :=
  Value.object (optField "ErrorEquals" (r.errorEquals.map stringsValue) ++
    optField "MaxAttempts" (r.maxAttempts.map Value.ofNat) ++
    optField "IntervalSeconds" (r.intervalSeconds.map (fun b => .num (.float b))) ++
    optField "BackoffRate" (r.backoffRate.map (fun b => .num (.float b))))

/-- The JSON form of a catch rule. -/
def CatchRule.toValue (c : CatchRule) : Value :=
  Value.object (optField "ErrorEquals" (c.errorEquals.map stringsValue) ++
    [("Next", .str c.next)] ++ pathField "ResultPath" c.resultPath)

/-- The JSON form of a state. -/
def State.toValue (s : State) : Value :=
  Value.object ([("Type", .str s.kind.name)] ++
    optField "Comment" (s.comment.map .str) ++
    pathField "InputPath" s.inputPath ++
    optField "Parameters" s.parameters ++
    pathField "ResultPath" s.resultPath ++
    pathField "OutputPath" s.outputPath ++
    optField "Next" (s.next.map .str) ++
    [("End", .bool s.isEnd)] ++
    listField "Retry" (s.retriers.map RetryRule.toValue) ++
    listField "Catch" (s.catchers.map CatchRule.toValue) ++
    optField "Resource" (s.resource.map .str) ++
    optField "handler" (s.handler.map .str) ++
    (if s.environment.isEmpty then []
      else [("environment", Value.object (s.environment.map (fun (k, v) => (k, .str v))))]) ++
    optField "Result" s.result ++
    optField "Seconds" s.seconds ++
    optField "SecondsPath" (s.secondsPath.map .str) ++
    optField "Timestamp" (s.timestamp.map .str) ++
    optField "TimestampPath" (s.timestampPath.map .str) ++
    listField "Choices" s.choices ++
    optField "Default" (s.defaultState.map .str) ++
    optField "Error" (s.failError.map .str) ++
    optField "Cause" (s.failCause.map .str) ++
    listField "Branches" s.branches)

/-- The JSON form of a machine. -/
def Machine.toValue (m : Machine) : Value :=
  Value.object ([("StartAt", .str m.startAt),
    ("States", Value.object (m.states.map (fun (k, s) => (k, s.toValue))))] ++
    optField "Comment" (m.comment.map .str))

/-- The JSON form of a catalog entry. -/
def CatalogEntry.toValue (e : CatalogEntry) : Value :=
  Value.object (optField "name" (e.name.map .str) ++ [("definition", e.machine.toValue)])

/-- The JSON form of a catalog. -/
def Catalog.toValue (c : Catalog) : Value :=
  Value.object (c.entries.map (fun (k, e) => (k, e.toValue)))

end Workflow
