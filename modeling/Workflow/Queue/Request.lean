import Workflow.Task.Basic
/-! # Queue messages

A message request is read from a Task state's effective input: `QueueUrl` must be a text;
`MessageBody` is written as compact JSON text (`null` when absent); `DelaySeconds` and
`MessageAttributes` are kept as they are, and the two identifiers `MessageDeduplicationId`
and `MessageGroupId` are kept as texts, a value other than a text as its JSON text.

A request is sent over the query form: `Action=SendMessage`, the URL, the body, the
optional fields, then each attribute (by name order) as `MessageAttribute.<n>.Name` and
its `DataType`, `StringValue` and `BinaryValue` texts.
-/

namespace Workflow

open Json

/-- A message ready to be handed to a queue. -/
structure SendRequest where
  queueUrl : String
  body : String
  delaySeconds : Option Value := none
  deduplicationId : Option String := none
  groupId : Option String := none
  attributes : Option Value := none
deriving DecidableEq, Repr, Inhabited

namespace SendRequest

/-- A value as text: a text as it is, anything else as its JSON text. -/
def textOf : Value → String
  | .str s => s
  | v => v.render

/-- The request a Task state's input describes. -/
def ofInput (input : Value) : Except TaskError SendRequest :=
  match input.field? "QueueUrl" with
  | some (.str url) =>
    .ok { queueUrl := url
          body := ((input.field? "MessageBody").getD .null).render
          delaySeconds := input.field? "DelaySeconds"
          deduplicationId := (input.field? "MessageDeduplicationId").map textOf
          groupId := (input.field? "MessageGroupId").map textOf
          attributes := input.field? "MessageAttributes" }
  | _ => .error (.fail "InvalidParameterValue" "QueueUrl is required")

/-- The form fields of one attribute, numbered from one. -/
def attributeForm (index : Nat) (name : String) (spec : Value) : List (String × String) :=
  let pre := "MessageAttribute." ++ toString index
  (pre ++ ".Name", name) ::
    ["DataType", "StringValue", "BinaryValue"].filterMap fun field =>
      match spec.field? field with
      | some (.str v) => some (pre ++ ".Value." ++ field, v)
      | _ => none

/-- The query form of the request. -/
def toForm (r : SendRequest) : List (String × String) :=
  let opt (k : String) : Option String → List (String × String)
    | some v => [(k, v)]
    | none => []
  [("Action", "SendMessage"), ("QueueUrl", r.queueUrl), ("MessageBody", r.body)] ++
    opt "DelaySeconds" (r.delaySeconds.map textOf) ++
    opt "MessageDeduplicationId" r.deduplicationId ++
    opt "MessageGroupId" r.groupId ++
    (match r.attributes with
      | some (.obj fs) =>
        (fs.zipIdx.map fun ((name, spec), i) => attributeForm (i + 1) name spec).flatten
      | _ => [])

/-- The request as a value, absent fields left out. -/
def toValue (r : SendRequest) : Value :=
  let opt (k : String) : Option Value → List (String × Value)
    | some v => [(k, v)]
    | none => []
  .obj (opt "DelaySeconds" r.delaySeconds ++
    opt "MessageAttributes" r.attributes ++
    [("MessageBody", .str r.body)] ++
    opt "MessageDeduplicationId" (r.deduplicationId.map .str) ++
    opt "MessageGroupId" (r.groupId.map .str) ++
    [("QueueUrl", .str r.queueUrl)])

end SendRequest

end Workflow
