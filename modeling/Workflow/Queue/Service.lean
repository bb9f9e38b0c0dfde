import Workflow.Queue.Memory
import Workflow.Task.Registry
/-! # The send-message service

The built-in service `arn:aws:states:::sqs:sendMessage` reads a message request from the
effective input and hands it to a transport, which answers with the message's identifier;
the task's result is `{"MessageId": id}`.  A memory queue is one such transport.
-/

namespace Workflow

open Json

/-- The resource of the send-message service. -/
def sendMessageResource : String := "arn:aws:states:::sqs:sendMessage"

/-- The journal target of the built-in services. -/
def serviceTarget : String := "stately_engine::service"

/-- Something that delivers messages to queues and names each one. -/
structure Transport (σ : Type) where
  send : SendRequest → StateM σ (Except TaskError String)

namespace Transport

variable {σ : Type} [Journal σ]

/-- The send-message service over a transport. -/
def service (t : Transport σ) : Service σ where
  resource := sendMessageResource
  call input :=
    match SendRequest.ofInput input with
    | .error e => return .error e
    | .ok request => do
      match ← t.send request with
      | .error e => return .error e
      | .ok id =>
        say ⟨.info, serviceTarget, "Sent queue message",
          [("queue_url", request.queueUrl), ("message_id", id)]⟩
        return .ok (.obj [("MessageId", .str id)])

end Transport

/-- The memory queue held in a world, as a transport. -/
def MemoryQueue.transport {σ : Type} [Journal σ] (view : σ → MemoryQueue)
    (update : MemoryQueue → σ → σ) : Transport σ where
  send request := do
    let q := view (← get)
    let id := MemoryQueue.messageId q.accepted
    say ⟨.debug, serviceTarget, "Queued message in memory",
      [("queue_url", request.queueUrl), ("message_id", id)]⟩
    if q.isFull request.queueUrl then
      say ⟨.warn, serviceTarget, "In-memory queue full, dropped oldest message",
        [("queue_url", request.queueUrl), ("capacity", toString q.capacity)]⟩
    modify (update (q.push request))
    return .ok id

end Workflow
