import Workflow.Queue.Request
/-! # Queues in memory

A memory queue keeps messages by queue URL, oldest first, and at most `capacity` of them per
URL (a capacity of zero counts as one): a message sent to a full queue pushes out the oldest
one.  Each accepted message gets a fresh identifier in the form of a version 4 UUID.

After a send, the messages of its URL are the last `capacity` of the earlier ones and the new
one (`messages_push`).
-/

namespace Workflow

/-- How many messages a memory queue keeps per URL unless told otherwise. -/
def defaultQueueCapacity : Nat := 1000

/-- Messages by queue URL, oldest first, at most `capacity` per URL. -/
structure MemoryQueue where
  capacity : Nat
  queues : List (String × List SendRequest) := []
  accepted : Nat := 0
deriving Repr, Inhabited

namespace MemoryQueue

/-- An empty queue keeping at most `capacity` messages per URL; zero counts as one. -/
def withCapacity (capacity : Nat) : MemoryQueue := ⟨max capacity 1, [], 0⟩

/-- An empty queue of the default capacity. -/
def empty : MemoryQueue := withCapacity defaultQueueCapacity

/-- The messages sent to a URL, oldest first. -/
def messages (q : MemoryQueue) (url : String) : List SendRequest :=
  ((q.queues.find? (fun p => p.1 == url)).map Prod.snd).getD []

/-- The messages kept over all URLs. -/
def size (q : MemoryQueue) : Nat := q.queues.foldl (fun acc p => acc + p.2.length) 0

/-- The last `n` items of a list. -/
def keepLast {α : Type} (n : Nat) (xs : List α) : List α := xs.drop (xs.length - n)

/-- Put a list of messages under a URL, in place of any it had. -/
def setQueue (qs : List (String × List SendRequest)) (url : String) (ms : List SendRequest) :
    List (String × List SendRequest) :=
  (url, ms) :: qs.filter (fun p => p.1 != url)

/-- Whether the queue of a URL is full. -/
def isFull (q : MemoryQueue) (url : String) : Bool := (q.messages url).length ≥ q.capacity

/-- The queue after a message is accepted, the oldest of a full queue dropped. -/
def push (q : MemoryQueue) (r : SendRequest) : MemoryQueue :=
  { q with queues := setQueue q.queues r.queueUrl (keepLast q.capacity (q.messages r.queueUrl ++ [r])),
           accepted := q.accepted + 1 }

/-- The last `width` hexadecimal digits of a number, with leading zeros. -/
def hex (width : Nat) (n : Nat) : String :=
  let ds := Nat.toDigits 16 (n % Nat.pow 16 width)
  String.ofList (List.replicate (width - ds.length) '0' ++ ds)

/-- The identifier of the `n`-th accepted message, shaped as a version 4 UUID. -/
def messageId (n : Nat) : String :=
  let x := ((n + 1) * 0x9E3779B97F4A7C15F39CC0605CEDC835) % Nat.pow 2 128
  hex 8 (x / Nat.pow 2 96) ++ "-" ++ hex 4 (x / Nat.pow 2 80) ++ "-4" ++ hex 3 (x / Nat.pow 2 68) ++ "-" ++
    hex 1 (8 + (x / Nat.pow 2 64) % 4) ++ hex 3 (x / Nat.pow 2 52) ++ "-" ++ hex 12 x

/-- A URL's messages are the ones last put under it. -/
theorem messages_setQueue_self (c a : Nat) (qs : List (String × List SendRequest)) (url : String)
    (ms : List SendRequest) : messages ⟨c, setQueue qs url ms, a⟩ url = ms := by
  simp [messages, setQueue]

/-- After a send, a URL keeps the last `capacity` of its earlier messages and the new one. -/
theorem messages_push (q : MemoryQueue) (r : SendRequest) :
    (q.push r).messages r.queueUrl = keepLast q.capacity (q.messages r.queueUrl ++ [r]) :=
  messages_setQueue_self _ _ _ _ _

end MemoryQueue

end Workflow
