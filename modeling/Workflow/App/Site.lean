import Workflow.Task.Registry
import Workflow.Task.Command
import Workflow.Queue.Service
import Workflow.Config.Basic
/-! # The site of a command

What a command of the program works on: the host (files, environment, working directory),
the wall clock in milliseconds since 1970, the memory queue that queue messages go to, and
the journal of what was said, each event with the time it was said at.

The registry of a configuration has a command handler for every configured handler, each
checked first in name order, and the send-message service over the configured transport:
the memory queue, or HTTP, which reaches no queue from here, so that every send fails the
way a refused connection does.
-/

namespace Workflow

open Json

/-- What a command works on. -/
structure Site where
  host : Host
  /-- The wall clock, in milliseconds since 1970. -/
  clock : Int
  queue : MemoryQueue := MemoryQueue.empty
  /-- What was said, with the time it was said at. -/
  journal : Array (Int × Event) := #[]
  /-- What the command printed on its output. -/
  out : String := ""
deriving Inhabited

instance : Journal Site := ⟨fun e s => { s with journal := s.journal.push (s.clock, e) }⟩

namespace Site

/-- Let time pass. -/
def advance (ms : Nat) : StateM Site Unit := modify fun s => { s with clock := s.clock + ms }

/-- The time. -/
def now : StateM Site Int := do return (← get).clock

/-- Print text on the command's output. -/
def print (text : String) : StateM Site Unit := modify fun s => { s with out := s.out ++ text }

end Site

/-- The journal target of the program's commands. -/
def commandsTarget : String := "stately::commands"

/-- A command handler run on the site: the program runs on the site's host, what it said
goes into the journal, and the clock moves on by the time it ran. -/
def CommandHandler.onSite (c : CommandHandler) : Handler Site :=
  ⟨c.name, fun input inv => do
    let r := c.call (← get).host input inv
    for e in r.events do say e
    Site.advance r.elapsedMs
    return r.result⟩

/-- A URL as an HTTP client writes it back: scheme and host in lower case, and a path of at
least `/`; none when it is not an HTTP URL. -/
def normalUrl (url : String) : Option String :=
  let lower := url.toLower
  let scheme := if lower.startsWith "http://" then some "http://"
    else if lower.startsWith "https://" then some "https://" else none
  scheme.bind fun sc =>
    let rest := (url.drop sc.length).toString
    let (authority, path) := rest.toList.span (fun c => c != '/' && c != '?' && c != '#')
    if authority.isEmpty then none
    else
      let path := String.ofList path
      some (sc ++ (String.ofList authority).toLower ++ (if path.startsWith "/" then path else "/" ++ path))

/-- The HTTP transport as seen from the site, where no queue answers. -/
def httpTransport : Transport Site :=
  ⟨fun req => return .error (.fail "QueueTransportError" (match normalUrl req.queueUrl with
    | some u => "error sending request for url (" ++ u ++ ")"
    | none => "builder error"))⟩

/-- The handler a configured handler entry runs. -/
def Config.Handler.runner (h : Config.Handler) (name : String) : CommandHandler :=
  { name, command := h.command, args := h.args, cwd := h.cwd, env := h.env,
    timeoutMs := h.timeout * 1000 }

/-- The registry a configuration gives, every handler checked first; saying what it holds. -/
def Config.Settings.registry (c : Config.Settings) :
    ExceptT Config.ConfigError (StateM Site) (Registry Site) := do
  let mut reg : Registry Site := {}
  for (name, h) in c.handlers do
    match h.validate name with
    | .error e => throw e
    | .ok () => reg := reg.addHandler (h.runner name).onSite
  let sqs := c.sqsOrDefault
  let transport := match sqs.transport with
    | .memory => MemoryQueue.transport Site.queue (fun q s => { s with queue := q })
    | .http => httpTransport
  if sqs.transport == .memory then
    modify fun s => { s with queue := MemoryQueue.withCapacity sqs.memoryCapacity }
  reg := reg.addService transport.service
  (say ⟨.info, commandsTarget, "Task registry ready",
    [("handlers", quotedList reg.names), ("services", quotedList reg.resources)]⟩ : StateM Site Unit)
  return reg

/-- The invoker of a registry on the site: the site's clock, and waits that let it run. -/
def Registry.onSite (r : Registry Site) : Invoker Site :=
  { call := r.call, now := Site.now, pause := Site.advance }

end Workflow
