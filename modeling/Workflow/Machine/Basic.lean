import Workflow.Path.Filter
/-! # Workflow definitions

A **catalog** maps keys to entries; an entry gives a machine and, optionally, a display
name.  A **machine** names its first state (`startAt`) and holds its states by name.  A
**state** has a kind and the fields its kind uses:

* data flow: the input filter, parameter template, result placement and output filter;
* transitions: `next`, `isEnd`, retry rules and catch rules;
* task work: a service `resource`, a `handler` name and environment variables;
* `result` for Pass, the four duration fields for Wait, rules and a default for Choice,
  an error name and cause for Fail, branches for Parallel.

Lookups by name keep the order a reader would expect: `Catalog.find` looks for a display
name first, in key order, then for a key; `Catalog.findByArn` uses the text after the last
`:` of a resource name.
-/

namespace Workflow

open Json

/-- The kind of a state; a kind name that is not known reads as `unknown`. -/
inductive StateKind where
  | task
  | pass
  | wait
  | choice
  | succeed
  | fail
  | parallel
  | unknown
deriving DecidableEq, Repr, Inhabited

namespace StateKind

/-- The kind a name stands for. -/
def ofName : String → StateKind
  | "Task" => .task
  | "Pass" => .pass
  | "Wait" => .wait
  | "Choice" => .choice
  | "Succeed" => .succeed
  | "Fail" => .fail
  | "Parallel" => .parallel
  | _ => .unknown

/-- The name of a kind. -/
def name : StateKind → String
  | .task => "Task"
  | .pass => "Pass"
  | .wait => "Wait"
  | .choice => "Choice"
  | .succeed => "Succeed"
  | .fail => "Fail"
  | .parallel => "Parallel"
  | .unknown => "Unknown"

end StateKind

/-- The error name that every rule list accepts. -/
def errorAll : String := "States.ALL"

/-- The error name that stands for any task failure. -/
def errorTaskFailed : String := "States.TaskFailed"

/-- Whether an error-name list accepts an error: no list accepts all, and a list accepts
its own names, `States.ALL` and `States.TaskFailed` accepting any. -/
def acceptsError (errorEquals : Option (List String)) (name : String) : Bool :=
  match errorEquals with
  | none => true
  | some names => names.any (fun n => n == errorAll || n == errorTaskFailed || n == name)

/-- When and how often a failed task is tried again. -/
structure RetryRule where
  errorEquals : Option (List String) := none
  maxAttempts : Option Nat := none
  intervalSeconds : Option UInt64 := none
  backoffRate : Option UInt64 := none
deriving DecidableEq, Repr, Inhabited

/-- How many attempts a retry rule allows when it does not say. -/
def defaultMaxAttempts : Nat := 3

/-- The attempts a retry rule allows. -/
def RetryRule.attempts (r : RetryRule) : Nat := r.maxAttempts.getD defaultMaxAttempts

/-- Where a failed task goes when its retries are spent. -/
structure CatchRule where
  errorEquals : Option (List String) := none
  next : String := ""
  resultPath : PathSpec := .omitted
deriving DecidableEq, Repr, Inhabited

/-- One state of a machine. -/
structure State where
  kind : StateKind := .unknown
  comment : Option String := none
  inputPath : PathSpec := .omitted
  parameters : Option Value := none
  resultPath : PathSpec := .omitted
  outputPath : PathSpec := .omitted
  next : Option String := none
  isEnd : Bool := false
  retriers : List RetryRule := []
  catchers : List CatchRule := []
  resource : Option String := none
  handler : Option String := none
  environment : List (String × String) := []
  result : Option Value := none
  seconds : Option Value := none
  secondsPath : Option String := none
  timestamp : Option String := none
  timestampPath : Option String := none
  choices : List Value := []
  defaultState : Option String := none
  failError : Option String := none
  failCause : Option String := none
  branches : List Value := []
deriving DecidableEq, Repr, Inhabited

namespace State

/-- A state ends the run when it says so or is a Succeed or Fail state. -/
def isTerminal (s : State) : Bool := s.isEnd || s.kind == .succeed || s.kind == .fail

/-- Task, Pass and Parallel states produce a result that result placement puts in place. -/
def producesResult (s : State) : Bool := s.kind == .task || s.kind == .pass || s.kind == .parallel

/-- The handler a task calls: its `handler`, else its `resource`. -/
def handlerName (s : State) : Option String := s.handler.orElse fun _ => s.resource

/-- The first retry rule that accepts an error, with its position. -/
def retrierFor (s : State) (name : String) : Option (Nat × RetryRule) :=
  (s.retriers.zipIdx.find? (fun (r, _) => acceptsError r.errorEquals name)).map (fun (r, i) => (i, r))

/-- The first catch rule that accepts an error, with its position. -/
def catcherFor (s : State) (name : String) : Option (Nat × CatchRule) :=
  (s.catchers.zipIdx.find? (fun (c, _) => acceptsError c.errorEquals name)).map (fun (c, i) => (i, c))

end State

/-- A machine: its first state and its states by name, in name order. -/
structure Machine where
  startAt : String := ""
  states : List (String × State) := []
  comment : Option String := none
deriving DecidableEq, Repr, Inhabited

namespace Machine

/-- The state with a name. -/
def state? (m : Machine) (name : String) : Option State :=
  (m.states.find? (fun p => p.1 == name)).map Prod.snd

/-- Whether a name is a state of the machine. -/
def hasState (m : Machine) (name : String) : Bool := m.states.any (fun p => p.1 == name)

end Machine

/-- A machine and, optionally, a display name. -/
structure CatalogEntry where
  name : Option String := none
  machine : Machine := {}
deriving DecidableEq, Repr, Inhabited

/-- Machines by key, in key order. -/
structure Catalog where
  entries : List (String × CatalogEntry) := []
deriving DecidableEq, Repr, Inhabited

namespace Catalog

/-- The keys, in order. -/
def keys (c : Catalog) : List String := c.entries.map Prod.fst

/-- The entry whose display name is `name`, else the entry with key `name`. -/
def find (c : Catalog) (name : String) : Option (String × CatalogEntry) :=
  (c.entries.find? (fun p => p.2.name == some name)).orElse fun _ =>
    c.entries.find? (fun p => p.1 == name)

/-- The text after the last `:`, or all of it. -/
def lastSegment (arn : String) : String :=
  String.ofList ((arn.toList.reverse.takeWhile (· != ':')).reverse)

/-- The entry a resource name points to, by the text after its last `:`. -/
def findByArn (c : Catalog) (arn : String) : Option (String × CatalogEntry) :=
  c.find (lastSegment arn)

end Catalog

end Workflow
