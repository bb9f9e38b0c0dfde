import Workflow.Machine.Basic
import Workflow.Json.Read
/-! # Checking a definition

`Machine.validate` checks that a machine can be run without naming a state it lacks:

1. `StartAt` names a state;
2. then, for each state in name order: its `Next`, its `Default`, each catch rule's `Next`
   and each Choice rule's `Next` (when it is a string) name states; then its kind is
   complete: Task, Pass, Wait and Parallel states need `Next` or `End`, a Choice state
   needs a rule, and a state of unknown kind is refused.

The first defect found is reported.  `Catalog.validate` checks each machine in key order
and names the machine in its report.
-/

namespace Workflow

open Json

/-- The field of a state that names another state. -/
inductive RefField where
  | next
  | defaultState
  | catcher
  | choiceRule
deriving DecidableEq, Repr

/-- The field as reports name it. -/
def RefField.label : RefField → String
  | .next => "Next"
  | .defaultState => "Default"
  | .catcher => "Catch"
  | .choiceRule => "Choice rule"

/-- What makes a definition unrunnable. -/
inductive Defect where
  | startMissing (name : String)
  | dangling (state : String) (field : RefField) (target : String)
  | noTransition (state : String)
  | noRules (state : String)
  | unsupportedKind (state : String)
  | inMachine (key : String) (d : Defect)
deriving DecidableEq, Repr

/-- The words for a defect. -/
def Defect.message : Defect → String
  | .startMissing n => "StartAt '" ++ n ++ "' does not name a state"
  | .dangling s f t => "State '" ++ s ++ "' " ++ f.label ++ " references unknown state '" ++ t ++ "'"
  | .noTransition s => "State '" ++ s ++ "' must have either 'Next' or 'End'"
  | .noRules s => "Choice state '" ++ s ++ "' has no rules"
  | .unsupportedKind s => "State '" ++ s ++ "' has an unsupported Type"
  | .inMachine k d => "State machine '" ++ k ++ "': " ++ d.message

/-- Why a definition could not be loaded or used. -/
inductive DefinitionError where
  | read (path : String) (reason : String)
  | json (e : ReadError)
  | yaml (message : String)
  | invalid (d : Defect)
deriving DecidableEq, Repr

/-- The words for a definition error. -/
def DefinitionError.message : DefinitionError → String
  | .read p r => "Failed to read definition file " ++ p ++ ": " ++ r
  | .json e => "Invalid JSON definition: " ++ e.message
  | .yaml m => "Invalid YAML definition: " ++ m
  | .invalid d => "Invalid state machine: " ++ d.message

/-- The name of the kind of a definition error. -/
def DefinitionError.kind : DefinitionError → String
  | .read .. => "Read"
  | .json .. => "Json"
  | .yaml .. => "Yaml"
  | .invalid .. => "Invalid"

/-- The states that a choice rule list names through string `Next` fields. -/
def ruleTargets (rules : List Value) : List String :=
  rules.filterMap fun r =>
    match r.field? "Next" with
    | some (.str n) => some n
    | _ => none

/-- Every name a state refers to, with the field that holds it, in checking order. -/
def State.references (s : State) : List (RefField × String) :=
  (s.next.toList.map (RefField.next, ·)) ++
    (s.defaultState.toList.map (RefField.defaultState, ·)) ++
    (s.catchers.map (fun c => (RefField.catcher, c.next))) ++
    ((ruleTargets s.choices).map (RefField.choiceRule, ·))

/-- A state's own defect of kind, if any. -/
def State.kindDefect (name : String) (s : State) : Option Defect :=
  match s.kind with
  | .task | .pass | .wait | .parallel =>
    if !s.isEnd && s.next.isNone then some (.noTransition name) else none
  | .choice => if s.choices.isEmpty then some (.noRules name) else none
  | .unknown => some (.unsupportedKind name)
  | _ => none

/-- The first defect of one state in a machine. -/
def Machine.stateDefect (m : Machine) (name : String) (s : State) : Option Defect :=
  match s.references.find? (fun (_, t) => !m.hasState t) with
  | some (f, t) => some (.dangling name f t)
  | none => s.kindDefect name

/-- Insert into a list sorted by code points. -/
def insertSorted (x : String) : List String → List String
  | [] => [x]
  | y :: ys => if x < y then x :: y :: ys else y :: insertSorted x ys

/-- The state names in order. -/
def Machine.sortedNames (m : Machine) : List String :=
  m.states.foldr (fun p acc => insertSorted p.1 acc) []

/-- The first defect of a machine. -/
def Machine.defect? (m : Machine) : Option Defect :=
  if !m.hasState m.startAt then some (.startMissing m.startAt)
  else
    (m.sortedNames.filterMap fun n => (m.state? n).bind (m.stateDefect n)).head?

/-- Check a machine. -/
def Machine.validate (m : Machine) : Except DefinitionError Unit :=
  match m.defect? with
  | some d => .error (.invalid d)
  | none => .ok ()

/-- Check every machine of a catalog, in key order. -/
def Catalog.validate (c : Catalog) : Except DefinitionError Unit :=
  match c.entries.findSome? (fun (k, e) => e.machine.defect?.map (Defect.inMachine k)) with
  | some d => .error (.invalid d)
  | none => .ok ()

end Workflow
