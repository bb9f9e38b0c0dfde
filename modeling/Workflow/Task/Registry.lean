import Workflow.Run.Execute
/-! # Registries of services and handlers

The outside world of a run, assembled from parts: services by resource and handlers by
name.  Registering a service or handler replaces any earlier one under the same key.  The
invoker of a registry sends a service call to the service of its resource and a handler
call to the handler of its name; a call to a key that nothing answers to fails with
`UnknownServiceError` or `UnknownHandlerError`.
-/

namespace Workflow

open Json

/-- A built-in service: the resource it answers to and what it does with an input. -/
structure Service (σ : Type) where
  resource : String
  call : Value → StateM σ (Except TaskError Value)

/-- A handler: its name and what it does with an input and the invocation facts. -/
structure Handler (σ : Type) where
  name : String
  handle : Value → Invocation → StateM σ (Except TaskError Value)

/-- Services and handlers, the latest registration of a key first. -/
structure Registry (σ : Type) where
  services : List (Service σ) := []
  handlers : List (Handler σ) := []

/-- The journal target of task dispatch. -/
def invokerTarget : String := "stately_engine::invoker"

/-- The debugging text of a run loop, which shows none of its parts. -/
def executorDebugText : String := "Executor \x7b .. \x7d"

/-- Texts in order. -/
def sortTexts (xs : List String) : List String := xs.mergeSort (fun a b => decide (a ≤ b))

/-- Texts as a bracketed list of quoted texts. -/
def quotedList (xs : List String) : String :=
  "[" ++ ", ".intercalate (xs.map quoted) ++ "]"

namespace Registry

variable {σ : Type}

/-- The registry with a service added, replacing one for the same resource. -/
def addService (r : Registry σ) (s : Service σ) : Registry σ :=
  { r with services := s :: r.services.filter (fun t => t.resource != s.resource) }

/-- The registry with a handler added, replacing one of the same name. -/
def addHandler (r : Registry σ) (h : Handler σ) : Registry σ :=
  { r with handlers := h :: r.handlers.filter (fun t => t.name != h.name) }

/-- The service for a resource. -/
def service? (r : Registry σ) (resource : String) : Option (Service σ) :=
  r.services.find? (fun s => s.resource == resource)

/-- The handler with a name. -/
def handler? (r : Registry σ) (name : String) : Option (Handler σ) :=
  r.handlers.find? (fun h => h.name == name)

/-- The registered resources, in order. -/
def resources (r : Registry σ) : List String := sortTexts (r.services.map Service.resource)

/-- The registered handler names, in order. -/
def names (r : Registry σ) : List String := sortTexts (r.handlers.map Handler.name)

/-- The registry as its debugging text shows it. -/
def debugText (r : Registry σ) : String :=
  "RegistryInvoker \x7b services: " ++ quotedList r.resources ++ ", handlers: " ++
    quotedList r.names ++ " \x7d"

/-- Answer a task call from the registry. -/
def call [Journal σ] (r : Registry σ) : TaskCall → StateM σ (Except TaskError Value)
  | .service resource input =>
    match r.service? resource with
    | none => return .error (.unknownService resource)
    | some s => do
      say ⟨.debug, invokerTarget, "Invoking service integration", [("resource", quoted resource)]⟩
      s.call input
  | .handler name input invocation =>
    match r.handler? name with
    | none => return .error (.unknownHandler name)
    | some h => do
      say ⟨.debug, invokerTarget, "Invoking handler",
        [("handler", quoted name), ("execution_arn", invocation.executionArn)]⟩
      h.handle input invocation

/-- The invoker of a registry, with a clock, and a wait that does nothing. -/
def invoker [Journal σ] (r : Registry σ) (now : StateM σ Int) : Invoker σ :=
  { call := r.call, now }

end Registry

end Workflow
