import Workflow.Run.Schedule
import Workflow.Machine.Basic
import Workflow.Decode.Text
import Workflow.Json.Print
import Workflow.App.Address
/-! # The HTTP surface

The server answers two routes:

* `GET /health` (and `HEAD`) reports that it is up, its version and the keys of its machines;
* `POST /` starts a run.  The body is a JSON record with a `stateMachineArn`, whose text after
  the last `:` names the machine (by display name, else by key), an optional `input`, a JSON
  document written as a string (`{}` when left out), and an optional `name`, which is only
  logged.  The run starts at the machine's first state and goes on in the background; the
  answer is at once `{"startDate":…,"executionArn":…}`.

Any other method on these paths is `405` and any other path `404`, both with an empty body.
Binding the server's address fails as binding a socket there does.

A start request must say that its body is JSON: a `Content-Type` whose type is
`application` and whose subtype, or suffix after `+`, is `json`, parameters allowed.  Its
body is read as a path-tracking reader reads it: a fault inside a field names the field.
Faults of syntax are `Failed to parse the request body as JSON: …`, faults of meaning
`Failed to deserialize the JSON body into the target type: …`.  Errors are answered with
`{"code":…,"message":…}`: `bad_request` (400) for the body and the input, `not_found` (404)
for a machine that does not exist.
-/

namespace Workflow

open Json Decode

/-- The version the server reports. -/
def serverVersion : String := "0.0.0"

/-- An HTTP request as the server sees it. -/
structure Request where
  method : String := "POST"
  uri : String := "/"
  /-- The `Content-Type` header; none when the request has none. -/
  contentType : Option String := some "application/json"
  body : String := ""
deriving Repr, Inhabited

/-- An HTTP response. -/
structure Response where
  status : Nat
  /-- The `Content-Type` header; none when the response has none. -/
  contentType : Option String := none
  body : String := ""
deriving DecidableEq, Repr, Inhabited

/-- A response carrying a JSON document. -/
def Response.json (status : Nat) (v : Value) : Response :=
  { status, contentType := some "application/json", body := v.render }

/-- Why the server refused a request. -/
inductive ServerError where
  /-- No machine matches the request. -/
  | notFound (message : String)
  /-- The body or its input cannot be used. -/
  | badRequest (message : String)
  /-- Something went wrong on the server's side. -/
  | internal (message : String)
deriving DecidableEq, Repr, Inhabited

namespace ServerError

/-- The error's words. -/
def message : ServerError → String
  | .notFound m => "Not found: " ++ m
  | .badRequest m => "Bad request: " ++ m
  | .internal m => "Internal error: " ++ m

/-- The status of the error's answer. -/
def status : ServerError → Nat
  | .notFound _ => 404
  | .badRequest _ => 400
  | .internal _ => 500

/-- The status with its reason phrase. -/
def statusLine : ServerError → String
  | .notFound _ => "404 Not Found"
  | .badRequest _ => "400 Bad Request"
  | .internal _ => "500 Internal Server Error"

/-- The code a client can tell the error by. -/
def code : ServerError → String
  | .notFound _ => "not_found"
  | .badRequest _ => "bad_request"
  | .internal _ => "internal_error"

/-- The answer to the error. -/
def response (e : ServerError) : Response :=
  .json e.status (.obj [("code", .str e.code), ("message", .str e.message)])

end ServerError

/-- The journal target of the server's errors. -/
def serverErrorTarget : String := "stately_server::error"

/-- The journal target of the start route. -/
def executionsTarget : String := "stately_server::routes::executions"

section MediaType

/-- Characters that names and unquoted values of a media type are made of. -/
def isTokenChar (c : Char) : Bool :=
  c.isAlphanum || "!#$%&\x27*+-.^_\x60|~".contains c

/-- Characters a quoted parameter value may hold. -/
def isQuotedChar (c : Char) : Bool := c.toNat > 31 && c.toNat != 127

/-- Whether the rest of a media type, after the `;` that ends its subtype, is a list of
parameters: `name=value` separated by `;`, blanks allowed before a name and after a quoted
value, values unquoted or in double quotes. -/
def paramsWellFormed : Nat → List Char → Bool
  | 0, _ => false
  | _ + 1, [] => true
  | fuel + 1, ' ' :: rest => paramsWellFormed fuel rest
  | fuel + 1, cs =>
    let (name, rest) := cs.span isTokenChar
    match rest with
    | '=' :: value =>
      if name.isEmpty then false
      else match value with
        | '"' :: q =>
          match q with
          | [] => false
          | c :: qs =>
            -- an empty quoted value does not end at its second quote
            let (inside, after) := qs.span fun d => d != '"'
            if !(isQuotedChar c && inside.all isQuotedChar) then false
            else match after with
              | [] => false
              | _ :: tail =>
                let (_, more) := tail.span (· == ' ')
                match more with
                | [] => true
                | ';' :: next => paramsWellFormed fuel next
                | _ => false
        | _ =>
          let (v, more) := value.span isTokenChar
          match more with
          | [] => true
          | ';' :: next => if v.isEmpty then false else paramsWellFormed fuel next
          | _ => false
    | _ => false

/-- Whether a `Content-Type` says the body is JSON: a well-formed media type of type
`application` whose subtype, or suffix after its last `+`, is `json`. -/
def isJsonContentType (text : String) : Bool :=
  let cs := text.toList
  if !cs.all (fun c => c == '\t' || (32 ≤ c.toNat && c.toNat ≤ 126)) then false
  else
    let (kind, rest) := cs.span isTokenChar
    match rest with
    | '/' :: sub =>
      if kind.isEmpty then false
      else
        let (subtype, after) := sub.span isTokenChar
        let wellFormed := match after with
          | [] => true
          | ';' :: params => !subtype.isEmpty && paramsWellFormed (params.length + 1) params
          | _ => false
        let lower := fun (xs : List Char) => String.ofList (xs.map Char.toLower)
        -- the suffix starts after the last `+` that is not the subtype's first character
        let plus := (subtype.zipIdx.filter fun (c, i) => c == '+' && i > 0).getLast?.map Prod.snd
        let (name, suffix) := match plus with
          | some i => (subtype.take i, some (subtype.drop (i + 1)))
          | none => (subtype, none)
        wellFormed && lower kind == "application" &&
          (lower name == "json" || (suffix.map lower) == some "json")
    | _ => false

end MediaType

/-- What `POST /` is given. -/
structure StartRequest where
  stateMachineArn : String := ""
  input : Option String := none
  name : Option String := none
deriving DecidableEq, Repr, Inhabited

/-- How to read a start request. -/
def StartRequest.spec : RecordSpec Reader StartRequest StartRequest where
  name := "StartExecutionRequest"
  fields := ["stateMachineArn", "input", "name"]
  required := ["stateMachineArn"]
  init := {}
  read r i := match i with
    | 0 => do return { r with stateMachineArn := ← Decoder.text "a string" }
    | 1 => do return { r with input := ← Decoder.option (Decoder.text "a string") }
    | _ => do return { r with name := ← Decoder.option (Decoder.text "a string") }
  build := id

/-- Read a start request's body, naming the kind of fault as the answer does. -/
def StartRequest.read (body : String) : Except String StartRequest :=
  match decodeText (TextDecode.recordOf true StartRequest.spec) body with
  | .ok r => .ok r
  | .error e =>
    if e.problem.isMeaning then .error ("Failed to deserialize the JSON body into the target type: " ++ e.message)
    else .error ("Failed to parse the request body as JSON: " ++ e.message)

namespace Server

variable {σ : Type} [Journal σ]

/-- Bind the server's address; why it cannot be bound otherwise. -/
def bindTo (addr : SocketAddr) : Except ServerError Unit :=
  addr.bind.mapError fun e => .internal ("Failed to bind " ++ addr.display ++ ": " ++ e.message)

/-- The answer to `GET /health`. -/
def health (catalog : Catalog) : Response :=
  .json 200 (.obj [("status", .str "ok"), ("version", .str serverVersion),
    ("machines", .arr (catalog.keys.map Value.str))])

/-- Start a run from a request: the run's context, or why it was refused. -/
def startRun (catalog : Catalog) (clock : Int) (r : Request) : Except ServerError (Context × String) := do
  let some ct := r.contentType
    | throw (.badRequest "Expected request with \x60Content-Type: application/json\x60")
  if !isJsonContentType ct then
    throw (.badRequest "Expected request with \x60Content-Type: application/json\x60")
  let req ← (StartRequest.read r.body).mapError ServerError.badRequest
  let some (key, entry) := catalog.findByArn req.stateMachineArn
    | throw (.notFound ("state machine \x27" ++ req.stateMachineArn ++ "\x27 does not exist"))
  let input ← match req.input with
    | some raw => (Value.parse raw).mapError fun e => ServerError.badRequest ("input is not valid JSON: " ++ e.message)
    | none => pure (Value.obj [])
  let machineName := entry.name.getD key
  return (Context.start machineName entry.machine entry.machine.startAt input clock, req.name.getD "")

/-- Answer `POST /`, saying what happened; the run it started, if any. -/
def start (catalog : Catalog) (clock : Int) (r : Request) : StateM σ (Response × Option Context) := do
  match startRun catalog clock r with
  | .error e =>
    say ⟨.warn, serverErrorTarget, "Client error",
      [("status", e.statusLine), ("code", e.code), ("error", e.message)]⟩
    return (e.response, none)
  | .ok (ctx, name) =>
    say ⟨.info, executionsTarget, "Execution started",
      [("execution_arn", ctx.arn), ("state_machine", ctx.machineName), ("name", name)]⟩
    return (.json 200 (.obj [("startDate", .num (.int ctx.startMillis)),
      ("executionArn", .str ctx.arn)]), some ctx)

/-- The path of a request target, without its query. -/
def pathOf (uri : String) : String :=
  String.ofList (uri.toList.takeWhile fun c => c != '?' && c != '#')

/-- Answer one request; the run it started, if any. -/
def handle (catalog : Catalog) (clock : Int) (r : Request) : StateM σ (Response × Option Context) :=
  match pathOf r.uri with
  | "/health" =>
    match r.method with
    | "GET" => pure (health catalog, none)
    | "HEAD" => pure ({ health catalog with body := "" }, none)
    | _ => pure ({ status := 405 }, none)
  | "/" =>
    if r.method == "POST" then start catalog clock r
    else pure ({ status := 405 }, none)
  | _ => pure ({ status := 404 }, none)

/-- Answer requests in order; the answers and the runs started, both in order. -/
def handleAll (catalog : Catalog) (clock : Int) :
    List Request → StateM σ (List Response × List Context)
  | [] => pure ([], [])
  | r :: rs => do
    let (resp, started) ← handle catalog clock r
    let (resps, runs) ← handleAll catalog clock rs
    return (resp :: resps, started.toList ++ runs)

/-- How long the background runs are let go on after the requests, in milliseconds. -/
def backgroundHorizon : Nat := 3600000

/-- How many turns the background runs may take together. -/
def backgroundTurns : Nat := 1000000

/-- Answer requests in order, then let the runs they started go on side by side until the
horizon; the answers and the outcomes of the runs that ended. -/
def session (catalog : Catalog) (clock : Int) (invokerAt : Nat → Invoker σ)
    (requests : List Request) : StateM σ (List Response × List Outcome) := do
  let (resps, runs) ← handleAll catalog clock requests
  let outcomes ← Execute.sideBySide invokerAt backgroundHorizon backgroundTurns runs
  return (resps, outcomes)

end Server

end Workflow
