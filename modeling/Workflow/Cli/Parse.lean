import Workflow.Cli.Spec
import Workflow.Cli.Similar
/-! # Reading the command line

The words of the command line are read left to right, one command at a time:

* a word that names a subcommand of the current command starts that subcommand (`help`
  instead prints the help of the command its following words name);
* `--` makes every later word a plain word;
* `--long` and `--long=value` name an option by its long name; `-abc` is a cluster of
  short letters, and a letter that takes a value takes the rest of the cluster (after an
  optional `=`) or else the next word;
* any other word is the value of the option waiting for one, or else a word that fits
  nowhere.

An option with a value is checked when the next option is met or the command ends: a path
may not be empty, a port is a whole number from 0 to 65535.  An option may be given once.
When a command ends, the options not given take their value from their variable, if it is
set; then a command that needs a subcommand and was given nothing prints its help as an
error, one given something else says that a subcommand is missing, options given together
that may not be must not be, and the required options must be there.  A subcommand is read
and checked before the command it belongs to is checked.

Errors are written `error: <what>`, then tips, then a usage line, then `For more
information, try '--help'.`; they end the program with status 2.  Help and version are
printed on the output and end it with status 0.
-/

namespace Workflow.Cli

/-- Where an option's value came from. -/
inductive Origin where
  | line
  | env
deriving DecidableEq, Repr, Inhabited

/-- An option given to a command. -/
structure Given where
  id : String
  /-- The value, for an option that takes one. -/
  value : Option String := none
  origin : Origin := .line
deriving DecidableEq, Repr, Inhabited

/-- Reading that ends the program early: what it prints, whether on the output or on the
error output, and its status. -/
structure Early where
  text : String
  toStdout : Bool := false
  code : Nat := 2
deriving DecidableEq, Repr, Inhabited

/-- What the reader knows besides the words: the value of the configuration variable. -/
structure Surroundings where
  configVar : Option String := none
deriving DecidableEq, Repr, Inhabited

/-- An error as it is printed: `error: <message>`, tips, the usage line and the pointer to
the help. -/
def errorText (message : String) (tips : List String) (usage : Option String) : String :=
  let tipText := if tips.isEmpty then "" else "\n" ++ String.join (tips.map fun t => "\n  tip: " ++ t)
  let usageText := match usage with
    | some u => "\n\nUsage: " ++ u
    | none => ""
  "error: " ++ message ++ tipText ++ usageText ++ "\n\nFor more information, try '--help'.\n"

/-- A tip naming similar words of a kind. -/
def similarTip (kind : String) (words : List String) : String :=
  match words with
  | [w] => "a similar " ++ kind ++ " exists: '" ++ w ++ "'"
  | _ => "some similar " ++ kind ++ "s exist: " ++ ", ".intercalate (words.map fun w => "'" ++ w ++ "'")

/-- The error that ends reading. -/
def failWith {α : Type} (message : String) (tips : List String) (usage : Option String) : Except Early α :=
  .error { text := errorText message tips usage }

/-- A whole number as a 64-bit integer reads it: an optional sign, then digits. -/
def readInteger (s : String) : Except String Int :=
  let (negative, digits) := match s.toList with
    | '+' :: rest => (false, rest)
    | '-' :: rest => (true, rest)
    | cs => (false, cs)
  if s.isEmpty then .error "cannot parse integer from empty string"
  else if digits.isEmpty || !digits.all Char.isDigit then .error "invalid digit found in string"
  else
    let n := (String.ofList digits).toNat!
    if negative then
      if n > Nat.pow 2 63 then .error "number too small to fit in target type" else .ok (-(n : Int))
    else if n ≥ Nat.pow 2 63 then .error "number too large to fit in target type" else .ok n

/-- Check a value of an option. -/
def checkValue (o : Opt) (kind : ValueKind) (v : String) : Except Early Unit :=
  match kind with
  | .text => .ok ()
  | .path =>
    if v.isEmpty then failWith ("a value is required for '" ++ o.display ++ "' but none was supplied") [] none
    else .ok ()
  | .port =>
    match readInteger v with
    | .error e => failWith ("invalid value '" ++ v ++ "' for '" ++ o.display ++ "': " ++ e) [] none
    | .ok n =>
      if 0 ≤ n && n ≤ 65535 then .ok ()
      else failWith ("invalid value '" ++ v ++ "' for '" ++ o.display ++ "': " ++ toString n ++
        " is not in 0..=65535") [] none

/-- What reading one command has come to. -/
structure Reading where
  cmd : Cmd
  /-- The options given so far, in the order first given. -/
  given : List Given := []
  /-- The option waiting for its value, with the value once it came. -/
  pending : Option (Opt × List String) := none
  /-- Whether `--` was met. -/
  plain : Bool := false
deriving Repr, Inhabited

namespace Reading

/-- The ids of the options given. -/
def ids (r : Reading) : List String := r.given.map (·.id)

/-- Give an option its values: help and version end reading; an option given twice, or a
value that does not fit, is an error. -/
def react (env : Surroundings) (r : Reading) (o : Opt) (values : List String) (origin : Origin) :
    Except Early Reading :=
  match o.action with
  | .help => .error { text := r.cmd.helpText env.configVar, toStdout := true, code := 0 }
  | .version => .error { text := r.cmd.versionText, toStdout := true, code := 0 }
  | .flag =>
    if r.ids.contains o.id then
      failWith ("the argument '" ++ o.display ++ "' cannot be used multiple times") [] (some r.cmd.helpUsage)
    else .ok { r with given := r.given ++ [{ id := o.id, origin }] }
  | .value _ kind =>
    if r.ids.contains o.id then
      failWith ("the argument '" ++ o.display ++ "' cannot be used multiple times") [] (some r.cmd.helpUsage)
    else
      match values with
      | [] => failWith ("a value is required for '" ++ o.display ++ "' but none was supplied") [] none
      | v :: _ => do
        checkValue o kind v
        return { r with given := r.given ++ [{ id := o.id, value := some v, origin }] }

/-- Settle the option waiting for a value. -/
def settle (env : Surroundings) (r : Reading) : Except Early Reading :=
  match r.pending with
  | none => .ok r
  | some (o, values) => react env { r with pending := none } o values .line

/-- Settle what waits, then give an option its values. -/
def settleThen (env : Surroundings) (r : Reading) (o : Opt) (values : List String) : Except Early Reading := do
  let r ← r.settle env
  react env r o values .line

/-- The error for a word that fits nowhere. -/
def strayWord {α : Type} (r : Reading) (word : String) : Except Early α :=
  let c := r.cmd
  if r.plain && (c.findSub word).isSome then
    failWith ("unexpected argument '" ++ word ++ "' found")
      ["subcommand '" ++ word ++ "' exists; to use it, remove the '--' before it"] (some c.helpUsage)
  else
    match similarTo word (c.subcommands.map Cmd.name) with
    | [] =>
      if c.subcommands.isEmpty then
        failWith ("unexpected argument '" ++ word ++ "' found") [] (some c.helpUsage)
      else failWith ("unrecognized subcommand '" ++ word ++ "'") [] (some c.helpUsage)
    | similar =>
      failWith ("unrecognized subcommand '" ++ word ++ "'") [similarTip "subcommand" similar] (some c.helpUsage)

/-- The error for a long name that names no option: the most similar long name of this
command, else of a subcommand named later on the line. -/
def unknownLong {α : Type} (r : Reading) (name : String) (rest : List String) : Except Early α :=
  let c := r.cmd
  let own := (similarTo name (c.options.map (·.long))).getLast?
  match own with
  | some long =>
    let suggested := ((c.findLong long).map (·.id)).toList
    let used := r.ids ++ suggested.filter (!r.ids.contains ·)
    failWith ("unexpected argument '--" ++ name ++ "' found")
      [similarTip "argument" ["--" ++ long]] (some (c.usage used))
  | none =>
    let fromSubs := c.subcommands.filterMap fun s =>
      match (similarTo name (s.options.map (·.long))).getLast?, rest.idxOf? s.name with
      | some long, some place => some (place, s.name, long)
      | _, _ => none
    let best := fromSubs.foldl (fun acc x => match acc with
      | some y => if x.1 < y.1 then some x else some y
      | none => some x) none
    let tips := match best with
      | some (_, sub, long) => ["'" ++ sub ++ " --" ++ long ++ "' exists"]
      | none => []
    failWith ("unexpected argument '--" ++ name ++ "' found") tips (some (c.usage r.ids))

/-- Read the letters of a short cluster. -/
def shorts (env : Surroundings) : Reading → List Char → Except Early Reading
  | r, [] => .ok r
  | r, c :: more =>
    match r.cmd.findShort c with
    | none => failWith ("unexpected argument '-" ++ String.singleton c ++ "' found") [] (some r.cmd.helpUsage)
    | some o =>
      if o.takesValue then
        let attached := match more with
          | '=' :: v => some (String.ofList v)
          | [] => none
          | v => some (String.ofList v)
        match attached with
        | some v => settleThen env r o [v]
        | none => do
          let r ← r.settle env
          return { r with pending := some (o, []) }
      else do
        let r ← settleThen env r o []
        shorts env r more

/-- Read one long option, `--name` or `--name=value`. -/
def long (env : Surroundings) (r : Reading) (body : String) (rest : List String) : Except Early Reading :=
  let (name, value) := match body.splitOn "=" with
    | [n] => (n, none)
    | n :: vs => (n, some ("=".intercalate vs))
    | [] => (body, none)
  match r.cmd.findLong name with
  | none => unknownLong r name rest
  | some o =>
    if o.takesValue then
      match value with
      | some v => settleThen env r o [v]
      | none => do
        let r ← r.settle env
        return { r with pending := some (o, []) }
    else
      match value with
      | some v =>
        let used := r.ids.filter (fun i => !(r.cmd.requiredOptions.map (·.id)).contains i) ++ [o.id]
        failWith ("unexpected value '" ++ v ++ "' for '" ++ o.display ++ "' found; no more were expected") []
          (some (r.cmd.usage used))
      | none => settleThen env r o []

/-- What reading the words of one command ended with: the reading, and the subcommand met
with the words after it. -/
inductive Step where
  | finished (r : Reading)
  | enter (r : Reading) (sub : Cmd) (rest : List String)
deriving Repr, Inhabited

/-- The help that `help` followed by words asks for, from a command. -/
def helpFor (env : Surroundings) : Cmd → List String → Except Early Unit
  | c, [] => .error { text := c.helpText env.configVar, toStdout := true, code := 0 }
  | c, w :: ws =>
    match c.findSub w with
    | some s => helpFor env s ws
    | none => failWith ("unrecognized subcommand '" ++ w ++ "'") [] (some c.helpUsage)

/-- Read the words of one command. -/
def words (env : Surroundings) : Reading → List String → Except Early Step
  | r, [] => .ok (.finished r)
  | r, w :: rest =>
    let waiting := match r.pending with
      | some (_, []) => true
      | _ => false
    if !r.plain && (r.cmd.findSub w).isSome then
      match r.cmd.findSub w with
      | some (.help _) => do
        helpFor env r.cmd rest
        return .finished r
      | some s => .ok (.enter r s rest)
      | none => .ok (.finished r)
    else if !r.plain && w == "--" then words env { r with plain := true } rest
    else if !r.plain && w.startsWith "--" then do
      let r ← long env r (w.drop 2).toString rest
      words env r rest
    else if !r.plain && w.startsWith "-" && w.length > 1 then do
      let r ← shorts env r (w.toList.drop 1)
      words env r rest
    else if !r.plain && waiting then
      match r.pending with
      | some (o, _) => words env { r with pending := some (o, [w]) } rest
      | none => words env r rest
    else strayWord r w

/-- Give the options not given their values from their variables. -/
def fromEnvironment (env : Surroundings) (r : Reading) : Except Early Reading :=
  r.cmd.options.foldlM (fun r o =>
    match o.env, env.configVar with
    | some _, some v => if r.ids.contains o.id then pure r else react env r o [v] .env
    | _, _ => pure r) r

/-- Check a command once its words are read, knowing whether a subcommand was given. -/
def check (env : Surroundings) (r : Reading) (hasSub : Bool) : Except Early Unit := do
  let c := r.cmd
  if !hasSub && !c.subcommands.isEmpty then
    if r.given.isEmpty then
      throw { text := c.helpText env.configVar, toStdout := false, code := 2 }
    else
      failWith ("'" ++ c.usageName ++ "' requires a subcommand but one was not provided\n  [subcommands: " ++
        ", ".intercalate (c.subcommands.map Cmd.name) ++ "]") [] (some c.helpUsage)
  for g in r.given do
    match c.findId g.id with
    | some o =>
      let against := r.given.filter fun h =>
        o.conflicts.contains h.id || ((c.findId h.id).map (·.conflicts.contains o.id)).getD false
      match against.filterMap (fun h => c.findId h.id) with
      | [] => pure ()
      | others =>
        let names := others.map Opt.display
        let message := match names with
          | [n] => "the argument '" ++ o.display ++ "' cannot be used with '" ++ n ++ "'"
          | _ => "the argument '" ++ o.display ++ "' cannot be used with:" ++
              String.join (names.map fun n => "\n  " ++ n)
        let used := r.ids.filter fun i => !(others.map (·.id)).contains i
        failWith message [] (some (c.usage used))
    | none => pure ()
  let missing := c.requiredOptions.filter fun o => !r.ids.contains o.id
  if !missing.isEmpty then
    failWith ("the following required arguments were not provided:" ++
      String.join (missing.map fun o => "\n  " ++ o.display)) [] (some (c.usage (r.ids ++ missing.map (·.id))))

end Reading

/-- Read a command and its subcommands from the words after its name: every command met,
outermost first, with the options given to it. -/
def readCommand (env : Surroundings) : Nat → Cmd → List String → Except Early (List (Cmd × List Given))
  | 0, _, _ => .error { text := errorText "too many subcommands" [] none }
  | fuel + 1, c, ws => do
    match ← Reading.words env { cmd := c } ws with
    | .finished r =>
      let r ← r.settle env
      let r ← r.fromEnvironment env
      r.check env false
      return [(c, r.given)]
    | .enter r sub rest =>
      let r ← r.settle env
      let inner ← readCommand env fuel sub rest
      let r ← r.fromEnvironment env
      r.check env true
      return (c, r.given) :: inner

/-- Read the words after the program's name. -/
def readLine (env : Surroundings) (ws : List String) : Except Early (List (Cmd × List Given)) :=
  readCommand env 4 .top ws

end Workflow.Cli
