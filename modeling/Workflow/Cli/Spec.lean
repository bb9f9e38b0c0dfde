/-! # The program's command line

The command line is `stately [OPTIONS] <COMMAND>`, with the commands `serve`, `run`,
`validate`, `config` (itself with `show` and `which`) and `help`.  Every command takes the
global options `-v`/`--verbose` and `--config <CONFIG>` (which may also come from the
variable `STATELY_CONFIG`), and `-h`/`--help` and `-V`/`--version`.

This module describes the commands and their options and writes their help:

    <about>

    Usage: <usage>

    Commands:            (for commands that have subcommands)
      <name>  <about>

    Options:
      -x, --long <VALUE>  <help> [env: NAME=<value>]

Options are listed by their display order, then by their short letter in lower case
(upper case after it) or, without one, by their long name.  Names and helps are aligned two
columns past the longest option.  The usage line shows `[OPTIONS]` and the required
options, and `<COMMAND>` where a subcommand is needed.
-/

namespace Workflow.Cli

/-- The commands of the program. -/
inductive Cmd where
  | top
  | serve
  | run
  | validate
  | config
  | show
  | which
  /-- The `help` subcommand of the program or of `config`. -/
  | help (inConfig : Bool)
deriving DecidableEq, Repr, Inhabited

/-- How an option's value is read. -/
inductive ValueKind where
  /-- Any text. -/
  | text
  /-- A path: any text but the empty one. -/
  | path
  /-- A port: a whole number from 0 to 65535. -/
  | port
deriving DecidableEq, Repr, Inhabited

/-- What an option does. -/
inductive Action where
  /-- Switch something on. -/
  | flag
  /-- Take one value. -/
  | value (name : String) (kind : ValueKind)
  /-- Print the help. -/
  | help
  /-- Print the version. -/
  | version
deriving DecidableEq, Repr, Inhabited

/-- An option of a command. -/
structure Opt where
  /-- The option's name in the program. -/
  id : String
  short : Option Char := none
  long : String
  action : Action := .flag
  help : String
  /-- Where the option is listed among others. -/
  order : Nat
  /-- The variable the value may come from. -/
  env : Option String := none
  required : Bool := false
  /-- Options this one may not be given with. -/
  conflicts : List String := []
deriving DecidableEq, Repr, Inhabited

/-- The program's version. -/
def programVersion : String := "0.0.0"

/-- The program's description. -/
def programAbout : String := "Stately - run Amazon States Language workflows locally"

/-- The variable that names a configuration file. -/
def configVariable : String := "STATELY_CONFIG"

namespace Opt

/-- `--verbose`. -/
def verbose : Opt := { id := "verbose", short := some 'v', long := "verbose", help := "Enable verbose output", order := 0 }

/-- `--config <CONFIG>`. -/
def config : Opt :=
  { id := "config", long := "config", action := .value "CONFIG" .path, order := 1,
    help := "Config file to use instead of the user and project config", env := some configVariable }

/-- `--help`. -/
def helpOpt : Opt := { id := "help", short := some 'h', long := "help", action := .help, help := "Print help", order := 999 }

/-- `--version`. -/
def versionOpt : Opt :=
  { id := "version", short := some 'V', long := "version", action := .version, help := "Print version", order := 999 }

/-- `--definitions <DEFINITIONS>`, listed at `order`. -/
def definitions (order : Nat) : Opt :=
  { id := "definitions", short := some 'd', long := "definitions", action := .value "DEFINITIONS" .path, order,
    help := "Definitions file, JSON or YAML (overrides config)" }

/-- The option as a usage line and errors write it: `--long`, with ` <VALUE>` when it
takes one. -/
def display (o : Opt) : String :=
  match o.action with
  | .value name _ => "--" ++ o.long ++ " <" ++ name ++ ">"
  | _ => "--" ++ o.long

/-- Whether the option takes a value. -/
def takesValue (o : Opt) : Bool :=
  match o.action with
  | .value _ _ => true
  | _ => false

/-- The key options are listed by after their display order. -/
def sortKey (o : Opt) : String :=
  match o.short with
  | some c => String.ofList [c.toLower, if c.isLower then '0' else '1']
  | none => o.long

/-- Whether an option is listed before another. -/
def listedBefore (a b : Opt) : Bool :=
  a.order < b.order || (a.order == b.order && a.sortKey < b.sortKey)

end Opt

namespace Cmd

/-- The command's name. -/
def name : Cmd → String
  | .top => "stately"
  | .serve => "serve"
  | .run => "run"
  | .validate => "validate"
  | .config => "config"
  | .show => "show"
  | .which => "which"
  | .help _ => "help"

/-- How usage lines name the command. -/
def usageName : Cmd → String
  | .top => "stately"
  | .serve => "stately serve"
  | .run => "stately run"
  | .validate => "stately validate"
  | .config => "stately config"
  | .show => "stately config show"
  | .which => "stately config which"
  | .help false => "stately help"
  | .help true => "stately config help"

/-- How the version line names the command. -/
def displayName : Cmd → String
  | .top => "stately"
  | .serve => "stately-serve"
  | .run => "stately-run"
  | .validate => "stately-validate"
  | .config => "stately-config"
  | .show => "stately-config-show"
  | .which => "stately-config-which"
  | .help false => "stately-help"
  | .help true => "stately-config-help"

/-- What the command does. -/
def about : Cmd → String
  | .top => programAbout
  | .serve => "Serve the StartExecution HTTP endpoint"
  | .run => "Run one execution in-process and print its result"
  | .validate => "Check a definitions file"
  | .config => "Configuration management"
  | .show => "Show the resolved configuration as TOML"
  | .which => "Show which config files are loaded and their precedence"
  | .help _ => "Print this message or the help of the given subcommand(s)"

/-- The command's subcommands, in order. -/
def subcommands : Cmd → List Cmd
  | .top => [.serve, .run, .validate, .config, .help false]
  | .config => [.show, .which, .help true]
  | _ => []

/-- The command's own options, before the global ones. -/
def ownOptions : Cmd → List Opt
  | .serve =>
    [{ id := "port", short := some 'p', long := "port", action := .value "PORT" .port, order := 0,
       help := "Port to listen on (overrides config)" },
     { id := "bind", short := some 'b', long := "bind", action := .value "BIND" .text, order := 1,
       help := "Address to bind to (overrides config)" },
     Opt.definitions 2]
  | .run =>
    [Opt.definitions 0,
     { id := "machine", short := some 'm', long := "machine", action := .value "MACHINE" .text, order := 1,
       help := "Machine name or key", required := true },
     { id := "input", short := some 'i', long := "input", action := .value "INPUT" .text, order := 2,
       help := "Execution input as a JSON string", conflicts := ["input_file"] },
     { id := "input_file", long := "input-file", action := .value "INPUT_FILE" .path, order := 3,
       help := "Read the execution input from a JSON file", conflicts := ["input"] },
     { id := "start_at", long := "start-at", action := .value "START_AT" .text, order := 4,
       help := "State to start at instead of StartAt" }]
  | .validate => [Opt.definitions 0]
  | _ => []

/-- Every option the command takes, in the order it declares them. -/
def options (c : Cmd) : List Opt :=
  c.ownOptions ++ [Opt.verbose, Opt.config, Opt.helpOpt, Opt.versionOpt]

/-- The option with a long name. -/
def findLong (c : Cmd) (long : String) : Option Opt := c.options.find? (·.long == long)

/-- The option with a short letter. -/
def findShort (c : Cmd) (short : Char) : Option Opt := c.options.find? (·.short == some short)

/-- The option with a name. -/
def findId (c : Cmd) (id : String) : Option Opt := c.options.find? (·.id == id)

/-- The subcommand with a name. -/
def findSub (c : Cmd) (name : String) : Option Cmd := c.subcommands.find? (·.name == name)

/-- The required options. -/
def requiredOptions (c : Cmd) : List Opt := c.options.filter (·.required)

/-- The usage line of the help: the name, `[OPTIONS]`, the required options, and
`<COMMAND>` when a subcommand is needed. -/
def helpUsage (c : Cmd) : String :=
  match c with
  | .help _ => c.usageName ++ " [COMMAND]..."
  | _ =>
    c.usageName ++ " [OPTIONS]" ++ String.join (c.requiredOptions.map fun o => " " ++ o.display) ++
      (if c.subcommands.isEmpty then "" else " <COMMAND>")

/-- The usage line of an error that names what was used: the required options and the
used ones, each once, and `<COMMAND>` where a subcommand is needed. -/
def usageWith (c : Cmd) (used : List String) : String :=
  let ids := (c.requiredOptions.map (·.id) ++ used).foldl
    (fun acc i => if acc.contains i then acc else acc ++ [i]) []
  let shown := ids.filterMap c.findId
  c.usageName ++ String.join (shown.map fun o => " " ++ o.display) ++
    (if c.subcommands.isEmpty then "" else " <COMMAND>")

/-- The usage line of an error: the help's when nothing is named, else the one naming what
was used. -/
def usage (c : Cmd) (used : List String) : String :=
  if used.isEmpty then c.helpUsage else c.usageWith used

/-- Blanks up to a width. -/
def padTo (width : Nat) (s : String) : String := s ++ String.ofList (List.replicate (width - s.length) ' ')

/-- Insert an option into a list kept in listing order. -/
def insertListed (o : Opt) : List Opt → List Opt
  | [] => [o]
  | p :: ps => if o.listedBefore p then o :: p :: ps else p :: insertListed o ps

/-- The help of a command, given the value of the configuration variable. -/
def helpText (c : Cmd) (envValue : Option String) : String :=
  match c with
  | .help _ =>
    c.about ++ "\n\nUsage: " ++ c.helpUsage ++ "\n\nArguments:\n  [COMMAND]...  Print help for the subcommand(s)\n"
  | _ =>
    let subs := c.subcommands
    let commands := if subs.isEmpty then "" else
      let width := (subs.map (·.name.length)).foldl max 0 + 2
      "Commands:\n" ++ String.join (subs.map fun s => "  " ++ padTo width s.name ++ s.about ++ "\n") ++ "\n"
    let listed := c.options.foldl (fun acc o => insertListed o acc) []
    let width := (listed.map (·.display.length)).foldl max 2 + 2
    let line (o : Opt) : String :=
      let shortPart := match o.short with
        | some s => "-" ++ String.singleton s ++ ", "
        | none => "    "
      let env := match o.env with
        | some name => " [env: " ++ name ++ "=" ++ envValue.getD "" ++ "]"
        | none => ""
      "  " ++ shortPart ++ padTo width o.display ++ o.help ++ env ++ "\n"
    c.about ++ "\n\nUsage: " ++ c.helpUsage ++ "\n\n" ++ commands ++ "Options:\n" ++
      String.join (listed.map line)

/-- The version line of a command. -/
def versionText (c : Cmd) : String := c.displayName ++ " " ++ programVersion ++ "\n"

end Cmd

end Workflow.Cli
