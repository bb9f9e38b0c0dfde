import Workflow.App.Commands
import Workflow.App.Console
import Workflow.Cli.Parse
/-! # The program

The program reads its command line, then loads the configuration (the file named by
`--config`, else the layers found), sets up the console log, says the configuration's
warnings, and runs the command.

* A command line that cannot be read ends the program as the reader says (status 2, or 0
  for help and version).
* A configuration that cannot be loaded ends it before the console log is set up.
* The console log shows what the configured level lets through, or with `--verbose` debug
  events of the program's own parts and info events of the rest.  It goes to the error
  output, so that `run` keeps the output for its result.
* A command that fails ends the program with status 1 and `Error: ` followed by the
  failure's report.  `serve` that binds its address serves from then on and does not end.

`observe` gives what the program has done by a given time: a program that has not ended
by then has no status, and only what it said before that time is seen.

`filesToRead` names the files a command line reads before its command runs, as far as the
files known so far tell: the configuration files, the definitions file, the input file and
the handlers' working directories.
-/

namespace Workflow

open Cli

/-- The console filter of `--verbose`. -/
def verboseFilter : String :=
  "stately=debug,stately_engine=debug,stately_server=debug,stately_config=debug,info"

/-- The journal target of the program's entry point. -/
def programTarget : String := "stately"

/-- What the program did: its status (none when it had not ended), what it printed on its
output and on its error output. -/
structure Ending where
  code : Option Nat
  stdout : String := ""
  stderr : String := ""
deriving DecidableEq, Repr, Inhabited

/-- The command to run, read from the options given to it. -/
inductive Command where
  | serve (r : App.ServeRequest)
  | run (r : App.RunRequest)
  | validate (definitions : Option String)
  | configShow
  | configWhich
deriving Repr, Inhabited

/-- What the command line asks for. -/
structure CommandLine where
  verbose : Bool := false
  config : Option String := none
  command : Command
deriving Repr, Inhabited

/-- The value given to an option. -/
def valueOf (given : List Given) (id : String) : Option String :=
  (given.find? (·.id == id)).bind (·.value)

/-- The invocation that the commands read from a line ask for. -/
def CommandLine.ofCommands (path : List (Cmd × List Given)) : Option CommandLine :=
  let all := path.flatMap Prod.snd
  let verbose := all.any (·.id == "verbose")
  -- the innermost value given on the line wins over one from the variable
  let fromLine := (all.filter fun g => g.id == "config" && g.origin == .line).getLast?
  let config := (fromLine.orElse fun _ => all.find? (·.id == "config")).bind (·.value)
  let leaf := path.getLast?
  leaf.bind fun (c, given) =>
    let v := valueOf given
    let command : Option Command := match c with
      | .serve =>
        let r : App.ServeRequest :=
          { port := (v "port").map (fun p => (p.dropWhile (· == '+')).toString.toNat!),
            bind := v "bind", definitions := v "definitions" }
        some (.serve r)
      | .run => (v "machine").map fun machine =>
        let r : App.RunRequest :=
          { definitions := v "definitions", machine, input := v "input",
            inputFile := v "input_file", startAt := v "start_at" }
        .run r
      | .validate => some (.validate (v "definitions"))
      | .show => some .configShow
      | .which => some .configWhich
      | _ => none
    command.map fun command => { verbose, config, command }

/-- Run a command. -/
def Command.perform (s : Setting) : Command → AppM Unit
  | .serve r => do let _ ← App.serve s r
  | .run r => App.run s r
  | .validate d => App.validate s d
  | .configShow => App.configShow s
  | .configWhich => App.configWhich s

/-- Whether a command goes on after it succeeds. -/
def Command.keepsServing : Command → Bool
  | .serve _ => true
  | _ => false

/-- The definitions file and the input file a command names. -/
def Command.namedFiles : Command → List String
  | .serve r => r.definitions.toList
  | .run r => r.definitions.toList ++ r.inputFile.toList
  | .validate d => d.toList
  | _ => []

/-- The files a command line reads before its command runs, as absolute paths, as far as
the host's known files tell. -/
def filesToRead (args : List String) (h : Host) : List String :=
  let env : Surroundings := { configVar := Exec.lookupVar h.env configVariable }
  match readLine env args with
  | .error _ => []
  | .ok path =>
    match CommandLine.ofCommands path with
    | none => []
    | some cl =>
      let configs := match cl.config with
        | some p => [p]
        | none => (Config.discover h none).sources.map (·.path)
      let settings := match App.loadConfig h cl.config with
        | .ok l => some l.settings
        | .error _ => none
      let configured := (settings.bind Config.Settings.definitionsPath).toList
      let cwds := (settings.map fun c => c.handlers.filterMap fun (_, hd) => hd.cwd).getD []
      (configs ++ cl.command.namedFiles ++ configured ++ cwds).map h.absolute

/-- What the program does with arguments on a site, as seen by someone who stops looking
`limit` milliseconds after it started (never, when none). -/
def observe (args : List String) (site : Site) (limit : Option Nat) : Ending :=
  let env : Surroundings := { configVar := Exec.lookupVar site.host.env configVariable }
  match readLine env args with
  | .error e =>
    if e.toStdout then { code := some e.code, stdout := e.text }
    else { code := some e.code, stderr := e.text }
  | .ok path =>
    match CommandLine.ofCommands path with
    | none => { code := some 2, stderr := errorText "no command" [] none }
    | some inv =>
      match App.loadConfig site.host inv.config with
      | .error f => { code := some 1, stderr := "Error: " ++ f.report ++ "\n" }
      | .ok loaded =>
        let filterText := if inv.verbose then verboseFilter else loaded.settings.loggingOrDefault.level
        let (filter, complaints) := LogFilter.parse filterText
        let start := site.clock
        let warned : Site := loaded.warnings.foldl (fun s w =>
          Journal.note ⟨.warn, programTarget, w, []⟩ s) site
        let setting : Setting := { verbose := inv.verbose, loaded }
        let (result, after) := (inv.command.perform setting).run.run warned
        let overdue : Bool := match limit with
          | some l => decide (after.clock - start ≥ l)
          | none => false
        let seen := after.journal.toList.filter fun (at_, _) => match limit with
          | some l => decide (at_ - start < l)
          | none => true
        let log := String.join (complaints.map (· ++ "\n")) ++ consoleLines filter seen
        if overdue then { code := none, stderr := log }
        else
          match result with
          | .ok () =>
            if inv.command.keepsServing then { code := none, stdout := after.out, stderr := log }
            else { code := some 0, stdout := after.out, stderr := log }
          | .error f => { code := some 1, stdout := after.out, stderr := log ++ "Error: " ++ f.report ++ "\n" }

end Workflow
