import Workflow.App.Program
/-! # The command-line program

`main` runs the program on its arguments.  The program sees the variables it reads from
the environment, and the files its command line reads: `filesToRead` names them, and is
asked again once the files found tell more (a configuration names the definitions file).
The clock is `SOURCE_DATE_EPOCH` (seconds since 1970) when it is set, else the time since
the machine started.  What the program prints goes to the output and the error output, and
its status is the process's; a server stops once it has bound its address.
-/

open Workflow

/-- The variables the program reads from its environment. -/
def programVariables : List String :=
  ["HOME", "PATH", "PWD", "STATELY_CONFIG", "STATELY_CONFIG_DIR", "XDG_CONFIG_HOME",
   "PASSTHROUGH_FAIL", "NO_COLOR"]

/-- What an absolute path holds, if anything. -/
def readNode (path : String) : IO (Option Host.Node) := do
  try
    let bytes ← IO.FS.readBinFile path
    return some (.file bytes.toList)
  catch e =>
    match e with
    | .inappropriateType _ 21 _ => return some .dir
    | _ => return none

/-- Add the files a command line reads to a host, in at most `rounds` rounds. -/
def gather (args : List String) : Nat → Host → IO Host
  | 0, h => pure h
  | rounds + 1, h => do
    let known := h.files.map Prod.fst
    let wanted := ((filesToRead args h).map fun p => (p.drop 1).toString).filter (!known.contains ·)
    if wanted.isEmpty then return h
    let mut files := h.files
    for key in wanted do
      match ← readNode ("/" ++ key) with
      | some node => files := files ++ [(key, node)]
      | none => pure ()
    gather args rounds { h with files }

/-- Run the program on its arguments. -/
def main (args : List String) : IO UInt32 := do
  let mut env : List (String × String) := []
  for name in programVariables do
    if let some v ← IO.getEnv name then env := env ++ [(name, v)]
  let cwd := (← IO.getEnv "PWD").getD "/"
  let uptime : Nat ← IO.monoMsNow
  let clock : Int := match ← IO.getEnv "SOURCE_DATE_EPOCH" with
    | some s => s.toInt?.getD 0 * 1000
    | none => uptime
  let host ← gather args 3 { root := "", env, cwd }
  let e := observe args { host, clock } none
  IO.print e.stdout
  IO.eprint e.stderr
  return (e.code.getD 0).toUInt32
