import Workflow.Shell.Script
import Workflow.Shell.Programs
import Workflow.Exec.Program
import Workflow.Exec.Passthrough
/-! # Running programs

`Exec.start` runs a program on a host: the system shell, the passthrough handler or one
of the standard tools, found as `Program` says.  It answers with the `Outcome`, or with the
operating-system failure that kept the program from starting (a working directory or a
program that is not there, a file that cannot be executed).

The shell runs a script line by line.  A simple command expands its words (parameters,
command output, field splitting of unquoted expansions on blanks), opens its redirections
and runs a builtin (`echo`, `printf`, `exit`, `kill`, `read`, `export`, `unset`, `cd`,
`pwd`, `true`, `false`, `:`) or a program.  A pipeline feeds each command the output of the
one before; its commands run as copies of the shell, so their assignments and `exit` stay
inside.  `exit` ends the shell with a status; `kill` of the shell's own process ends it by
a signal.  Errors are written the shell's way, `sh: <line>: <what>`, and a command that is
not found has status 127, one that cannot be executed 126.

Time is virtual: `sleep` adds its duration, and the time a pipeline takes is that of its
slowest command.  Every run is bounded by fuel that the nesting of scripts, command output
and programs uses up; `start` gives plenty.
-/

namespace Workflow.Shell

open Exec

/-- Where output written to a descriptor goes. -/
inductive Sink where
  | stdout
  | stderr
  | pipe
  | discard
  | file (path : String)
deriving DecidableEq, Repr, Inhabited

/-- Where a command's input comes from. -/
inductive Source where
  /-- The shell's own input, shared with the commands after it. -/
  | shell
  /-- A pipe or a file, read by this command alone. -/
  | bytes (bs : List UInt8)
deriving DecidableEq, Repr, Inhabited

/-- The descriptors of a command. -/
structure Io where
  input : Source := .shell
  out : Sink := .stdout
  err : Sink := .stderr
deriving Repr, Inhabited

/-- How a shell stopped before the end of its script. -/
inductive Stop where
  | exit (code : Nat)
  | killed (signal : Nat)
deriving DecidableEq, Repr, Inhabited

/-- A running shell. -/
structure Sh where
  /-- The files, and the shell's working directory. -/
  host : Host
  vars : List (String × String) := []
  exported : List String := []
  /-- The name of the shell (`$0`) and the positional parameters. -/
  params : List String := ["sh"]
  status : Nat := 0
  /-- The status of the last command output expanded in the current command. -/
  lastOutput : Option Nat := none
  /-- The unread part of the shell's input. -/
  input : List UInt8 := []
  stdout : List UInt8 := []
  stderr : List UInt8 := []
  pipe : List UInt8 := []
  elapsedMs : Nat := 0
  /-- The line of the command being run. -/
  line : Nat := 1
deriving Inhabited

/-- The process number of every shell; only `kill` looks at it. -/
def shellPid : Nat := 4242

/-- What a finished program leaves: its outcome, the input it did not read, and the files as
it left them. -/
structure Finished where
  outcome : Outcome
  unread : List UInt8
  host : Host
deriving Inhabited

/-- The running of a shell: it changes the shell and may stop it. -/
abbrev ShM := ExceptT Stop (StateM Sh)

namespace Sh

/-- The value of a variable. -/
def getVar (s : Sh) (n : String) : Option String := (s.vars.find? (·.1 == n)).map Prod.snd

/-- The shell with a variable set. -/
def setVar (s : Sh) (n v : String) : Sh := { s with vars := s.vars.filter (·.1 != n) ++ [(n, v)] }

/-- The environment the shell gives its programs: the exported variables. -/
def environment (s : Sh) : List (String × String) :=
  s.vars.filter fun kv => s.exported.contains kv.1

/-- The value of a parameter, none when it is unset. -/
def param? (s : Sh) (n : String) : Option String :=
  match n with
  | "?" => some (toString s.status)
  | "$" => some (toString shellPid)
  | "#" => some (toString (s.params.length - 1))
  | "@" | "*" => some (" ".intercalate s.params.tail)
  | "!" | "-" => some ""
  | _ => if !n.isEmpty && n.all Char.isDigit then s.params[n.toNat!]? else s.getVar n

end Sh

/-- Variables without repeats, the last binding of a name kept in its place. -/
def distinctVars (env : List (String × String)) : List (String × String) :=
  env.foldl (fun acc kv => acc.filter (·.1 != kv.1) ++ [kv]) []

/-- Write bytes to where a descriptor goes. -/
def emit (sink : Sink) (bs : List UInt8) : ShM Unit :=
  modify fun s =>
    match sink with
    | .stdout => { s with stdout := s.stdout ++ bs }
    | .stderr => { s with stderr := s.stderr ++ bs }
    | .pipe => { s with pipe := s.pipe ++ bs }
    | .discard => s
    | .file p =>
      let old := match s.host.readBytes p with
        | .ok b => b
        | .error _ => []
      { s with host := s.host.putFile p (old ++ bs) }

/-- Write a line of error the shell's way: its name, the line, the complaint. -/
def complain (io : Io) (msg : String) : ShM Unit := do
  let s ← get
  emit io.err (bytesOf (s.params.headD "sh" ++ ": " ++ toString s.line ++ ": " ++ msg ++ "\n"))

/-- All of a command's input; the shell's own input is used up by it. -/
def takeInput (io : Io) : ShM (List UInt8) := do
  match io.input with
  | .bytes b => pure b
  | .shell =>
    let s ← get
    set { s with input := [] }
    pure s.input

/-- Put back what a command did not read of the shell's input. -/
def giveBack (io : Io) (unread : List UInt8) : ShM Unit :=
  match io.input with
  | .shell => modify fun s => { s with input := unread }
  | .bytes _ => pure ()

/-- The blanks that separate fields. -/
def isFieldBlank (c : Char) : Bool := c == ' ' || c == '\t' || c == '\n'

/-- A piece expanded: its text, and whether it was quoted. -/
structure Segment where
  text : String
  quoted : Bool
deriving Repr, Inhabited

/-- The fields of a word from its expanded pieces.  Quoted text and literal text join the
field being built; an unquoted expansion is split on blanks. -/
def fieldsOf (segs : List (Segment × Bool)) : List String :=
  let step := fun (acc : List String × Option String) (e : Segment × Bool) =>
    let (fs, cur) := acc
    let (seg, literal) := e
    if seg.quoted || literal then
      if seg.quoted || !seg.text.isEmpty then (fs, some (cur.getD "" ++ seg.text)) else (fs, cur)
    else
      seg.text.foldl (fun (fs, cur) c =>
        if isFieldBlank c then
          match cur with
          | some f => (fs ++ [f], none)
          | none => (fs, none)
        else (fs, some (cur.getD "" ++ String.singleton c))) (fs, cur)
  let (fs, cur) := segs.foldl step ([], none)
  match cur with
  | some f => fs ++ [f]
  | none => fs

/-- Output with its trailing newlines removed, as command output is used. -/
def trimNewlines (s : String) : String :=
  String.ofList (s.toList.reverse.dropWhile (· == '\n')).reverse

/-- A redirection with its target expanded. -/
inductive Opening where
  | write (fd : Nat) (path : String) (append : Bool)
  | read (fd : Nat) (path : String)
  | copy (fd : Nat) (source : String)
deriving Repr, Inhabited

/-- The parent directory of a path. -/
def parentOf (h : Host) (p : String) : String :=
  let a := h.absolute p
  match a.splitOn "/" |>.dropLast with
  | [] | [""] => "/"
  | parts => "/".intercalate parts

/-- Open a redirection, giving the descriptors after it or the complaint. -/
def openOne (io : Io) (o : Opening) : ShM (Except String Io) := do
  let s ← get
  let setFd (fd : Nat) (sink : Sink) : Io :=
    if fd == 1 then { io with out := sink } else if fd == 2 then { io with err := sink } else io
  match o with
  | .write fd path append =>
    if path == "/dev/null" then return .ok (setFd fd .discard)
    else if path == "/dev/stdout" then return .ok (setFd fd io.out)
    else if path == "/dev/stderr" then return .ok (setFd fd io.err)
    else
      match s.host.lookup path with
      | .ok .dir => return .error ("cannot create " ++ path ++ ": Is a directory")
      | found =>
        if !s.host.isDir (parentOf s.host path) then
          return .error ("cannot create " ++ path ++ ": Directory nonexistent")
        else
          let keep := match found with
            | .ok (.file b) => if append then b else []
            | _ => []
          set { s with host := s.host.putFile path keep }
          let target := s.host.absolute path
          return .ok (setFd fd (if (s.host.locate target).isSome then .file target else .discard))
  | .read fd path =>
    if fd != 0 then return .ok io
    else if path == "/dev/null" then return .ok { io with input := .bytes [] }
    else
      match s.host.lookup path with
      | .ok (.file b) => return .ok { io with input := .bytes b }
      | .ok .dir => return .ok { io with input := .bytes [] }
      | .error _ => return .error ("cannot open " ++ path ++ ": No such file")
  | .copy fd source =>
    if source == "-" then return .ok (setFd fd .discard)
    else if source == "1" then return .ok (setFd fd io.out)
    else if source == "2" then return .ok (setFd fd io.err)
    else if source == "0" then return .ok io
    else return .error (source ++ ": Bad file descriptor")

/-- Open redirections in order. -/
def openAll (io : Io) : List Opening → ShM (Except String Io)
  | [] => pure (.ok io)
  | o :: os => do
    match ← openOne io o with
    | .ok io' => openAll io' os
    | .error m => pure (.error m)

/-! ## Builtins -/

/-- The signal a name or number given to `kill` stands for. -/
def signalNumber (s : String) : Option Nat :=
  let name := if s.startsWith "SIG" then (s.drop 3).toString else s
  if !name.isEmpty && name.all Char.isDigit then some name.toNat!
  else
    match name with
    | "HUP" => some 1
    | "INT" => some 2
    | "QUIT" => some 3
    | "ABRT" => some 6
    | "KILL" => some 9
    | "USR1" => some 10
    | "SEGV" => some 11
    | "USR2" => some 12
    | "PIPE" => some 13
    | "ALRM" => some 14
    | "TERM" => some 15
    | _ => none

/-- `kill`: a signal to processes; only the shell's own process exists. -/
def killBuiltin (io : Io) (args : List String) : ShM Nat := do
  let (signal, pids) : Option Nat × List String := match args with
    | "-s" :: name :: rest => (signalNumber name, rest)
    | a :: rest => if a.startsWith "-" && a.length > 1 then (signalNumber (a.drop 1).toString, rest)
      else (some 15, a :: rest)
    | [] => (some 15, [])
  match signal with
  | none =>
    complain io ("kill: invalid signal number or name: " ++ ((args.headD "").drop 1).toString)
    return 2
  | some k =>
    if pids.isEmpty then
      complain io "kill: Usage: kill [-s sigspec | -signum | -sigspec] [pid | job]... or\nkill -l [exitstatus]"
      return 2
    let mut status := 0
    for p in pids do
      if p == toString shellPid then
        if k != 0 then throw (.killed k)
      else if !p.isEmpty && (p.all Char.isDigit || (p.startsWith "-" && (p.drop 1).all Char.isDigit)) then
        complain io "kill: No such process"
        status := 1
      else
        complain io ("kill: Illegal number: " ++ p)
        return 2
    return status

/-- `exit`: end the shell with a status, the last one when none is given. -/
def exitBuiltin (io : Io) (args : List String) : ShM Nat := do
  match args with
  | [] => throw (.exit (← get).status)
  | a :: _ =>
    if !a.isEmpty && a.all Char.isDigit then throw (.exit (a.toNat! % 256))
    else
      complain io ("exit: Illegal number: " ++ a)
      throw (.exit 2)

/-- `read`: one line of input into variables, the last taking the rest of the line. -/
def readBuiltin (io : Io) (args : List String) : ShM Nat := do
  let names := args.filter (fun a => !a.startsWith "-")
  let all ← takeInput io
  let (lineBytes, rest) := all.span (· != 10)
  let found := !rest.isEmpty
  giveBack io (rest.drop 1)
  let text := lossyUtf8 lineBytes
  let words := (text.splitOn " ").flatMap (·.splitOn "\t") |>.filter (!·.isEmpty)
  let names := if names.isEmpty then ["REPLY"] else names
  let rec assign : List String → List String → List (String × String)
    | [n], ws => [(n, " ".intercalate ws)]
    | n :: ns, w :: ws => (n, w) :: assign ns ws
    | n :: ns, [] => (n, "") :: assign ns []
    | [], _ => []
  for (n, v) in assign names words do
    modify fun s => s.setVar n v
  return if found then 0 else 1

/-- `export`: mark variables for the environment of programs, setting those given a value. -/
def exportBuiltin (args : List String) : ShM Nat := do
  for a in args do
    match a.splitOn "=" with
    | n :: v :: more =>
      modify fun s => { (s.setVar n ("=".intercalate (v :: more))) with exported := s.exported ++ [n] }
    | _ => modify fun s => { s with exported := s.exported ++ [a] }
  return 0

/-- `unset`: forget variables. -/
def unsetBuiltin (args : List String) : ShM Nat := do
  for a in args do
    modify fun s => { s with vars := s.vars.filter (·.1 != a) }
  return 0

/-- `cd`: change the working directory. -/
def cdBuiltin (io : Io) (args : List String) : ShM Nat := do
  let s ← get
  let target := match args with
    | d :: _ => d
    | [] => (s.getVar "HOME").getD "/"
  if s.host.isDir target then
    set { s with host := { s.host with cwd := s.host.absolute target } }
    return 0
  else
    complain io ("cd: can't cd to " ++ target)
    return 2

/-- `printf`: a format applied to arguments. -/
def printfBuiltin (io : Io) (args : List String) : ShM Nat := do
  match args with
  | [] =>
    complain io "printf: usage: printf format [arg ...]"
    return 2
  | fmt :: rest =>
    let (out, complaints, failed) := printfBytes fmt rest
    emit io.out out
    for c in complaints do complain io ("printf: " ++ c)
    return if failed then 1 else 0

/-- The builtin a command name runs, if it is one. -/
def builtin (io : Io) (name : String) (args : List String) : Option (ShM Nat) :=
  match name with
  | "echo" => some (do emit io.out (echoBytes args); pure 0)
  | "printf" => some (printfBuiltin io args)
  | "exit" => some (exitBuiltin io args)
  | "kill" => some (killBuiltin io args)
  | "read" => some (readBuiltin io args)
  | "export" => some (exportBuiltin args)
  | "unset" => some (unsetBuiltin args)
  | "cd" => some (cdBuiltin io args)
  | "pwd" => some (do emit io.out (bytesOf ((← get).host.cwd ++ "\n")); pure 0)
  | "true" | ":" => some (pure 0)
  | "false" => some (pure 1)
  | _ => none

/-! ## Standard programs -/

/-- A program that ran to its end without reading its input. -/
def finishedWith (h : Host) (l : Launch) (out err : List UInt8) (code : Nat) (ms : Nat := 0) :
    Finished :=
  ⟨{ stdout := out, stderr := err, exit := .code code, elapsedMs := ms }, l.stdin, h⟩

/-- `cat`: its files in order, `-` or none for its input. -/
def catProgram (h : Host) (l : Launch) : Finished :=
  let names := if l.args.isEmpty then ["-"] else l.args
  let h' := { h with cwd := l.cwd }
  let step := fun (acc : List UInt8 × List UInt8 × Nat × Bool) (n : String) =>
    let (out, err, code, used) := acc
    if n == "-" then (out ++ (if used then [] else l.stdin), err, code, true)
    else
      match h'.readBytes n with
      | .ok bs => (out ++ bs, err, code, used)
      | .error .isDirectory => (out, err ++ bytesOf ("cat: " ++ n ++ ": Is a directory\n"), 1, used)
      | .error .notDirectory => (out, err ++ bytesOf ("cat: " ++ n ++ ": Not a directory\n"), 1, used)
      | .error _ => (out, err ++ bytesOf ("cat: " ++ n ++ ": No such file or directory\n"), 1, used)
  let (out, err, code, used) := names.foldl step ([], [], 0, false)
  ⟨{ stdout := out, stderr := err, exit := .code code }, if used then [] else l.stdin, h⟩

/-- `sleep`: wait for the sum of its durations. -/
def sleepProgram (h : Host) (l : Launch) : Finished :=
  let usage := "Try 'sleep --help' for more information.\n"
  if l.args.isEmpty then finishedWith h l [] (bytesOf ("sleep: missing operand\n" ++ usage)) 1
  else
    let bad := l.args.filter fun a => (durationMs a).isNone
    if bad.isEmpty then
      finishedWith h l [] [] 0 (l.args.foldl (fun t a => t + (durationMs a).getD 0) 0)
    else
      let lines := String.join (bad.map fun a => "sleep: invalid time interval '" ++ a ++ "'\n")
      finishedWith h l [] (bytesOf (lines ++ usage)) 1

/-- `wc`: counts of its input or of its files. -/
def wcProgram (h : Host) (l : Launch) : Finished :=
  let opts := l.args.filter (fun a => a.startsWith "-" && a.length > 1)
  let files := l.args.filter (fun a => !(a.startsWith "-" && a.length > 1))
  let asked := opts.flatMap (fun o => o.toList.drop 1)
  match files with
  | [] => ⟨{ stdout := bytesOf (wcText asked l.stdin) }, [], h⟩
  | f :: _ =>
    match ({ h with cwd := l.cwd } : Host).readBytes f with
    | .ok bs =>
      let t := wcText asked bs
      finishedWith h l (bytesOf (String.ofList t.toList.dropLast ++ " " ++ f ++ "\n")) [] 0
    | .error _ => finishedWith h l [] (bytesOf ("wc: " ++ f ++ ": No such file or directory\n")) 1

/-- `echo` as a program: escapes only after `-e`. -/
def echoProgram (h : Host) (l : Launch) : Finished :=
  let isFlag (a : String) := a.length > 1 && a.startsWith "-" && (a.drop 1).all ("neE".toList.contains ·)
  let flags := l.args.takeWhile isFlag
  let words := l.args.dropWhile isFlag
  let chars := flags.flatMap (fun f => f.toList.drop 1)
  let newline := !chars.contains 'n'
  let escapes := (chars.reverse.find? (fun c => c == 'e' || c == 'E')) == some 'e'
  let body : List UInt8 × Bool :=
    if escapes then escapedText (" ".intercalate words).length.succ (" ".intercalate words).toList []
    else (bytesOf (" ".intercalate words), false)
  let out := if body.2 || !newline then body.1 else body.1 ++ [10]
  finishedWith h l out [] 0

/-- `printf` as a program. -/
def printfProgram (h : Host) (l : Launch) : Finished :=
  match l.args with
  | [] => finishedWith h l []
      (bytesOf "printf: missing operand\nTry 'printf --help' for more information.\n") 1
  | fmt :: rest =>
    let (out, complaints, failed) := printfBytes fmt rest
    finishedWith h l out (bytesOf (String.join (complaints.map (fun c => "printf: " ++ c ++ "\n"))))
      (if failed then 1 else 0)

/-- `printenv`: the values of variables, or the whole environment. -/
def printenvProgram (h : Host) (l : Launch) : Finished :=
  let env := distinctVars l.env
  match l.args with
  | [] => finishedWith h l (bytesOf (String.join (env.map fun (k, v) => k ++ "=" ++ v ++ "\n"))) [] 0
  | names =>
    let found := names.filterMap (lookupVar env)
    finishedWith h l (bytesOf (String.join (found.map (· ++ "\n")))) []
      (if found.length == names.length then 0 else 1)

/-! ## The shell and its programs -/

/-- How the shell was asked to run: a script, its name and parameters, or a complaint. -/
def shellArgs (h : Host) (l : Launch) : Except String (String × List String × Bool) :=
  let isOpt (a : String) := a.length > 1 && a.startsWith "-" && (a.drop 1).all ("ceuxv".toList.contains ·)
  let opts := l.args.takeWhile isOpt
  let rest := l.args.dropWhile isOpt
  let command := opts.any (fun o => (o.drop 1).contains 'c')
  if command then
    match rest with
    | script :: names => .ok (script, if names.isEmpty then [l.program] else names, false)
    | [] => .error (l.program ++ ": 0: -c requires an argument\n")
  else
    match rest with
    | file :: params =>
      match ({ h with cwd := l.cwd } : Host).readBytes file with
      | .ok bs => .ok (lossyUtf8 bs, file :: params, false)
      | .error _ => .error (l.program ++ ": 0: cannot open " ++ file ++ ": No such file\n")
    | [] => .ok (lossyUtf8 l.stdin, [l.program], true)

mutual

/-- A piece of a word expanded. -/
def segment : Nat → Io → Piece → ShM Segment
  | 0, _, _ => pure ⟨"", false⟩
  | fuel + 1, io, p =>
    match p with
    | .text s q => pure ⟨s, q⟩
    | .param n q => do return ⟨((← get).param? n).getD "", q⟩
    | .length n q => do return ⟨toString (((← get).param? n).getD "").length, q⟩
    | .alter n op colon word q => do
      let v := (← get).param? n
      let unset := match v with
        | none => true
        | some s => colon && s.isEmpty
      if op == '+' then
        if unset then return ⟨"", q⟩ else return ⟨← joined fuel io word, q⟩
      else if unset then
        let alt ← joined fuel io word
        if op == '=' then modify fun s => s.setVar n alt
        return ⟨alt, q⟩
      else return ⟨v.getD "", q⟩
    | .output script q => do
      let bs ← capture fuel io script
      return ⟨trimNewlines (lossyUtf8 bs), q⟩

/-- A word expanded to one text, without splitting. -/
def joined : Nat → Io → List Piece → ShM String
  | 0, _, _ => pure ""
  | fuel + 1, io, ps => do
    let segs ← ps.mapM (segment fuel io)
    return String.join (segs.map Segment.text)

/-- A word expanded to its fields. -/
def fields : Nat → Io → List Piece → ShM (List String)
  | 0, _, _ => pure []
  | fuel + 1, io, ps => do
    let segs ← ps.mapM fun p => do
      let literal := match p with
        | .text .. => true
        | _ => false
      return (← segment fuel io p, literal)
    return fieldsOf segs

/-- What a script writes when run as a copy of the shell, for command output. -/
def capture : Nat → Io → String → ShM (List UInt8)
  | 0, _, _ => pure []
  | fuel + 1, io, script => do
    let saved ← get
    set { saved with stdout := [], pipe := [] }
    let stop ← tryCatch (do run fuel { io with out := .stdout } (parse script); pure none)
      (fun e => pure (some e))
    let inner ← get
    let status ← match stop with
      | none => pure inner.status
      | some (.exit n) => pure n
      | some (.killed k) => throw (.killed k)
    set { saved with
      stderr := inner.stderr, input := inner.input, host := inner.host,
      elapsedMs := inner.elapsedMs, lastOutput := some status }
    return inner.stdout

/-- Run a simple command, giving its status. -/
def command : Nat → Io → Command → ShM Nat
  | 0, _, _ => pure 2
  | fuel + 1, io, c => do
    modify fun s => { s with lastOutput := none, line := c.line }
    let words ← c.words.mapM (fields fuel io)
    let assigns ← c.assignments.mapM fun (n, ps) => do return (n, ← joined fuel io ps)
    let openings ← c.redirects.mapM fun r => do
      match r with
      | .write fd t a => return Opening.write fd (← joined fuel io t) a
      | .read fd t => return Opening.read fd (← joined fuel io t)
      | .copy fd t => return Opening.copy fd (← joined fuel io t)
    match words.flatten with
    | [] =>
      for (n, v) in assigns do modify fun s => s.setVar n v
      match ← openAll io openings with
      | .error m => complain io m; pure 2
      | .ok _ => return (← get).lastOutput.getD 0
    | name :: args =>
      match ← openAll io openings with
      | .error m => complain io m; pure 2
      | .ok io' =>
        match builtin io' name args with
        | some b => b
        | none => program fuel io' name args assigns

/-- Run a program from the shell, giving its status. -/
def program : Nat → Io → String → List String → List (String × String) → ShM Nat
  | 0, _, _, _, _ => pure 2
  | fuel + 1, io, name, args, assigns => do
    let s ← get
    let env := distinctVars (s.environment ++ assigns)
    match resolve s.host ((s.getVar "PATH").getD "") s.host.cwd name with
    | .error .permissionDenied =>
      complain io (name ++ ": Permission denied")
      pure 126
    | .error _ =>
      complain io (name ++ ": not found")
      pure 127
    | .ok prog => do
      let stdin := match io.input with
        | .shell => s.input
        | .bytes b => b
      let fin := runProgram fuel s.host prog ⟨name, args, env, s.host.cwd, stdin⟩
      modify fun s => { s with
        host := { fin.host with cwd := s.host.cwd },
        elapsedMs := s.elapsedMs + fin.outcome.elapsedMs }
      giveBack io fin.unread
      emit io.out fin.outcome.stdout
      emit io.err fin.outcome.stderr
      return match fin.outcome.exit with
        | .code n => n
        | .signal k => 128 + k

/-- Run the commands of a pipeline after the first, each fed by the one before. -/
def piped : Nat → Io → List UInt8 → Nat → Nat → List Command → ShM (Nat × Nat)
  | 0, _, _, _, _, _ => pure (2, 0)
  | _, _, _, status, slowest, [] => pure (status, slowest)
  | fuel + 1, io, fed, _, slowest, c :: cs => do
    let last := cs.isEmpty
    let (status, out, took) ← copyRun fuel
      { io with input := .bytes fed, out := if last then io.out else .pipe } c
    piped fuel io out status (max slowest took) cs

/-- Run a command as a copy of the shell: its status, what it wrote to the pipe, and the time
it took.  Its variables stay inside; an `exit` ends only the copy. -/
def copyRun : Nat → Io → Command → ShM (Nat × List UInt8 × Nat)
  | 0, _, _ => pure (2, [], 0)
  | fuel + 1, io, c => do
    let saved ← get
    set { saved with pipe := [] }
    let stop ← tryCatch (do let st ← command fuel io c; pure (Sum.inl st))
      (fun e => pure (Sum.inr e))
    let inner ← get
    let status ← match stop with
      | .inl st => pure st
      | .inr (.exit n) => pure n
      | .inr (.killed k) => throw (.killed k)
    set { saved with
      stdout := inner.stdout, stderr := inner.stderr, input := inner.input, host := inner.host }
    return (status, inner.pipe, inner.elapsedMs - saved.elapsedMs)

/-- Run a pipeline, giving its status. -/
def pipeline : Nat → Io → Pipeline → ShM Nat
  | 0, _, _ => pure 2
  | fuel + 1, io, p => do
    let status ← match p.commands with
      | [c] => command fuel io c
      | c :: cs => do
        let start := (← get).elapsedMs
        let (first, out, took) ← copyRun fuel { io with out := .pipe } c
        let (status, slowest) ← piped fuel io out first took cs
        modify fun s => { s with elapsedMs := start + slowest }
        pure status
      | [] => pure 0
    let status := if p.negated then (if status == 0 then 1 else 0) else status
    modify fun s => { s with status }
    return status

/-- Run the pipelines of a chain after the first, as `&&` and `||` say. -/
def chainRest : Nat → Io → List (Joint × Pipeline) → ShM Unit
  | 0, _, _ => pure ()
  | _, _, [] => pure ()
  | fuel + 1, io, (j, p) :: rest => do
    let ok := (← get).status == 0
    if (j == .both && ok) || (j == .either && !ok) then
      let _ ← pipeline fuel io p
    chainRest fuel io rest

/-- Run the entries of a script; a fault ends the shell with status 2. -/
def run : Nat → Io → List Entry → ShM Unit
  | 0, _, _ => pure ()
  | _, _, [] => pure ()
  | fuel + 1, io, e :: es => do
    match e with
    | .chains cs =>
      for ch in cs do
        let _ ← pipeline fuel io ch.first
        chainRest fuel io ch.rest
      run fuel io es
    | .fault line m =>
      modify fun s => { s with line }
      complain io m
      throw (.exit 2)

/-- Run the shell program. -/
def runShell : Nat → Host → Launch → Finished
  | 0, h, l => ⟨{ exit := .code 2 }, l.stdin, h⟩
  | fuel + 1, h, l =>
    match shellArgs h l with
    | .error m => ⟨{ stderr := bytesOf m, exit := .code 2 }, l.stdin, h⟩
    | .ok (script, params, fromInput) =>
      let env := distinctVars l.env
      let start : Sh := {
        host := { h with cwd := l.cwd }, vars := env, exported := env.map Prod.fst,
        params, input := if fromInput then [] else l.stdin }
      let (r, s) := ((run fuel {} (parse script)).run).run start
      let exit := match r with
        | .ok _ => Exit.code s.status
        | .error (.exit n) => .code n
        | .error (.killed k) => .signal k
      ⟨{ stdout := s.stdout, stderr := s.stderr, exit, elapsedMs := s.elapsedMs }, s.input,
        { s.host with cwd := h.cwd }⟩

/-- Run `env`: variables set by its arguments, then a program, or the environment printed. -/
def envProgram : Nat → Host → Launch → Finished
  | 0, h, l => ⟨{ exit := .code 2 }, l.stdin, h⟩
  | fuel + 1, h, l =>
    let sets := l.args.takeWhile (fun a => a.contains '=' && !a.startsWith "=")
    let rest := l.args.dropWhile (fun a => a.contains '=' && !a.startsWith "=")
    let env := distinctVars (l.env ++ sets.filterMap fun a => match a.splitOn "=" with
      | n :: v :: more => some (n, "=".intercalate (v :: more))
      | _ => none)
    match rest with
    | [] => finishedWith h l (bytesOf (String.join (env.map fun (k, v) => k ++ "=" ++ v ++ "\n"))) [] 0
    | name :: args =>
      match resolve h ((lookupVar env "PATH").getD "") l.cwd name with
      | .ok p => runProgram fuel h p ⟨name, args, env, l.cwd, l.stdin⟩
      | .error .permissionDenied =>
        finishedWith h l [] (bytesOf ("env: '" ++ name ++ "': Permission denied\n")) 126
      | .error _ =>
        finishedWith h l [] (bytesOf ("env: '" ++ name ++ "': No such file or directory\n")) 127

/-- Run an installed program. -/
def runProgram : Nat → Host → Program → Launch → Finished
  | 0, h, _, l => ⟨{ exit := .code 2 }, l.stdin, h⟩
  | fuel + 1, h, p, l =>
    match p with
    | .shell => runShell fuel h l
    | .passthrough => ⟨passthrough l.stdin l.env, [], h⟩
    | .cat => catProgram h l
    | .sleep => sleepProgram h l
    | .wc => wcProgram h l
    | .echo => echoProgram h l
    | .printf => printfProgram h l
    | .succeed => finishedWith h l [] [] 0
    | .fail => finishedWith h l [] [] 1
    | .env => envProgram fuel h l
    | .printenv => printenvProgram h l
    | .pwd => finishedWith h l (bytesOf (l.cwd ++ "\n")) [] 0

end

end Workflow.Shell

namespace Workflow.Exec

/-- How deep scripts, command output and programs may nest. -/
def nestingFuel : Nat := 256

/-- Start a program on a host and run it to its end, or the failure that kept it from
starting: a working directory that is missing or not a directory, or a program that is not
found or cannot be executed. -/
def start (h : Host) (l : Launch) : Except Host.OsError Outcome :=
  match h.lookup l.cwd with
  | .ok (.file _) => .error .notDirectory
  | .error e => .error e
  | .ok .dir =>
    match resolve h ((lookupVar l.env "PATH").getD "") l.cwd l.program with
    | .error e => .error e
    | .ok p => .ok (Shell.runProgram nestingFuel h p l).outcome

end Workflow.Exec
