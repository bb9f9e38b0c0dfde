import Workflow.Exec.Basic
/-! # Programs and where they are found

The programs a handler can start are the ones installed on the machine: the system shell and
a few standard tools in `/usr/bin` (also reachable as `/bin`), and the passthrough handler in
`/usr/local/bin`.  Files below the host's root are never executable.

A program name without a `/` is looked up in each directory of `PATH` in turn (an empty
entry is the working directory); a name with a `/` is a path, relative to the working
directory.  A path that holds a file or a directory that is not an installed program cannot
be executed (`Permission denied`); one that holds nothing is not found.  A search that meets
only such files ends as `Permission denied`, one that meets nothing as not found.
-/

namespace Workflow.Exec

/-- An installed program. -/
inductive Program where
  /-- The system shell. -/
  | shell
  /-- The handler that answers with its input. -/
  | passthrough
  | cat
  | sleep
  | wc
  | echo
  | printf
  | succeed
  | fail
  | env
  | printenv
  | pwd
deriving DecidableEq, Repr, Inhabited

/-- The installed programs of the system directories, by file name. -/
def systemPrograms : List (String × Program) :=
  [("sh", .shell), ("dash", .shell), ("cat", .cat), ("sleep", .sleep), ("wc", .wc),
   ("echo", .echo), ("printf", .printf), ("true", .succeed), ("false", .fail), ("env", .env),
   ("printenv", .printenv), ("pwd", .pwd)]

/-- The directories that hold the system programs. -/
def systemDirs : List String := ["/usr/bin", "/bin"]

/-- Where the passthrough handler is installed. -/
def passthroughPath : String := "/usr/local/bin/stately-passthrough"

/-- The program installed at an absolute path. -/
def installedAt (path : String) : Option Program :=
  let normal := "/" ++ "/".intercalate (Host.components path)
  if normal == passthroughPath then some .passthrough
  else
    let dir := "/" ++ "/".intercalate ((Host.components path).dropLast)
    if systemDirs.contains dir then
      match (Host.components path).getLast? with
      | some name => (systemPrograms.find? (fun e => e.1 == name)).map Prod.snd
      | none => none
    else none

/-- What starting the file at an absolute path finds. -/
def programAt (h : Host) (path : String) : Except Host.OsError Program :=
  match installedAt path with
  | some p => .ok p
  | none =>
    match h.lookup path with
    | .ok _ => .error .permissionDenied
    | .error .notDirectory => .error .notDirectory
    | .error _ => .error .notFound

/-- The program a name starts, searched in a `PATH` value from a working directory. -/
def resolve (h : Host) (searchPath : String) (cwd : String) (name : String) :
    Except Host.OsError Program :=
  if name.isEmpty then .error .notFound
  else if name.contains '/' then programAt h (h.join cwd name)
  else
    let dirs := searchPath.splitOn ":"
    let step (seen : Option Host.OsError) (dir : String) : Except Host.OsError Program ⊕ Option Host.OsError :=
      let base := if dir.isEmpty then cwd else h.join cwd dir
      match programAt h (h.join base name) with
      | .ok p => .inl (.ok p)
      | .error .permissionDenied => .inr (some .permissionDenied)
      | .error _ => .inr seen
    let rec search : List String → Option Host.OsError → Except Host.OsError Program
      | [], seen => .error (seen.getD .notFound)
      | d :: ds, seen =>
        match step seen d with
        | .inl r => r
        | .inr seen' => search ds seen'
    search dirs none

end Workflow.Exec
