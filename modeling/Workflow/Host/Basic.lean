/-! # The host a command runs on

A `Host` is what the program sees of the machine it runs on: the files below one root
directory, the environment variables, and the working directory.  Paths are strings as the
operating system takes them: absolute when they start at `/` or at the root's own name,
else relative to the working directory.  A path outside the root names nothing.

Every file operation answers with an `OsError` when it cannot be done, written the way the
operating system reports it (`No such file or directory (os error 2)`).
-/

namespace Workflow.Host

/-- What a path holds. -/
inductive Node where
  | file (bytes : List UInt8)
  | dir
deriving DecidableEq, Repr, Inhabited

/-- A failure reported by the operating system. -/
inductive OsError where
  | notFound
  | permissionDenied
  | notDirectory
  | isDirectory
  | invalidUtf8
  | addressNotAvailable
  | addressInUse
deriving DecidableEq, Repr

/-- The words for an operating-system failure. -/
def OsError.message : OsError → String
  | .notFound => "No such file or directory (os error 2)"
  | .permissionDenied => "Permission denied (os error 13)"
  | .notDirectory => "Not a directory (os error 20)"
  | .isDirectory => "Is a directory (os error 21)"
  | .invalidUtf8 => "stream did not contain valid UTF-8"
  | .addressNotAvailable => "Cannot assign requested address (os error 99)"
  | .addressInUse => "Address in use (os error 98)"

end Host

/-- The machine a command runs on. -/
structure Host where
  /-- The absolute path of the directory that holds every file. -/
  root : String
  /-- The files and directories below the root, by path relative to it. -/
  files : List (String × Host.Node) := []
  /-- The environment variables, the last binding of a name winning. -/
  env : List (String × String) := []
  /-- The absolute path of the working directory. -/
  cwd : String
deriving Repr, Inhabited

namespace Host

/-- Join two paths: an absolute second path replaces the first. -/
def joinWith (isAbs : String → Bool) (base rel : String) : String :=
  if isAbs rel || base.isEmpty then rel
  else if base.endsWith "/" then base ++ rel
  else base ++ "/" ++ rel

/-- The components of a path, with empty and `.` components dropped and `..` stepping back. -/
def components (p : String) : List String :=
  ((p.splitOn "/").foldl (fun acc c =>
    if c.isEmpty || c == "." then acc
    else if c == ".." then acc.dropLast
    else acc ++ [c]) [])

/-- Whether a path is absolute on this host. -/
def isAbsolute (h : Host) (p : String) : Bool :=
  p.startsWith "/" || p == h.root || p.startsWith (h.root ++ "/")

/-- Join two paths on this host. -/
def join (h : Host) (base rel : String) : String := joinWith h.isAbsolute base rel

/-- A path made absolute against the working directory. -/
def absolute (h : Host) (p : String) : String :=
  if h.isAbsolute p then p else h.join h.cwd p

/-- The components of a path below the root, or none when it lies outside. -/
def locate (h : Host) (p : String) : Option (List String) :=
  let a := h.absolute p
  if a == h.root then some []
  else if a.startsWith (h.root ++ "/") then some (components (a.drop (h.root.length + 1)).toString)
  else none

/-- The node at a path given by its components below the root. -/
def nodeAt (h : Host) (cs : List String) : Except OsError Node :=
  let entries := h.files.map fun (k, n) => (components k, n)
  let key := cs
  match entries.find? (fun e => e.1 == key) with
  | some (_, n) => .ok n
  | none =>
    if cs.isEmpty || entries.any (fun e => e.1.length > key.length && e.1.take key.length == key) then
      .ok .dir
    else if entries.any (fun e => e.1.length < key.length && key.take e.1.length == e.1 &&
        match e.2 with
        | .file _ => true
        | .dir => false) then
      .error .notDirectory
    else .error .notFound

/-- The node at a path. -/
def lookup (h : Host) (p : String) : Except OsError Node :=
  match h.locate p with
  | some cs => h.nodeAt cs
  | none => .error .notFound

/-- Whether a path names a regular file. -/
def isFile (h : Host) (p : String) : Bool :=
  match h.lookup p with
  | .ok (.file _) => true
  | _ => false

/-- Whether a path names a directory. -/
def isDir (h : Host) (p : String) : Bool :=
  match h.lookup p with
  | .ok .dir => true
  | _ => false

/-- The bytes of a file. -/
def readBytes (h : Host) (p : String) : Except OsError (List UInt8) :=
  match h.lookup p with
  | .ok (.file bs) => .ok bs
  | .ok .dir => .error .isDirectory
  | .error e => .error e

/-- Bytes as text, when they are UTF-8. -/
def decodeUtf8 (bs : List UInt8) : Option String := String.fromUTF8? (ByteArray.mk bs.toArray)

/-- The text of a file, which must be UTF-8. -/
def readText (h : Host) (p : String) : Except OsError String := do
  let bs ← h.readBytes p
  match decodeUtf8 bs with
  | some s => .ok s
  | none => .error .invalidUtf8

/-- The host with the file at a path holding these bytes, in place of whatever was there; a
path outside the root changes nothing. -/
def putFile (h : Host) (p : String) (bs : List UInt8) : Host :=
  match h.locate p with
  | some cs =>
    { h with files := (h.files.filter fun e => components e.1 != cs) ++
        [("/".intercalate cs, .file bs)] }
  | none => h

/-- The value of an environment variable. -/
def getEnv (h : Host) (name : String) : Option String :=
  (h.env.reverse.find? (fun kv => kv.1 == name)).map Prod.snd

/-- The host with more environment variables, each replacing one of the same name. -/
def withEnv (h : Host) (vars : List (String × String)) : Host :=
  { h with env := h.env ++ vars }

end Host

end Workflow
