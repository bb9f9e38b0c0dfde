import Workflow.Host.Basic
/-! # Processes

A process is started from a `Launch`: the program (a name looked up on `PATH`, or a path),
its arguments, its environment, its working directory and the bytes it reads.  It leaves an
`Outcome`: what it wrote to its two outputs, how it ended, and how long it ran.  A process
ends with an exit status, or is killed by a signal and has no status.

`lossyUtf8` reads bytes as text the forgiving way: every maximal run of bytes that begins a
UTF-8 sequence but does not finish it, and every byte that cannot begin one, becomes one
U+FFFD replacement character.
-/

namespace Workflow.Exec

/-- How a process ended. -/
inductive Exit where
  /-- It exited with a status, 0 to 255. -/
  | code (n : Nat)
  /-- It was killed by a signal. -/
  | signal (n : Nat)
deriving DecidableEq, Repr, Inhabited

/-- Whether a process succeeded: it exited with status zero. -/
def Exit.success : Exit → Bool
  | .code 0 => true
  | _ => false

/-- The exit status, none for a process killed by a signal. -/
def Exit.status? : Exit → Option Nat
  | .code n => some n
  | .signal _ => none

/-- What a finished process left behind. -/
structure Outcome where
  stdout : List UInt8 := []
  stderr : List UInt8 := []
  exit : Exit := .code 0
  /-- How long it ran, in milliseconds. -/
  elapsedMs : Nat := 0
deriving Repr, Inhabited

/-- A program to start. -/
structure Launch where
  program : String
  args : List String := []
  env : List (String × String) := []
  cwd : String
  stdin : List UInt8 := []
deriving Repr, Inhabited

/-- The value of a variable in an environment, the last binding winning. -/
def lookupVar (env : List (String × String)) (name : String) : Option String :=
  (env.reverse.find? (fun kv => kv.1 == name)).map Prod.snd

/-- The bytes of a text. -/
def bytesOf (s : String) : List UInt8 := s.toUTF8.toList

/-- Whether a byte continues a UTF-8 sequence within the given range. -/
def inRange (lo hi : UInt8) (b : UInt8) : Bool := lo ≤ b && b ≤ hi

/-- The ranges the continuation bytes of a sequence must fall in, by its first byte; none
for a byte that cannot begin a sequence of two or more bytes. -/
def continuationRanges (b : UInt8) : Option (List (UInt8 × UInt8)) :=
  if inRange 0xC2 0xDF b then some [(0x80, 0xBF)]
  else if b == 0xE0 then some [(0xA0, 0xBF), (0x80, 0xBF)]
  else if inRange 0xE1 0xEC b || inRange 0xEE 0xEF b then some [(0x80, 0xBF), (0x80, 0xBF)]
  else if b == 0xED then some [(0x80, 0x9F), (0x80, 0xBF)]
  else if b == 0xF0 then some [(0x90, 0xBF), (0x80, 0xBF), (0x80, 0xBF)]
  else if inRange 0xF1 0xF3 b then some [(0x80, 0xBF), (0x80, 0xBF), (0x80, 0xBF)]
  else if b == 0xF4 then some [(0x80, 0x8F), (0x80, 0xBF), (0x80, 0xBF)]
  else none

/-- How many of the next bytes fit the continuation ranges, in order. -/
def fitting : List (UInt8 × UInt8) → List UInt8 → Nat
  | (lo, hi) :: rs, b :: bs => if inRange lo hi b then 1 + fitting rs bs else 0
  | _, _ => 0

/-- The code point of a complete sequence. -/
def codePoint (first : UInt8) (rest : List UInt8) : Nat :=
  let lead := first.toNat
  let init :=
    if lead < 0xE0 then lead % 0x20 else if lead < 0xF0 then lead % 0x10 else lead % 0x08
  rest.foldl (fun acc b => acc * 64 + b.toNat % 64) init

/-- Bytes as text, invalid sequences replaced. -/
def lossyChars : Nat → List UInt8 → List Char
  | 0, _ => []
  | _, [] => []
  | fuel + 1, b :: bs =>
    if b < 0x80 then Char.ofNat b.toNat :: lossyChars fuel bs
    else
      match continuationRanges b with
      | none => '�' :: lossyChars fuel bs
      | some rs =>
        let k := fitting rs bs
        if k == rs.length then Char.ofNat (codePoint b (bs.take k)) :: lossyChars fuel (bs.drop k)
        else '�' :: lossyChars fuel (bs.drop k)

/-- Bytes as text, each invalid sequence replaced by U+FFFD. -/
def lossyUtf8 (bs : List UInt8) : String := String.ofList (lossyChars (bs.length + 1) bs)

end Workflow.Exec
