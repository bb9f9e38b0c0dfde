/-! # Reading bytes with recoverable and final failures

A `Reader` consumes a prefix of a byte sequence and returns a value, or fails.  A failure
records where reading stood when it failed, notes added on its way out (the name of what
was being read, and what was expected there), and perhaps a cause.

A failure is *recoverable* until something declares the input committed (`commit`): then
it is *final*, and alternatives (`orElse`, `optional`, loops) stop trying and pass it on.
A failed step leaves the position where the failing primitive stood, except that a check
on a finished value (`check`, `mapOrFail`) reports the place where that value began.

The message of a failure reads `invalid <name>`, then `expected <a>, <b>, …`, then the
cause, each on its own line, the name being the first one noted.
-/

namespace Workflow.Toml

/-- Something a reader expected to find. -/
inductive Expectation where
  /-- One character. -/
  | char (c : Char)
  /-- A literal text. -/
  | text (s : String)
  /-- A description in words. -/
  | words (s : String)
deriving DecidableEq, Repr

/-- How an expectation is written in a message. -/
def Expectation.render : Expectation → String
  | .char '\n' => "newline"
  | .char '`' => "'`'"
  | .char c =>
    if c.toNat < 0x20 || c.toNat == 0x7F then
      "`\\u\x7b" ++ String.ofList (Nat.toDigits 16 c.toNat) ++ "\x7d`"
    else "`" ++ String.singleton c ++ "`"
  | .text s => "`" ++ s ++ "`"
  | .words s => s

/-- A note added to a failure on its way out. -/
inductive Note where
  /-- The name of what was being read. -/
  | label (name : String)
  /-- Something that would have been accepted. -/
  | expected (e : Expectation)
deriving DecidableEq, Repr

/-- A failed read: whether it is final, the byte offset where it happened, its notes in the
order they were added, and its cause. -/
structure Failure where
  final : Bool
  offset : Nat
  notes : List Note := []
  cause : Option String := none
deriving DecidableEq, Repr

/-- The message of a failure. -/
def Failure.message (f : Failure) : String :=
  let name := f.notes.findSome? fun n => match n with
    | .label l => some l
    | _ => none
  let expected := f.notes.filterMap fun n => match n with
    | .expected e => some e.render
    | _ => none
  let parts := (name.map ("invalid " ++ ·)).toList ++
    (if expected.isEmpty then [] else ["expected " ++ ", ".intercalate expected]) ++
    f.cause.toList
  "\n".intercalate parts

/-- Where reading stands: the bytes left and their offset in the whole input. -/
structure Source where
  rest : List UInt8
  offset : Nat
deriving DecidableEq, Repr

/-- A reader of bytes. -/
abbrev Reader := StateT Source (Except Failure)

namespace Reader

variable {α β : Type}

/-- Fail here, recoverably. -/
def failHere : Reader α := do
  let s ← get
  throw ⟨false, s.offset, [], none⟩

/-- The next byte, without consuming it. -/
def peekByte : Reader (Option UInt8) := do return (← get).rest.head?

/-- The next two bytes, if there are two, without consuming them. -/
def peekTwo : Reader (Option (UInt8 × UInt8)) := do
  match (← get).rest with
  | a :: b :: _ => return some (a, b)
  | _ => return none

/-- Consume one byte. -/
def advance (s : Source) : Source :=
  match s.rest with
  | [] => s
  | _ :: rest => ⟨rest, s.offset + 1⟩

/-- One byte, whatever it is; fails at the end. -/
def anyByte : Reader UInt8 := do
  let s ← get
  match s.rest with
  | b :: rest => set (⟨rest, s.offset + 1⟩ : Source); return b
  | [] => failHere

/-- One byte of a class; fails without consuming otherwise. -/
def byteIn (p : UInt8 → Bool) : Reader UInt8 := do
  let s ← get
  match s.rest with
  | b :: rest => if p b then set (⟨rest, s.offset + 1⟩ : Source); return b else failHere
  | [] => failHere

/-- One given byte. -/
def byte (c : UInt8) : Reader Unit := do let _ ← byteIn (· == c)

/-- The longest run of bytes of a class, at least `least` bytes and at most `most` (no
limit when `most` is zero); fails without consuming when the run is shorter than `least`. -/
def takeRun (p : UInt8 → Bool) (least most : Nat) : Reader (List UInt8) := do
  let s ← get
  let run := s.rest.takeWhile p
  let run := if most == 0 then run else run.take most
  if run.length < least then failHere
  else
    set (⟨s.rest.drop run.length, s.offset + run.length⟩ : Source)
    return run

/-- A literal byte sequence; fails without consuming otherwise. -/
def literal (bs : List UInt8) : Reader Unit := do
  let s ← get
  if bs.isPrefixOf s.rest then set (⟨s.rest.drop bs.length, s.offset + bs.length⟩ : Source)
  else failHere

/-- The end of the input. -/
def atEnd : Reader Unit := do
  if (← get).rest.isEmpty then return () else failHere

/-- Make the failures of a reader final. -/
def commit (r : Reader α) : Reader α := fun s =>
  match r s with
  | .error f => .error { f with final := true }
  | ok => ok

/-- Add a note to the failures of a reader. -/
def note (n : Note) (r : Reader α) : Reader α := fun s =>
  match r s with
  | .error f => .error { f with notes := f.notes ++ [n] }
  | ok => ok

/-- Name what a reader reads, in its failures. -/
def label (name : String) (r : Reader α) : Reader α := note (.label name) r

/-- Say what a reader would accept, in its failures. -/
def expect (e : Expectation) (r : Reader α) : Reader α := note (.expected e) r

/-- The first reader, or the second when the first fails recoverably. -/
def orElse (r : Reader α) (other : Reader α) : Reader α := fun s =>
  match r s with
  | .error f => if f.final then .error f else other s
  | ok => ok

/-- The first of several readers that does not fail recoverably; the last failure else. -/
def firstOf : List (Reader α) → Reader α
  | [] => failHere
  | [r] => r
  | r :: rs => orElse r (firstOf rs)

/-- A reader's value, or nothing when it fails recoverably (consuming nothing then). -/
def optional (r : Reader α) : Reader (Option α) := fun s =>
  match r s with
  | .ok (a, s') => .ok (some a, s')
  | .error f => if f.final then .error f else .ok (none, s)

/-- Run a reader and give the value back without consuming. -/
def lookAhead (r : Reader α) : Reader α := fun s =>
  match r s with
  | .ok (a, _) => .ok (a, s)
  | .error f => .error { f with offset := s.offset }

/-- A reader's value with the byte range it consumed. -/
def spanned (r : Reader α) : Reader (α × Nat × Nat) := fun s =>
  match r s with
  | .ok (a, s') => .ok ((a, s.offset, s'.offset), s')
  | .error f => .error f

/-- The bytes a reader consumed. -/
def consumed (r : Reader α) : Reader (List UInt8) := fun s =>
  match r s with
  | .ok (_, s') => .ok (s.rest.take (s'.offset - s.offset), s')
  | .error f => .error f

/-- Turn a reader's value into another, or fail recoverably where it began, with a cause. -/
def mapOrFail (r : Reader α) (f : α → Except String β) : Reader β := fun s =>
  match r s with
  | .ok (a, s') =>
    match f a with
    | .ok b => .ok (b, s')
    | .error c => .error ⟨false, s.offset, [], some c⟩
  | .error e => .error e

/-- Keep a reader's value only when it passes a test; else fail recoverably where it began. -/
def check (r : Reader α) (ok : α → Bool) : Reader α := fun s =>
  match r s with
  | .ok (a, s') => if ok a then .ok (a, s') else .error ⟨false, s.offset, [], none⟩
  | .error e => .error e

/-- Run a reader as often as it succeeds and consumes, at most `fuel` times. -/
def manyFuel (r : Reader α) : Nat → List α → Reader (List α)
  | 0, acc => return acc.reverse
  | fuel + 1, acc => fun s =>
    match r s with
    | .ok (a, s') =>
      if s'.offset ≤ s.offset then .ok ((a :: acc).reverse, s')
      else manyFuel r fuel (a :: acc) s'
    | .error f => if f.final then .error f else .ok (acc.reverse, s)

/-- Run a reader as often as it succeeds. -/
def many (r : Reader α) : Reader (List α) := fun s => manyFuel r (s.rest.length + 1) [] s

/-- Items separated by a separator, after a first item that has been read; a separator not
followed by an item is left unread. -/
def moreSeparated (r : Reader α) (sep : Reader Unit) : Nat → List α → Reader (List α)
  | 0, acc => return acc.reverse
  | fuel + 1, acc => fun s =>
    match sep s with
    | .error f => if f.final then .error f else .ok (acc.reverse, s)
    | .ok ((), s1) =>
      match r s1 with
      | .error f => if f.final then .error f else .ok (acc.reverse, s)
      | .ok (a, s2) =>
        if s2.offset ≤ s.offset then .ok ((a :: acc).reverse, s2)
        else moreSeparated r sep fuel (a :: acc) s2

/-- One or more items separated by a separator. -/
def separated1 (r : Reader α) (sep : Reader Unit) : Reader (List α) := do
  let first ← r
  fun s => moreSeparated r sep (s.rest.length + 1) [first] s

/-- Zero or more items separated by a separator. -/
def separated0 (r : Reader α) (sep : Reader Unit) : Reader (List α) := do
  match ← optional r with
  | none => return []
  | some first => fun s => moreSeparated r sep (s.rest.length + 1) [first] s

end Reader

end Workflow.Toml
