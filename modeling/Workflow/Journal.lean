/-! # Journal

What a run says while it works: events with a level, the part of the program that speaks
(its target), a message and named fields.  A field holds its value already as text: most
values are written as they display, and a few texts are written quoted (`quoted`).

A world that keeps a journal is an instance of `Journal`; `say` adds an event to it.  A line
of the console log is `<time> <level> <target>: <message> name=value …`, the level right
aligned in five columns.
-/

namespace Workflow

/-- How much an event matters, from least to most. -/
inductive Level where
  | trace
  | debug
  | info
  | warn
  | error
deriving DecidableEq, Repr, Inhabited

namespace Level

/-- The level as a number, least first. -/
def rank : Level → Nat
  | .trace => 0
  | .debug => 1
  | .info => 2
  | .warn => 3
  | .error => 4

/-- The level's label, right aligned in five columns. -/
def label : Level → String
  | .trace => "TRACE"
  | .debug => "DEBUG"
  | .info => " INFO"
  | .warn => " WARN"
  | .error => "ERROR"

end Level

/-- One thing a run says. -/
structure Event where
  level : Level
  target : String
  message : String
  fields : List (String × String) := []
deriving DecidableEq, Repr, Inhabited

/-- The escape that a quoted text uses for a character, if it needs one. -/
def quoteEscape (c : Char) : Option String :=
  match c with
  | '\t' => some "\\t"
  | '\r' => some "\\r"
  | '\n' => some "\\n"
  | '\\' => some "\\\\"
  | '"' => some "\\\""
  | _ =>
    let n := c.toNat
    if n == 0 then some "\\0"
    else if n < 0x20 || (0x7F ≤ n && n < 0xA0) then
      some ("\\u\x7b" ++ String.ofList (Nat.toDigits 16 n) ++ "\x7d")
    else none

/-- A text between double quotes, with quotes, backslashes and control characters escaped. -/
def quoted (s : String) : String :=
  "\"" ++ String.join (s.toList.map fun c => (quoteEscape c).getD (String.singleton c)) ++ "\""

/-- The event as a console line after a time stamp. -/
def Event.line (e : Event) (stamp : String) : String :=
  stamp ++ " " ++ e.level.label ++ " " ++ e.target ++ ": " ++ e.message ++
    String.join (e.fields.map fun (k, v) => " " ++ k ++ "=" ++ v)

/-- A world that keeps the events said in it. -/
class Journal (σ : Type) where
  note : Event → σ → σ

/-- Add an event to the world's journal. -/
def say {σ : Type} [Journal σ] (e : Event) : StateM σ Unit := modify (Journal.note e)

/-- A world that keeps no journal. -/
instance : Journal Unit := ⟨fun _ u => u⟩

end Workflow
