import Workflow.Journal
import Workflow.Time.Timestamp
/-! # The console log

The console shows the events a filter lets through, one line each, stamped with the time
they were said at.

A filter is written as directives separated by commas.  A directive is a level alone
(`info`; names in any case, or `0` for `off` to `5` for `trace`), which sets the level of
every target, or a target, optionally followed by `=` and a level (`stately=debug`; a
target without a level shows everything it says).  A target that is itself a level name is
no target.  A directive that names a span (`[name]`) only shows events inside such spans,
and the program says nothing inside spans, so it shows nothing.  A directive that cannot be
read is left out, and the console says so first: ``ignoring `<directive>`: invalid filter
directive``.

An event is shown when the most specific directive whose target starts its target (the
longest target; for equally long ones, the later in reverse text order; a level alone
last) allows its level.  An event that no directive covers is not shown.  Of two
directives with the same target the later wins.
-/

namespace Workflow

/-- One directive of a console filter: the targets it covers (all when none) and the least
level it shows (nothing when none). -/
structure Directive where
  target : Option String
  least : Option Level
deriving DecidableEq, Repr, Inhabited

namespace Directive

/-- The level a level name means: some none for `off`. -/
def levelOf (s : String) : Option (Option Level) :=
  match s.toLower with
  | "off" | "0" => some none
  | "error" | "1" => some (some .error)
  | "warn" | "2" => some (some .warn)
  | "info" | "3" => some (some .info)
  | "debug" | "4" => some (some .debug)
  | "trace" | "5" => some (some .trace)
  | _ => none

/-- Characters a target is made of. -/
def isTargetChar (c : Char) : Bool :=
  c.isAlphanum || c == '_' || c == ':' || c == '-' || (c.toNat > 127 && !c.isWhitespace)

/-- A span part `[…]` at the start of some characters: what follows it. -/
def spanPart : List Char → Option (List Char)
  | '[' :: rest =>
    match rest.dropWhile (· != ']') with
    | ']' :: after => some after
    | _ => none
  | _ => none

/-- The parts of a directive before its level: a target or a span, once or twice.  The
target (the last one read), whether a span was named, and what follows. -/
def heads (cs : List Char) : Option (Option String × Bool × List Char) :=
  let one (cs : List Char) : Option (Option String × Bool × List Char) :=
    match spanPart cs with
    | some rest => some (none, true, rest)
    | none =>
      let (t, rest) := cs.span isTargetChar
      if t.isEmpty then none else some (some (String.ofList t), false, rest)
  match one cs with
  | none => none
  | some (t, sp, rest) =>
    match one rest with
    | some (t', sp', rest') => some (t'.orElse fun _ => t, sp || sp', rest')
    | none => some (t, sp, rest)

/-- Read one directive: the directive, none for one that names a span, or an error. -/
def parse (s : String) : Except String (Option Directive) :=
  match levelOf s with
  | some least => .ok (some ⟨none, least⟩)
  | none =>
    match heads s.toList with
    | none => .error "invalid filter directive"
    | some (target, span, rest) =>
      let least : Option (Option Level) := match rest with
        | [] => some (some .trace)
        | ['='] => some (some .trace)
        | '=' :: l => levelOf (String.ofList l)
        | _ => none
      match least with
      | none => .error "invalid filter directive"
      | some least =>
        if span then .ok none
        else
          let target := target.filter fun t => (levelOf t).isNone
          .ok (some ⟨target, least⟩)

/-- Whether a directive is tried before another: longer targets first, then targets in
reverse text order, a directive without a target last. -/
def before (a b : Directive) : Bool :=
  match a.target, b.target with
  | some x, some y => x.length > y.length || (x.length == y.length && y < x)
  | some _, none => true
  | none, _ => false

/-- Put a directive among others kept most specific first; one with the same target is
replaced. -/
def insert (d : Directive) : List Directive → List Directive
  | [] => [d]
  | e :: es =>
    if e.target == d.target then d :: es
    else if before d e then d :: e :: es
    else e :: insert d es

end Directive

/-- A console filter: its directives, most specific first. -/
structure LogFilter where
  directives : List Directive := []
deriving DecidableEq, Repr, Inhabited

namespace LogFilter

/-- Read a filter: the filter, and a complaint for every directive left out. -/
def parse (text : String) : LogFilter × List String :=
  let parts := (text.splitOn ",").filter (!·.isEmpty)
  parts.foldl (fun (f, complaints) part =>
    match Directive.parse part with
    | .ok (some d) => ({ directives := Directive.insert d f.directives }, complaints)
    | .ok none => (f, complaints)
    | .error e => (f, complaints ++ ["ignoring \x60" ++ part ++ "\x60: " ++ e])) ({}, [])

/-- Whether the filter shows an event. -/
def shows (f : LogFilter) (e : Event) : Bool :=
  match f.directives.find? (fun d => match d.target with
      | some t => t.isPrefixOf e.target
      | none => true) with
  | some d =>
    match d.least with
    | some l => l.rank ≤ e.level.rank
    | none => false
  | none => false

end LogFilter

/-- The console lines of events said at given times that a filter shows. -/
def consoleLines (f : LogFilter) (events : List (Int × Event)) : String :=
  String.join (events.filterMap fun (at_, e) =>
    if f.shows e then some (e.line (Time.ofMillis at_) ++ "\n") else none)

end Workflow
