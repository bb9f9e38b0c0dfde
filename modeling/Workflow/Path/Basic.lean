import Workflow.Text.Blank
/-! # Reference paths

A reference path names one place inside a JSON value: `$` is the whole value, and each
segment steps into an object by name (`.name`, `['name']`, `["name"]`) or into an array by
position (`[3]`).  Query features (wildcards, recursive descent, filters, slices, unions)
are refused, so a path names at most one place.

Reading (`Path.parse`) first trims blanks from both ends, then requires `$` and reads
segments until the text ends:

* `.name` runs up to the next `.` or `[`; it may not be empty or `*`, and `..` is refused;
* `[ … ]` runs up to the first `]`; its inside, trimmed, is a name in single or double
  quotes (at least the two quotes) or else a natural number below `2^64`, written with
  decimal digits and an optional leading `+`.

A path keeps the text it was read from (`raw`), which every error message quotes.
-/

namespace Workflow

/-- One step of a path: into an object by name, or into an array by position. -/
inductive Segment where
  | key (name : String)
  | index (n : Nat)
deriving DecidableEq, Repr, Inhabited

/-- A segment as error messages show it: a name as itself, a position as `[n]`. -/
def Segment.display : Segment → String
  | .key name => name
  | .index n => "[" ++ toString n ++ "]"

/-- Why a text is not a path. -/
inductive SyntaxReason where
  | missingRoot
  | recursiveDescent
  | emptyMember
  | wildcard
  | badBracket
  | unclosedBracket
  | expectedSeparator
deriving DecidableEq, Repr

/-- The words for a syntax fault. -/
def SyntaxReason.message : SyntaxReason → String
  | .missingRoot => "must start with '$'"
  | .recursiveDescent => "recursive descent is not supported"
  | .emptyMember => "empty member name"
  | .wildcard => "wildcards are not supported"
  | .badBracket => "only indexes and quoted names are allowed in brackets"
  | .unclosedBracket => "unclosed '['"
  | .expectedSeparator => "expected '.' or '[' after a segment"

/-- Faults of reading, selecting and writing through paths. -/
inductive PathError where
  | malformed (path : String) (reason : SyntaxReason)
  | noMatch (path : String)
  | notAContainer (path : String) (segment : String)
  | invalidParameter (key : String)
  | indexOutOfRange (path : String) (index len : Nat)
deriving DecidableEq, Repr

/-- The words for a path fault. -/
def PathError.message : PathError → String
  | .malformed p r => "invalid path '" ++ p ++ "': " ++ r.message
  | .noMatch p => "path '" ++ p ++ "' does not match any value"
  | .notAContainer p s =>
    "cannot write path '" ++ p ++ "': segment '" ++ s ++ "' is not inside an object or array"
  | .invalidParameter k => "parameter '" ++ k ++ "' must be a path string"
  | .indexOutOfRange p i n =>
    "cannot write path '" ++ p ++ "': index " ++ toString i ++
      " is too far past the end of an array of length " ++ toString n

/-- The name of the kind of fault. -/
def PathError.kind : PathError → String
  | .malformed .. => "Syntax"
  | .noMatch .. => "NoMatch"
  | .notAContainer .. => "NotAContainer"
  | .invalidParameter .. => "InvalidParameter"
  | .indexOutOfRange .. => "IndexOutOfRange"

/-- A path read from text: the text as given and its segments. -/
structure Path where
  raw : String
  segments : List Segment
deriving DecidableEq, Repr

namespace Path

/-- The largest position a path may name: `2^64 - 1`. -/
def maxIndex : Nat := Nat.pow 2 64 - 1

/-- A natural number in decimal with an optional leading `+`, at most `maxIndex`. -/
def parseIndex (cs : List Char) : Option Nat :=
  let digits := match cs with
    | '+' :: rest => rest
    | _ => cs
  if digits.isEmpty || !digits.all Char.isDigit then none
  else
    let n := digits.foldl (fun acc c => acc * 10 + (c.toNat - 48)) 0
    if n ≤ maxIndex then some n else none

/-- The inside of a quoted name: the text between a leading and a trailing `q`. -/
def unquote (q : Char) (cs : List Char) : Option (List Char) :=
  match cs with
  | c :: rest =>
    if c == q then
      match rest.reverse with
      | d :: mid => if d == q then some mid.reverse else none
      | [] => none
    else none
  | [] => none

/-- The segment written inside brackets, already trimmed. -/
def parseBracket (inner : List Char) : Option Segment :=
  match unquote '\'' inner with
  | some name => some (.key (String.ofList name))
  | none =>
    match unquote '"' inner with
    | some name => some (.key (String.ofList name))
    | none => (parseIndex inner).map .index

/-- A character that ends a member name. -/
def endsMember (c : Char) : Bool := c == '.' || c == '['

/-- The segments written after the `$`. -/
def parseSegments (cs : List Char) : Except SyntaxReason (List Segment) :=
  match cs with
  | [] => .ok []
  | '.' :: rest =>
    if rest.head? == some '.' then .error .recursiveDescent
    else
      let name := rest.takeWhile (fun c => !endsMember c)
      if name.isEmpty then .error .emptyMember
      else if name == ['*'] then .error .wildcard
      else
        match parseSegments (rest.dropWhile (fun c => !endsMember c)) with
        | .ok segs => .ok (.key (String.ofList name) :: segs)
        | .error e => .error e
  | '[' :: rest =>
    match _hrest : rest.dropWhile (fun c => c != ']') with
    | [] => .error .unclosedBracket
    | _ :: after =>
      match parseBracket (Text.trimList (rest.takeWhile (fun c => c != ']'))) with
      | none => .error .badBracket
      | some seg =>
        match parseSegments after with
        | .ok segs => .ok (seg :: segs)
        | .error e => .error e
  | _ => .error .expectedSeparator
termination_by cs.length
decreasing_by
  · have := (List.dropWhile_suffix (l := rest) (fun c => !endsMember c)).length_le
    simp only [List.length_cons]
    omega
  · have h := (List.dropWhile_suffix (l := rest) (fun c => c != ']')).length_le
    rw [_hrest] at h
    simp only [List.length_cons] at h ⊢
    omega

/-- Read a path from text. -/
def parse (text : String) : Except PathError Path :=
  match Text.trimList text.toList with
  | '$' :: rest =>
    match parseSegments rest with
    | .ok segs => .ok ⟨text, segs⟩
    | .error r => .error (.malformed text r)
  | _ => .error (.malformed text .missingRoot)

/-- Whether the path is `$`, the whole value. -/
def isRoot (p : Path) : Bool := p.segments.isEmpty

end Path

end Workflow
