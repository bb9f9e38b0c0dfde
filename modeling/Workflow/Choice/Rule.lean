import Workflow.Path.Update
import Workflow.Time.Timestamp
import Workflow.Choice.Wildcard
/-! # Choice rules

A Choice state picks its next state with a list of rules, each a JSON object with a `Next`.
The first rule that holds for the state's input names the next state; when none holds the
state's `Default` does, and without one the choice fails.

A rule is

* `And` / `Or` over a list of rules, or `Not` of one rule (checked in that order, the
  first of these fields present deciding; the lists stop at the first rule that settles
  them);
* otherwise a comparison: `Variable` is a path into the input, and the comparison
  operator is the first field, in key order, other than `Variable`, `Next` and `Comment`.

Operators:

* `IsPresent` tests whether the variable finds a value.  Every other operator is false
  when it finds none.
* `IsNull`, `IsString`, `IsNumeric`, `IsBoolean`, `IsTimestamp` test the kind of the value
  against a boolean operand.
* An operator ending in `Path` takes its operand from the input through a path; when that
  path finds nothing the comparison is false.
* `StringMatches` matches a string against a wildcard pattern; `BooleanEquals` compares
  booleans; `String…`, `Numeric…` and `Timestamp…` with `Equals`, `LessThan`,
  `GreaterThan`, `LessThanEquals` or `GreaterThanEquals` compare strings by code points,
  numbers as doubles and timestamps as instants.  A comparison between values of the wrong
  kinds is false.
-/

namespace Workflow.Choice

open Json

/-- Why a rule cannot be evaluated. -/
inductive RuleProblem where
  | notAnObject
  | andNotArray
  | orNotArray
  | missingVariable
  | missingOperator
  | missingNext
  | badPath (e : PathError)
  | notBoolean (operator : String)
  | notPathString (operator : String)
  | patternNotString
  | unknownOperator (operator : String)
deriving DecidableEq, Repr

/-- The words for a rule problem. -/
def RuleProblem.message : RuleProblem → String
  | .notAnObject => "rule must be an object"
  | .andNotArray => "And must be an array"
  | .orNotArray => "Or must be an array"
  | .missingVariable => "missing Variable"
  | .missingOperator => "missing comparison operator"
  | .missingNext => "missing Next"
  | .badPath e => e.message
  | .notBoolean op => op ++ " must be a boolean"
  | .notPathString op => op ++ " must be a path string"
  | .patternNotString => "StringMatches needs a string pattern"
  | .unknownOperator op => "unknown comparison operator '" ++ op ++ "'"

/-- Why a choice fails. -/
inductive ChoiceError where
  | noChoiceMatched
  | invalidRule (index : Nat) (reason : RuleProblem)
deriving DecidableEq, Repr

/-- The words for a choice failure. -/
def ChoiceError.message : ChoiceError → String
  | .noChoiceMatched => "no choice rule matched and no Default is set"
  | .invalidRule i r => "choice rule " ++ toString i ++ " is invalid: " ++ r.message

/-- The fields of a rule that are not its operator. -/
def reservedKeys : List String := ["Variable", "Next", "Comment"]

/-- How two values of one family compare. -/
inductive Relation where
  | equals
  | lessThan
  | greaterThan
  | lessThanEquals
  | greaterThanEquals
deriving DecidableEq, Repr

/-- What a relation says of an ordering. -/
def Relation.holds : Relation → Ordering → Bool
  | .equals, o => o == .eq
  | .lessThan, o => o == .lt
  | .greaterThan, o => o == .gt
  | .lessThanEquals, o => o != .gt
  | .greaterThanEquals, o => o != .lt

/-- The relation a suffix names. -/
def Relation.ofSuffix : String → Option Relation
  | "Equals" => some .equals
  | "LessThan" => some .lessThan
  | "GreaterThan" => some .greaterThan
  | "LessThanEquals" => some .lessThanEquals
  | "GreaterThanEquals" => some .greaterThanEquals
  | _ => none

/-- The kinds of value a comparison can order. -/
inductive Family where
  | string
  | numeric
  | timestamp
deriving DecidableEq, Repr

/-- An operator split into its family and relation. -/
def splitOperator (op : String) : Option (Family × Relation) :=
  let try1 (prefixText : String) (f : Family) : Option (Family × Relation) :=
    if op.startsWith prefixText then
      (Relation.ofSuffix (String.ofList (op.toList.drop prefixText.length))).map (f, ·)
    else none
  (try1 "String" .string).orElse fun _ =>
    (try1 "Numeric" .numeric).orElse fun _ => try1 "Timestamp" .timestamp

/-- Code-point order of two texts. -/
def compareText (a b : String) : Ordering :=
  go a.toList b.toList
where
  go : List Char → List Char → Ordering
    | [], [] => .eq
    | [], _ :: _ => .lt
    | _ :: _, [] => .gt
    | x :: xs, y :: ys =>
      if x.toNat < y.toNat then .lt else if y.toNat < x.toNat then .gt else go xs ys

/-- Order of two doubles; none when either is NaN. -/
def compareFloat (a b : Float) : Option Ordering :=
  if a < b then some .lt else if a == b then some .eq else if b < a then some .gt else none

/-- How two values of a family compare, if both are of that family. -/
def order (f : Family) (a b : Value) : Option Ordering :=
  match f, a, b with
  | .string, .str x, .str y => some (compareText x y)
  | .numeric, .num x, .num y => compareFloat x.toFloat y.toFloat
  | .timestamp, .str x, .str y =>
    match Time.parse x, Time.parse y with
    | some i, some j => some (i.compare j)
    | _, _ => none
  | _, _, _ => none

/-- The boolean operand of a kind test. -/
def expectBool (op : String) (operand : Value) : Except RuleProblem Bool :=
  match operand with
  | .bool b => .ok b
  | _ => .error (.notBoolean op)

/-- Whether the value is of the kind a test names. -/
def kindTest? (op : String) (v : Value) : Option Bool :=
  match op with
  | "IsNull" => some v.isNull
  | "IsString" => some (v matches .str _)
  | "IsNumeric" => some (v matches .num _)
  | "IsBoolean" => some (v matches .bool _)
  | "IsTimestamp" => some (match v with | .str s => Time.isTimestamp s | _ => false)
  | _ => none

/-- Read a path, a failure being a rule problem. -/
def parsePath (text : String) : Except RuleProblem Path :=
  match Path.parse text with
  | .ok p => .ok p
  | .error e => .error (.badPath e)

/-- A comparison by `op` of the variable's value (if found) with `operand`. -/
def compare (op : String) (operand : Value) (found : Option Value) (input : Value) :
    Except RuleProblem Bool := do
  if op == "IsPresent" then
    return found.isSome == (← expectBool op operand)
  match found with
  | none => return false
  | some v =>
    match kindTest? op v with
    | some k => return k == (← expectBool op operand)
    | none =>
      let resolved ← if op.endsWith "Path" then do
          let text ← match operand with
            | .str t => pure t
            | _ => throw (.notPathString op)
          let p ← parsePath text
          pure ((p.select input).map (String.ofList (op.toList.take (op.length - 4)), ·))
        else pure (some (op, operand))
      match resolved with
      | none => return false
      | some (base, comparand) =>
        if base == "StringMatches" then
          match comparand with
          | .str pattern =>
            return match v with
              | .str s => Glob.wildcardMatch pattern s
              | _ => false
          | _ => throw .patternNotString
        else if base == "BooleanEquals" then
          return match v, comparand with
            | .bool a, .bool b => a == b
            | _, _ => false
        else
          match splitOperator base with
          | none => throw (.unknownOperator base)
          | some (family, rel) =>
            return match order family v comparand with
              | some o => rel.holds o
              | none => false

/-- Every rule holds, stopping at the first that does not. -/
def allHold (f : Value → Except RuleProblem Bool) : List Value → Except RuleProblem Bool
  | [] => .ok true
  | r :: rs => do if ← f r then allHold f rs else return false

/-- Some rule holds, stopping at the first that does. -/
def anyHolds (f : Value → Except RuleProblem Bool) : List Value → Except RuleProblem Bool
  | [] => .ok false
  | r :: rs => do if ← f r then return true else anyHolds f rs

/-- The nesting depth of a value, which bounds the evaluation of a rule. -/
def depth : Value → Nat
  | .arr xs => 1 + depthItems xs
  | .obj fs => 1 + depthFields fs
  | _ => 0
where
  depthItems : List Value → Nat
    | [] => 0
    | x :: xs => max (depth x) (depthItems xs)
  depthFields : List (String × Value) → Nat
    | [] => 0
    | (_, x) :: fs => max (depth x) (depthFields fs)

/-- Whether a rule holds for the input; `fuel` bounds the nesting it follows. -/
def evaluate (input : Value) : Nat → Value → Except RuleProblem Bool
  | 0, _ => .ok false
  | fuel + 1, .obj fs =>
    match Fields.get? fs "And" with
    | some (.arr rules) => allHold (evaluate input fuel) rules
    | some _ => .error .andNotArray
    | none =>
      match Fields.get? fs "Or" with
      | some (.arr rules) => anyHolds (evaluate input fuel) rules
      | some _ => .error .orNotArray
      | none =>
        match Fields.get? fs "Not" with
        | some inner => do return !(← evaluate input fuel inner)
        | none => do
          let varText ← match Fields.get? fs "Variable" with
            | some (.str s) => pure s
            | _ => throw .missingVariable
          let (op, operand) ← match fs.find? (fun p => !reservedKeys.contains p.1) with
            | some p => pure p
            | none => throw .missingOperator
          let p ← parsePath varText
          compare op operand (p.select input) input
  | _ + 1, _ => .error .notAnObject

/-- Whether a rule holds for the input. -/
def Rule.holds (rule input : Value) : Except RuleProblem Bool :=
  evaluate input (depth rule + 1) rule

/-- Which way a Choice state goes: the `Next` of the rule at a position, which held, or
the default. -/
inductive Branch where
  | rule (index : Nat) (next : String)
  | fallback (next : String)
deriving DecidableEq, Repr

/-- The state a branch goes to. -/
def Branch.target : Branch → String
  | .rule _ next => next
  | .fallback next => next

/-- The branch taken: the first rule that holds, else the default. -/
def choose (rules : List Value) (default : Option String) (input : Value) :
    Except ChoiceError Branch :=
  go 0 rules
where
  go (index : Nat) : List Value → Except ChoiceError Branch
    | [] =>
      match default with
      | some d => .ok (.fallback d)
      | none => .error .noChoiceMatched
    | rule :: rest =>
      match rule.field? "Next" with
      | some (.str next) =>
        match Rule.holds rule input with
        | .ok true => .ok (.rule index next)
        | .ok false => go (index + 1) rest
        | .error r => .error (.invalidRule index r)
      | _ => .error (.invalidRule index .missingNext)

/-- The next state: the `Next` of the first rule that holds, else the default. -/
def nextState (rules : List Value) (default : Option String) (input : Value) :
    Except ChoiceError String :=
  (choose rules default input).map Branch.target

end Workflow.Choice
