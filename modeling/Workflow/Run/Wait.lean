import Workflow.Machine.Basic
import Workflow.Path.Update
import Workflow.Json.Print
import Workflow.Decimal.Parse
import Workflow.Text.Blank
import Workflow.Time.Timestamp
/-! # Wait durations

A Wait state waits for a number of seconds or until an instant.  Its fields are tried in
the order `Seconds`, `SecondsPath`, `Timestamp`, `TimestampPath`; a `Seconds` that is not a
valid number falls through to the next field, and is the reason given when none is left.

A number of seconds is a JSON number or a text holding a decimal (blanks around it allowed),
read as the nearest double.  It is valid when it is not below zero and is below `2^64`; NaN
and the infinities are not valid.  A valid number becomes whole nanoseconds, rounded to the
nearest with a tie going to the even count.  An instant in the past waits zero.
-/

namespace Workflow

open Json Decimal

/-- Why a Wait state has no duration. -/
inductive WaitProblem where
  /-- `Seconds` is not a valid number. -/
  | badSeconds (v : Value)
  /-- A path field could not be read. -/
  | unreadable (e : PathError)
  /-- `SecondsPath` led to a value that is not a valid number. -/
  | badSecondsAt (path : String) (v : Value)
  /-- `Timestamp` is not an RFC 3339 date-time. -/
  | badTimestamp (text : String)
  /-- `TimestampPath` led to a value that is not an RFC 3339 date-time. -/
  | badTimestampAt (path : String) (v : Value)
  /-- The state has none of the four fields. -/
  | unspecified
deriving Repr

/-- What is wrong with a Wait state's duration. -/
def WaitProblem.message : WaitProblem → String
  | .badSeconds v => "Seconds value " ++ v.render ++ " is not a valid number"
  | .unreadable e => e.message
  | .badSecondsAt p v => "SecondsPath '" ++ p ++ "' resolved to " ++ v.render ++ ", which is not a valid number"
  | .badTimestamp t => "Timestamp '" ++ t ++ "' is not an RFC 3339 timestamp"
  | .badTimestampAt p v =>
    "TimestampPath '" ++ p ++ "' resolved to " ++ v.render ++ ", which is not an RFC 3339 timestamp"
  | .unspecified => "one of Seconds, SecondsPath, Timestamp or TimestampPath is required"

/-- The nanoseconds in a number of seconds given as the bits of a double, when valid. -/
def nanosOfBits (b : UInt64) : Option Nat :=
  let x := Binary.ofBits b
  if x.negative && x.mantissa != 0 then none
  else if Binary.isSpecial b then none
  else if x.exponent ≥ 0 then
    let n := x.mantissa * Nat.pow 2 x.exponent.toNat
    if n < Nat.pow 2 64 then some (n * 1000000000) else none
  else some (Binary.roundDiv (x.mantissa * 1000000000) (Nat.pow 2 (-x.exponent).toNat))

/-- The nanoseconds a value gives as a number of seconds, when it is valid. -/
def secondsNanos : Value → Option Nat
  | .num (.int i) => nanosOfBits (Binary.roundRatio (i < 0) i.natAbs 1)
  | .num (.float b) => nanosOfBits b
  | .str s => (readFloat (Text.trim s)).bind nanosOfBits
  | _ => none

/-- Nanoseconds since 1970-01-01 UTC. -/
def Time.Instant.epochNanos (t : Time.Instant) : Int :=
  (t.day * 86400 + t.second) * 1000000000 + t.nanos

/-- The nanoseconds from `now` (in milliseconds) until an RFC 3339 instant; zero when past. -/
def untilNanos (nowMillis : Int) (text : String) : Option Nat :=
  (Time.parse text).map fun t => (t.epochNanos - nowMillis * 1000000).toNat

/-- How long a Wait state waits, in nanoseconds, given its effective input and the time. -/
def waitNanos (s : State) (input : Value) (nowMillis : Int) : Except WaitProblem Nat :=
  let fromSeconds : Option (Except WaitProblem Nat) :=
    s.seconds.map fun v => match secondsNanos v with
      | some n => .ok n
      | none => .error (.badSeconds v)
  match fromSeconds with
  | some (.ok n) => .ok n
  | earlier =>
    match s.secondsPath with
    | some p =>
      match selectRequired input p with
      | .error e => .error (.unreadable e)
      | .ok v =>
        match secondsNanos v with
        | some n => .ok n
        | none => .error (.badSecondsAt p v)
    | none =>
      match s.timestamp with
      | some t =>
        match untilNanos nowMillis t with
        | some n => .ok n
        | none => .error (.badTimestamp t)
      | none =>
        match s.timestampPath with
        | some p =>
          match selectRequired input p with
          | .error e => .error (.unreadable e)
          | .ok v =>
            match v.asString?.bind (untilNanos nowMillis) with
            | some n => .ok n
            | none => .error (.badTimestampAt p v)
        | none =>
          match earlier with
          | some (.error e) => .error e
          | _ => .error .unspecified

end Workflow
