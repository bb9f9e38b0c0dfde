/-! # RFC 3339 timestamps

`Timestamp.parse` reads the date-time form of RFC 3339 and gives the instant it names:

* `YYYY-MM-DD`, then `T`, `t` or a space, then `hh:mm:ss`, an optional fraction of a
  second (at least one digit; digits past the ninth are read and dropped), then `Z`, `z` or
  an offset `±hh:mm` (the sign may also be U+2212) of at most 23:59;
* the date must exist in the proleptic Gregorian calendar, hours run to 23, minutes to 59,
  seconds to 60; a second `60` is a leap second, kept as the last second of its minute
  with a fraction of one second or more, so it sorts after every other instant of that
  second and before the next minute;
* nothing may follow.

Instants compare by their UTC day, second of the day and fraction, in that order.

`Timestamp.ofMillis` writes a moment given in milliseconds since 1970 the way a log line
stamps it: UTC, with six digits of fraction and `Z`.
-/

namespace Workflow.Time

/-- A moment as UTC: the day (from 1970-01-01), the second of the day and the nanoseconds,
which reach past a billion only during a leap second. -/
structure Instant where
  day : Int
  second : Nat
  nanos : Nat
deriving DecidableEq, Repr

namespace Instant

/-- Instants in time order. -/
def compare (a b : Instant) : Ordering :=
  match Ord.compare a.day b.day with
  | .eq =>
    match Ord.compare a.second b.second with
    | .eq => Ord.compare a.nanos b.nanos
    | o => o
  | o => o

end Instant

/-- Whether a year of the proleptic Gregorian calendar has 366 days. -/
def isLeapYear (y : Nat) : Bool := (y % 4 == 0 && y % 100 != 0) || y % 400 == 0

/-- The number of days in a month of a year. -/
def daysInMonth (y m : Nat) : Nat :=
  match m with
  | 2 => if isLeapYear y then 29 else 28
  | 4 | 6 | 9 | 11 => 30
  | _ => 31

/-- Days from 1970-01-01 to the given civil date (negative before it). -/
def daysFromCivil (y m d : Nat) : Int :=
  let y : Int := if m ≤ 2 then (y : Int) - 1 else y
  let era := y / 400
  let yoe := y - era * 400
  let mp : Int := if m > 2 then (m : Int) - 3 else (m : Int) + 9
  let doy := (153 * mp + 2) / 5 + (d : Int) - 1
  let doe := yoe * 365 + yoe / 4 - yoe / 100 + doy
  era * 146097 + doe - 719468

/-- Exactly `n` ASCII digits as a number, and the rest. -/
def takeDigits : Nat → List Char → Option (Nat × List Char)
  | 0, cs => some (0, cs)
  | n + 1, c :: cs =>
    if c.isDigit then
      (takeDigits n cs).map (fun (v, rest) => ((c.toNat - 48) * Nat.pow 10 n + v, rest))
    else none
  | _ + 1, [] => none

/-- One expected character. -/
def expect (c : Char) : List Char → Option (List Char)
  | d :: rest => if d == c then some rest else none
  | [] => none

/-- A fraction of a second after its point: one to nine digits give the nanoseconds, more
digits are skipped. -/
def fraction (cs : List Char) : Option (Nat × List Char) :=
  let ds := cs.takeWhile Char.isDigit
  if ds.isEmpty then none
  else
    let kept := ds.take 9
    let v := kept.foldl (fun acc c => acc * 10 + (c.toNat - 48)) 0
    some (v * Nat.pow 10 (9 - kept.length), cs.drop ds.length)

/-- The offset east of UTC in seconds, and the rest. -/
def offset (cs : List Char) : Option (Int × List Char) :=
  match cs with
  | 'Z' :: rest | 'z' :: rest => some (0, rest)
  | c :: rest =>
    let sign : Option Int :=
      if c == '+' then some 1 else if c == '-' || c.toNat == 0x2212 then some (-1) else none
    match sign with
    | none => none
    | some s => do
      let (h, rest) ← takeDigits 2 rest
      let rest ← expect ':' rest
      match rest with
      | m1 :: m2 :: more =>
        if '0' ≤ m1 && m1 ≤ '5' && m2.isDigit then
          let mins := (m1.toNat - 48) * 10 + (m2.toNat - 48)
          let total := h * 3600 + mins * 60
          if total ≤ (23 * 60 + 59) * 60 then some (s * total, more) else none
        else none
      | _ => none
  | [] => none

/-- The instant an RFC 3339 date-time names. -/
def parse (s : String) : Option Instant := do
  let cs := s.toList
  let (year, cs) ← takeDigits 4 cs
  let cs ← expect '-' cs
  let (month, cs) ← takeDigits 2 cs
  let cs ← expect '-' cs
  let (day, cs) ← takeDigits 2 cs
  let cs ← match cs with
    | c :: rest => if c == 'T' || c == 't' || c == ' ' then some rest else none
    | [] => none
  let (hour, cs) ← takeDigits 2 cs
  let cs ← expect ':' cs
  let (minute, cs) ← takeDigits 2 cs
  let cs ← expect ':' cs
  let (second, cs) ← takeDigits 2 cs
  let (nanos, cs) ← match cs with
    | '.' :: rest => fraction rest
    | _ => some (0, cs)
  let (off, cs) ← offset cs
  if !cs.isEmpty then none
  else if month < 1 || month > 12 || day < 1 || day > daysInMonth year month then none
  else if hour > 23 || minute > 59 || second > 60 then none
  else
    let (sec, nanos) := if second == 60 then (59, nanos + 1000000000) else (second, nanos)
    let wall : Int := (hour * 3600 + minute * 60 + sec : Nat)
    let utc := wall - off
    let day := daysFromCivil year month day + utc / 86400
    some ⟨day, (utc % 86400).toNat, nanos⟩

/-- Whether a text is an RFC 3339 date-time. -/
def isTimestamp (s : String) : Bool := (parse s).isSome

/-- The civil date (year, month, day) of a day counted from 1970-01-01. -/
def civilFromDays (days : Int) : Int × Nat × Nat :=
  let z := days + 719468
  let era := (if z ≥ 0 then z else z - 146096) / 146097
  let doe := z - era * 146097
  let yoe := (doe - doe / 1460 + doe / 36524 - doe / 146096) / 365
  let doy := doe - (365 * yoe + yoe / 4 - yoe / 100)
  let mp := (5 * doy + 2) / 153
  let d := (doy - (153 * mp + 2) / 5 + 1).toNat
  let m := (if mp < 10 then mp + 3 else mp - 9).toNat
  let y := yoe + era * 400 + (if m ≤ 2 then 1 else 0)
  (y, m, d)

/-- A number in at least `width` decimal digits, zeros in front. -/
def padded (width n : Nat) : String :=
  let t := toString n
  String.ofList (List.replicate (width - t.length) '0') ++ t

/-- A moment in milliseconds since 1970 as a UTC time stamp with microseconds. -/
def ofMillis (millis : Int) : String :=
  let days := millis / 86400000
  let inDay := (millis - days * 86400000).toNat
  let (y, m, d) := civilFromDays days
  let secs := inDay / 1000
  padded 4 y.toNat ++ "-" ++ padded 2 m ++ "-" ++ padded 2 d ++ "T" ++ padded 2 (secs / 3600) ++ ":" ++
    padded 2 (secs / 60 % 60) ++ ":" ++ padded 2 (secs % 60) ++ "." ++ padded 6 (inDay % 1000 * 1000) ++ "Z"

end Workflow.Time
