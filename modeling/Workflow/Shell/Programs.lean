import Workflow.Exec.Basic
/-! # The small programs of a script

What `echo`, `printf`, `wc` and `sleep` make of their arguments, as pure functions to bytes.

* `echo` writes its arguments separated by blanks and ends the line, unless the first
  argument is `-n`.  Backslash escapes are always read: `\n`, `\t` and the other C letters,
  `\0` and up to three octal digits (or an octal number of up to three digits), and `\c`,
  which ends all output there.
* `printf` writes its format, reading the escapes of the format (an octal number of up to
  three digits, the C letters; any other backslash stays) and the directives
  `%[flags][width][.precision]conversion` for `s`, `b`, `c`, `d`, `i`, `u`, `o`, `x`, `X`
  and `%`.  While arguments are left after a pass that took any, the format is used again.
* `wc` counts lines, words and bytes (or the ones asked for); a single count is written
  bare, several are right aligned in seven columns.
* `sleep` adds up its durations: decimal seconds with an optional unit `s`, `m`, `h`, `d`.
-/

namespace Workflow.Shell

open Exec

/-- Whether a character is an octal digit. -/
def isOctal (c : Char) : Bool := '0' ≤ c && c ≤ '7'

/-- Up to `n` octal digits read as a number, and the rest. -/
def octalRun : Nat → List Char → Nat → Nat × List Char
  | 0, cs, acc => (acc, cs)
  | n + 1, c :: cs, acc => if isOctal c then octalRun n cs (acc * 8 + (c.toNat - 48)) else (acc, c :: cs)
  | _, [], acc => (acc, [])

/-- The byte of a C escape letter. -/
def letterEscape (c : Char) : Option UInt8 :=
  match c with
  | '\\' => some 92
  | 'a' => some 7
  | 'b' => some 8
  | 'f' => some 12
  | 'n' => some 10
  | 'r' => some 13
  | 't' => some 9
  | 'v' => some 11
  | _ => none

/-- The bytes of a character. -/
def charBytes (c : Char) : List UInt8 := bytesOf (String.singleton c)

/-- The escape after a backslash in a format: its bytes and the rest.  An octal number of up
to three digits is one byte; a letter is its control byte; anything else leaves the
backslash, and the character after it is read as usual. -/
def formatEscape (cs : List Char) : List UInt8 × List Char :=
  match cs with
  | c :: rest =>
    if isOctal c then
      let (v, after) := octalRun 3 cs 0
      ([(v % 256).toUInt8], after)
    else
      match letterEscape c with
      | some b => ([b], rest)
      | none => ([92], cs)
  | [] => ([92], [])

/-- A text with the escapes of `echo` and `%b` read: the bytes, and whether a `\c` or a
zero byte ended it (a `\c` stops all output). -/
def escapedText : Nat → List Char → List UInt8 → List UInt8 × Bool
  | 0, _, acc => (acc.reverse, false)
  | _, [], acc => (acc.reverse, false)
  | fuel + 1, c :: cs, acc =>
    if c != '\\' then escapedText fuel cs ((charBytes c).reverse ++ acc)
    else
      match cs with
      | 'c' :: _ => (acc.reverse, true)
      | d :: rest =>
        let start := if d == '0' && (rest.head?.map isOctal).getD false then rest else d :: rest
        let (bs, after) := formatEscape start
        if bs == [0] && start.head?.any isOctal then (acc.reverse, false)
        else escapedText fuel after (bs.reverse ++ acc)
      | [] => ((92 : UInt8) :: acc).reverse |> fun bs => (bs, false)

/-- What `echo` writes for its arguments. -/
def echoBytes (args : List String) : List UInt8 :=
  let (newline, words) := match args with
    | "-n" :: rest => (false, rest)
    | rest => (true, rest)
  let rec go : List String → List UInt8
    | [] => if newline then [10] else []
    | [w] =>
      let (bs, stop) := escapedText (w.length + 1) w.toList []
      if stop then bs else bs ++ (if newline then [10] else [])
    | w :: more =>
      let (bs, stop) := escapedText (w.length + 1) w.toList []
      if stop then bs else bs ++ [32] ++ go more
  go words

/-! ## printf -/

/-- A directive of a format. -/
structure Directive where
  flags : List Char := []
  width : Option Nat := none
  precision : Option Nat := none
  conversion : Char := 's'
deriving Repr, Inhabited

/-- The digits at the start of some characters, as a number, and the rest. -/
def digitsRun (cs : List Char) : Option Nat × List Char :=
  let (ds, rest) := cs.span Char.isDigit
  (if ds.isEmpty then none else some (String.ofList ds).toNat!, rest)

/-- A number argument: decimal, hexadecimal after `0x`, octal after `0`, or the code of the
character after a quote.  The value, and whether all of the text was read. -/
def numberArg (s : String) : Int × Bool :=
  match s.toList with
  | '\'' :: c :: _ | '"' :: c :: _ => (c.toNat, true)
  | cs =>
    let (neg, body) := match cs with
      | '-' :: r => (true, r)
      | '+' :: r => (false, r)
      | r => (false, r)
    let (base, digits) := match body with
      | '0' :: 'x' :: r | '0' :: 'X' :: r => (16, r)
      | '0' :: r@(_ :: _) => (8, r)
      | r => (10, r)
    let value (c : Char) : Option Nat :=
      if c.isDigit then some (c.toNat - 48)
      else if 'a' ≤ c && c ≤ 'f' then some (c.toNat - 87)
      else if 'A' ≤ c && c ≤ 'F' then some (c.toNat - 55)
      else none
    let rec run : List Char → Nat → Nat × List Char
      | d :: r, acc =>
        match value d with
        | some v => if v < base then run r (acc * base + v) else (acc, d :: r)
        | none => (acc, d :: r)
      | [], acc => (acc, [])
    let (n, rest) := run digits 0
    let whole := !body.isEmpty && rest.isEmpty && !(base == 16 && digits.isEmpty)
    ((if neg then -(n : Int) else n), whole)

/-- Text padded to a width with blanks, on the left unless the flags say `-`. -/
def padTo (flags : List Char) (width : Option Nat) (bs : List UInt8) : List UInt8 :=
  match width with
  | some w =>
    if bs.length < w then
      let fill := List.replicate (w - bs.length) (32 : UInt8)
      if flags.contains '-' then bs ++ fill else fill ++ bs
    else bs
  | none => bs

/-- The digits of a natural in a base, small letters for hexadecimal unless `upper`. -/
def digitsOf (base : Nat) (upper : Bool) (n : Nat) : String :=
  let ds := Nat.toDigits base n
  String.ofList (if upper then ds.map Char.toUpper else ds)

/-- An integer directive applied to a value. -/
def integerText (d : Directive) (v : Int) : List UInt8 :=
  let signed := d.conversion == 'd' || d.conversion == 'i'
  let magnitude : Nat :=
    if signed then v.natAbs else if v < 0 then (Nat.pow 2 64 : Int) + v |>.toNat else v.toNat
  let body := match d.conversion with
    | 'o' => digitsOf 8 false magnitude
    | 'x' => digitsOf 16 false magnitude
    | 'X' => digitsOf 16 true magnitude
    | _ => digitsOf 10 false magnitude
  let body := match d.precision with
    | some p => String.ofList (List.replicate (p - body.length) '0') ++ body
    | none => body
  let body :=
    if d.flags.contains '#' && magnitude != 0 then
      match d.conversion with
      | 'o' => if body.startsWith "0" then body else "0" ++ body
      | 'x' => "0x" ++ body
      | 'X' => "0X" ++ body
      | _ => body
    else body
  let sign :=
    if signed && v < 0 then "-"
    else if signed && d.flags.contains '+' then "+"
    else if signed && d.flags.contains ' ' then " "
    else ""
  let zeroFill := d.flags.contains '0' && !d.flags.contains '-' && d.precision.isNone
  match d.width with
  | some w =>
    if zeroFill && sign.length + body.length < w then
      bytesOf (sign ++ String.ofList (List.replicate (w - sign.length - body.length) '0') ++ body)
    else padTo d.flags d.width (bytesOf (sign ++ body))
  | none => bytesOf (sign ++ body)

/-- What one pass of a format writes. -/
structure Pass where
  out : List UInt8 := []
  args : List String
  /-- Whether the pass took an argument. -/
  took : Bool := false
  /-- Whether a `\c` stopped all output. -/
  stopped : Bool := false
  /-- Complaints about arguments, one line each. -/
  complaints : List String := []
  /-- A directive that does not exist, which ends the program. -/
  invalid : Option String := none
deriving Inhabited

/-- The next argument of a pass, or none. -/
def Pass.next (p : Pass) : Option String × Pass :=
  match p.args with
  | a :: rest => (some a, { p with args := rest, took := true })
  | [] => (none, p)

/-- A number for a directive or a `*`, with a complaint when it is not one. -/
def Pass.number (p : Pass) : Int × Pass :=
  match p.next with
  | (some a, p) =>
    let (v, whole) := numberArg a
    if whole then (v, p)
    else (v, { p with complaints := p.complaints ++ [a ++ ": expected numeric value"] })
  | (none, p) => (0, p)

/-- Apply one directive. -/
def Pass.directive (p : Pass) (d : Directive) : Pass :=
  match d.conversion with
  | 's' =>
    let (a, p) := p.next
    let s := a.getD ""
    let s := match d.precision with
      | some n => String.ofList (s.toList.take n)
      | none => s
    { p with out := p.out ++ padTo d.flags d.width (bytesOf s) }
  | 'b' =>
    let (a, p) := p.next
    let s := a.getD ""
    let (bs, stop) := escapedText (s.length + 1) s.toList []
    { p with out := p.out ++ padTo d.flags d.width bs, stopped := stop }
  | 'c' =>
    let (a, p) := p.next
    let bs := match (a.getD "").toList with
      | c :: _ => charBytes c
      | [] => []
    { p with out := p.out ++ padTo d.flags d.width bs }
  | c =>
    if c == 'd' || c == 'i' || c == 'u' || c == 'o' || c == 'x' || c == 'X' then
      let (v, p) := p.number
      { p with out := p.out ++ integerText d v }
    else p

/-- The directive after a `%`, and the rest of the format. -/
def readDirective (p : Pass) (cs : List Char) : Option (Directive × Pass × List Char) :=
  let (flags, cs) := cs.span (fun c => c == '-' || c == '+' || c == ' ' || c == '#' || c == '0')
  let (width, p, cs) : Option Nat × Pass × List Char := match cs with
    | '*' :: r => let (v, p) := p.number; (some v.toNat, p, r)
    | _ => let (w, r) := digitsRun cs; (w, p, r)
  let (precision, p, cs) : Option Nat × Pass × List Char := match cs with
    | '.' :: '*' :: r => let (v, p) := p.number; (some v.toNat, p, r)
    | '.' :: r => let (n, r) := digitsRun r; (some (n.getD 0), p, r)
    | _ => (none, p, cs)
  match cs with
  | c :: rest =>
    if "sbcdiuoxX".toList.contains c then some (⟨flags, width, precision, c⟩, p, rest)
    else none
  | [] => none

/-- One pass of a format. -/
def formatPass : Nat → List Char → Pass → Pass
  | 0, _, p => p
  | _, [], p => p
  | fuel + 1, c :: cs, p =>
    if p.stopped || p.invalid.isSome then p
    else if c == '\\' then
      let (bs, rest) := formatEscape cs
      formatPass fuel rest { p with out := p.out ++ bs }
    else if c == '%' then
      match cs with
      | '%' :: rest => formatPass fuel rest { p with out := p.out ++ [37] }
      | _ =>
        match readDirective p cs with
        | some (d, p, rest) => formatPass fuel rest (p.directive d)
        | none =>
          let shown := String.ofList ('%' :: cs.take 1)
          { p with invalid := some (shown ++ ": invalid directive") }
    else formatPass fuel cs { p with out := p.out ++ charBytes c }

/-- What `printf` writes for a format and arguments, its complaints, and whether it
failed. -/
def printfBytes (format : String) (args : List String) : List UInt8 × List String × Bool :=
  let fmt := format.toList
  let rec passes : Nat → List UInt8 → List String → List String → List UInt8 × List String × Bool
    | 0, out, _, complaints => (out, complaints, !complaints.isEmpty)
    | fuel + 1, out, args, complaints =>
      let p := formatPass (fmt.length + 1) fmt { args := args }
      let out := out ++ p.out
      let complaints := complaints ++ p.complaints
      match p.invalid with
      | some m => (out, complaints ++ [m], true)
      | none =>
        if p.stopped || !p.took || p.args.isEmpty then (out, complaints, !complaints.isEmpty)
        else passes fuel out p.args complaints
  passes (args.length + 1) [] args []

/-! ## wc and sleep -/

/-- Whether a byte separates words. -/
def isSpaceByte (b : UInt8) : Bool := b == 32 || (9 ≤ b && b ≤ 13)

/-- The number of words in some bytes. -/
def wordCount (bs : List UInt8) : Nat :=
  (bs.splitBy (fun a b => isSpaceByte a == isSpaceByte b)).countP
    (fun g => match g.head? with
      | some b => !isSpaceByte b
      | none => false)

/-- What `wc` writes for its input, by the counts asked for (`l`, `w`, `m`, `c`, in this
order); all three of lines, words and bytes when none is. -/
def wcText (asked : List Char) (input : List UInt8) : String :=
  let asked := if asked.isEmpty then ['l', 'w', 'c'] else asked
  let counts := ['l', 'w', 'm', 'c'].filter asked.contains |>.map fun k =>
    match k with
    | 'l' => input.count 10
    | 'w' => wordCount input
    | 'm' => (lossyUtf8 input).length
    | _ => input.length
  match counts with
  | [n] => toString n ++ "\n"
  | ns =>
    let cells := ns.map fun n =>
      let t := toString n
      String.ofList (List.replicate (7 - t.length) ' ') ++ t
    " ".intercalate cells ++ "\n"

/-- A duration of `sleep` in milliseconds: decimal seconds, then maybe a unit. -/
def durationMs (s : String) : Option Nat :=
  let cs := s.toList
  let (whole, rest) := cs.span Char.isDigit
  let (frac, rest) := match rest with
    | '.' :: r => r.span Char.isDigit
    | r => ([], r)
  let scale : Option Nat := match rest with
    | [] | ['s'] => some 1
    | ['m'] => some 60
    | ['h'] => some 3600
    | ['d'] => some 86400
    | _ => none
  if whole.isEmpty && frac.isEmpty then none
  else
    scale.map fun k =>
      let w := (String.ofList whole).toNat!
      let f := String.ofList ((frac ++ ['0', '0', '0']).take 3)
      (w * 1000 + f.toNat!) * k

end Workflow.Shell
