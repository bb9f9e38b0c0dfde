import Workflow.Json.Value
import Workflow.Decimal.Binary
/-! # Reading JSON text

A reader walks the text once, front to back, and stops at the first fault.  Faults carry a
`Position`: the line (from 1) and the column, counted in UTF-8 bytes from the start of the
line.  Most faults point just past the character that revealed them; a fault found by looking
at the next character without taking it points one byte past the current place
(`Cursor.peekPosition`).

* **Numbers.**  An integer literal that fits in `u64`, or a negative one that fits in `i64`,
  is read exactly.  Every other number, `-0` included, becomes a double: its first digits
  (as many as fit in `u64`) are read as an integer and scaled by a power of ten with one
  rounded multiplication or division, the way the format's reference reader does it.  A
  number too large for a double is a fault, never an infinity.
* **Strings** may not hold raw control characters; `\u` escapes must pair surrogates.
* **Nesting** deeper than 127 containers is a fault ("recursion limit exceeded").
* **Objects** keep the last of two equal keys.

`Value.parse` reads a whole text that holds exactly one value, blanks around it allowed.
-/

namespace Workflow.Json

/-- A place in a text: line from 1, column in bytes from 0. -/
structure Position where
  line : Nat
  column : Nat
deriving Repr, DecidableEq

/-- What went wrong while reading. -/
inductive Problem where
  | eofWhileParsingList
  | eofWhileParsingObject
  | eofWhileParsingString
  | eofWhileParsingValue
  | expectedColon
  | expectedListCommaOrEnd
  | expectedObjectCommaOrEnd
  | expectedIdent
  | expectedValue
  | invalidEscape
  | invalidNumber
  | numberOutOfRange
  | controlCharacterInString
  | keyMustBeAString
  | loneLeadingSurrogate
  | trailingComma
  | trailingCharacters
  | unexpectedEndOfHexEscape
  | recursionLimitExceeded
  /-- A fault of meaning rather than syntax, such as a value of the wrong type. -/
  | custom (message : String)
  /-- A fault found while reading the value of a field. -/
  | within (field : String) (problem : Problem)
deriving Repr, DecidableEq

/-- The words for a problem. -/
def Problem.message : Problem → String
  | .eofWhileParsingList => "EOF while parsing a list"
  | .eofWhileParsingObject => "EOF while parsing an object"
  | .eofWhileParsingString => "EOF while parsing a string"
  | .eofWhileParsingValue => "EOF while parsing a value"
  | .expectedColon => "expected `:`"
  | .expectedListCommaOrEnd => "expected `,` or `]`"
  | .expectedObjectCommaOrEnd => "expected `,` or `\x7d`"
  | .expectedIdent => "expected ident"
  | .expectedValue => "expected value"
  | .invalidEscape => "invalid escape"
  | .invalidNumber => "invalid number"
  | .numberOutOfRange => "number out of range"
  | .controlCharacterInString => "control character (\\u0000-\\u001F) found while parsing a string"
  | .keyMustBeAString => "key must be a string"
  | .loneLeadingSurrogate => "lone leading surrogate in hex escape"
  | .trailingComma => "trailing comma"
  | .trailingCharacters => "trailing characters"
  | .unexpectedEndOfHexEscape => "unexpected end of hex escape"
  | .recursionLimitExceeded => "recursion limit exceeded"
  | .custom m => m
  | .within f p => f ++ ": " ++ p.message

/-- Whether a problem is one of meaning (a value that does not fit) rather than of syntax. -/
def Problem.isMeaning : Problem → Bool
  | .custom _ => true
  | .within _ p => p.isMeaning
  | _ => false

/-- A fault and, when known, where it was found. -/
structure ReadError where
  problem : Problem
  position : Option Position
deriving Repr, DecidableEq

/-- The fault in words, followed by its place when it has one. -/
def ReadError.message (e : ReadError) : String :=
  match e.position with
  | some p => e.problem.message ++ " at line " ++ toString p.line ++ " column " ++ toString p.column
  | none => e.problem.message

/-- The unread rest of a text, the place where it starts, and the nesting still allowed
to readers of typed data. -/
structure Cursor where
  rest : List Char
  line : Nat
  column : Nat
  room : Nat := 128

namespace Cursor

/-- The start of a text. -/
def ofString (s : String) : Cursor := ⟨s.toList, 1, 0, 128⟩

/-- Where the unread rest starts. -/
def position (c : Cursor) : Position := ⟨c.line, c.column⟩

/-- One byte further than the current place: past a newline this is the next line. -/
def peekPosition (c : Cursor) : Position :=
  match c.rest with
  | [] => c.position
  | '\n' :: _ => ⟨c.line + 1, 0⟩
  | _ :: _ => ⟨c.line, c.column + 1⟩

/-- Take one character. -/
def bump (c : Cursor) : Cursor :=
  match c.rest with
  | [] => c
  | '\n' :: r => { c with rest := r, line := c.line + 1, column := 0 }
  | ch :: r => { c with rest := r, column := c.column + ch.utf8Size }

/-- Skip spaces, tabs, carriage returns and newlines. -/
def skipBlankFrom : List Char → Nat → Nat → List Char × Nat × Nat
  | ' ' :: r, l, c => skipBlankFrom r l (c + 1)
  | '\t' :: r, l, c => skipBlankFrom r l (c + 1)
  | '\r' :: r, l, c => skipBlankFrom r l (c + 1)
  | '\n' :: r, l, _ => skipBlankFrom r (l + 1) 0
  | r, l, c => (r, l, c)

/-- The place `n` bytes further on, or the end of the text if it is nearer. -/
def positionAfterBytes : List Char → Nat → Nat → Nat → Position
  | [], l, c, _ => ⟨l, c⟩
  | _, l, c, 0 => ⟨l, c⟩
  | ch :: r, l, c, n + 1 =>
    if ch == '\n' then positionAfterBytes r (l + 1) 0 n
    else if ch.utf8Size ≤ n + 1 then positionAfterBytes r l (c + ch.utf8Size) (n + 1 - ch.utf8Size)
    else ⟨l, c + n + 1⟩

/-- Whether at least `n` bytes are left. -/
def hasBytes : List Char → Nat → Bool
  | _, 0 => true
  | [], _ + 1 => false
  | ch :: r, n + 1 => if ch.utf8Size ≥ n + 1 then true else hasBytes r (n + 1 - ch.utf8Size)

/-- The place at the end of the text. -/
def endPosition (c : Cursor) : Position :=
  positionAfterBytes c.rest c.line c.column (c.rest.foldl (fun n ch => n + ch.utf8Size) 0)

end Cursor

/-- A reading step: it takes text from a cursor, or fails with a fault.  The cursor keeps
what was taken before a fault, so a fault can be placed where it was found. -/
abbrev Reader := ExceptT ReadError (StateM Cursor)

namespace Reader

/-- Fail at the current place. -/
def fail {α : Type} (p : Problem) : Reader α := do
  throw ⟨p, some (← get).position⟩

/-- Fail one byte past the current place. -/
def failPeek {α : Type} (p : Problem) : Reader α := do
  throw ⟨p, some (← get).peekPosition⟩

/-- The next character, not taken. -/
def peek? : Reader (Option Char) := return (← get).rest.head?

/-- Take one character. -/
def bump : Reader Unit := modify Cursor.bump

/-- Skip blanks and look at the next character. -/
def skipBlank : Reader (Option Char) := do
  let c ← get
  let (r, l, col) := Cursor.skipBlankFrom c.rest c.line c.column
  set { c with rest := r, line := l, column := col }
  return r.head?

/-- The value of a hexadecimal digit. -/
def hexValue (c : Char) : Option Nat :=
  if '0' ≤ c && c ≤ '9' then some (c.toNat - 48)
  else if 'a' ≤ c && c ≤ 'f' then some (c.toNat - 87)
  else if 'A' ≤ c && c ≤ 'F' then some (c.toNat - 55)
  else none

/-- Four hexadecimal digits; a shortage of bytes is an unfinished string. -/
def readHex4 : Reader Nat := do
  let c ← get
  if !Cursor.hasBytes c.rest 4 then
    set { c with rest := [], line := c.endPosition.line, column := c.endPosition.column }
    fail .eofWhileParsingString
  else
    let digits := (c.rest.take 4).map hexValue
    match digits with
    | [some a, some b, some d, some e] =>
      bump; bump; bump; bump
      return ((a * 16 + b) * 16 + d) * 16 + e
    | _ => throw ⟨.invalidEscape, some (Cursor.positionAfterBytes c.rest c.line c.column 4)⟩

/-- The rest of a `\u` escape, after the `u`: one character, or two escapes joined as a
surrogate pair. -/
def readUnicodeEscape : Reader Char := do
  let n ← readHex4
  if 0xDC00 ≤ n && n ≤ 0xDFFF then fail .loneLeadingSurrogate
  else if n < 0xD800 || n > 0xDBFF then return Char.ofNat n
  else
    match ← peek? with
    | none => fail .eofWhileParsingString
    | some '\\' => bump
    | some _ => failPeek .unexpectedEndOfHexEscape
    match ← peek? with
    | none => fail .eofWhileParsingString
    | some 'u' => bump
    | some _ => failPeek .unexpectedEndOfHexEscape
    let n2 ← readHex4
    if n2 < 0xDC00 || n2 > 0xDFFF then fail .loneLeadingSurrogate
    else return Char.ofNat ((((n - 0xD800) <<< 10) ||| (n2 - 0xDC00)) + 0x10000)

/-- One escape, after its backslash. -/
def readEscape : Reader Char := do
  match ← peek? with
  | none => fail .eofWhileParsingString
  | some c =>
    bump
    match c with
    | '"' => return '"'
    | '\\' => return '\\'
    | '/' => return '/'
    | 'b' => return Char.ofNat 8
    | 'f' => return Char.ofNat 12
    | 'n' => return '\n'
    | 'r' => return '\r'
    | 't' => return '\t'
    | 'u' => readUnicodeEscape
    | _ => fail .invalidEscape

/-- The characters of a string literal up to its closing quote, from `acc` (reversed). -/
def readStringLoop : Nat → List Char → Reader String
  | 0, _ => fail .eofWhileParsingString
  | fuel + 1, acc => do
    match ← peek? with
    | none => fail .eofWhileParsingString
    | some '"' => bump; return String.ofList acc.reverse
    | some '\\' => bump; let ch ← readEscape; readStringLoop fuel (ch :: acc)
    | some c =>
      bump
      if c.toNat < 0x20 then fail .controlCharacterInString
      else readStringLoop fuel (c :: acc)

/-- A string literal, after its opening quote. -/
def readStringBody : Reader String := do
  readStringLoop ((← get).rest.length + 1) []

/-- Take the decimal digits in front; how many there were. -/
def skipDigits : Reader Nat := do
  let c ← get
  let ds := c.rest.takeWhile Char.isDigit
  for _ in ds do bump
  return ds.length

/-- The rest of a keyword after its first letter. -/
def readIdent : List Char → Reader Unit
  | [] => return ()
  | ch :: rest => do
    match ← peek? with
    | none => fail .eofWhileParsingValue
    | some c =>
      bump
      if c != ch then fail .expectedIdent else readIdent rest

end Reader

/-! ## Numbers -/

namespace NumberText

open Reader

/-- `a · 10 + d` would pass `limit`. -/
def overflows (a d limit : Nat) : Bool := a ≥ limit / 10 && (a > limit / 10 || d > limit % 10)

/-- The largest `u64`. -/
def u64Max : Nat := Nat.pow 2 64 - 1

/-- The largest `i32`. -/
def i32Max : Nat := Nat.pow 2 31 - 1

/-- Clamp to the `i32` range. -/
def clampI32 (x : Int) : Int := max (-((Nat.pow 2 31 : Nat) : Int)) (min ((Nat.pow 2 31 - 1 : Nat) : Int) x)

/-- `significand · 10^exponent` as a double: the significand rounded to a double, then one
rounded multiplication or division by the double nearest `10^|exponent|`; exponents past
308 divide by `10^308` first.  Too large a result is a fault. -/
def fromParts (positive : Bool) (significand : Nat) (exponent : Int) : Reader Number := do
  let f0 := Float.ofBits (Decimal.Binary.ofNat significand)
  let rec scale : Nat → Float → Int → Reader Float
    | 0, f, _ => return f
    | fuel + 1, f, e =>
      if e.natAbs ≤ 308 then
        let p := Float.ofBits (Decimal.Binary.powTen e.natAbs)
        if e ≥ 0 then
          let g := f * p
          if g.isInf then fail .numberOutOfRange else return g
        else return f / p
      else if f == 0.0 then return f
      else if e ≥ 0 then fail .numberOutOfRange
      else scale fuel (f / Float.ofBits (Decimal.Binary.powTen 308)) (e + 308)
  let f ← scale (exponent.natAbs / 308 + 2) f0 exponent
  return .float (if positive then f.toBits else (-f).toBits)

/-- Digits of an exponent that overflowed: a zero significand or a negative exponent gives
zero, anything else is too large. -/
def exponentOverflow (positive zeroSignificand positiveExp : Bool) : Reader Number := do
  if !zeroSignificand && positiveExp then fail .numberOutOfRange
  else
    let _ ← skipDigits
    return .float (if positive then 0 else 0x8000000000000000)

/-- The digits of an exponent, after its sign. -/
def readExponentDigits (positive : Bool) (significand : Nat) (start : Int) (positiveExp : Bool) :
    Reader Number := do
  match ← peek? with
  | none => fail .eofWhileParsingValue
  | some c =>
    bump
    if !c.isDigit then fail .invalidNumber
    else
      let rec digits : Nat → Nat → Reader (Option Nat)
        | 0, e => return some e
        | fuel + 1, e => do
          match ← peek? with
          | some d =>
            if d.isDigit then
              bump
              let dv := d.toNat - 48
              if overflows e dv i32Max then return none
              else digits fuel (e * 10 + dv)
            else return some e
          | none => return some e
      match ← digits ((← get).rest.length + 1) (c.toNat - 48) with
      | none => exponentOverflow positive (significand == 0) positiveExp
      | some e =>
        let final := if positiveExp then clampI32 (start + e) else clampI32 (start - e)
        fromParts positive significand final

/-- The exponent part, from its `e`. -/
def readExponent (positive : Bool) (significand : Nat) (start : Int) : Reader Number := do
  bump
  match ← peek? with
  | some '+' => bump; readExponentDigits positive significand start true
  | some '-' => bump; readExponentDigits positive significand start false
  | _ => readExponentDigits positive significand start true

/-- Skip the digits that no longer fit, then an optional exponent. -/
def afterOverflow (positive : Bool) (significand : Nat) (exponent : Int) : Reader Number := do
  let _ ← skipDigits
  match ← peek? with
  | some 'e' | some 'E' => readExponent positive significand exponent
  | _ => fromParts positive significand exponent

/-- The fraction part, from its point. -/
def readFraction (positive : Bool) (significand : Nat) (before : Int) : Reader Number := do
  bump
  let rec digits : Nat → Nat → Int → Reader (Nat × Int × Bool)
    | 0, s, a => return (s, a, false)
    | fuel + 1, s, a => do
      match ← peek? with
      | some d =>
        if d.isDigit then
          let dv := d.toNat - 48
          if overflows s dv u64Max then return (s, a, true)
          else bump; digits fuel (s * 10 + dv) (a - 1)
        else return (s, a, false)
      | none => return (s, a, false)
  let (s, after, overflowed) ← digits ((← get).rest.length + 1) significand 0
  if overflowed then afterOverflow positive s (before + after)
  else if after == 0 then
    match ← peek? with
    | some _ => failPeek .invalidNumber
    | none => failPeek .eofWhileParsingValue
  else
    match ← peek? with
    | some 'e' | some 'E' => readExponent positive s (before + after)
    | _ => fromParts positive s (before + after)

/-- Digits past the `u64` range of an integer part: each raises the exponent. -/
def readLongInteger (positive : Bool) (significand : Nat) : Reader Number := do
  let extra ← skipDigits
  let exponent : Int := extra
  match ← peek? with
  | some '.' => readFraction positive significand exponent
  | some 'e' | some 'E' => readExponent positive significand exponent
  | _ => fromParts positive significand exponent

/-- What follows the integer part: a fraction, an exponent, or nothing. -/
def afterInteger (positive : Bool) (significand : Nat) : Reader Number := do
  match ← peek? with
  | some '.' => readFraction positive significand 0
  | some 'e' | some 'E' => readExponent positive significand 0
  | _ =>
    if positive then return .int significand
    else if significand == 0 || significand > Nat.pow 2 63 then
      return .float (-(Float.ofBits (Decimal.Binary.ofNat significand))).toBits
    else return .int (-(significand : Int))

/-- A number, after its minus sign if it has one. -/
def readNumber (positive : Bool) : Reader Number := do
  match ← peek? with
  | none => fail .eofWhileParsingValue
  | some c =>
    bump
    if c == '0' then
      match ← peek? with
      | some d => if d.isDigit then failPeek .invalidNumber else afterInteger positive 0
      | none => afterInteger positive 0
    else if c.isDigit then
      let rec digits : Nat → Nat → Reader Number
        | 0, s => afterInteger positive s
        | fuel + 1, s => do
          match ← peek? with
          | some d =>
            if d.isDigit then
              let dv := d.toNat - 48
              if overflows s dv u64Max then readLongInteger positive s
              else bump; digits fuel (s * 10 + dv)
            else afterInteger positive s
          | none => afterInteger positive s
      digits ((← get).rest.length + 1) (c.toNat - 48)
    else fail .invalidNumber

end NumberText

/-! ## Values -/

namespace Reader

/-- The remaining nesting allowed at the top of a text. -/
def depthLimit : Nat := 128

mutual
/-- One value.  `depth` is the nesting still allowed; `fuel` bounds the steps and is never
short when it is at least the length of the text. -/
def readValue (depth : Nat) : Nat → Reader Value
  | 0 => failPeek .eofWhileParsingValue
  | fuel + 1 => do
    match ← skipBlank with
    | none => failPeek .eofWhileParsingValue
    | some c =>
      match c with
      | 'n' => bump; readIdent ['u', 'l', 'l']; return .null
      | 't' => bump; readIdent ['r', 'u', 'e']; return .bool true
      | 'f' => bump; readIdent ['a', 'l', 's', 'e']; return .bool false
      | '-' => bump; return .num (← NumberText.readNumber false)
      | '"' => bump; return .str (← readStringBody)
      | '[' =>
        if depth ≤ 1 then failPeek .recursionLimitExceeded
        else
          bump
          let items ← readItems (depth - 1) fuel true []
          -- the closing bracket, which `readItems` stopped at
          bump
          return .arr items
      | '{' =>
        if depth ≤ 1 then failPeek .recursionLimitExceeded
        else
          bump
          let fields ← readEntries (depth - 1) fuel true []
          bump
          return .obj fields
      | _ =>
        if c.isDigit then return .num (← NumberText.readNumber true)
        else failPeek .expectedValue

/-- The items of an array up to (not taking) its closing bracket. -/
def readItems (depth : Nat) : Nat → Bool → List Value → Reader (List Value)
  | 0, _, _ => failPeek .eofWhileParsingList
  | fuel + 1, first, acc => do
    match ← skipBlank with
    | none => failPeek .eofWhileParsingList
    | some ']' => return acc.reverse
    | some c =>
      if first then
        let v ← readValue depth fuel
        readItems depth fuel false (v :: acc)
      else if c == ',' then
        bump
        match ← skipBlank with
        | some ']' => failPeek .trailingComma
        | some _ =>
          let v ← readValue depth fuel
          readItems depth fuel false (v :: acc)
        | none => failPeek .eofWhileParsingValue
      else failPeek .expectedListCommaOrEnd

/-- The fields of an object up to (not taking) its closing brace. -/
def readEntries (depth : Nat) : Nat → Bool → Fields → Reader Fields
  | 0, _, _ => failPeek .eofWhileParsingObject
  | fuel + 1, first, acc => do
    let start ← skipBlank
    let keyStart ← match start with
      | some '}' => pure none
      | some ',' =>
        if first then failPeek .keyMustBeAString
        else bump; pure (some (← skipBlank))
      | some _ => if first then pure (some start) else failPeek .expectedObjectCommaOrEnd
      | none => failPeek .eofWhileParsingObject
    match keyStart with
    | none => return acc
    | some p =>
      match p with
      | some '"' =>
        bump
        let key ← readStringBody
        match ← skipBlank with
        | some ':' => bump
        | some _ => failPeek .expectedColon
        | none => failPeek .eofWhileParsingObject
        let v ← readValue depth fuel
        readEntries depth fuel false (Fields.insert acc key v)
      | some '}' => failPeek .trailingComma
      | some _ => failPeek .keyMustBeAString
      | none => failPeek .eofWhileParsingValue
end

/-- After the value, only blanks may follow. -/
def finish : Reader Unit := do
  match ← skipBlank with
  | some _ => failPeek .trailingCharacters
  | none => return ()

/-- Run a reader over a whole text, blanks after it allowed. -/
def run {α : Type} (r : Reader α) (s : String) : Except ReadError α :=
  (StateT.run (ExceptT.run (do let a ← r; finish; return a : Reader α)) (Cursor.ofString s)).1

end Reader

/-- Read a text that holds exactly one JSON value. -/
def Value.parse (s : String) : Except ReadError Value :=
  Reader.run (do Reader.readValue Reader.depthLimit ((← get).rest.length + 2)) s

end Workflow.Json
