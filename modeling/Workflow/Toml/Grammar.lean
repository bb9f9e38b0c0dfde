import Workflow.Toml.Reader
import Workflow.Toml.Document
import Workflow.Decimal.Parse
/-! # The TOML grammar

Readers for the parts of a TOML 1.0 document, over its UTF-8 bytes:

* keys: bare (`A-Za-z0-9_-`), basic-quoted or literal-quoted, joined by dots with blanks
  around them;
* strings: basic, multi-line basic, literal and multi-line literal;
* integers (decimal with optional sign, `0x`, `0o`, `0b`, underscores between digits) as
  64-bit signed numbers, floats (with a fraction or exponent, or `inf`/`nan`), booleans,
  date-times (offset or local date-time, date, time);
* arrays and inline tables, nested at most 80 deep;
* the document: blank lines, comments, `key = value` lines and `[table]`/`[[array]]`
  headers, each line ending in a newline or the end.

When a line cannot be read the failure says where, what was being read and what was
expected; once a line's kind is known (its first character) a failure is final.  A key
given twice, or a header naming something that exists, is a clash reported at the start of
its line.
-/

namespace Workflow.Toml

open Reader

/-- Whether a byte is a blank inside a line: space or tab. -/
def isBlankByte (b : UInt8) : Bool := b == 0x20 || b == 0x09

/-- Whether a byte is a decimal digit. -/
def isDigitByte (b : UInt8) : Bool := 0x30 ≤ b && b ≤ 0x39

/-- Whether a byte is a hexadecimal digit. -/
def isHexByte (b : UInt8) : Bool :=
  isDigitByte b || (0x41 ≤ b && b ≤ 0x46) || (0x61 ≤ b && b ≤ 0x66)

/-- Whether a byte may stand in a bare key. -/
def isBareKeyByte (b : UInt8) : Bool :=
  (0x41 ≤ b && b ≤ 0x5A) || (0x61 ≤ b && b ≤ 0x7A) || isDigitByte b || b == 0x2D || b == 0x5F

/-- Whether a byte may stand in a comment. -/
def isCommentByte (b : UInt8) : Bool := b == 0x09 || (0x20 ≤ b && b ≤ 0x7E) || b ≥ 0x80

/-- Whether a byte stands for itself in a basic string. -/
def isBasicByte (b : UInt8) : Bool :=
  isBlankByte b || b == 0x21 || (0x23 ≤ b && b ≤ 0x5B) || (0x5D ≤ b && b ≤ 0x7E) || b ≥ 0x80

/-- Whether a byte stands for itself in a literal string. -/
def isLiteralByte (b : UInt8) : Bool :=
  b == 0x09 || (0x20 ≤ b && b ≤ 0x26) || (0x28 ≤ b && b ≤ 0x7E) || b ≥ 0x80

/-- The byte of an ASCII character. -/
def asciiByte (c : Char) : UInt8 := c.toNat.toUInt8

/-- The bytes of an ASCII text. -/
def asciiBytes (s : String) : List UInt8 := s.toList.map asciiByte

/-- The text of UTF-8 bytes. -/
def textOf (bs : List UInt8) : String := (String.fromUTF8? ⟨bs.toArray⟩).getD ""

/-- The deepest nesting of arrays and inline tables. -/
def nestingLimit : Nat := 80

/-! ## Blanks, comments and line ends -/

/-- Blanks inside a line. -/
def blanks : Reader Unit := do let _ ← takeRun isBlankByte 0 0

/-- A comment, without its line end. -/
def comment : Reader Unit := do
  byte (asciiByte '#')
  let _ ← takeRun isCommentByte 0 0

/-- A line feed, or a carriage return and a line feed. -/
def newline : Reader Unit := do
  let b ← anyByte
  if b == 0x0A then return ()
  else if b == 0x0D then byte 0x0A
  else failHere

/-- A newline or the end of the input. -/
def lineEnd : Reader Unit := orElse newline atEnd

/-- What may follow a value or header on its line: blanks, a comment, the line end. -/
def lineRest : Reader Unit := do
  blanks
  let _ ← optional comment
  lineEnd

/-- Blanks and newlines. -/
def blanksAndNewlines : Reader Unit := do
  let _ ← many (orElse newline (do let _ ← takeRun isBlankByte 1 0))

/-- Blanks, newlines and comments, as between the items of an array. -/
def gap : Reader Unit := fun s => go (s.rest.length + 1) s
where
  go : Nat → Reader Unit
    | 0 => pure ()
    | fuel + 1 => do
      let start := (← get).offset
      blanks
      match ← peekByte with
      | some 0x23 => comment; newline
      | some 0x0A | some 0x0D => newline
      | _ => return ()
      if (← get).offset == start then return () else go fuel

/-! ## Strings -/

/-- The character a four- or eight-digit escape names. -/
def hexEscape (digits : Nat) : Reader Char :=
  mapOrFail (check (takeRun isHexByte 0 digits) (·.length == digits)) fun ds =>
    let n := ds.foldl (fun acc d =>
      16 * acc + (if d ≤ 0x39 then d.toNat - 0x30 else if d ≤ 0x46 then d.toNat - 0x37 else d.toNat - 0x57)) 0
    if n.isValidChar then .ok (Char.ofNat n) else .error Clash.outOfRange.message

/-- The characters an escape in a basic string may name after its backslash. -/
def escapeNames : List Char := ['b', 'f', 'n', 'r', 't', 'u', 'U', '\\', '"']

/-- An escape: a backslash and what follows it. -/
def escape : Reader Char := do
  byte (asciiByte '\\')
  let b ← anyByte
  match b with
  | 0x62 => return '\x08'
  | 0x66 => return '\x0c'
  | 0x6E => return '\n'
  | 0x72 => return '\r'
  | 0x74 => return '\t'
  | 0x5C => return '\\'
  | 0x22 => return '"'
  | 0x75 => label "unicode 4-digit hex code" (commit (hexEscape 4))
  | 0x55 => label "unicode 8-digit hex code" (commit (hexEscape 8))
  | _ =>
    escapeNames.foldl (fun r c => expect (.char c) r)
      (label "escape sequence" (commit failHere))

/-- A run of text in a basic string: plain bytes or one escape. -/
def basicChunk : Reader String :=
  orElse (do return textOf (← takeRun isBasicByte 1 0)) (do return String.singleton (← escape))

/-- A basic string: `"…"` with escapes. -/
def basicString : Reader String := do
  byte 0x22
  let parts ← many basicChunk
  label "basic string" (commit (byte 0x22))
  return String.join parts

/-- A literal string: `'…'`, taken as written. -/
def literalString : Reader String :=
  label "literal string" do
    byte 0x27
    let body ← commit (takeRun isLiteralByte 0 0)
    commit (byte 0x27)
    return textOf body

/-- One or two quote bytes `q` followed (without consuming) by what `after` reads. -/
def quotesBefore (q : UInt8) (after : Reader Unit) : Reader String :=
  orElse (do literal [q, q]; lookAhead after; return textOf [q, q])
    (do byte q; lookAhead after; return textOf [q])

/-- A backslash at a line end, which drops the line break and the blanks after it. -/
def escapedLineEnd : Reader Unit := do
  let step : Reader Unit := do
    byte (asciiByte '\\')
    blanks
    newline
    blanksAndNewlines
  step
  let _ ← many step

/-- A run of text in a multi-line basic string. -/
def multiBasicChunk : Reader String :=
  firstOf [
    do return textOf (← takeRun isBasicByte 1 0),
    do escapedLineEnd; return "",
    do return String.singleton (← escape),
    do newline; return "\n"]

/-- The body of a multi-line basic string: text with quotes that do not close it. -/
def multiBasicBody : Reader String := fun s => go (s.rest.length + 1) "" s
where
  go : Nat → String → Reader String
    | 0, acc => pure acc
    | fuel + 1, acc => do
      let chunks ← many multiBasicChunk
      let acc := acc ++ String.join chunks
      match ← optional (quotesBefore 0x22 (do let _ ← byteIn (· != 0x22))) with
      | some q =>
        match ← optional multiBasicChunk with
        | some c => go fuel (acc ++ q ++ c)
        | none => finishQuotes acc
      | none => finishQuotes acc
  finishQuotes (acc : String) : Reader String := do
    match ← optional (quotesBefore 0x22 (literal [0x22, 0x22, 0x22])) with
    | some q => return acc ++ q
    | none => return acc

/-- A multi-line basic string: `"""…"""`, a newline right after the opening dropped. -/
def multiBasicString : Reader String :=
  label "multiline basic string" do
    literal [0x22, 0x22, 0x22]
    let _ ← optional newline
    let body ← commit multiBasicBody
    commit (literal [0x22, 0x22, 0x22])
    return body

/-- One byte or line end of a multi-line literal string. -/
def multiLiteralPiece : Reader Unit :=
  orElse (do let _ ← byteIn isLiteralByte) newline

/-- The body of a multi-line literal string, as written. -/
def multiLiteralBody : Reader (List UInt8) := consumed do
  let _ ← many multiLiteralPiece
  let _ ← many (do
    let _ ← quotesBefore 0x27 (do let _ ← byteIn (· != 0x27))
    multiLiteralPiece
    let _ ← many multiLiteralPiece)
  let _ ← optional (quotesBefore 0x27 (literal [0x27, 0x27, 0x27]))

/-- Line breaks of a text with every carriage return before a line feed dropped. -/
def dropReturns : List Char → List Char
  | '\r' :: '\n' :: rest => '\n' :: dropReturns rest
  | c :: rest => c :: dropReturns rest
  | [] => []

/-- A multi-line literal string: `'''…'''`. -/
def multiLiteralString : Reader String :=
  label "multiline literal string" do
    literal [0x27, 0x27, 0x27]
    let _ ← optional newline
    let body ← commit multiLiteralBody
    commit (literal [0x27, 0x27, 0x27])
    return String.ofList (dropReturns (textOf body).toList)

/-- Any string. -/
def stringValue : Reader String :=
  firstOf [multiBasicString, basicString, multiLiteralString, literalString]

/-! ## Keys -/

/-- A bare key. -/
def bareKey : Reader String := do return textOf (← takeRun isBareKeyByte 1 0)

/-- One key: bare or quoted, with the text it was written as and its place. -/
def simpleKey : Reader Key := do
  let start := (← get).rest
  let (name, a, b) ← spanned do
    match ← peekByte with
    | some 0x22 => basicString
    | some 0x27 => literalString
    | _ => bareKey
  return ⟨name, textOf (start.take (b - a)), some ⟨a, b⟩⟩

/-- A dotted key: keys joined by dots, blanks around each. -/
def dottedKey : Reader (List Key) :=
  mapOrFail
    (label "key" (separated1 (do blanks; let k ← simpleKey; blanks; return k) (byte (asciiByte '.'))))
    fun ks => if ks.length < nestingLimit then .ok ks else .error Clash.tooDeep.message

/-! ## Numbers, booleans and date-times -/

/-- Digits with single underscores between them, after a first digit that was read. -/
def digitsAfter (isDigit : UInt8 → Bool) : Reader Unit := do
  let _ ← many (orElse (do let _ ← byteIn isDigit)
    (do byte (asciiByte '_'); expect (.words "digit") (commit (do let _ ← byteIn isDigit))))

/-- Digits that may start with zero. -/
def zeroPrefixable : Reader Unit := do
  let _ ← byteIn isDigitByte
  digitsAfter isDigitByte

/-- A decimal integer as written: optional sign, then `0` or digits not starting with `0`. -/
def decimalText : Reader (List UInt8) :=
  label "integer" <| consumed do
    let _ ← optional (byteIn (fun b => b == 0x2B || b == 0x2D))
    orElse (do let _ ← byteIn (fun b => 0x31 ≤ b && b ≤ 0x39); digitsAfter isDigitByte)
      (do let _ ← byteIn isDigitByte)

/-- The value of digits in a base, underscores skipped. -/
def digitValue (base : Nat) (bs : List UInt8) : Nat :=
  (bs.filter (· != 0x5F)).foldl (fun acc d =>
    base * acc + (if d ≤ 0x39 then d.toNat - 0x30 else if d ≤ 0x46 then d.toNat - 0x37 else d.toNat - 0x57)) 0

/-- The largest 64-bit signed integer. -/
def maxInteger : Int := Nat.pow 2 63 - 1

/-- A signed 64-bit integer from its decimal text. -/
def decimalValue (bs : List UInt8) : Except String Int :=
  let (negative, digits) := match bs with
    | 0x2D :: rest => (true, rest)
    | 0x2B :: rest => (false, rest)
    | rest => (false, rest)
  let n : Int := digitValue 10 digits
  if negative then
    if n > maxInteger + 1 then .error "number too small to fit in target type" else .ok (-n)
  else if n > maxInteger then .error "number too large to fit in target type" else .ok n

/-- An integer with a base prefix. -/
def prefixedInteger (tag : String) (name : String) (base : Nat) (isDigit : UInt8 → Bool) :
    Reader Int :=
  commit <| mapOrFail (label name do
      literal (asciiBytes tag)
      commit (consumed do
        let _ ← byteIn isDigit
        digitsAfter isDigit))
    fun ds =>
      let n := digitValue base ds
      if n > maxInteger.toNat then .error "number too large to fit in target type" else .ok n

/-- An integer. -/
def integer : Reader Int := do
  match ← peekTwo with
  | some (0x30, 0x78) => prefixedInteger "0x" "hexadecimal integer" 16 isHexByte
  | some (0x30, 0x6F) => prefixedInteger "0o" "octal integer" 8 (fun b => 0x30 ≤ b && b ≤ 0x37)
  | some (0x30, 0x62) => prefixedInteger "0b" "binary integer" 2 (fun b => b == 0x30 || b == 0x31)
  | _ => fun s =>
    match decimalText s with
    | .error e => .error e
    | .ok (text, s') =>
      match decimalValue text with
      | .ok n => .ok (n, s')
      | .error c => .error ⟨true, s.offset, [], some c⟩

/-- A fraction: a point and digits. -/
def fraction : Reader Unit := do
  byte (asciiByte '.')
  expect (.words "digit") (commit zeroPrefixable)

/-- An exponent: `e` or `E`, an optional sign and digits. -/
def exponent : Reader Unit := do
  let _ ← byteIn (fun b => b == 0x65 || b == 0x45)
  let _ ← optional (byteIn (fun b => b == 0x2B || b == 0x2D))
  commit zeroPrefixable

/-- `inf` or `nan` with an optional sign, as the bits of a double. -/
def specialFloat : Reader UInt64 := do
  let sign ← optional (byteIn (fun b => b == 0x2B || b == 0x2D))
  let negative := sign == some 0x2D
  orElse (do literal (asciiBytes "inf"); return (if negative then 0xFFF0000000000000 else 0x7FF0000000000000))
    (do literal (asciiBytes "nan"); return (if negative then 0xFFF8000000000000 else 0x7FF8000000000000))

/-- A float, as the bits of a double. -/
def float : Reader UInt64 :=
  label "floating-point number" <| orElse
    (fun s =>
      let text : Reader (List UInt8) := consumed do
        let _ ← decimalText
        orElse exponent (do fraction; let _ ← optional exponent)
      match text s with
      | .error e => .error e
      | .ok (bs, s') =>
        match Decimal.readFloat (textOf (bs.filter (· != 0x5F))) with
        | some bits =>
          if bits == 0x7FF0000000000000 then .error ⟨true, s.offset, [], none⟩
          else .ok (bits, s')
        | none => .error ⟨true, s.offset, [], none⟩)
    specialFloat

/-- `true` or `false`, once its first letter is seen. -/
def boolWord (word : String) (value : Bool) : Reader Bool := do
  commit (literal (asciiBytes word))
  return value

/-- Exactly `n` digits, as a number. -/
def fixedDigits (n : Nat) : Reader Nat := do
  let ds ← takeRun isDigitByte n n
  return digitValue 10 ds

/-- Exactly `n` digits whose value lies in a range. -/
def rangedDigits (n lo hi : Nat) : Reader Nat :=
  mapOrFail (fixedDigits n) fun v => if lo ≤ v && v ≤ hi then .ok v else .error Clash.outOfRange.message

/-- The days of a month of a year. -/
def monthDays (year month : Nat) : Nat :=
  if month == 2 then
    if year % 4 == 0 && (year % 100 != 0 || year % 400 == 0) then 29 else 28
  else if month == 4 || month == 6 || month == 9 || month == 11 then 30 else 31

/-- A date: `YYYY-MM-DD`. -/
def fullDate : Reader Unit := do
  let year ← fixedDigits 4
  byte (asciiByte '-')
  let month ← commit (rangedDigits 2 1 12)
  commit (byte (asciiByte '-'))
  fun s =>
    match commit (rangedDigits 2 1 31) s with
    | .error e => .error e
    | .ok (day, s') =>
      if monthDays year month < day then .error ⟨true, s.offset, [], some Clash.outOfRange.message⟩
      else .ok ((), s')

/-- A time: `hh:mm:ss` and an optional fraction. -/
def partialTime : Reader Unit := do
  let _ ← rangedDigits 2 0 23
  byte (asciiByte ':')
  commit do
    let _ ← rangedDigits 2 0 59
    byte (asciiByte ':')
    let _ ← rangedDigits 2 0 60
    let _ ← optional (do byte (asciiByte '.'); let _ ← takeRun isDigitByte 1 0)

/-- A time offset: `Z` or `±hh:mm`. -/
def timeOffset : Reader Unit :=
  label "time offset" <| orElse (do let _ ← byteIn (fun b => b == 0x5A || b == 0x7A))
    (do
      let _ ← byteIn (fun b => b == 0x2B || b == 0x2D)
      commit do
        let _ ← rangedDigits 2 0 23
        byte (asciiByte ':')
        let _ ← rangedDigits 2 0 59)

/-- A date-time, a date or a time, as written. -/
def dateTime : Reader String := do
  let bs ← consumed <| orElse
    (label "date-time" do
      fullDate
      let _ ← optional (do
        let _ ← byteIn (fun b => b == 0x54 || b == 0x74 || b == 0x20)
        partialTime
        let _ ← optional timeOffset))
    (label "time" partialTime)
  return textOf bs

/-! ## Values -/

/-- Notes that say a string was expected. -/
def asString {α : Type} (r : Reader α) : Reader α :=
  expect (.char '\'') (expect (.char '"') (label "string" r))

mutual

/-- A value, nested at most `depth` more levels, with its place. -/
def value : Nat → Reader Item
  | depth => fun s =>
    let body : Reader Item := do
      match ← peekByte with
      | some 0x22 | some 0x27 => return .str (← stringValue) none
      | some 0x5B => array depth
      | some 0x7B => inlineTableValue depth
      | some b =>
        if b == 0x2B || b == 0x2D || isDigitByte b then
          firstOf [
            do return .datetime (← dateTime) none,
            do return .float (← float) none,
            do return .int (← integer) none]
        else if b == 0x5F then do return .int (← expect (.words "leading digit") integer) none
        else if b == 0x2E then do return .float (← expect (.words "leading digit") float) none
        else if b == 0x74 then do return .bool (← asString (boolWord "true" true)) none
        else if b == 0x66 then do return .bool (← asString (boolWord "false" false)) none
        else if b == 0x69 then do
          return .float (← asString (do literal (asciiBytes "inf"); return 0x7FF0000000000000)) none
        else if b == 0x6E then do
          return .float (← asString (do literal (asciiBytes "nan"); return 0x7FF8000000000000)) none
        else asString failHere
      | none => failHere
    match spanned body s with
    | .ok ((item, a, b), s') => .ok (item.withSpan ⟨a, b⟩, s')
    | .error e => .error e
  termination_by depth => (depth, 1)

/-- An array, its items separated by commas, with blanks, newlines and comments around them. -/
def array : Nat → Reader Item
  | 0 => fun s => .error ⟨true, s.offset, [], some Clash.tooDeep.message⟩
  | depth + 1 => do
    byte 0x5B
    let items ← commit do
      if (← peekByte) == some 0x5D then return []
      else
        let items ← separated0 (do gap; let v ← value depth; gap; return v) (byte 0x2C)
        if !items.isEmpty then let _ ← optional (byte 0x2C)
        gap
        return items
    expect (.char ']') (label "array" (commit (byte 0x5D)))
    return .array items none
  termination_by depth => (depth, 0)

/-- An inline table: `{ key = value, … }` on one line. -/
def inlineTableValue : Nat → Reader Item
  | 0 => fun s => .error ⟨true, s.offset, [], some Clash.tooDeep.message⟩
  | depth + 1 => do
    byte 0x7B
    let body ← commit <| mapOrFail (do
        let pairs ← separated0 (inlinePair depth) (byte 0x2C)
        blanks
        return pairs)
      fun pairs => (inlineTable pairs).mapError Clash.message
    expect (.char '}') (label "inline table" (commit (byte 0x7D)))
    return .inline body.entries false false none
  termination_by depth => (depth, 0)

/-- One `key = value` of an inline table. -/
def inlinePair : Nat → Reader (List Key × Key × Item)
  | depth => do
    let keys ← dottedKey
    commit do
      expect (.char '=') (expect (.char '.') (byte (asciiByte '=')))
      blanks
      let v ← value depth
      blanks
      return (keys.dropLast, keys.getLast?.getD default, v)
  termination_by depth => (depth, 2)

end

end Workflow.Toml
