import Workflow.Json.Read
import Workflow.Decode.Class
/-! # Decoding straight from JSON text

The `Decoder` instance for `Json.Reader` reads typed data while it walks the text, so a
document is read once and the first fault in text order wins, be it of syntax or of
meaning.

* Faults of meaning are placed where the reader stands when the enclosing value ends: a
  scalar of the wrong kind points past the scalar, a missing field past the record's closing
  brace, a field given twice past its key.  A container whose body failed is still closed
  as far as the text allows before the fault is placed.
* Records, sequences and maps spend one level of the nesting allowance; values read whole
  spend one level per container inside them.
* A field that no record knows is skipped with a lighter reader that checks syntax only:
  it spends no nesting and does not check number ranges.
* `recordOf true` reads a record while tracking paths: a fault inside a field's value (of
  syntax or of meaning, also inside a field the record does not know) names the field
  (`name: …`), one inside an element of the sequence form names its place (`[i]: …`).
  Faults of the record itself (a missing or repeated field, a short sequence) name nothing.
-/

namespace Workflow.Decode

open Json Json.Reader

namespace TextDecode

/-- Fail with a fault of meaning, to be placed by the enclosing reader. -/
def throwFault {α : Type} (f : Fault) : Reader α := throw ⟨.custom (f.message .json), none⟩

/-- Run `r`; a fault without a place gets the current place. -/
def fixing {α : Type} (r : Reader α) : Reader α :=
  tryCatch r fun e => do
    match e.position with
    | none => throw ⟨e.problem, some (← get).position⟩
    | some _ => throw e

/-- Run `r` as the reader of a field's value: its fault names the field. -/
def within {α : Type} (field : String) (r : Reader α) : Reader α :=
  tryCatch (fixing r) fun e => throw { e with problem := .within field e.problem }

/-- The outcome of a reader, kept instead of thrown. -/
def attempt {α : Type} (r : Reader α) : Reader (Except ReadError α) :=
  tryCatch (Except.ok <$> r) (fun e => pure (.error e))

/-- Finish a container after its body: on success the end must be right, on a fault the
end is read as far as it goes and the body's fault is kept. -/
def finishWith {α : Type} (r : Except ReadError α) (fin : Reader Unit) : Reader α :=
  match r with
  | .ok a => do fin; return a
  | .error e => do
    let _ ← attempt fin
    throw e

/-- Take one scalar to say what was found instead of `expected`; containers are named
without being read. -/
def peekInvalidType {α : Type} (expected : String) : Reader α := do
  match ← peek? with
  | some 'n' => bump; readIdent ['u', 'l', 'l']; throwFault (.invalidType .unit expected)
  | some 't' => bump; readIdent ['r', 'u', 'e']; throwFault (.invalidType (.bool true) expected)
  | some 'f' =>
    bump; readIdent ['a', 'l', 's', 'e']; throwFault (.invalidType (.bool false) expected)
  | some '-' =>
    bump
    let n ← NumberText.readNumber false
    throwFault (.invalidType (.ofNumber n) expected)
  | some '"' =>
    bump
    let s ← readStringBody
    throwFault (.invalidType (.str s) expected)
  | some '[' => throwFault (.invalidType .seq expected)
  | some '{' => throwFault (.invalidType .map expected)
  | some c =>
    if c.isDigit then
      let n ← NumberText.readNumber true
      throwFault (.invalidType (.ofNumber n) expected)
    else failPeek .expectedValue
  | none => failPeek .expectedValue

/-- Spend one level of nesting, failing at the opening bracket when none is left. -/
def enter : Reader Unit := do
  let c ← get
  if c.room ≤ 1 then failPeek .recursionLimitExceeded
  else set { c with room := c.room - 1 }

/-- Give the level back. -/
def leave : Reader Unit := modify fun c => { c with room := c.room + 1 }

/-- Whether another item follows in a sequence. -/
def nextElement (first : Bool) : Reader Bool := do
  match ← skipBlank with
  | none => failPeek .eofWhileParsingList
  | some ']' => return false
  | some c =>
    if first then return true
    else if c == ',' then
      bump
      match ← skipBlank with
      | some ']' => failPeek .trailingComma
      | some _ => return true
      | none => failPeek .eofWhileParsingValue
    else failPeek .expectedListCommaOrEnd

/-- The end of a sequence. -/
def endSeq : Reader Unit := do
  match ← skipBlank with
  | some ']' => bump
  | some ',' =>
    bump
    match ← skipBlank with
    | some ']' => failPeek .trailingComma
    | _ => failPeek .trailingCharacters
  | some _ => failPeek .trailingCharacters
  | none => failPeek .eofWhileParsingList

/-- The end of a map. -/
def endMap : Reader Unit := do
  match ← skipBlank with
  | some '}' => bump
  | some ',' => failPeek .trailingComma
  | some _ => failPeek .trailingCharacters
  | none => failPeek .eofWhileParsingObject

/-- The next key of a map, or none at its end. -/
def nextKey (first : Bool) : Reader (Option String) := do
  let peek ← skipBlank
  let keyStart : Option (Option Char) ← match peek with
    | some '}' => pure none
    | some ',' =>
      if first then pure (some peek)
      else do bump; pure (some (← skipBlank))
    | some _ => if first then pure (some peek) else failPeek .expectedObjectCommaOrEnd
    | none => failPeek .eofWhileParsingObject
  match keyStart with
  | none => return none
  | some (some '"') => bump; return some (← readStringBody)
  | some (some '}') => failPeek .trailingComma
  | some (some _) => failPeek .keyMustBeAString
  | some none => failPeek .eofWhileParsingValue

/-- The colon between a key and its value. -/
def colon : Reader Unit := do
  match ← skipBlank with
  | some ':' => bump
  | some _ => failPeek .expectedColon
  | none => failPeek .eofWhileParsingObject

/-! ## Skipping a value -/

/-- Skip an exponent, from its `e`. -/
def skipExponent : Reader Unit := do
  bump
  match ← peek? with
  | some '+' | some '-' => bump
  | _ => pure ()
  match ← peek? with
  | some d => bump; if !d.isDigit then fail .invalidNumber else do let _ ← skipDigits
  | none => fail .invalidNumber

/-- Skip a number after its sign, checking its form only. -/
def skipNumber : Reader Unit := do
  match ← peek? with
  | some '0' =>
    bump
    match ← peek? with
    | some d => if d.isDigit then failPeek .invalidNumber else pure ()
    | none => pure ()
  | some d =>
    bump
    if '1' ≤ d && d ≤ '9' then do let _ ← skipDigits else fail .invalidNumber
  | none => fail .invalidNumber
  match ← peek? with
  | some '.' =>
    bump
    if (← skipDigits) == 0 then failPeek .invalidNumber
    match ← peek? with
    | some 'e' | some 'E' => skipExponent
    | _ => pure ()
  | some 'e' | some 'E' => skipExponent
  | _ => pure ()

/-- Skip one escape, after its backslash. -/
def skipEscape : Reader Unit := do
  match ← peek? with
  | none => fail .eofWhileParsingString
  | some c =>
    bump
    if "\"\\/bfnrt".toList.contains c then pure ()
    else if c == 'u' then do let _ ← readHex4
    else fail .invalidEscape

/-- Skip a string literal, after its opening quote. -/
def skipString : Reader Unit := do
  loop ((← get).rest.length + 1)
where
  loop : Nat → Reader Unit
    | 0 => fail .eofWhileParsingString
    | fuel + 1 => do
      match ← peek? with
      | none => fail .eofWhileParsingString
      | some '"' => bump
      | some '\\' => bump; skipEscape; loop fuel
      | some c => if c.toNat < 0x20 then fail .controlCharacterInString else do bump; loop fuel

/-- Close finished containers: returns the container still open with a next item to read,
or none when the skipped value is complete. -/
def closeFrames : Nat → Bool → Char → List Char → Reader (Option (Char × List Char))
  | 0, _, frame, stack => return some (frame, stack)
  | fuel + 1, acceptComma, frame, stack => do
    let closer := if frame == '[' then ']' else '}'
    match ← skipBlank with
    | some c =>
      if c == ',' && acceptComma then do bump; return some (frame, stack)
      else if c == closer then
        bump
        match stack with
        | f :: rest => closeFrames fuel true f rest
        | [] => return none
      else if acceptComma then
        failPeek (if frame == '[' then .expectedListCommaOrEnd else .expectedObjectCommaOrEnd)
      else return some (frame, stack)
    | none => failPeek (if frame == '[' then .eofWhileParsingList else .eofWhileParsingObject)

/-- Skip one value, checking its syntax; nesting is not limited and numbers are not
range-checked. -/
def skipValue : Reader Unit := do
  let fuel := (← get).rest.length + 1
  loop fuel fuel [] none
where
  loop : Nat → Nat → List Char → Option Char → Reader Unit
    | 0, _, _, _ => pure ()
    | fuel + 1, inner, stack, enclosing => do
      let opened : Option Char ← match ← skipBlank with
        | none => failPeek .eofWhileParsingValue
        | some 'n' => do bump; readIdent ['u', 'l', 'l']; pure none
        | some 't' => do bump; readIdent ['r', 'u', 'e']; pure none
        | some 'f' => do bump; readIdent ['a', 'l', 's', 'e']; pure none
        | some '-' => do bump; skipNumber; pure none
        | some '"' => do bump; skipString; pure none
        | some '[' => do bump; pure (some '[')
        | some '{' => do bump; pure (some '{')
        | some c => if c.isDigit then do skipNumber; pure none else failPeek .expectedValue
      let stack := if opened.isSome then (match enclosing with | some e => e :: stack | none => stack)
        else stack
      let current : Option (Bool × Char × List Char) :=
        match opened with
        | some f => some (false, f, stack)
        | none =>
          match enclosing with
          | some f => some (true, f, stack)
          | none =>
            match stack with
            | f :: rest => some (true, f, rest)
            | [] => none
      match current with
      | none => return ()
      | some (acceptComma, frame, stack) =>
        match ← closeFrames inner acceptComma frame stack with
        | none => return ()
        | some (frame, stack) =>
          if frame == '{' then
            match ← skipBlank with
            | some '"' => bump
            | some _ => failPeek .keyMustBeAString
            | none => failPeek .eofWhileParsingObject
            skipString
            colon
          loop fuel inner stack (some frame)

/-! ## The instance -/

/-- A number where a number is wanted. -/
def number (expected : String) : Reader Number := do
  match ← skipBlank with
  | none => failPeek .eofWhileParsingValue
  | some '-' => bump; NumberText.readNumber false
  | some c => if c.isDigit then NumberText.readNumber true else peekInvalidType expected

/-- The items of a sequence, after its opening bracket. -/
def seqItems {α : Type} (elem : Reader α) : Reader (List α) := do
  loop ((← get).rest.length + 1) true []
where
  loop : Nat → Bool → List α → Reader (List α)
    | 0, _, acc => return acc.reverse
    | fuel + 1, first, acc => do
      if ← nextElement first then
        let a ← elem
        loop fuel false (a :: acc)
      else return acc.reverse

/-- The entries of a map, after its opening brace; a later key replaces an earlier one. -/
def mapEntries {α : Type} (val : Reader α) : Reader (List (String × α)) := do
  loop ((← get).rest.length + 1) true []
where
  put (k : String) (a : α) : List (String × α) → List (String × α)
    | [] => [(k, a)]
    | (k', b) :: rest =>
      if k < k' then (k, a) :: (k', b) :: rest
      else if k == k' then (k, a) :: rest
      else (k', b) :: put k a rest
  loop : Nat → Bool → List (String × α) → Reader (List (String × α))
    | 0, _, acc => return acc
    | fuel + 1, first, acc => do
      match ← nextKey first with
      | none => return acc
      | some k =>
        colon
        let a ← val
        loop fuel false (put k a acc)

/-- Read `r` as the value at `label` of a path, when paths are tracked. -/
def under {α : Type} (track : Bool) (label : String) (r : Reader α) : Reader α :=
  if track then within label r else r

/-- A record's fields from a map, after its opening brace; with `track`, a fault inside a
value names its key, known or not. -/
def recordFromMap {σ α : Type} (track : Bool) (spec : RecordSpec Reader σ α) : Reader α := do
  loop ((← get).rest.length + 1) true spec.init []
where
  loop : Nat → Bool → σ → List Nat → Reader α
    | 0, _, st, _ => return spec.build st
    | fuel + 1, first, st, seen => do
      match ← nextKey first with
      | none =>
        match firstMissing spec.fields spec.required seen with
        | some f => throwFault (.missingField f)
        | none => return spec.build st
      | some k =>
        match fieldIndex spec.fields k with
        | some i =>
          if seen.contains i then throwFault (.duplicateField k)
          else
            colon
            let st ← under track k (spec.read st i)
            loop fuel false st (i :: seen)
        | none =>
          colon
          under track k skipValue
          loop fuel false st seen

/-- A record's fields in order from a sequence, after its opening bracket; with `track`, a
fault inside an element names its place (`[i]`). -/
def recordFromSeq {σ α : Type} (track : Bool) (spec : RecordSpec Reader σ α) : Reader α := do
  let n := spec.fields.length
  let rec loop : List (String × Nat) → Bool → σ → Reader α
    | [], _, st => return spec.build st
    | (f, i) :: rest, first, st => do
      if ← nextElement first then
        let st ← under track ("[" ++ toString i ++ "]") (spec.read st i)
        loop rest false st
      else if spec.required.contains f then
        throwFault (.invalidLength i (spec.expected ++ " with " ++ toString n ++ " elements"))
      else loop rest first st
  loop spec.fields.zipIdx true spec.init

/-- A record from a map or a sequence of its fields; with `track`, faults inside values
name where they are. -/
def recordOf {σ α : Type} (track : Bool) (spec : RecordSpec Reader σ α) : Reader α := fixing do
  match ← skipBlank with
  | none => failPeek .eofWhileParsingValue
  | some '[' =>
    enter; bump
    let r ← attempt (recordFromSeq track spec)
    leave
    finishWith r endSeq
  | some '{' =>
    enter; bump
    let r ← attempt (recordFromMap track spec)
    leave
    finishWith r endMap
  | some _ => peekInvalidType spec.expected

/-- A string, used for a variant's name. -/
def identifier (expected : String) : Reader String := fixing do
  match ← skipBlank with
  | none => failPeek .eofWhileParsingValue
  | some '"' => bump; readStringBody
  | some _ => peekInvalidType expected

end TextDecode

open TextDecode in
instance : Decoder Reader where
  text expected := fixing do
    match ← skipBlank with
    | none => failPeek .eofWhileParsingValue
    | some '"' => bump; readStringBody
    | some _ => peekInvalidType expected
  bool := fixing do
    match ← skipBlank with
    | none => failPeek .eofWhileParsingValue
    | some 't' => bump; readIdent ['r', 'u', 'e']; return true
    | some 'f' => bump; readIdent ['a', 'l', 's', 'e']; return false
    | some _ => peekInvalidType "a boolean"
  unsigned max name := fixing do
    match ← number name with
    | .int i =>
      if i < 0 then throwFault (.invalidValue (.signed i) name)
      else if i.toNat > max then throwFault (.invalidValue (.unsigned i.toNat) name)
      else return i.toNat
    | .float b => throwFault (.invalidType (.float b) name)
  double := fixing do
    match ← number "f64" with
    | .int i => return Decimal.Binary.roundRatio (i < 0) i.natAbs 1
    | .float b => return b
  value := fixing do
    let c ← get
    readValue c.room (c.rest.length + 2)
  option inner := do
    match ← skipBlank with
    | some 'n' => bump; readIdent ['u', 'l', 'l']; return none
    | _ => some <$> inner
  seq elem := fixing do
    match ← skipBlank with
    | none => failPeek .eofWhileParsingValue
    | some '[' =>
      enter; bump
      let r ← attempt (seqItems elem)
      leave
      finishWith r endSeq
    | some _ => peekInvalidType "a sequence"
  map val := fixing do
    match ← skipBlank with
    | none => failPeek .eofWhileParsingValue
    | some '{' =>
      enter; bump
      let r ← attempt (mapEntries val)
      leave
      finishWith r endMap
    | some _ => peekInvalidType "a map"
  record spec := recordOf false spec
  unitVariant := do
    match ← skipBlank with
    | some '{' =>
      enter; bump
      let name ← identifier "variant identifier"
      colon
      fixing do
        match ← skipBlank with
        | some 'n' => bump; readIdent ['u', 'l', 'l']
        | some _ => peekInvalidType "unit"
        | none => failPeek .eofWhileParsingValue
      leave
      match ← skipBlank with
      | some '}' => bump; return name
      | some _ => fail .expectedValue
      | none => fail .eofWhileParsingObject
    | some '"' => bump; readStringBody
    | some _ => failPeek .expectedValue
    | none => failPeek .eofWhileParsingValue
  fault f := throwFault f

/-- Decode a whole JSON text with a typed reader; only blanks may follow the value. -/
def decodeText {α : Type} (r : Reader α) (text : String) : Except ReadError α :=
  Reader.run r text

end Workflow.Decode
