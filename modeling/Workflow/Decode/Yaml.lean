import Workflow.Decode.Class
import Workflow.Yaml.Event
import Workflow.Yaml.Scalar
/-! # Decoding from a YAML document

The `Decoder` instance for `YamlDecode` reads typed data from the events of a YAML
document, one node after the other.  An alias is read as the node its anchor names.

* A scalar reads as text whatever its form, so `StartAt: 1` is the name `"1"`; a boolean
  must be a plain `true` or `false` (in its three spellings); numbers and untyped values
  take the meaning of the scalar's form (`Yaml.Scalar`).
* An optional value is absent when it is a plain null (`~`, `null`, empty).
* A record or map may be an empty plain scalar, read as having no entries; a sequence
  likewise.  Records are never read from sequences.
* A fault names the path to the node it is about (`m.definition.States.A.End`, `.` for
  the root, `[i]` for sequence items) and the place where that node starts.  A syntax fault
  of the text is reported when the events run out, or, if decoding succeeds, at the end; a
  second document is a fault only after that.
* Nesting is limited to 128 collections, and reading aliases to a hundred times the number
  of events.
-/

namespace Workflow.Decode

open Json Yaml

/-- A step of the path from the root of a document to a node. -/
inductive YamlStep where
  | key (k : String)
  | index (i : Nat)
  | unknown
  | alias
deriving DecidableEq, Repr

/-- A path, innermost step first, as faults write it. -/
def pathText : List YamlStep → String
  | [] => "."
  | .key k :: parent => (if parent.isEmpty then "" else pathText parent ++ ".") ++ k
  | .index i :: parent => pathText parent ++ "[" ++ toString i ++ "]"
  | .unknown :: parent => (if parent.isEmpty then "" else pathText parent ++ ".") ++ "?"
  | .alias :: parent => pathText parent

/-- A fault of a YAML document. -/
inductive YamlError where
  /-- The text is not YAML. -/
  | malformed (p : Yaml.Problem)
  /-- A fault of meaning, with the place and path of the node it is about once known. -/
  | meaning (text : String) (place : Option (Mark × String))
  | endOfStream
  | moreThanOneDocument
  | recursionLimit (m : Mark)
  | repetitionLimit
  | unknownAnchor (m : Mark)
deriving DecidableEq, Repr

/-- A place as the end of a fault message: nothing at the very start of the text. -/
def atMark (m : Mark) : String := if m.isStart then "" else " at " ++ m.display

/-- The words for a YAML fault. -/
def YamlError.message : YamlError → String
  | .malformed p => p.message
  | .meaning t none => t
  | .meaning t (some (m, path)) => (if path == "." then "" else path ++ ": ") ++ t ++ atMark m
  | .endOfStream => "EOF while parsing a value"
  | .moreThanOneDocument => "deserializing from YAML containing more than one document is not supported"
  | .recursionLimit m => "recursion limit exceeded" ++ atMark m
  | .repetitionLimit => "repetition limit exceeded"
  | .unknownAnchor m => "unknown anchor" ++ atMark m

/-- What a reader sees of the document: its events, how it ended, the path to the current
node and how much deeper collections may nest. -/
structure YamlScope where
  events : Array (Yaml.Event × Mark)
  fault : Option LoadFault
  path : List YamlStep := []
  depth : Nat := 128

/-- Where a reader is in the events, and how many aliases it has followed. -/
structure YamlCursor where
  pos : Nat := 0
  jumps : Nat := 0

/-- Decoding from the events of a YAML document. -/
abbrev YamlDecode := ReaderT YamlScope (StateT YamlCursor (Except YamlError))

namespace YamlDecode

/-- The fault when the events run out. -/
def endFault (s : YamlScope) : YamlError :=
  match s.fault with
  | some (.malformed p) => .malformed p
  | some (.unknownAnchor m) => .unknownAnchor m
  | none => .endOfStream

/-- The next event, left in place. -/
def peekEvent : YamlDecode (Yaml.Event × Mark) := do
  let s ← read
  match s.events[(← get).pos]? with
  | some e => return e
  | none => throw (endFault s)

/-- Take the next event. -/
def nextEvent : YamlDecode (Yaml.Event × Mark) := do
  let e ← peekEvent
  modify fun c => { c with pos := c.pos + 1 }
  return e

/-- Fail with a fault of meaning; its place is filled in on the way out. -/
def throwFault {α : Type} (f : Fault) : YamlDecode α := throw (.meaning (f.message .plain) none)

/-- Give faults without a place the place and path of the node a reader started at. -/
def fixAt {α : Type} (m : Mark) (r : YamlDecode α) : YamlDecode α := fun s c =>
  match (r.run s).run c with
  | .error (.meaning t none) => .error (.meaning t (some (m, pathText s.path)))
  | other => other

/-- Read with one more step on the path. -/
def withStep {α : Type} (st : YamlStep) (r : YamlDecode α) : YamlDecode α :=
  withReader (fun s => { s with path := st :: s.path }) r

/-- Read the node an alias names, then go on after the alias. -/
def jump {α : Type} (target : Nat) (r : YamlDecode α) : YamlDecode α := do
  let s ← read
  let c ← get
  if c.jumps + 1 > s.events.size * 100 then throw .repetitionLimit
  set { c with pos := target, jumps := c.jumps + 1 }
  let a ← withStep .alias r
  modify fun c' => { c' with pos := c.pos }
  return a

/-- Read inside one more collection. -/
def nested {α : Type} (m : Mark) (r : YamlDecode α) : YamlDecode α := do
  let s ← read
  if s.depth == 0 then throw (.recursionLimit m)
  withReader (fun s => { s with depth := s.depth - 1 }) r

/-- How a scalar's reading is described in a fault. -/
def unexpectedOf : Resolved → Unexpected
  | .null => .unit
  | .bool b => .bool b
  | .unsigned n =>
    if n ≤ maxUnsigned then .unsigned n else .other ("integer `" ++ toString n ++ "` as u128")
  | .signed i =>
    if i ≥ -(Nat.pow 2 63 : Int) then .signed i else .other ("integer `" ++ toString i ++ "` as i128")
  | .float b => .float b
  | .text s => .str s

/-- The fault for an event that is not what a reader wants. -/
def mismatch (ev : Yaml.Event) (expected : String) : YamlError :=
  let msg (f : Fault) : YamlError := .meaning (f.message .plain) none
  match ev with
  | .scalar t st tag =>
    match resolve t (st == .plain) tag with
    | .error mm => msg (.invalidValue (.str mm.text) mm.expected)
    | .ok r => msg (.invalidType (unexpectedOf r) expected)
  | .sequenceStart _ => msg (.invalidType .seq expected)
  | .mappingStart _ => msg (.invalidType .map expected)
  | _ => .endOfStream

/-- Skip one node. -/
def skipNode : Nat → Nat → YamlDecode Unit
  | 0, _ => pure ()
  | fuel + 1, open_ => do
    let (ev, _) ← nextEvent
    let open_ := match ev with
      | .sequenceStart _ | .mappingStart _ => open_ + 1
      | .sequenceEnd | .mappingEnd => open_ - 1
      | _ => open_
    if open_ == 0 then return
    skipNode fuel open_

/-- Skip one node, however deep. -/
def skip : YamlDecode Unit := do skipNode ((← read).events.size + 1) 0

/-- Consume the end of a collection. -/
def closeCollection : YamlDecode Unit := do
  let _ ← nextEvent

/-- A scalar as text, following an alias at most once. -/
def textNode (expected : String) : Nat → YamlDecode String
  | 0 => throw .repetitionLimit
  | fuel + 1 => do
    let (ev, m) ← nextEvent
    fixAt m do
      match ev with
      | .scalar t _ _ => return t
      | .alias target => jump target (textNode expected fuel)
      | other => throw (mismatch other expected)

/-- A scalar read by its form, following an alias at most once; collections are faults. -/
def scalarNode {α : Type} (expected : String) (use : Resolved → YamlDecode α) (onVoid : YamlDecode α) :
    Nat → YamlDecode α
  | 0 => throw .repetitionLimit
  | fuel + 1 => do
    let (ev, m) ← nextEvent
    fixAt m do
      match ev with
      | .alias target => jump target (scalarNode expected use onVoid fuel)
      | .scalar t st tag =>
        if (localTagName tag).isSome then throwFault (.invalidType (.other "enum") expected)
        else
          match resolve t (st == .plain) tag with
          | .error mm => throwFault (.invalidValue (.str mm.text) mm.expected)
          | .ok r => use r
      | .void => onVoid
      | other =>
        nested m (throw (mismatch other expected))

/-- The items of a sequence up to its end, each read with its index on the path. -/
def items {α : Type} (elem : YamlDecode α) : Nat → Nat → YamlDecode (List α)
  | 0, _ => pure []
  | fuel + 1, i => do
    let (ev, _) ← peekEvent
    match ev with
    | .sequenceEnd | .void => return []
    | _ =>
      let a ← withStep (.index i) elem
      return a :: (← items elem fuel (i + 1))

/-- The step a mapping key gives the path. -/
def keyStep : Yaml.Event → YamlStep
  | .scalar t _ _ => .key t
  | _ => .unknown

/-- The entries of a mapping up to its end: keys as text, values read under their key. -/
def entries {α : Type} (key : YamlDecode String) (val : YamlDecode α) : Nat → YamlDecode (List (String × α))
  | 0 => pure []
  | fuel + 1 => do
    let (ev, _) ← peekEvent
    match ev with
    | .mappingEnd | .void => return []
    | _ =>
      let k ← key
      let v ← withStep (keyStep ev) val
      return (k, v) :: (← entries key val fuel)

/-- The number of events, as fuel for loops over them. -/
def budget : YamlDecode Nat := do return (← read).events.size + 1

/-- A collection, or an empty plain scalar standing for an empty one. -/
def collection {α : Type} (expected : String) (isStart : Yaml.Event → Bool) (body : YamlDecode α)
    (empty : YamlDecode α) : Nat → YamlDecode α
  | 0 => throw .repetitionLimit
  | fuel + 1 => do
    let (ev, m) ← nextEvent
    fixAt m do
      match ev with
      | .alias target => jump target (collection expected isStart body empty fuel)
      | .scalar "" .plain _ | .void => empty
      | other =>
        if isStart other then
          let a ← nested m body
          closeCollection
          return a
        else throw (mismatch other expected)

/-- Whether an event starts a sequence. -/
def isSequenceStart : Yaml.Event → Bool
  | .sequenceStart _ => true
  | _ => false

/-- Whether an event starts a mapping. -/
def isMappingStart : Yaml.Event → Bool
  | .mappingStart _ => true
  | _ => false

/-- Any value, as JSON: null, booleans, numbers, text, arrays and objects. -/
def anyValue : Nat → YamlDecode Value
  | 0 => throw .repetitionLimit
  | fuel + 1 => do
    let (ev, m) ← nextEvent
    fixAt m do
      match ev with
      | .alias target => jump target (anyValue fuel)
      | .scalar t st tag =>
        if (localTagName tag).isSome then
          throwFault (.invalidType (.other "enum") "any valid JSON value")
        else
          match resolve t (st == .plain) tag with
          | .error mm => throwFault (.invalidValue (.str mm.text) mm.expected)
          | .ok .null => return .null
          | .ok (.bool b) => return .bool b
          | .ok (.unsigned n) =>
            if n ≤ maxUnsigned then return .num (.int n)
            else throwFault (.invalidType (.other ("integer `" ++ toString n ++ "` as u128")) "any valid JSON value")
          | .ok (.signed i) =>
            if i ≥ -(Nat.pow 2 63 : Int) then return .num (.int i)
            else throwFault (.invalidType (.other ("integer `" ++ toString i ++ "` as i128")) "any valid JSON value")
          | .ok (.float b) => return (if Decimal.Binary.isSpecial b then .null else .num (.float b))
          | .ok (.text s) => return .str s
      | .sequenceStart _ =>
        let xs ← nested m (items (anyValue fuel) fuel 0)
        closeCollection
        return .arr xs
      | .mappingStart _ =>
        let kvs ← nested m (entries (textNode "a string key" 2) (anyValue fuel) fuel)
        closeCollection
        return Value.object kvs
      | .void => return .null
      | _ => throw .endOfStream

/-- The fields of a record, in the order written; unknown keys are skipped. -/
def fields {σ α : Type} (spec : RecordSpec YamlDecode σ α) : Nat → σ → List Nat → YamlDecode α
  | 0, st, _ => return spec.build st
  | fuel + 1, st, seen => do
    let (ev, _) ← peekEvent
    match ev with
    | .mappingEnd | .void =>
      match firstMissing spec.fields spec.required seen with
      | some f => throwFault (.missingField f)
      | none => return spec.build st
    | _ =>
      let name ← textNode "field identifier" 2
      match fieldIndex spec.fields name with
      | some i =>
        if seen.contains i then
          match spec.fields[i]? with
          | some f => throwFault (.duplicateField f)
          | none => throwFault (.duplicateField name)
        let st ← withStep (keyStep ev) (spec.read st i)
        fields spec fuel st (i :: seen)
      | none =>
        withStep (keyStep ev) skip
        fields spec fuel st seen

/-- A record with no entries: its required fields are missing. -/
def emptyRecord {σ α : Type} (spec : RecordSpec YamlDecode σ α) : YamlDecode α :=
  match firstMissing spec.fields spec.required [] with
  | some f => throwFault (.missingField f)
  | none => return spec.build spec.init

/-- The name of a variant: a scalar's text. -/
def variantNode : Nat → YamlDecode String
  | 0 => throw .repetitionLimit
  | fuel + 1 => do
    let (ev, m) ← nextEvent
    fixAt m do
      match ev with
      | .alias target => jump target (variantNode fuel)
      | .scalar t _ tag =>
        match localTagName tag with
        | some name => return name
        | none => return t
      | .mappingStart _ => throwFault (.invalidType .map "a YAML tag starting with '!'")
      | .sequenceStart _ => throwFault (.invalidType .seq "a YAML tag starting with '!'")
      | _ => throw .endOfStream

/-- An optional value: a plain null (or nothing) is none. -/
def optionNode {α : Type} (inner : YamlDecode α) : Nat → YamlDecode (Option α)
  | 0 => throw .repetitionLimit
  | fuel + 1 => do
    let (ev, _) ← peekEvent
    match ev with
    | .alias target =>
      modify fun c => { c with pos := c.pos + 1 }
      jump target (optionNode inner fuel)
    | .scalar t st tag =>
      let present ←
        if st != .plain then pure true
        else
          match tag with
          | some tg =>
            if tg == coreTag "null" then
              if isNullWord t then pure false else throwFault (.invalidValue (.str t) "null")
            else pure true
          | none => pure (!t.isEmpty && !isNullWord t)
      if present then return some (← inner)
      else
        modify fun c => { c with pos := c.pos + 1 }
        return none
    | .void =>
      modify fun c => { c with pos := c.pos + 1 }
      return none
    | _ => return some (← inner)

end YamlDecode

open YamlDecode in
instance : Decoder YamlDecode where
  text expected := textNode expected 2
  bool := do
    let (ev, m) ← nextEvent
    match ev with
    | .alias target => jump target (scalarNode "a boolean" (fun r => match r with
        | .bool b => pure b
        | r => throwFault (.invalidType (unexpectedOf r) "a boolean")) (throw .endOfStream) 1)
    | .scalar t .plain _ =>
      match boolWord t with
      | some b => return b
      | none => fixAt m (throw (mismatch ev "a boolean"))
    | other => fixAt m (throw (mismatch other "a boolean"))
  unsigned max name :=
    scalarNode name (fun r => match r with
      | .unsigned n => if n ≤ max then pure n else throwFault (.invalidValue (unexpectedOf r) name)
      | .signed _ => throwFault (.invalidValue (unexpectedOf r) name)
      | r => throwFault (.invalidType (unexpectedOf r) name))
      (throwFault (.invalidType (.other "Option value") name)) 2
  double :=
    scalarNode "f64" (fun r => match r with
      | .unsigned n => pure (Decimal.Binary.roundRatio false n 1)
      | .signed i => pure (Decimal.Binary.roundRatio true i.natAbs 1)
      | .float b => pure b
      | r => throwFault (.invalidType (unexpectedOf r) "f64"))
      (throwFault (.invalidType (.other "Option value") "f64")) 2
  value := do anyValue ((← read).events.size * 100 + 2)
  option inner := optionNode inner 2
  seq elem := do
    let n ← budget
    collection "a sequence" isSequenceStart (items elem n 0) (pure []) 2
  map val := do
    let n ← budget
    collection "a map" isMappingStart (entries (textNode "a string" 2) val n) (pure []) 2
  record spec := do
    let n ← budget
    collection spec.expected isMappingStart (fields spec n spec.init []) (emptyRecord spec) 2
  unitVariant := variantNode 2
  fault f := throwFault f

/-- Decode the first document of a YAML text with a typed reader. -/
def decodeYaml {α : Type} (r : YamlDecode α) (text : String) : Except YamlError α :=
  let doc := load text
  match (r.run { events := doc.events, fault := doc.fault }).run {} with
  | .error e => .error e
  | .ok (a, _) =>
    match doc.fault with
    | some (.malformed p) => .error (.malformed p)
    | some (.unknownAnchor m) => .error (.unknownAnchor m)
    | none => if doc.more then .error .moreThanOneDocument else .ok a

end Workflow.Decode
