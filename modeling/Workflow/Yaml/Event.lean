import Workflow.Yaml.Scan
/-! # YAML events and documents

The parser turns tokens into events: the start and end of documents, sequences and
mappings, scalars and aliases, each with the place where it starts.  It follows the YAML
grammar as a state machine with a stack of states to return to: a block collection ends at
its `blockEnd`, a flow collection at its closing bracket, an entry with nothing after its
indicator is an empty plain scalar, and a node may carry an anchor and a tag.  Tags are
written in full: the handle `!!` stands for `tag:yaml.org,2002:`, and `%TAG` lines may add
handles for their document.

`load` keeps the events of the first document, with its anchors resolved: an alias event
holds the position of the event its anchor names.  It also says whether the document ended
in a fault and whether another document follows.  An empty text is one document holding
the single event `void`.
-/

namespace Workflow.Yaml

/-- An event as the parser produces it. -/
inductive RawEvent where
  | streamStart
  | streamEnd
  | documentStart
  | documentEnd
  | alias (name : String)
  | scalar (text : String) (style : ScalarStyle) (tag : Option String) (anchor : Option String)
  | sequenceStart (tag : Option String) (anchor : Option String)
  | sequenceEnd
  | mappingStart (tag : Option String) (anchor : Option String)
  | mappingEnd
deriving DecidableEq, Repr, Inhabited

/-- The parser's states, named for what it reads next. -/
inductive Phase where
  | streamStart
  | implicitDocumentStart
  | documentStart
  | documentContent
  | documentEnd
  | blockNode
  | blockNodeOrIndentlessSequence
  | flowNode
  | blockSequenceFirstEntry
  | blockSequenceEntry
  | indentlessSequenceEntry
  | blockMappingFirstKey
  | blockMappingKey
  | blockMappingValue
  | flowSequenceFirstEntry
  | flowSequenceEntry
  | flowSequenceEntryMappingKey
  | flowSequenceEntryMappingValue
  | flowSequenceEntryMappingEnd
  | flowMappingFirstKey
  | flowMappingKey
  | flowMappingValue
  | flowMappingEmptyValue
  | finished
deriving DecidableEq, Repr, Inhabited

/-- The state of the parser. -/
structure Parser where
  tokens : Array Token
  ready : Nat
  scanFault : Option Problem
  pos : Nat := 0
  phase : Phase := .streamStart
  phases : List Phase := []
  marks : List Mark := []
  tagHandles : List (String × String) := []
deriving Inhabited

/-- Parsing: a fault ends it. -/
abbrev ParseM := ExceptT Problem (StateM Parser)

/-- Whether a token kind is one of a list of kinds. -/
def TokenKind.isOneOf (k : TokenKind) (ks : List TokenKind) : Bool := ks.contains k

namespace Parse

/-- The next token; past the usable tokens, the scanner's fault. -/
def peek : ParseM Token := do
  let s ← get
  if s.pos < s.ready then
    match s.tokens[s.pos]? with
    | some t => return t
    | none => throw (s.scanFault.getD { problem := "unexpected end of tokens" })
  else throw (s.scanFault.getD { problem := "unexpected end of tokens" })

/-- Move past the next token. -/
def next : ParseM Unit := modify fun s => { s with pos := s.pos + 1 }

/-- Go on in a phase. -/
def goTo (p : Phase) : ParseM Unit := modify fun s => { s with phase := p }

/-- Remember a phase to return to. -/
def pushPhase (p : Phase) : ParseM Unit := modify fun s => { s with phases := p :: s.phases }

/-- Return to the last remembered phase. -/
def popPhase : ParseM Unit := modify fun s =>
  { s with phase := s.phases.headD .finished, phases := s.phases.tail }

/-- Remember where a collection started. -/
def pushMark (m : Mark) : ParseM Unit := modify fun s => { s with marks := m :: s.marks }

/-- Forget where the innermost collection started, and say where that was. -/
def popMark : ParseM Mark := do
  let s ← get
  set { s with marks := s.marks.tail }
  return s.marks.headD {}

/-- Fail at a place, naming what was being read. -/
def failIn {α : Type} (context : String) (contextMark : Mark) (problem : String) (at_ : Mark) : ParseM α :=
  throw { problem, mark := at_, context := some (context, contextMark) }

/-- The handles every document knows. -/
def defaultHandles : List (String × String) := [("!", "!"), ("!!", "tag:yaml.org,2002:")]

/-- The `%YAML` and `%TAG` lines before a document. -/
def directives : Nat → List (String × String) → Bool → ParseM (List (String × String))
  | 0, acc, _ => pure acc
  | n + 1, acc, seenVersion => do
    let t ← peek
    match t.kind with
    | .versionDirective =>
      if seenVersion then throw { problem := "found duplicate %YAML directive", mark := t.start }
      next
      directives n acc true
    | .tagDirective h p =>
      if acc.any (fun e => e.1 == h) then throw { problem := "found duplicate %TAG directive", mark := t.start }
      next
      directives n (acc ++ [(h, p)]) seenVersion
    | _ => pure acc

/-- Read the directives and set the handles of the document. -/
def processDirectives : ParseM Unit := do
  let declared ← directives ((← get).tokens.size + 1) [] false
  let handles := declared ++ defaultHandles.filter (fun d => !declared.any (fun e => e.1 == d.1))
  modify fun s => { s with tagHandles := handles }

/-- An empty plain scalar at a place. -/
def emptyScalar (m : Mark) : RawEvent × Mark := (.scalar "" .plain none none, m)

/-- A node: an alias, or a scalar or collection with its anchor and tag. -/
def node (block indentless : Bool) : ParseM (RawEvent × Mark) := do
  let t ← peek
  if let .alias name := t.kind then
    popPhase
    next
    return (.alias name, t.start)
  let start := t.start
  let (anchor, tag, tagMark) ← do
    match t.kind with
    | .anchor a =>
      next
      let t2 ← peek
      match t2.kind with
      | .tag h s =>
        next
        pure (some a, some (h, s), t2.start)
      | _ => pure (some a, none, start)
    | .tag h s =>
      next
      let t2 ← peek
      match t2.kind with
      | .anchor a =>
        next
        pure (some a, some (h, s), start)
      | _ => pure (none, some (h, s), start)
    | _ => pure (none, none, start)
  let tag ← match tag with
    | none => pure none
    | some (h, s) =>
      if h.isEmpty then pure (some s)
      else
        match (← get).tagHandles.find? (fun e => e.1 == h) with
        | some (_, p) => pure (some (p ++ s))
        | none => failIn "while parsing a node" start "found undefined tag handle" tagMark
  let t ← peek
  match t.kind with
  | .blockEntry =>
    if indentless then
      goTo .indentlessSequenceEntry
      return (.sequenceStart tag anchor, start)
    else if anchor.isSome || tag.isSome then
      popPhase
      return (.scalar "" .plain tag anchor, start)
    else
      failIn (if block then "while parsing a block node" else "while parsing a flow node") start
        "did not find expected node content" t.start
  | .scalar text style =>
    popPhase
    next
    return (.scalar text style tag anchor, start)
  | .flowSequenceStart =>
    goTo .flowSequenceFirstEntry
    return (.sequenceStart tag anchor, start)
  | .flowMappingStart =>
    goTo .flowMappingFirstKey
    return (.mappingStart tag anchor, start)
  | .blockSequenceStart =>
    if block then
      goTo .blockSequenceFirstEntry
      return (.sequenceStart tag anchor, start)
    else if anchor.isSome || tag.isSome then
      popPhase
      return (.scalar "" .plain tag anchor, start)
    else failIn "while parsing a flow node" start "did not find expected node content" t.start
  | .blockMappingStart =>
    if block then
      goTo .blockMappingFirstKey
      return (.mappingStart tag anchor, start)
    else if anchor.isSome || tag.isSome then
      popPhase
      return (.scalar "" .plain tag anchor, start)
    else failIn "while parsing a flow node" start "did not find expected node content" t.start
  | _ =>
    if anchor.isSome || tag.isSome then
      popPhase
      return (.scalar "" .plain tag anchor, start)
    else
      failIn (if block then "while parsing a block node" else "while parsing a flow node") start
        "did not find expected node content" t.start

/-- The start of a document, or the end of the stream. -/
def documentStart (implicit : Bool) : ParseM (RawEvent × Mark) := do
  let rec skipEnds : Nat → ParseM Unit
    | 0 => pure ()
    | n + 1 => do
      if (← peek).kind == .documentEnd then
        next
        skipEnds n
  if !implicit then skipEnds ((← get).tokens.size + 1)
  let t ← peek
  let isDirective := match t.kind with
    | .versionDirective | .tagDirective .. => true
    | _ => false
  if implicit && !isDirective && t.kind != .documentStart && t.kind != .streamEnd then
    processDirectives
    pushPhase .documentEnd
    goTo .blockNode
    return (.documentStart, t.start)
  else if t.kind != .streamEnd then
    processDirectives
    let t ← peek
    if t.kind != .documentStart then
      throw { problem := "did not find expected <document start>", mark := t.start }
    pushPhase .documentEnd
    goTo .documentContent
    next
    return (.documentStart, t.start)
  else
    goTo .finished
    next
    return (.streamEnd, t.start)

/-- The end of a document. -/
def documentEnd : ParseM (RawEvent × Mark) := do
  let t ← peek
  if t.kind == .documentEnd then next
  modify fun s => { s with tagHandles := [] }
  goTo .documentStart
  return (.documentEnd, t.start)

/-- An entry of a block sequence, or its end. -/
def blockSequenceEntry (first : Bool) : ParseM (RawEvent × Mark) := do
  if first then
    pushMark (← peek).start
    next
  let t ← peek
  match t.kind with
  | .blockEntry =>
    next
    let t2 ← peek
    if t2.kind == .blockEntry || t2.kind == .blockEnd then
      goTo .blockSequenceEntry
      return emptyScalar t.stop
    else
      pushPhase .blockSequenceEntry
      node true false
  | .blockEnd =>
    popPhase
    let _ ← popMark
    next
    return (.sequenceEnd, t.start)
  | _ =>
    failIn "while parsing a block collection" (← popMark) "did not find expected '-' indicator" t.start

/-- An entry of a sequence written without indentation under a mapping key, or its end. -/
def indentlessSequenceEntry : ParseM (RawEvent × Mark) := do
  let t ← peek
  if t.kind == .blockEntry then
    next
    let t2 ← peek
    if t2.kind.isOneOf [.blockEntry, .key, .value, .blockEnd] then
      goTo .indentlessSequenceEntry
      return emptyScalar t.stop
    else
      pushPhase .indentlessSequenceEntry
      node true false
  else
    popPhase
    return (.sequenceEnd, t.start)

/-- A key of a block mapping, or its end. -/
def blockMappingKey (first : Bool) : ParseM (RawEvent × Mark) := do
  if first then
    pushMark (← peek).start
    next
  let t ← peek
  match t.kind with
  | .key =>
    next
    let t2 ← peek
    if t2.kind.isOneOf [.key, .value, .blockEnd] then
      goTo .blockMappingValue
      return emptyScalar t.stop
    else
      pushPhase .blockMappingValue
      node true true
  | .blockEnd =>
    popPhase
    let _ ← popMark
    next
    return (.mappingEnd, t.start)
  | _ =>
    failIn "while parsing a block mapping" (← popMark) "did not find expected key" t.start

/-- A value of a block mapping. -/
def blockMappingValue : ParseM (RawEvent × Mark) := do
  let t ← peek
  if t.kind == .value then
    next
    let t2 ← peek
    if t2.kind.isOneOf [.key, .value, .blockEnd] then
      goTo .blockMappingKey
      return emptyScalar t.stop
    else
      pushPhase .blockMappingKey
      node true true
  else
    goTo .blockMappingKey
    return emptyScalar t.start

/-- An entry of a flow sequence, or its end. -/
def flowSequenceEntry (first : Bool) : ParseM (RawEvent × Mark) := do
  if first then
    pushMark (← peek).start
    next
  let t ← peek
  if t.kind != .flowSequenceEnd then
    let t ← do
      if !first then
        if t.kind == .flowEntry then
          next
          peek
        else failIn "while parsing a flow sequence" (← popMark) "did not find expected ',' or ']'" t.start
      else pure t
    if t.kind == .key then
      goTo .flowSequenceEntryMappingKey
      next
      return (.mappingStart none none, t.start)
    else if t.kind != .flowSequenceEnd then
      pushPhase .flowSequenceEntry
      node false false
    else
      popPhase
      let _ ← popMark
      next
      return (.sequenceEnd, t.start)
  else
    popPhase
    let _ ← popMark
    next
    return (.sequenceEnd, t.start)

/-- The key of a single-pair mapping inside a flow sequence. -/
def flowSequenceEntryMappingKey : ParseM (RawEvent × Mark) := do
  let t ← peek
  if !t.kind.isOneOf [.value, .flowEntry, .flowSequenceEnd] then
    pushPhase .flowSequenceEntryMappingValue
    node false false
  else
    goTo .flowSequenceEntryMappingValue
    return emptyScalar t.start

/-- The value of a single-pair mapping inside a flow sequence. -/
def flowSequenceEntryMappingValue : ParseM (RawEvent × Mark) := do
  let t ← peek
  if t.kind == .value then
    next
    let t2 ← peek
    if !t2.kind.isOneOf [.flowEntry, .flowSequenceEnd] then
      pushPhase .flowSequenceEntryMappingEnd
      node false false
    else
      goTo .flowSequenceEntryMappingEnd
      return emptyScalar t2.start
  else
    goTo .flowSequenceEntryMappingEnd
    return emptyScalar t.start

/-- The end of a single-pair mapping inside a flow sequence. -/
def flowSequenceEntryMappingEnd : ParseM (RawEvent × Mark) := do
  let t ← peek
  goTo .flowSequenceEntry
  return (.mappingEnd, t.start)

/-- A key of a flow mapping, or its end. -/
def flowMappingKey (first : Bool) : ParseM (RawEvent × Mark) := do
  if first then
    pushMark (← peek).start
    next
  let t ← peek
  if t.kind != .flowMappingEnd then
    let t ← do
      if !first then
        if t.kind == .flowEntry then
          next
          peek
        else failIn "while parsing a flow mapping" (← popMark) "did not find expected ',' or '\x7d'" t.start
      else pure t
    if t.kind == .key then
      next
      let t2 ← peek
      if !t2.kind.isOneOf [.value, .flowEntry, .flowMappingEnd] then
        pushPhase .flowMappingValue
        node false false
      else
        goTo .flowMappingValue
        return emptyScalar t2.start
    else if t.kind != .flowMappingEnd then
      pushPhase .flowMappingEmptyValue
      node false false
    else
      popPhase
      let _ ← popMark
      next
      return (.mappingEnd, t.start)
  else
    popPhase
    let _ ← popMark
    next
    return (.mappingEnd, t.start)

/-- A value of a flow mapping. -/
def flowMappingValue (empty : Bool) : ParseM (RawEvent × Mark) := do
  let t ← peek
  if empty then
    goTo .flowMappingKey
    return emptyScalar t.start
  if t.kind == .value then
    next
    let t2 ← peek
    if !t2.kind.isOneOf [.flowEntry, .flowMappingEnd] then
      pushPhase .flowMappingKey
      node false false
    else
      goTo .flowMappingKey
      return emptyScalar t2.start
  else
    goTo .flowMappingKey
    return emptyScalar t.start

/-- The next event. -/
def step : ParseM (RawEvent × Mark) := do
  match (← get).phase with
  | .streamStart =>
    let t ← peek
    if t.kind != .streamStart then throw { problem := "did not find expected <stream-start>", mark := t.start }
    goTo .implicitDocumentStart
    next
    return (.streamStart, t.start)
  | .implicitDocumentStart => documentStart true
  | .documentStart => documentStart false
  | .documentContent =>
    let t ← peek
    if t.kind.isOneOf [.versionDirective, .documentStart, .documentEnd, .streamEnd] ||
        (match t.kind with
         | .tagDirective .. => true
         | _ => false) then
      popPhase
      return emptyScalar t.start
    else node true false
  | .documentEnd => documentEnd
  | .blockNode => node true false
  | .blockNodeOrIndentlessSequence => node true true
  | .flowNode => node false false
  | .blockSequenceFirstEntry => blockSequenceEntry true
  | .blockSequenceEntry => blockSequenceEntry false
  | .indentlessSequenceEntry => indentlessSequenceEntry
  | .blockMappingFirstKey => blockMappingKey true
  | .blockMappingKey => blockMappingKey false
  | .blockMappingValue => blockMappingValue
  | .flowSequenceFirstEntry => flowSequenceEntry true
  | .flowSequenceEntry => flowSequenceEntry false
  | .flowSequenceEntryMappingKey => flowSequenceEntryMappingKey
  | .flowSequenceEntryMappingValue => flowSequenceEntryMappingValue
  | .flowSequenceEntryMappingEnd => flowSequenceEntryMappingEnd
  | .flowMappingFirstKey => flowMappingKey true
  | .flowMappingKey => flowMappingKey false
  | .flowMappingValue => flowMappingValue false
  | .flowMappingEmptyValue => flowMappingValue true
  | .finished => throw { problem := "no more events" }

/-- Every event up to the end of the stream, and the fault that stopped the parser. -/
def all : Nat → Array (RawEvent × Mark) → ParseM (Array (RawEvent × Mark))
  | 0, acc => pure acc
  | n + 1, acc => do
    if (← get).phase == .finished then return acc
    let e ← step
    all n (acc.push e)

end Parse

/-- The events of a text, and the fault that ended them early, if one did. -/
def events (text : String) : Array (RawEvent × Mark) × Option Problem :=
  let sc := scan text
  let start : Parser := { tokens := sc.tokens, ready := sc.ready, scanFault := sc.fault }
  let acc : Array (RawEvent × Mark) := #[]
  let rec collect : Nat → Array (RawEvent × Mark) → Parser → Array (RawEvent × Mark) × Option Problem
    | 0, acc, _ => (acc, none)
    | n + 1, acc, p =>
      if p.phase == .finished then (acc, none)
      else
        match Parse.step.run.run p with
        | (.ok e, p') => collect n (acc.push e) p'
        | (.error f, _) => (acc, some f)
  collect (4 * sc.tokens.size + 16) acc start

/-- A document event, with anchors resolved. -/
inductive Event where
  /-- A repeat of the node that starts at this position of the document's events. -/
  | alias (target : Nat)
  | scalar (text : String) (style : ScalarStyle) (tag : Option String)
  | sequenceStart (tag : Option String)
  | sequenceEnd
  | mappingStart (tag : Option String)
  | mappingEnd
  /-- The content of an empty document. -/
  | void
deriving DecidableEq, Repr, Inhabited

/-- Why a document ended early. -/
inductive LoadFault where
  | malformed (p : Problem)
  | unknownAnchor (m : Mark)
deriving DecidableEq, Repr

/-- The first document of a text. -/
structure Document where
  events : Array (Event × Mark)
  fault : Option LoadFault
  /-- Whether another document follows. -/
  more : Bool
deriving Repr

/-- Resolve the anchors of the first document's events. -/
def loadEvents : List (RawEvent × Mark) → List (String × Nat) → Array (Event × Mark) →
    Array (Event × Mark) × Option LoadFault × List (RawEvent × Mark)
  | [], _, acc => (acc, none, [])
  | (e, m) :: rest, anchors, acc =>
    let named (a : Option String) : List (String × Nat) :=
      match a with
      | some n => (n, acc.size) :: anchors
      | none => anchors
    match e with
    | .streamStart | .documentStart => loadEvents rest anchors acc
    | .streamEnd =>
      (if acc.isEmpty then acc.push (.void, m) else acc, none, [])
    | .documentEnd => (acc, none, rest)
    | .alias n =>
      match anchors.find? (fun a => a.1 == n) with
      | some (_, i) => loadEvents rest anchors (acc.push (.alias i, m))
      | none => (acc, some (.unknownAnchor m), [])
    | .scalar t st tag a => loadEvents rest (named a) (acc.push (.scalar t st tag, m))
    | .sequenceStart tag a => loadEvents rest (named a) (acc.push (.sequenceStart tag, m))
    | .sequenceEnd => loadEvents rest anchors (acc.push (.sequenceEnd, m))
    | .mappingStart tag a => loadEvents rest (named a) (acc.push (.mappingStart tag, m))
    | .mappingEnd => loadEvents rest anchors (acc.push (.mappingEnd, m))

/-- The first document of a text. -/
def load (text : String) : Document :=
  let (raw, fault) := events text
  let raw := raw.toList
  let ended := raw.any (fun e => e.1 == .documentEnd || e.1 == .streamEnd)
  let (evs, anchorFault, rest) := loadEvents raw [] #[]
  match anchorFault with
  | some f => ⟨evs, some f, false⟩
  | none =>
    if !ended then ⟨evs, fault.map LoadFault.malformed, false⟩
    else
      let more := match rest with
        | (e, _) :: _ => e != .streamEnd
        | [] => fault.isSome && raw.getLast?.map (fun e => e.1 == .documentEnd) == some true
      ⟨evs, none, more⟩

end Workflow.Yaml
