import Workflow.Yaml.Token
/-! # Scanning YAML text into tokens

`scan` cuts a YAML text into tokens.  Indentation becomes explicit: a block collection
opens with a `blockSequenceStart` or `blockMappingStart` token when a line starts deeper
than the current indentation, and closes with `blockEnd` when a later line starts less
deep.  A mapping key is only known to be one when its `:` is met, so the scanner remembers,
for every flow level, where a *possible simple key* began (the position in the token list
and in the text); the `:` then inserts the `key` token, and a `blockMappingStart` where
needed, at that remembered position.  A simple key must fit on one line and in 1024
characters; a key that must be one (it starts a line at the current indentation) but finds
no `:` is a fault.

Scanning stops at the first fault.  The tokens before it are kept, and `Scanned.ready`
says how many of them a reader may use: those before a possible simple key cannot be
handed on while that key is undecided.
-/

namespace Workflow.Yaml

/-- Where a simple key may have begun. -/
structure SimpleKey where
  possible : Bool := false
  required : Bool := false
  tokenNumber : Nat := 0
  mark : Mark := {}
deriving Repr, Inhabited

/-- The state of the scanner. -/
structure Scanner where
  rest : List Char
  mark : Mark := {}
  tokens : Array Token := #[]
  indent : Int := -1
  indents : List Int := []
  simpleKeyAllowed : Bool := true
  simpleKeys : List SimpleKey := [{}]
  flowLevel : Nat := 0
  ended : Bool := false
deriving Inhabited

/-- Scanning: a fault ends it, and the state at that point is kept. -/
abbrev ScanM := ExceptT Problem (StateM Scanner)

namespace Scan

/-- The character `k` places ahead, the character zero past the end. -/
def peekAt (k : Nat) : ScanM Char := do return ((← get).rest[k]?).getD '\x00'

/-- Move past one character that is not a line break. -/
def skip : ScanM Unit := modify fun s =>
  match s.rest with
  | _ :: rest => { s with rest, mark := { s.mark with index := s.mark.index + 1, column := s.mark.column + 1 } }
  | [] => s

/-- Take one character that is not a line break. -/
def readChar : ScanM Char := do
  let c ← peekAt 0
  skip
  return c

/-- Move past a line break, if there is one. -/
def skipLine : ScanM Unit := modify fun s =>
  match s.rest with
  | '\r' :: '\n' :: rest =>
    { s with rest, mark := { index := s.mark.index + 2, line := s.mark.line + 1, column := 0 } }
  | c :: rest =>
    if isBreak c then { s with rest, mark := { index := s.mark.index + 1, line := s.mark.line + 1, column := 0 } }
    else s
  | [] => s

/-- Take a line break, as it stands in content: `\r\n`, `\r`, `\n` and next-line become a
newline; line and paragraph separators stay. -/
def readLine : ScanM String := do
  let c ← peekAt 0
  if !isBreak c then return ""
  skipLine
  return if c == '\u2028' || c == '\u2029' then String.singleton c else "\n"

/-- Fail here. -/
def fail {α : Type} (context : Option (String × Mark)) (problem : String) : ScanM α := do
  throw { problem, mark := (← get).mark, context }

/-- Add a token at the end. -/
def push (t : Token) : ScanM Unit := modify fun s => { s with tokens := s.tokens.push t }

/-- Add a token with no width here. -/
def pushHere (k : TokenKind) : ScanM Unit := do
  let m := (← get).mark
  push ⟨k, m, m⟩

/-- Put a token at a position of the token list. -/
def insertAt (ts : Array Token) (n : Nat) (t : Token) : Array Token :=
  (ts.extract 0 n).push t ++ ts.extract n ts.size

/-- Take characters while a test holds. -/
def takeWhile (p : Char → Bool) : Nat → ScanM String
  | 0 => pure ""
  | n + 1 => do
    let c ← peekAt 0
    if p c && !isEnd c then
      skip
      return String.singleton c ++ (← takeWhile p n)
    else return ""

/-- Move past blanks. -/
def skipBlanks : Nat → ScanM Unit
  | 0 => pure ()
  | n + 1 => do
    if isBlank (← peekAt 0) then
      skip
      skipBlanks n

/-- Move past the rest of a line up to its break. -/
def skipToBreak : Nat → ScanM Unit
  | 0 => pure ()
  | n + 1 => do
    if !isBreakEnd (← peekAt 0) then
      skip
      skipToBreak n

/-- The fuel for a loop over the rest of the text. -/
def fuel : ScanM Nat := do return (← get).rest.length + 1

/-! ## Simple keys and indentation -/

/-- Forget the innermost possible simple key; one that was required is a fault. -/
def removeSimpleKey : ScanM Unit := do
  let s ← get
  match s.simpleKeys with
  | k :: rest =>
    if k.possible && k.required then
      fail (some ("while scanning a simple key", k.mark)) "could not find expected ':'"
    set { s with simpleKeys := { k with possible := false } :: rest }
  | [] => pure ()

/-- Remember that a simple key may begin here. -/
def saveSimpleKey : ScanM Unit := do
  let s ← get
  let required := s.flowLevel == 0 && s.indent == (s.mark.column : Int)
  if s.simpleKeyAllowed then
    let key : SimpleKey := { possible := true, required, tokenNumber := s.tokens.size, mark := s.mark }
    removeSimpleKey
    modify fun s => { s with simpleKeys := key :: s.simpleKeys.tail }

/-- Forget possible simple keys that can no longer be keys: they began on an earlier line or
more than 1024 characters back. -/
def staleSimpleKeys : ScanM Unit := do
  let s ← get
  let check (k : SimpleKey) : ScanM SimpleKey := do
    if k.possible && (k.mark.line < s.mark.line || k.mark.index + 1024 < s.mark.index) then
      if k.required then fail (some ("while scanning a simple key", k.mark)) "could not find expected ':'"
      return { k with possible := false }
    else return k
  let keys ← s.simpleKeys.reverse.mapM check
  modify fun s => { s with simpleKeys := keys.reverse }

/-- Open a block collection when `column` is deeper than the indentation; the start token
goes at the end, or at position `number`. -/
def rollIndent (column : Nat) (number : Option Nat) (kind : TokenKind) (mark : Mark) : ScanM Unit := do
  let s ← get
  if s.flowLevel == 0 && s.indent < column then
    let t : Token := ⟨kind, mark, mark⟩
    set { s with
      indents := s.indent :: s.indents
      indent := column
      tokens := match number with
        | none => s.tokens.push t
        | some n => insertAt s.tokens n t }

/-- Close the block collections deeper than `column`. -/
def unrollIndentFor (column : Int) : Nat → ScanM Unit
  | 0 => pure ()
  | n + 1 => do
    let s ← get
    if s.flowLevel == 0 && s.indent > column then
      set { s with
        tokens := s.tokens.push ⟨.blockEnd, s.mark, s.mark⟩
        indent := s.indents.headD (-1)
        indents := s.indents.tail }
      unrollIndentFor column n

/-- Close the block collections deeper than `column`. -/
def unrollIndent (column : Int) : ScanM Unit := do
  unrollIndentFor column ((← get).indents.length + 1)

/-- Enter a flow collection. -/
def increaseFlowLevel : ScanM Unit :=
  modify fun s => { s with simpleKeys := {} :: s.simpleKeys, flowLevel := s.flowLevel + 1 }

/-- Leave a flow collection. -/
def decreaseFlowLevel : ScanM Unit :=
  modify fun s =>
    if s.flowLevel > 0 then { s with simpleKeys := s.simpleKeys.tail, flowLevel := s.flowLevel - 1 }
    else s

/-! ## Between tokens -/

/-- Move past blanks, comments and line breaks up to the next token.  A tab may separate
tokens only inside a flow collection or where no simple key may start. -/
def toNextToken : Nat → ScanM Unit
  | 0 => pure ()
  | n + 1 => do
    let s ← get
    if s.mark.column == 0 && (← peekAt 0) == '\uFEFF' then skip
    let rec blanks : Nat → ScanM Unit
      | 0 => pure ()
      | k + 1 => do
        let s ← get
        let c ← peekAt 0
        if c == ' ' || ((s.flowLevel > 0 || !s.simpleKeyAllowed) && c == '\t') then
          skip
          blanks k
    blanks ((← get).rest.length + 1)
    if (← peekAt 0) == '#' then skipToBreak (← fuel)
    if isBreak (← peekAt 0) then
      skipLine
      if (← get).flowLevel == 0 then modify fun s => { s with simpleKeyAllowed := true }
      toNextToken n

/-! ## Tokens of one or a few characters -/

/-- The end of the text. -/
def fetchStreamEnd : ScanM Unit := do
  let s ← get
  if s.mark.column != 0 then
    set { s with mark := { s.mark with column := 0, line := s.mark.line + 1 } }
  unrollIndent (-1)
  removeSimpleKey
  modify fun s => { s with simpleKeyAllowed := false, ended := true }
  pushHere .streamEnd

/-- A `---` or `...` line. -/
def fetchDocumentIndicator (k : TokenKind) : ScanM Unit := do
  unrollIndent (-1)
  removeSimpleKey
  modify fun s => { s with simpleKeyAllowed := false }
  let start := (← get).mark
  skip; skip; skip
  push ⟨k, start, (← get).mark⟩

/-- A `[` or `{`. -/
def fetchFlowCollectionStart (k : TokenKind) : ScanM Unit := do
  saveSimpleKey
  increaseFlowLevel
  modify fun s => { s with simpleKeyAllowed := true }
  let start := (← get).mark
  skip
  push ⟨k, start, (← get).mark⟩

/-- A `]` or `}`. -/
def fetchFlowCollectionEnd (k : TokenKind) : ScanM Unit := do
  removeSimpleKey
  decreaseFlowLevel
  modify fun s => { s with simpleKeyAllowed := false }
  let start := (← get).mark
  skip
  push ⟨k, start, (← get).mark⟩

/-- A `,` inside a flow collection. -/
def fetchFlowEntry : ScanM Unit := do
  removeSimpleKey
  modify fun s => { s with simpleKeyAllowed := true }
  let start := (← get).mark
  skip
  push ⟨.flowEntry, start, (← get).mark⟩

/-- A `- ` entry of a block sequence. -/
def fetchBlockEntry : ScanM Unit := do
  let s ← get
  if s.flowLevel == 0 then
    if !s.simpleKeyAllowed then fail none "block sequence entries are not allowed in this context"
    rollIndent s.mark.column none .blockSequenceStart s.mark
  removeSimpleKey
  modify fun s => { s with simpleKeyAllowed := true }
  let start := (← get).mark
  skip
  push ⟨.blockEntry, start, (← get).mark⟩

/-- A `? ` complex key. -/
def fetchKey : ScanM Unit := do
  let s ← get
  if s.flowLevel == 0 then
    if !s.simpleKeyAllowed then fail none "mapping keys are not allowed in this context"
    rollIndent s.mark.column none .blockMappingStart s.mark
  removeSimpleKey
  modify fun s => { s with simpleKeyAllowed := s.flowLevel == 0 }
  let start := (← get).mark
  skip
  push ⟨.key, start, (← get).mark⟩

/-- A `: ` value indicator; it makes a possible simple key a key. -/
def fetchValue : ScanM Unit := do
  let s ← get
  let key := s.simpleKeys.headD {}
  if key.possible then
    set { s with tokens := insertAt s.tokens key.tokenNumber ⟨.key, key.mark, key.mark⟩ }
    rollIndent key.mark.column (some key.tokenNumber) .blockMappingStart key.mark
    modify fun s => { s with
      simpleKeys := { key with possible := false } :: s.simpleKeys.tail
      simpleKeyAllowed := false }
  else
    if s.flowLevel == 0 then
      if !s.simpleKeyAllowed then fail none "mapping values are not allowed in this context"
      rollIndent s.mark.column none .blockMappingStart s.mark
    modify fun s => { s with simpleKeyAllowed := s.flowLevel == 0 }
  let start := (← get).mark
  skip
  push ⟨.value, start, (← get).mark⟩

/-! ## Anchors, aliases and tags -/

/-- An `&anchor` or `*alias`. -/
def fetchAnchor (isAnchor : Bool) : ScanM Unit := do
  saveSimpleKey
  modify fun s => { s with simpleKeyAllowed := false }
  let start := (← get).mark
  skip
  let name ← takeWhile isWordChar (← fuel)
  let c ← peekAt 0
  if name.isEmpty || !(isBlankEnd c || "?:,]\x7d%@`".contains c) then
    fail (some (if isAnchor then "while scanning an anchor" else "while scanning an alias", start))
      "did not find expected alphabetic or numeric character"
  push ⟨if isAnchor then .anchor name else .alias name, start, (← get).mark⟩

/-- A tag handle: `!`, `!!` or `!word!`. -/
def scanTagHandle (directive : Bool) (start : Mark) : ScanM String := do
  if (← peekAt 0) != '!' then
    fail (some (if directive then "while scanning a tag directive" else "while scanning a tag", start))
      "did not find expected '!'"
  skip
  let word ← takeWhile isWordChar (← fuel)
  if (← peekAt 0) == '!' then
    skip
    return "!" ++ word ++ "!"
  else
    if directive && !word.isEmpty then
      fail (some ("while parsing a tag directive", start)) "did not find expected '!'"
    return "!" ++ word

/-- Whether a character may stand in a tag. -/
def isUriChar (flowIndicators : Bool) (c : Char) : Bool :=
  isWordChar c || ";/?:@&=+$.%!~*'()".contains c || (flowIndicators && ",[]".contains c)

/-- The characters of a tag, `%`-escapes decoded, after the given head (whose `!` is dropped). -/
def scanTagUri (flowIndicators directive : Bool) (head : String) (start : Mark) : ScanM String := do
  let rec loop : Nat → String → ScanM String
    | 0, acc => pure acc
    | n + 1, acc => do
      let c ← peekAt 0
      if !isUriChar flowIndicators c then return acc
      if c == '%' then
        match hexValue (← peekAt 1), hexValue (← peekAt 2) with
        | some a, some b =>
          skip; skip; skip
          loop n (acc.push (Char.ofNat (a * 16 + b)))
        | _, _ =>
          fail (some (if directive then "while parsing a %TAG directive" else "while parsing a tag", start))
            "did not find URI escaped octet"
      else
        skip
        loop n (acc.push c)
  let body ← loop (← fuel) ""
  let text := (head.drop 1).toString ++ body
  if head.length + body.length == 0 then
    fail (some (if directive then "while parsing a %TAG directive" else "while parsing a tag", start))
      "did not find expected tag URI"
  return text

/-- A `!tag`. -/
def fetchTag : ScanM Unit := do
  saveSimpleKey
  modify fun s => { s with simpleKeyAllowed := false }
  let start := (← get).mark
  let (handle, suffix) ← do
    if (← peekAt 1) == '<' then
      skip; skip
      let suffix ← scanTagUri true false "" start
      if (← peekAt 0) != '>' then fail (some ("while scanning a tag", start)) "did not find the expected '>'"
      skip
      pure ("", suffix)
    else
      let handle ← scanTagHandle false start
      if handle.length > 1 && handle.endsWith "!" then
        pure (handle, ← scanTagUri false false "" start)
      else
        let suffix ← scanTagUri false false handle start
        if suffix.isEmpty then pure ("", "!") else pure ("!", suffix)
  let c ← peekAt 0
  if !isBlankEnd c && !((← get).flowLevel > 0 && c == ',') then
    fail (some ("while scanning a tag", start)) "did not find expected whitespace or line break"
  push ⟨.tag handle suffix, start, (← get).mark⟩

/-! ## Directives -/

/-- Digits of a version number. -/
def scanVersionNumber (start : Mark) : ScanM Nat := do
  let ds ← takeWhile isDigit 10
  if ds.isEmpty then
    fail (some ("while scanning a %YAML directive", start)) "did not find expected version number"
  return ds.toNat!

/-- A `%YAML` or `%TAG` line. -/
def fetchDirective : ScanM Unit := do
  unrollIndent (-1)
  removeSimpleKey
  modify fun s => { s with simpleKeyAllowed := false }
  let start := (← get).mark
  skip
  let name ← takeWhile isWordChar (← fuel)
  if name.isEmpty then
    fail (some ("while scanning a directive", start)) "could not find expected directive name"
  if !isBlankEnd (← peekAt 0) then
    fail (some ("while scanning a directive", start)) "found unexpected non-alphabetical character"
  let kind ← do
    if name == "YAML" then
      skipBlanks (← fuel)
      let _ ← scanVersionNumber start
      if (← peekAt 0) != '.' then
        fail (some ("while scanning a %YAML directive", start)) "did not find expected digit or '.' character"
      skip
      let _ ← scanVersionNumber start
      pure TokenKind.versionDirective
    else if name == "TAG" then
      skipBlanks (← fuel)
      let handle ← scanTagHandle true start
      if !isBlank (← peekAt 0) then
        fail (some ("while scanning a %TAG directive", start)) "did not find expected whitespace"
      skipBlanks (← fuel)
      let pre ← scanTagUri true true "" start
      if !isBlankEnd (← peekAt 0) then
        fail (some ("while scanning a %TAG directive", start)) "did not find expected whitespace or line break"
      pure (TokenKind.tagDirective handle pre)
    else fail (some ("while scanning a directive", start)) "found unknown directive name"
  let stop := (← get).mark
  skipBlanks (← fuel)
  if (← peekAt 0) == '#' then skipToBreak (← fuel)
  if !isBreakEnd (← peekAt 0) then
    fail (some ("while scanning a directive", start)) "did not find expected comment or line break"
  skipLine
  push ⟨kind, start, stop⟩

/-! ## Scalars -/

/-- What a scalar scan has gathered: the text, the line breaks and blanks not yet placed. -/
structure Gathered where
  text : String := ""
  leadingBreak : String := ""
  trailingBreaks : String := ""
  whitespaces : String := ""
  leadingBlanks : Bool := false
  stop : Mark := {}

/-- Place pending breaks and blanks before more text: a single line break folds into a
space, several keep all but the first. -/
def Gathered.join (g : Gathered) : Gathered :=
  if g.leadingBlanks then
    let g :=
      if g.leadingBreak.startsWith "\n" then
        if g.trailingBreaks.isEmpty then { g with text := g.text ++ " ", leadingBreak := "" }
        else { g with text := g.text ++ g.trailingBreaks, trailingBreaks := "", leadingBreak := "" }
      else
        { g with text := g.text ++ g.leadingBreak ++ g.trailingBreaks, leadingBreak := "", trailingBreaks := "" }
    { g with leadingBlanks := false }
  else if !g.whitespaces.isEmpty then { g with text := g.text ++ g.whitespaces, whitespaces := "" }
  else g

/-- Whether the text here starts with a document marker line. -/
def atDocumentMarker : ScanM Bool := do
  let s ← get
  let c0 ← peekAt 0
  let c1 ← peekAt 1
  let c2 ← peekAt 2
  let c3 ← peekAt 3
  return s.mark.column == 0 && ((c0 == '-' && c1 == '-' && c2 == '-') || (c0 == '.' && c1 == '.' && c2 == '.')) &&
    isBlankEnd c3

/-- The characters of a plain scalar up to a blank or an indicator that ends it. -/
def plainChars : Nat → Gathered → ScanM Gathered
  | 0, g => pure g
  | n + 1, g => do
    let c ← peekAt 0
    let c1 ← peekAt 1
    let flow := (← get).flowLevel > 0
    if isBlankEnd c then return g
    if flow && c == ':' && ",?[]\x7b\x7d".contains c1 then return g
    if (c == ':' && isBlankEnd c1) || (flow && ",[]\x7b\x7d".contains c) then return g
    let g := g.join
    let ch ← readChar
    plainChars n { g with text := g.text.push ch, stop := (← get).mark }

/-- The blanks and line breaks after a piece of a plain scalar. -/
def plainBlanks (indent : Int) (start : Mark) : Nat → Gathered → ScanM Gathered
  | 0, g => pure g
  | n + 1, g => do
    let c ← peekAt 0
    if isBlank c then
      if g.leadingBlanks && ((← get).mark.column : Int) < indent && c == '\t' then
        fail (some ("while scanning a plain scalar", start)) "found a tab character that violates indentation"
      if !g.leadingBlanks then
        skip
        plainBlanks indent start n { g with whitespaces := g.whitespaces.push c }
      else
        skip
        plainBlanks indent start n g
    else if isBreak c then
      if !g.leadingBlanks then
        let b ← readLine
        plainBlanks indent start n { g with whitespaces := "", leadingBreak := b, leadingBlanks := true }
      else
        let b ← readLine
        plainBlanks indent start n { g with trailingBreaks := g.trailingBreaks ++ b }
    else return g

/-- The pieces of a plain scalar, line by line, while they stay inside the indentation. -/
def plainPieces (indent : Int) (start : Mark) : Nat → Gathered → ScanM Gathered
  | 0, g => pure g
  | n + 1, g => do
    if ← atDocumentMarker then return g
    if (← peekAt 0) == '#' then return g
    let g ← plainChars (← fuel) g
    let c ← peekAt 0
    if !(isBlank c || isBreak c) then return g
    let g ← plainBlanks indent start (← fuel) g
    let s ← get
    if s.flowLevel == 0 && (s.mark.column : Int) < indent then return g
    plainPieces indent start n g

/-- A plain scalar. -/
def fetchPlainScalar : ScanM Unit := do
  saveSimpleKey
  modify fun s => { s with simpleKeyAllowed := false }
  let s ← get
  let start := s.mark
  let g ← plainPieces (s.indent + 1) start (← fuel) { stop := start }
  if g.leadingBlanks then modify fun s => { s with simpleKeyAllowed := true }
  push ⟨.scalar g.text .plain, start, g.stop⟩

/-- The character a double-quoted escape stands for, with how many hexadecimal digits follow. -/
def escapeOf (c : Char) : Option (Option Char × Nat) :=
  match c with
  | '0' => some (some '\x00', 0)
  | 'a' => some (some '\x07', 0)
  | 'b' => some (some '\x08', 0)
  | 't' | '\t' => some (some '\t', 0)
  | 'n' => some (some '\n', 0)
  | 'v' => some (some '\x0B', 0)
  | 'f' => some (some '\x0C', 0)
  | 'r' => some (some '\r', 0)
  | 'e' => some (some '\x1B', 0)
  | ' ' => some (some ' ', 0)
  | '"' => some (some '"', 0)
  | '/' => some (some '/', 0)
  | '\\' => some (some '\\', 0)
  | 'N' => some (some '\x85', 0)
  | '_' => some (some '\xA0', 0)
  | 'L' => some (some '\u2028', 0)
  | 'P' => some (some '\u2029', 0)
  | 'x' => some (none, 2)
  | 'u' => some (none, 4)
  | 'U' => some (none, 8)
  | _ => none

/-- Read `k` hexadecimal digits. -/
def hexDigits (start : Mark) : Nat → Nat → ScanM Nat
  | 0, acc => pure acc
  | k + 1, acc => do
    match hexValue (← peekAt 0) with
    | some d =>
      skip
      hexDigits start k (acc * 16 + d)
    | none => fail (some ("while parsing a quoted scalar", start)) "did not find expected hexdecimal number"

/-- The characters of a quoted scalar up to a blank, a break or the closing quote; `true`
with the gathered text when an escaped line break ends the piece. -/
def quotedChars (single : Bool) (start : Mark) : Nat → Gathered → ScanM Gathered
  | 0, g => pure g
  | n + 1, g => do
    let c ← peekAt 0
    let c1 ← peekAt 1
    if isBlankEnd c then return g
    if single && c == '\'' && c1 == '\'' then
      skip; skip
      quotedChars single start n { g with text := g.text.push '\'' }
    else if c == (if single then '\'' else '"') then return g
    else if !single && c == '\\' && isBreak c1 then
      skip
      skipLine
      return { g with leadingBlanks := true }
    else if !single && c == '\\' then
      match escapeOf c1 with
      | none => fail (some ("while parsing a quoted scalar", start)) "found unknown escape character"
      | some (some ch, _) =>
        skip; skip
        quotedChars single start n { g with text := g.text.push ch }
      | some (none, k) =>
        skip; skip
        let v ← hexDigits start k 0
        if (0xD800 ≤ v && v ≤ 0xDFFF) || v > 0x10FFFF then
          fail (some ("while parsing a quoted scalar", start)) "found invalid Unicode character escape code"
        quotedChars single start n { g with text := g.text.push (Char.ofNat v) }
    else
      skip
      quotedChars single start n { g with text := g.text.push c }

/-- The blanks and line breaks inside a quoted scalar. -/
def quotedBlanks : Nat → Gathered → ScanM Gathered
  | 0, g => pure g
  | n + 1, g => do
    let c ← peekAt 0
    if isBlank c then
      skip
      quotedBlanks n (if g.leadingBlanks then g else { g with whitespaces := g.whitespaces.push c })
    else if isBreak c then
      let b ← readLine
      if !g.leadingBlanks then
        quotedBlanks n { g with whitespaces := "", leadingBreak := b, leadingBlanks := true }
      else quotedBlanks n { g with trailingBreaks := g.trailingBreaks ++ b }
    else return g

/-- The pieces of a quoted scalar up to its closing quote. -/
def quotedPieces (single : Bool) (start : Mark) : Nat → Gathered → ScanM Gathered
  | 0, g => pure g
  | n + 1, g => do
    if ← atDocumentMarker then
      fail (some ("while scanning a quoted scalar", start)) "found unexpected document indicator"
    if isEnd (← peekAt 0) then
      fail (some ("while scanning a quoted scalar", start)) "found unexpected end of stream"
    let g ← quotedChars single start (← fuel) { g with leadingBlanks := false }
    if (← peekAt 0) == (if single then '\'' else '"') then return g
    let g ← quotedBlanks (← fuel) g
    quotedPieces single start n g.join

/-- A single- or double-quoted scalar. -/
def fetchQuotedScalar (single : Bool) : ScanM Unit := do
  saveSimpleKey
  modify fun s => { s with simpleKeyAllowed := false }
  let start := (← get).mark
  skip
  let g ← quotedPieces single start (← fuel) {}
  skip
  push ⟨.scalar g.text (if single then .singleQuoted else .doubleQuoted), start, (← get).mark⟩

/-- The indentation and line breaks before a line of a block scalar; fixes the indentation
from the first line with content when it was not given. -/
def blockBreaks (start : Mark) (indent : Nat) (parentIndent : Int) :
    Nat → Nat → String → Mark → ScanM (Nat × String × Mark)
  | 0, _, breaks, stop => pure (indent, breaks, stop)
  | n + 1, maxIndent, breaks, stop => do
    let rec spaces : Nat → ScanM Unit
      | 0 => pure ()
      | k + 1 => do
        if (indent == 0 || (← get).mark.column < indent) && (← peekAt 0) == ' ' then
          skip
          spaces k
    spaces ((← get).rest.length + 1)
    let col := (← get).mark.column
    let maxIndent := max maxIndent col
    if (indent == 0 || col < indent) && (← peekAt 0) == '\t' then
      fail (some ("while scanning a block scalar", start)) "found a tab character where an indentation space is expected"
    if !isBreak (← peekAt 0) then
      let indent :=
        if indent != 0 then indent
        else max 1 (max maxIndent (parentIndent + 1).toNat)
      return (indent, breaks, stop)
    let b ← readLine
    blockBreaks start indent parentIndent n maxIndent (breaks ++ b) (← get).mark

/-- The lines of a block scalar at its indentation. -/
def blockLines (literal : Bool) (start : Mark) (indent : Nat) (parentIndent : Int) :
    Nat → Gathered → Bool → ScanM (Gathered × Bool)
  | 0, g, lb => pure (g, lb)
  | n + 1, g, leadingBlank => do
    if (← get).mark.column != indent || isEnd (← peekAt 0) then return (g, leadingBlank)
    let trailingBlank := isBlank (← peekAt 0)
    let g :=
      if !literal && g.leadingBreak.startsWith "\n" && !leadingBlank && !trailingBlank then
        { g with text := g.text ++ (if g.trailingBreaks.isEmpty then " " else ""), leadingBreak := "" }
      else { g with text := g.text ++ g.leadingBreak, leadingBreak := "" }
    let g := { g with text := g.text ++ g.trailingBreaks, trailingBreaks := "" }
    let leadingBlank := isBlank (← peekAt 0)
    let line ← takeWhile (fun c => !isBreak c) (← fuel)
    let b ← readLine
    let (_, breaks, stop) ← blockBreaks start indent parentIndent (← fuel) 0 "" (← get).mark
    blockLines literal start indent parentIndent n
      { g with text := g.text ++ line, leadingBreak := b, trailingBreaks := breaks, stop } leadingBlank

/-- A `|` literal or `>` folded block scalar. -/
def fetchBlockScalar (literal : Bool) : ScanM Unit := do
  removeSimpleKey
  modify fun s => { s with simpleKeyAllowed := true }
  let start := (← get).mark
  skip
  let context := some ("while scanning a block scalar", start)
  let chompOf (c : Char) : Int := if c == '+' then 1 else -1
  let (chomping, increment) ← do
    let c ← peekAt 0
    if c == '+' || c == '-' then
      skip
      let d ← peekAt 0
      if isDigit d then
        if d == '0' then fail context "found an indentation indicator equal to 0"
        skip
        pure (chompOf c, d.toNat - '0'.toNat)
      else pure (chompOf c, 0)
    else if isDigit c then
      if c == '0' then fail context "found an indentation indicator equal to 0"
      skip
      let e ← peekAt 0
      if e == '+' || e == '-' then
        skip
        pure (chompOf e, c.toNat - '0'.toNat)
      else pure ((0 : Int), c.toNat - '0'.toNat)
    else pure ((0 : Int), 0)
  skipBlanks (← fuel)
  if (← peekAt 0) == '#' then skipToBreak (← fuel)
  if !isBreakEnd (← peekAt 0) then fail context "did not find expected comment or line break"
  if isBreak (← peekAt 0) then skipLine
  let parentIndent := (← get).indent
  let indent := if increment == 0 then 0
    else if parentIndent ≥ 0 then (parentIndent + increment).toNat else increment
  let (indent, breaks, stop) ← blockBreaks start indent parentIndent (← fuel) 0 "" (← get).mark
  let (g, _) ← blockLines literal start indent parentIndent (← fuel) { trailingBreaks := breaks, stop } false
  let text := g.text ++ (if chomping != -1 then g.leadingBreak else "") ++
    (if chomping == 1 then g.trailingBreaks else "")
  push ⟨.scalar text (if literal then .literal else .folded), start, g.stop⟩

/-! ## The next token -/

/-- Whether a character can start a plain scalar here. -/
def startsPlain (c c1 : Char) (flow : Bool) : Bool :=
  !(isBlankEnd c || "-?:,[]\x7b\x7d#&*!|>'\"%@`".contains c) ||
    (c == '-' && !isBlank c1) ||
    (!flow && (c == '?' || c == ':') && !isBlankEnd c1)

/-- Scan the next token (or several: closing block collections comes first). -/
def fetchNextToken : ScanM Unit := do
  toNextToken (← fuel)
  staleSimpleKeys
  unrollIndent (← get).mark.column
  let s ← get
  let c ← peekAt 0
  let c1 ← peekAt 1
  let flow := s.flowLevel > 0
  let col := s.mark.column
  if isEnd c then fetchStreamEnd
  else if col == 0 && c == '%' then fetchDirective
  else if col == 0 && c == '-' && c1 == '-' && (← peekAt 2) == '-' && isBlankEnd (← peekAt 3) then
    fetchDocumentIndicator .documentStart
  else if col == 0 && c == '.' && c1 == '.' && (← peekAt 2) == '.' && isBlankEnd (← peekAt 3) then
    fetchDocumentIndicator .documentEnd
  else if c == '[' then fetchFlowCollectionStart .flowSequenceStart
  else if c == '{' then fetchFlowCollectionStart .flowMappingStart
  else if c == ']' then fetchFlowCollectionEnd .flowSequenceEnd
  else if c == '}' then fetchFlowCollectionEnd .flowMappingEnd
  else if c == ',' then fetchFlowEntry
  else if c == '-' && isBlankEnd c1 then fetchBlockEntry
  else if c == '?' && (flow || isBlankEnd c1) then fetchKey
  else if c == ':' && (flow || isBlankEnd c1) then fetchValue
  else if c == '*' then fetchAnchor false
  else if c == '&' then fetchAnchor true
  else if c == '!' then fetchTag
  else if c == '|' && !flow then fetchBlockScalar true
  else if c == '>' && !flow then fetchBlockScalar false
  else if c == '\'' then fetchQuotedScalar true
  else if c == '"' then fetchQuotedScalar false
  else if startsPlain c c1 flow then fetchPlainScalar
  else fail (some ("while scanning for the next token", s.mark)) "found character that cannot start any token"

/-- Scan tokens up to the end of the text. -/
def fetchAll : Nat → ScanM Unit
  | 0 => pure ()
  | n + 1 => do
    if (← get).ended then return
    fetchNextToken
    fetchAll n

end Scan

/-- The tokens of a text, and the fault that stopped scanning, if one did. -/
structure Scanned where
  tokens : Array Token
  /-- How many tokens a reader may use. -/
  ready : Nat
  fault : Option Problem
deriving Repr

/-- The first character that may not appear in a YAML text, with its byte offset. -/
def firstUnprintable (cs : List Char) : Option (Char × Nat) :=
  let rec go : List Char → Nat → Option (Char × Nat)
    | [], _ => none
    | c :: rest, off => if isPrintable c then go rest (off + c.utf8Size) else some (c, off)
  go cs 0

/-- Scan a whole text. -/
def scan (text : String) : Scanned :=
  let cs := text.toList
  match firstUnprintable cs with
  | some (_, off) => ⟨#[], 0, some { problem := "control characters are not allowed", offset := off }⟩
  | none =>
    let body := match cs with
      | '\uFEFF' :: rest => rest
      | _ => cs
    let start : Scanner := { rest := body, tokens := #[⟨.streamStart, {}, {}⟩] }
    let (r, s) := (Scan.fetchAll (body.length + 2)).run.run start
    match r with
    | .ok () => ⟨s.tokens, s.tokens.size, none⟩
    | .error p =>
      let held := (s.simpleKeys.filter SimpleKey.possible).map SimpleKey.tokenNumber
      let ready := held.foldl min s.tokens.size
      ⟨s.tokens, ready, some p⟩

end Workflow.Yaml
