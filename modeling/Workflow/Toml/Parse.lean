import Workflow.Toml.Grammar
/-! # Reading a TOML document

`parse` reads a whole document into its root table.  An error points at a byte range of
the text (or at nothing, when the document as a whole cannot be assembled) and carries a
message; it may also name the keys leading to the item it is about.  `TomlError.render`
writes an error the way the format's tools do: the place as line and column, the line of
text with a caret under the place, then the message.

Columns count characters from one; when the place is the end of the text it is put just
after the last character, on that character's line.
-/

namespace Workflow.Toml

open Reader

/-- A fault of a TOML document: a message, the byte range it is about, and the keys from the
root to it. -/
structure TomlError where
  message : String
  span : Option Span := none
  keys : List String := []
deriving DecidableEq, Repr, Inhabited

/-- One `key = value` line, added to the table being filled. -/
def keyValueLine (st : Builder) : Reader Builder := fun s =>
  let line : Reader (List Key × Key × Item) := do
    let keys ← dottedKey
    commit do
      expect (.char '=') (expect (.char '.') (byte (asciiByte '=')))
      blanks
      let v ← value (nestingLimit - 1)
      expect (.char '#') (expect (.char '\n') lineRest)
      return (keys.dropLast, keys.getLast?.getD default, v)
  match line s with
  | .error e => .error e
  | .ok ((path, k, v), s') =>
    match st.addValue path k v with
    | .ok st' => .ok (st', s')
    | .error c => .error ⟨false, s.offset, [], some c.message⟩

/-- A `[table]` or `[[array of tables]]` header line, opening its table. -/
def headerLine (st : Builder) : Reader Builder := label "table header" fun s =>
  if s.rest.length < 2 then .error ⟨false, s.offset, [], none⟩
  else
    let isArray := s.rest.take 2 == [0x5B, 0x5B]
    let opening := if isArray then [0x5B, 0x5B] else [0x5B]
    let closing := if isArray then "]]" else "]"
    let header : Reader (List Key × Nat × Nat) := do
      let (keys, a, b) ← spanned do
        literal opening
        let keys ← commit dottedKey
        expect (.text closing) (expect (.char '.') (commit (literal (asciiBytes closing))))
        return keys
      expect (.char '#') (expect (.char '\n') (commit lineRest))
      return (keys, a, b)
    match header s with
    | .error e => .error e
    | .ok ((keys, a, b), s') =>
      let opened := if isArray then st.openArrayTable keys ⟨a, b⟩ else st.openTable keys ⟨a, b⟩
      match opened with
      | .ok st' => .ok (st', s')
      | .error c => .error ⟨false, s.offset, [], some c.message⟩

/-- The lines of a document from here on, at most `fuel` of them. -/
def lines : Nat → Builder → Reader Builder
  | 0, st => pure st
  | fuel + 1, st => fun s =>
    let item : Reader Builder := do
      match ← peekByte with
      | some 0x23 => commit (do comment; lineEnd); return st
      | some 0x5B => commit (headerLine st)
      | some 0x0A | some 0x0D => newline; return st
      | some _ => commit (keyValueLine st)
      | none => failHere
    match item s with
    | .error f => if f.final then .error f else .ok (st, s)
    | .ok (st', s') =>
      match blanks s' with
      | .ok ((), s'') => lines fuel st' s''
      | .error f => .error f

/-- A whole document, as the builder that read it. -/
def documentReader : Reader Builder := do
  let _ ← optional (literal [0xEF, 0xBB, 0xBF])
  blanks
  let st ← fun s => lines (s.rest.length + 1) {} s
  atEnd
  return st

/-- The offset a failure points at, as a range: one byte, or nothing at the end. -/
def failureSpan (total : Nat) (f : Failure) : Span :=
  if f.offset == total then ⟨f.offset, f.offset⟩ else ⟨f.offset, f.offset + 1⟩

/-- Read a document into its root table. -/
def parse (text : String) : Except TomlError Item :=
  let bytes := text.toUTF8.toList
  match documentReader ⟨bytes, 0⟩ with
  | .error f => .error ⟨f.message, some (failureSpan bytes.length f), []⟩
  | .ok (st, _) =>
    match st.finish with
    | .ok st => .ok (.table st.root.entries false false none)
    | .error c => .error ⟨c.message, none, []⟩

/-- The line and column (both from zero) of a byte offset: the column counts characters,
or bytes when the line up to the offset is not whole characters; an offset at the end is
one past the last byte. -/
def position (bytes : List UInt8) (index : Nat) : Nat × Nat :=
  if bytes.isEmpty then (0, index)
  else
    let safe := min index (bytes.length - 1)
    let extra := index - safe
    let before := bytes.take safe
    let lineStart := match (before.reverse.findIdx? (· == 0x0A)) with
      | some k => safe - k
      | none => 0
    let line := (bytes.take lineStart).count 0x0A
    let piece := (bytes.drop lineStart).take (safe + 1 - lineStart)
    let column := match String.fromUTF8? ⟨piece.toArray⟩ with
      | some t => t.length - 1
      | none => safe - lineStart
    (line, column + extra)

/-- Spaces. -/
def spaces (n : Nat) : String := String.ofList (List.replicate n ' ')

/-- An error as the format's tools write it, given the text it is about. -/
def TomlError.render (e : TomlError) (text : String) : String :=
  match e.span with
  | some sp =>
    let bytes := text.toUTF8.toList
    let (line, column) := position bytes sp.start
    let lineNum := line + 1
    let gutter := (toString lineNum).length
    let content := ((text.splitOn "\n")[line]?).getD ""
    let width := min (sp.stop - sp.start) (content.utf8ByteSize - column)
    "TOML parse error at line " ++ toString lineNum ++ ", column " ++ toString (column + 1) ++ "\n" ++
      spaces (gutter + 1) ++ "|\n" ++
      toString lineNum ++ " | " ++ content ++ "\n" ++
      spaces (gutter + 1) ++ "|" ++ spaces (column + 1) ++ "^" ++
      String.ofList (List.replicate (width - 1) '^') ++ "\n" ++
      e.message ++ "\n"
  | none =>
    e.message ++ "\n" ++ (if e.keys.isEmpty then "" else "in `" ++ ".".intercalate e.keys ++ "`\n")

end Workflow.Toml
