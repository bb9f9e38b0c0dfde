/-! # YAML tokens: places, tokens and faults of form

A YAML text is read in three steps: the scanner cuts it into `Token`s, the parser groups
them into events (`Yaml/Event.lean`), and the decoder reads typed data from the events.
This module holds what the steps share: places in the text (`Mark`, counted from zero),
the tokens, and the syntax faults (`Problem`), worded as YAML tools word them.

A problem is written as its text, the place (`at line L column C`, both from one, left out
at the very start of the text, where the byte offset is given instead when there is one),
then what was being read (`, while scanning …`) and where that began when it is elsewhere.
-/

namespace Workflow.Yaml

/-- A place in the text: characters before it, and its line and column from zero. -/
structure Mark where
  index : Nat := 0
  line : Nat := 0
  column : Nat := 0
deriving DecidableEq, Repr, Inhabited

/-- Whether a place is the very start of the text, which faults do not name. -/
def Mark.isStart (m : Mark) : Bool := m.line == 0 && m.column == 0

/-- A place as faults write it. -/
def Mark.display (m : Mark) : String :=
  "line " ++ toString (m.line + 1) ++ " column " ++ toString (m.column + 1)

/-- How a scalar was written. -/
inductive ScalarStyle where
  | plain
  | singleQuoted
  | doubleQuoted
  | literal
  | folded
deriving DecidableEq, Repr, Inhabited

/-- The kinds of token. -/
inductive TokenKind where
  | streamStart
  | streamEnd
  | versionDirective
  | tagDirective (handle pre : String)
  | documentStart
  | documentEnd
  | blockSequenceStart
  | blockMappingStart
  | blockEnd
  | flowSequenceStart
  | flowSequenceEnd
  | flowMappingStart
  | flowMappingEnd
  | blockEntry
  | flowEntry
  | key
  | value
  | alias (name : String)
  | anchor (name : String)
  | tag (handle suffix : String)
  | scalar (text : String) (style : ScalarStyle)
deriving DecidableEq, Repr, Inhabited

/-- A token and the places where it starts and ends. -/
structure Token where
  kind : TokenKind
  start : Mark
  stop : Mark
deriving DecidableEq, Repr, Inhabited

/-- A syntax fault: what is wrong and where, and what was being read and where it began. -/
structure Problem where
  problem : String
  mark : Mark := {}
  offset : Nat := 0
  context : Option (String × Mark) := none
deriving DecidableEq, Repr, Inhabited

/-- The words for a syntax fault. -/
def Problem.message (p : Problem) : String :=
  let place :=
    if !p.mark.isStart then " at " ++ p.mark.display
    else if p.offset != 0 then " at position " ++ toString p.offset
    else ""
  let context := match p.context with
    | some (c, m) =>
      ", " ++ c ++
        (if !m.isStart && (m.line != p.mark.line || m.column != p.mark.column) then " at " ++ m.display
         else "")
    | none => ""
  p.problem ++ place ++ context

/-- A line break. -/
def isBreak (c : Char) : Bool :=
  c == '\r' || c == '\n' || c == '\x85' || c == '\u2028' || c == '\u2029'

/-- A space or a tab. -/
def isBlank (c : Char) : Bool := c == ' ' || c == '\t'

/-- The end of the text, read as the character zero. -/
def isEnd (c : Char) : Bool := c == '\x00'

/-- A blank, a line break or the end. -/
def isBlankEnd (c : Char) : Bool := isBlank c || isBreak c || isEnd c

/-- A line break or the end. -/
def isBreakEnd (c : Char) : Bool := isBreak c || isEnd c

/-- A letter, digit, `_` or `-`: the characters of anchors and tag handles. -/
def isWordChar (c : Char) : Bool :=
  ('0' ≤ c && c ≤ '9') || ('A' ≤ c && c ≤ 'Z') || ('a' ≤ c && c ≤ 'z') || c == '_' || c == '-'

/-- A decimal digit. -/
def isDigit (c : Char) : Bool := '0' ≤ c && c ≤ '9'

/-- The value of a hexadecimal digit. -/
def hexValue (c : Char) : Option Nat :=
  if '0' ≤ c && c ≤ '9' then some (c.toNat - '0'.toNat)
  else if 'a' ≤ c && c ≤ 'f' then some (c.toNat - 'a'.toNat + 10)
  else if 'A' ≤ c && c ≤ 'F' then some (c.toNat - 'A'.toNat + 10)
  else none

/-- Whether a character may appear in a YAML text. -/
def isPrintable (c : Char) : Bool :=
  let n := c.toNat
  n == 0x09 || n == 0x0A || n == 0x0D || (0x20 ≤ n && n ≤ 0x7E) || n == 0x85 ||
    (0xA0 ≤ n && n ≤ 0xD7FF) || (0xE000 ≤ n && n ≤ 0xFFFD) ||
    (0x10000 ≤ n && n ≤ 0x10FFFF)

end Workflow.Yaml
