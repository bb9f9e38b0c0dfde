/-! # Writing TOML

`render` writes a document: the values of the root table, then every table depth first in
the order given, each under a `[dotted.key]` header.  A table that holds only other tables
gets no header of its own; an empty table does, so that it is not lost.  Tables are
separated by a blank line.

Keys are written bare when they are made of `A-Za-z0-9_-`, else quoted.  A string is written
in the first of these ways that needs no escapes: a basic string (`"…"`), a literal string
(`'…'`), a multi-line basic string, a multi-line literal string; failing all of them, as a
basic string with escapes.  A multi-line string that has line feeds starts on a new line.  Arrays of two or more items put one item on each line, indented by four spaces, with
a trailing comma.
-/

namespace Workflow.Toml

/-- A value to write. -/
inductive Out where
  | str (s : String)
  | int (i : Int)
  | bool (b : Bool)
  | array (items : List Out)
  | table (entries : List (String × Out))
deriving Repr, Inhabited

/-- How a string is written: between one or three quotes of either kind.  Basic strings
(double quotes) have escapes; literal strings (single quotes) are written as they are. -/
inductive StringStyle where
  | basic
  | literal
  | multiBasic
  | multiLiteral
deriving DecidableEq, Repr

/-- Whether a character may stand in a bare key. -/
def isBareKeyChar (c : Char) : Bool :=
  ('A' ≤ c && c ≤ 'Z') || ('a' ≤ c && c ≤ 'z') || ('0' ≤ c && c ≤ '9') || c == '-' || c == '_'

/-- Four uppercase hexadecimal digits of a code. -/
def hex4 (n : Nat) : String :=
  let ds := (Nat.toDigits 16 n).map Char.toUpper
  String.ofList (List.replicate (4 - ds.length) '0' ++ ds)

/-- What decides how a string can be written. -/
structure StringTraits where
  /-- The longest run of single quotes. -/
  singles : Nat := 0
  /-- The longest run of double quotes. -/
  doubles : Nat := 0
  /-- Whether it has control characters other than tab and line feed. -/
  controls : Bool := false
  /-- Whether it has a backslash. -/
  backslash : Bool := false
  /-- Whether it has a line feed. -/
  newline : Bool := false
deriving Repr

/-- Whether a character must be written as an escape in any string. -/
def isControl (c : Char) : Bool := (c.toNat ≤ 0x1F && c != '\t' && c != '\n') || c.toNat == 0x7F

/-- The traits of a string. -/
def traitsOf (s : String) : StringTraits :=
  let step := fun (acc : StringTraits × Nat × Nat) (c : Char) =>
    let (t, runS, runD) := acc
    let runS := if c == '\'' then runS + 1 else 0
    let runD := if c == '"' then runD + 1 else 0
    ({ singles := max t.singles runS, doubles := max t.doubles runD,
       controls := t.controls || isControl c, backslash := t.backslash || c == '\\',
       newline := t.newline || c == '\n' }, runS, runD)
  (s.toList.foldl step ({}, 0, 0)).1

/-- The way a string is written: a basic string when it needs no escapes, else a literal
string, else a multi-line basic string without escapes, else a multi-line literal string,
else a basic string with escapes (multi-line when it has line feeds). -/
def styleOf (s : String) : StringStyle :=
  let t := traitsOf s
  if !t.controls && !t.backslash && t.doubles == 0 && !t.newline then .basic
  else if !t.controls && t.singles == 0 && !t.newline then .literal
  else if !t.controls && !t.backslash && t.doubles ≤ 2 then .multiBasic
  else if !t.controls && t.singles ≤ 2 then .multiLiteral
  else if t.newline then .multiBasic
  else .basic

/-- The escape of a character in a basic string, if it needs one. -/
def basicEscape (multi : Bool) (c : Char) : Option String :=
  match c with
  | '\x08' => some "\\b"
  | '\t' => some "\\t"
  | '\n' => if multi then none else some "\\n"
  | '\x0c' => some "\\f"
  | '\r' => some "\\r"
  | '\\' => some "\\\\"
  | c => if isControl c then some ("\\u" ++ hex4 c.toNat) else none

/-- The body of a basic string: escapes where needed, and a double quote escaped where it
would make a run longer than the string allows (none on one line, two over several). -/
def basicBody (multi : Bool) (s : String) : String :=
  let allowed := if multi then 2 else 0
  let step := fun (acc : String × Nat) (c : Char) =>
    let (out, run) := acc
    if c == '"' then
      if run + 1 > allowed then (out ++ "\\\"", 0) else (out ++ "\"", run + 1)
    else
      match basicEscape multi c with
      | some e => (out ++ e, 0)
      | none => (out.push c, 0)
  (s.toList.foldl step ("", 0)).1

/-- A string written in a style. -/
def stringIn (style : StringStyle) (s : String) : String :=
  let lead := if s.contains '\n' then "\n" else ""
  match style with
  | .basic => "\"" ++ basicBody false s ++ "\""
  | .literal => "'" ++ s ++ "'"
  | .multiBasic => "\"\"\"" ++ lead ++ basicBody true s ++ "\"\"\""
  | .multiLiteral => "'''" ++ lead ++ s ++ "'''"

/-- A string value as written. -/
def stringText (s : String) : String := stringIn (styleOf s) s

/-- A key as written: bare when it can be, else a basic string without escapes, else a
literal string, else a basic string with escapes. -/
def keyText (k : String) : String :=
  if !k.isEmpty && k.toList.all isBareKeyChar then k
  else
    let t := traitsOf k
    if !t.controls && !t.backslash && t.doubles == 0 && !t.newline then stringIn .basic k
    else if !t.controls && t.singles == 0 && !t.newline then stringIn .literal k
    else stringIn .basic k

/-- An array from its items as written: short arrays on one line, longer ones with each
item on a line of its own. -/
def arrayText (items : List String) : String :=
  if items.length ≤ 1 then "[" ++ String.join items ++ "]"
  else "[" ++ String.join (items.map fun t => "\n    " ++ t ++ ",") ++ "\n]"

mutual

/-- A value as written on its line. -/
def valueText : Out → String
  | .str s => stringText s
  | .int i => toString i
  | .bool b => if b then "true" else "false"
  | .array items => arrayText (itemTexts items)
  | .table entries =>
    if entries.isEmpty then "\x7b\x7d" else "\x7b " ++ ", ".intercalate (pairTexts entries) ++ " \x7d"

/-- The items of an array as written. -/
def itemTexts : List Out → List String
  | [] => []
  | x :: xs => valueText x :: itemTexts xs

/-- The `key = value` pairs of an inline table. -/
def pairTexts : List (String × Out) → List String
  | [] => []
  | (k, v) :: rest => (keyText k ++ " = " ++ valueText v) :: pairTexts rest

end

/-- Whether a value is written as a table of its own. -/
def Out.isTable : Out → Bool
  | .table _ => true
  | _ => false

mutual

/-- The tables under a path, depth first: the table itself, then those inside it. -/
def tablesOf (path : List String) (entries : List (String × Out)) : List (List String × List (String × Out)) :=
  (path, entries) :: nestedTables path entries

/-- The tables inside a table's entries, depth first. -/
def nestedTables (path : List String) : List (String × Out) → List (List String × List (String × Out))
  | [] => []
  | (k, .table es) :: rest => tablesOf (path ++ [k]) es ++ nestedTables path rest
  | _ :: rest => nestedTables path rest

end

/-- The `key = value` lines of a table's values. -/
def valueLines (entries : List (String × Out)) : String :=
  String.join ((entries.filter (fun p => !p.2.isTable)).map fun (k, v) =>
    keyText k ++ " = " ++ valueText v ++ "\n")

/-- A document from its root table. -/
def render (root : List (String × Out)) : String :=
  let step (acc : String × Bool) (t : List String × List (String × Out)) : String × Bool :=
    let (out, first) := acc
    let (path, entries) := t
    let values := entries.filter (fun p => !p.2.isTable)
    if path.isEmpty then (out ++ valueLines entries, first && values.isEmpty)
    else if entries.isEmpty || !values.isEmpty then
      let header := (if first then "" else "\n") ++ "[" ++ ".".intercalate (path.map keyText) ++ "]\n"
      (out ++ header ++ valueLines entries, false)
    else (out, first)
  ((tablesOf [] root).foldl step ("", true)).1

end Workflow.Toml
