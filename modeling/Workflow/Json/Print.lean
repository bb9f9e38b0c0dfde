import Workflow.Json.Value
import Workflow.Decimal.Text
/-! # Writing JSON text

`Value.render` writes the compact form (no blanks) and `Value.renderPretty` the indented
form (two spaces a level, `"key": value`, empty containers as `[]` and `{}`).

* Strings escape only `"`, `\` and the control characters below U+0020: the usual short
  escapes where there is one, `\u00xx` with lowercase hex digits otherwise.  Every other
  character, non-ASCII ones included, is written as it is.
* Integers are written in decimal; doubles by their shortest digits in `Layout.json`.
  A double that is not finite has no JSON text and is written `null`.
-/

namespace Workflow.Json

/-- Lowercase hexadecimal digit. -/
def hexDigit (n : Nat) : Char :=
  if n < 10 then Char.ofNat (48 + n) else Char.ofNat (87 + n)

/-- The escaped form of one character inside a string literal. -/
def escapeChar (c : Char) : List Char :=
  if c == '"' then ['\\', '"']
  else if c == '\\' then ['\\', '\\']
  else if c == '\n' then ['\\', 'n']
  else if c == '\r' then ['\\', 'r']
  else if c == '\t' then ['\\', 't']
  else if c.toNat == 8 then ['\\', 'b']
  else if c.toNat == 12 then ['\\', 'f']
  else if c.toNat < 0x20 then ['\\', 'u', '0', '0', hexDigit (c.toNat / 16), hexDigit (c.toNat % 16)]
  else [c]

/-- A string literal: the text between double quotes, escaped. -/
def quote (s : String) : String :=
  String.ofList ('"' :: (s.toList.flatMap escapeChar ++ ['"']))

/-- The text of a number. -/
def Number.render : Number → String
  | .int i => toString i
  | .float b => if Decimal.Binary.isSpecial b then "null" else Decimal.Layout.json.renderBits b

namespace Value

mutual
/-- The compact text of a value. -/
def render : Value → String
  | .null => "null"
  | .bool true => "true"
  | .bool false => "false"
  | .num n => n.render
  | .str s => quote s
  | .arr xs => "[" ++ renderItems xs ++ "]"
  | .obj fs => "\x7b" ++ renderFields fs ++ "\x7d"

/-- Items separated by commas. -/
def renderItems : List Value → String
  | [] => ""
  | [x] => render x
  | x :: xs => render x ++ "," ++ renderItems xs

/-- Fields separated by commas. -/
def renderFields : List (String × Value) → String
  | [] => ""
  | [(k, v)] => quote k ++ ":" ++ render v
  | (k, v) :: fs => quote k ++ ":" ++ render v ++ "," ++ renderFields fs
end

/-- Two spaces per level. -/
def indentText (level : Nat) : String := String.ofList (List.replicate (2 * level) ' ')

mutual
/-- The indented text of a value at nesting `level`. -/
def renderAt (level : Nat) : Value → String
  | .arr [] => "[]"
  | .obj [] => "\x7b\x7d"
  | .arr xs => "[\n" ++ renderItemsAt (level + 1) xs ++ "\n" ++ indentText level ++ "]"
  | .obj fs => "\x7b\n" ++ renderFieldsAt (level + 1) fs ++ "\n" ++ indentText level ++ "\x7d"
  | v => render v

/-- Items one per line at `level`. -/
def renderItemsAt (level : Nat) : List Value → String
  | [] => ""
  | [x] => indentText level ++ renderAt level x
  | x :: xs => indentText level ++ renderAt level x ++ ",\n" ++ renderItemsAt level xs

/-- Fields one per line at `level`. -/
def renderFieldsAt (level : Nat) : List (String × Value) → String
  | [] => ""
  | [(k, v)] => indentText level ++ quote k ++ ": " ++ renderAt level v
  | (k, v) :: fs =>
    indentText level ++ quote k ++ ": " ++ renderAt level v ++ ",\n" ++ renderFieldsAt level fs
end

/-- The indented text of a value. -/
def renderPretty (v : Value) : String := renderAt 0 v

end Value

end Workflow.Json
