import Workflow.Json.Value
import Workflow.Decimal.Text
/-! # Faults of decoding

Decoding reads typed data (a state, a retry rule, a config section) out of a document.  Its
faults of meaning are `Fault`s: a value of the wrong kind, a value out of range, a sequence
of the wrong length, a field missing or given twice.  A fault describes the offending value
by its kind (`Unexpected`), and the words for some kinds differ between document formats;
a `Dialect` holds those choices:

* in JSON documents `null` is called `null` and doubles are written as JSON writes them;
* in TOML and YAML documents `null` is a `unit value` and doubles are written positionally.

Strings inside messages are quoted with escapes for quotes, backslashes and characters that
do not print (`\n`, `\t`, `\r`, `\0`, else `\u{hex}`).
-/

namespace Workflow.Decode

open Json

/-- What a decoder found instead of what it wanted. -/
inductive Unexpected where
  | unit
  | bool (b : Bool)
  | unsigned (n : Nat)
  | signed (i : Int)
  | float (bits : UInt64)
  | str (s : String)
  | seq
  | map
  | other (text : String)
deriving DecidableEq, Repr

/-- A fault of meaning met while decoding. -/
inductive Fault where
  | invalidType (found : Unexpected) (expected : String)
  | invalidValue (found : Unexpected) (expected : String)
  | invalidLength (n : Nat) (expected : String)
  | missingField (name : String)
  | duplicateField (name : String)
  | custom (message : String)
deriving DecidableEq, Repr

/-- The words a document format uses for some kinds of value. -/
structure Dialect where
  unitText : String
  floatLayout : Decimal.Layout

/-- JSON documents: `null`, doubles as JSON writes them. -/
def Dialect.json : Dialect := ⟨"null", Decimal.Layout.json⟩

/-- TOML and YAML documents: `unit value`, doubles positional. -/
def Dialect.plain : Dialect := ⟨"unit value", Decimal.Layout.plain⟩

/-- Whether a character is written as an escape when a string is quoted in a message. -/
def hiddenChar (c : Char) : Bool :=
  let n := c.toNat
  n < 0x20 || (0x7F ≤ n && n < 0xA0) || n == 0xAD || (0x200B ≤ n && n ≤ 0x200F) ||
    (0x2028 ≤ n && n ≤ 0x202E) || (0x2060 ≤ n && n ≤ 0x2064) || n == 0xFEFF

/-- Hexadecimal digits of a number, lowercase, without leading zeros. -/
def hexText (n : Nat) : String := String.ofList (Nat.toDigits 16 n)

/-- One character as it appears inside a quoted string in a message. -/
def debugChar (c : Char) : String :=
  if c == '"' then "\\\""
  else if c == '\\' then "\\\\"
  else if c == '\n' then "\\n"
  else if c == '\r' then "\\r"
  else if c == '\t' then "\\t"
  else if c.toNat == 0 then "\\0"
  else if hiddenChar c then "\\u\x7b" ++ hexText c.toNat ++ "\x7d"
  else String.singleton c

/-- A string quoted for a message. -/
def debugQuote (s : String) : String :=
  "\"" ++ String.join (s.toList.map debugChar) ++ "\""

/-- The words for an unexpected value. -/
def Unexpected.describe (d : Dialect) : Unexpected → String
  | .unit => d.unitText
  | .bool b => "boolean `" ++ (if b then "true" else "false") ++ "`"
  | .unsigned n => "integer `" ++ toString n ++ "`"
  | .signed i => "integer `" ++ toString i ++ "`"
  | .float b => "floating point `" ++ d.floatLayout.renderBits b ++ "`"
  | .str s => "string " ++ debugQuote s
  | .seq => "sequence"
  | .map => "map"
  | .other t => t

/-- The words for a fault. -/
def Fault.message (d : Dialect) : Fault → String
  | .invalidType u e => "invalid type: " ++ u.describe d ++ ", expected " ++ e
  | .invalidValue u e => "invalid value: " ++ u.describe d ++ ", expected " ++ e
  | .invalidLength n e => "invalid length " ++ toString n ++ ", expected " ++ e
  | .missingField f => "missing field `" ++ f ++ "`"
  | .duplicateField f => "duplicate field `" ++ f ++ "`"
  | .custom m => m

/-- How a number is described in a fault. -/
def Unexpected.ofNumber : Number → Unexpected
  | .int i => if i ≥ 0 then .unsigned i.toNat else .signed i
  | .float b => .float b

/-- How a value is described in a fault. -/
def Unexpected.ofValue : Value → Unexpected
  | .null => .unit
  | .bool b => .bool b
  | .num n => .ofNumber n
  | .str s => .str s
  | .arr _ => .seq
  | .obj _ => .map

end Workflow.Decode
