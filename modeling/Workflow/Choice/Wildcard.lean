/-! # Wildcard patterns

A pattern is read left to right into tokens: `\` followed by any character is that
character taken literally (a `\` at the very end is a literal `\`), `*` is a wildcard, and
every other character stands for itself.  A wildcard matches any run of characters, the
empty run included; a literal matches one equal character.

`Glob.search` is the matcher that runs: it walks the text once, remembers only the last
wildcard it passed, and on a mismatch lets that wildcard swallow one more character and
retries from there.  Its number of steps is bounded by `(n + 1) · (n + m + 2)` for a text of
`n` characters and `m` tokens, which is the fuel it is given.
-/

namespace Workflow.Glob

/-- A piece of a pattern. -/
inductive Token where
  | literal (c : Char)
  | wildcard
deriving DecidableEq, Repr

/-- The tokens of a pattern. -/
def tokenize : List Char → List Token
  | [] => []
  | '\\' :: c :: rest => .literal c :: tokenize rest
  | ['\\'] => [.literal '\\']
  | '*' :: rest => .wildcard :: tokenize rest
  | c :: rest => .literal c :: tokenize rest

/-- Whether a token is a wildcard. -/
def Token.isWildcard : Token → Bool
  | .wildcard => true
  | .literal _ => false

/-- The single-pass matcher: `ts` and `cs` are what is left of the tokens and the text,
`back` the tokens after the last wildcard passed and the text where it was last resumed. -/
def search : Nat → List Token → List Char → Option (List Token × List Char) → Bool
  | 0, _, _, _ => false
  | _ + 1, ts, [], _ => ts.all Token.isWildcard
  | fuel + 1, .wildcard :: ts, c :: cs, _ => search fuel ts (c :: cs) (some (ts, c :: cs))
  | fuel + 1, .literal l :: ts, c :: cs, back =>
    if l == c then search fuel ts cs back
    else
      match back with
      | some (bt, _ :: bcs) => search fuel bt bcs (some (bt, bcs))
      | _ => false
  | fuel + 1, [], _ :: _, back =>
    match back with
    | some (bt, _ :: bcs) => search fuel bt bcs (some (bt, bcs))
    | _ => false

/-- Whether a text matches a wildcard pattern. -/
def wildcardMatch (pattern text : String) : Bool :=
  let ts := tokenize pattern.toList
  let cs := text.toList
  search ((cs.length + 1) * (cs.length + ts.length + 2)) ts cs none

end Workflow.Glob
