import Workflow.Exec.Basic
/-! # Shell scripts

The command language of the system shell, as far as handler scripts use it: simple commands
with assignments and redirections, pipelines (`|`, with `!` to negate), chains of pipelines
joined by `&&` and `||`, and lists of chains separated by `;`, `&` and newlines.

A word is made of pieces: literal text (quoted or not), parameters (`$name`, `${name}`,
`$?`, `$$`, `${#name}`, `${name:-word}` and the other alternatives), and command output
(`$(…)` and back quotes).  Single quotes keep everything; inside double quotes a backslash
escapes only `$`, a back quote, `"`, a backslash and a newline.

A script is read line by line: each line becomes an `Entry`, and the first line that does
not read is a fault entry that ends the script there, so that the lines before it still run.
The fault texts are those of the shell (`Syntax error: ";" unexpected`,
`Syntax error: Unterminated quoted string`).
-/

namespace Workflow.Shell

/-- A part of a word, before expansion. -/
inductive Piece where
  /-- Text as written; quoted text is never split into fields. -/
  | text (s : String) (quoted : Bool)
  /-- The value of a parameter. -/
  | param (name : String) (quoted : Bool)
  /-- The length of a parameter's value. -/
  | length (name : String) (quoted : Bool)
  /-- A parameter with an alternative word: `-` gives the word when the parameter is unset,
  `+` when it is set, `=` also assigns it; with `colon` an empty value counts as unset. -/
  | alter (name : String) (op : Char) (colon : Bool) (word : List Piece) (quoted : Bool)
  /-- What a command writes, its trailing newlines removed. -/
  | output (script : String) (quoted : Bool)
deriving Repr, Inhabited

/-- A redirection of a file descriptor. -/
inductive Redirect where
  /-- Write to a file, truncating it or appending to it. -/
  | write (fd : Nat) (target : List Piece) (append : Bool)
  /-- Read from a file. -/
  | read (fd : Nat) (target : List Piece)
  /-- Make a descriptor a copy of another one (`2>&1`, `>&2`). -/
  | copy (fd : Nat) (source : List Piece)
deriving Repr, Inhabited

/-- A simple command: assignments, words and redirections, on the line it starts on. -/
structure Command where
  assignments : List (String × List Piece) := []
  words : List (List Piece) := []
  redirects : List Redirect := []
  line : Nat := 1
deriving Repr, Inhabited

/-- Commands joined by pipes, the status negated when it starts with `!`. -/
structure Pipeline where
  negated : Bool := false
  commands : List Command := []
deriving Repr, Inhabited

/-- How a pipeline joins the chain: after `&&` it runs when the chain so far succeeded,
after `||` when it failed. -/
inductive Joint where
  | both
  | either
deriving DecidableEq, Repr, Inhabited

/-- Pipelines joined by `&&` and `||`. -/
structure Chain where
  first : Pipeline
  rest : List (Joint × Pipeline) := []
deriving Repr, Inhabited

/-- One line of a script: the chains to run, or the fault that ends the script. -/
inductive Entry where
  | chains (cs : List Chain)
  | fault (line : Nat) (message : String)
deriving Repr, Inhabited

/-! ## Reading words -/

/-- Characters that end an unquoted word. -/
def isMeta (c : Char) : Bool :=
  c == ' ' || c == '\t' || c == '\n' || c == ';' || c == '&' || c == '|' || c == '<' ||
    c == '>' || c == '(' || c == ')'

/-- Characters that can start a variable name. -/
def isNameStart (c : Char) : Bool := c.isAlpha || c == '_'

/-- Characters of a variable name. -/
def isNameChar (c : Char) : Bool := c.isAlphanum || c == '_'

/-- Whether a text is a variable name. -/
def isName (s : String) : Bool :=
  match s.toList with
  | c :: cs => isNameStart c && cs.all isNameChar
  | [] => false

/-- The one-character special parameters. -/
def isSpecialParam (c : Char) : Bool :=
  c == '$' || c == '?' || c == '#' || c == '@' || c == '*' || c == '!' || c == '-' || c.isDigit

/-- The number of newlines in some characters. -/
def newlines (cs : List Char) : Nat := cs.count '\n'

/-- Text collected so far, added as a piece when there is any. -/
def flush (pieces : List Piece) (buf : List Char) (quoted : Bool) : List Piece :=
  if buf.isEmpty then pieces else .text (String.ofList buf.reverse) quoted :: pieces

/-- The characters up to the parenthesis that closes an opened one, skipping quoted text,
and the rest after it. -/
def closeParen : Nat → Nat → List Char → List Char → Option (List Char × List Char)
  | 0, _, _, _ => none
  | _, _, [], _ => none
  | fuel + 1, depth, c :: cs, acc =>
    if c == ')' then
      if depth == 0 then some (acc.reverse, cs) else closeParen fuel (depth - 1) cs (c :: acc)
    else if c == '(' then closeParen fuel (depth + 1) cs (c :: acc)
    else if c == '\'' then
      match cs.span (· != '\'') with
      | (body, '\'' :: rest) => closeParen fuel depth rest ('\'' :: body.reverse ++ c :: acc)
      | _ => none
    else if c == '\\' then
      match cs with
      | d :: rest => closeParen fuel depth rest (d :: c :: acc)
      | [] => none
    else closeParen fuel depth cs (c :: acc)

/-- The characters up to the closing back quote, with the backslash escapes of back quotes
undone, and the rest after it. -/
def closeBackquote : Nat → List Char → List Char → Option (List Char × List Char)
  | 0, _, _ => none
  | _, [], _ => none
  | fuel + 1, c :: cs, acc =>
    if c == '\x60' then some (acc.reverse, cs)
    else if c == '\\' then
      match cs with
      | d :: rest =>
        if d == '$' || d == '\x60' || d == '\\' then closeBackquote fuel rest (d :: acc)
        else closeBackquote fuel rest (d :: c :: acc)
      | [] => none
    else closeBackquote fuel cs (c :: acc)

/-- A fault of reading. -/
def unterminated : String := "Syntax error: Unterminated quoted string"

mutual

/-- What follows a `$`: the piece it stands for and the rest, or none when the `$` is plain
text. -/
def dollar : Nat → Bool → List Char → Except String (Option (Piece × List Char))
  | 0, _, _ => .error unterminated
  | fuel + 1, quoted, cs =>
    match cs with
    | '(' :: rest =>
      match closeParen (rest.length + 1) 0 rest [] with
      | some (inner, after) => .ok (some (.output (String.ofList inner) quoted, after))
      | none => .error "Syntax error: end of file unexpected (expecting \")\")"
    | '\x7b' :: rest =>
      match rest.span (· != '\x7d') with
      | (inner, _ :: after) => do
        let p ← braced fuel quoted inner
        .ok (some (p, after))
      | _ => .error "Syntax error: Missing '\x7d'"
    | c :: rest =>
      if isNameStart c then
        let (name, after) := rest.span isNameChar
        .ok (some (.param (String.ofList (c :: name)) quoted, after))
      else if isSpecialParam c then .ok (some (.param (String.singleton c) quoted, rest))
      else .ok none
    | [] => .ok none

/-- The piece a braced parameter stands for. -/
def braced : Nat → Bool → List Char → Except String Piece
  | 0, _, _ => .error "Bad substitution"
  | fuel + 1, quoted, inner =>
    match inner with
    | '#' :: name@(_ :: _) =>
      let special := match name with
        | [c] => isSpecialParam c
        | _ => false
      if isName (String.ofList name) || special then
        .ok (.length (String.ofList name) quoted)
      else .error "Bad substitution"
    | c :: rest =>
      let (name, after) :=
        if isNameStart c then
          let (more, after) := rest.span isNameChar
          (String.ofList (c :: more), after)
        else if isSpecialParam c then (String.singleton c, rest)
        else ("", c :: rest)
      if name.isEmpty then .error "Bad substitution"
      else
        match after with
        | [] => .ok (.param name quoted)
        | ':' :: op :: word =>
          if op == '-' || op == '+' || op == '=' then do
            let ps ← wordText fuel quoted word
            .ok (.alter name op true ps quoted)
          else .error "Bad substitution"
        | op :: word =>
          if op == '-' || op == '+' || op == '=' then do
            let ps ← wordText fuel quoted word
            .ok (.alter name op false ps quoted)
          else .error "Bad substitution"
    | [] => .error "Bad substitution"

/-- The pieces of the word inside a braced parameter. -/
def wordText : Nat → Bool → List Char → Except String (List Piece)
  | 0, _, _ => .ok []
  | fuel + 1, quoted, cs => do
    if quoted then
      let (ps, _, _) ← inDouble fuel (cs ++ ['"']) 0 [] []
      .ok ps
    else
      let (ps, _, _) ← unquotedWord fuel cs 0 [] []
      .ok ps

/-- The pieces of a double-quoted text up to its closing quote (pieces and text collected so
far are reversed), the rest after it and the newlines passed. -/
def inDouble : Nat → List Char → Nat → List Piece → List Char →
    Except String (List Piece × List Char × Nat)
  | 0, _, _, _, _ => .error unterminated
  | fuel + 1, cs, lines, pieces, buf =>
    match cs with
    | [] => .error unterminated
    | '"' :: rest =>
      let closed := if buf.isEmpty then .text "" true :: pieces else flush pieces buf true
      .ok (closed.reverse, rest, lines)
    | '\\' :: d :: rest =>
      if d == '\n' then inDouble fuel rest (lines + 1) pieces buf
      else if d == '$' || d == '\x60' || d == '"' || d == '\\' then
        inDouble fuel rest lines pieces (d :: buf)
      else inDouble fuel rest lines pieces (d :: '\\' :: buf)
    | '$' :: rest => do
      match ← dollar fuel true rest with
      | some (p, after) => inDouble fuel after lines (p :: flush pieces buf true) []
      | none => inDouble fuel rest lines pieces ('$' :: buf)
    | '\x60' :: rest =>
      match closeBackquote (rest.length + 1) rest [] with
      | some (inner, after) =>
        inDouble fuel after (lines + newlines inner)
          (.output (String.ofList inner) true :: flush pieces buf true) []
      | none => .error "Syntax error: EOF in backquote substitution"
    | c :: rest => inDouble fuel rest (if c == '\n' then lines + 1 else lines) pieces (c :: buf)

/-- The pieces of an unquoted word up to a character that ends it (pieces and text
collected so far are reversed), the rest from that character and the newlines passed. -/
def unquotedWord : Nat → List Char → Nat → List Piece → List Char →
    Except String (List Piece × List Char × Nat)
  | 0, cs, lines, pieces, buf => .ok ((flush pieces buf false).reverse, cs, lines)
  | fuel + 1, cs, lines, pieces, buf =>
    match cs with
    | [] => .ok ((flush pieces buf false).reverse, [], lines)
    | '\\' :: '\n' :: rest => unquotedWord fuel rest (lines + 1) pieces buf
    | '\\' :: d :: rest =>
      unquotedWord fuel rest lines (.text (String.singleton d) true :: flush pieces buf false) []
    | '\'' :: rest =>
      match rest.span (· != '\'') with
      | (body, _ :: after) =>
        unquotedWord fuel after (lines + newlines body)
          (.text (String.ofList body) true :: flush pieces buf false) []
      | _ => .error unterminated
    | '"' :: rest => do
      let (ps, after, more) ← inDouble fuel rest 0 [] []
      unquotedWord fuel after (lines + more) (ps.reverse ++ flush pieces buf false) []
    | '$' :: rest => do
      match ← dollar fuel false rest with
      | some (p, after) => unquotedWord fuel after lines (p :: flush pieces buf false) []
      | none => unquotedWord fuel rest lines pieces ('$' :: buf)
    | '\x60' :: rest =>
      match closeBackquote (rest.length + 1) rest [] with
      | some (inner, after) =>
        unquotedWord fuel after (lines + newlines inner)
          (.output (String.ofList inner) false :: flush pieces buf false) []
      | none => .error "Syntax error: EOF in backquote substitution"
    | c :: rest =>
      if isMeta c then .ok ((flush pieces buf false).reverse, c :: rest, lines)
      else unquotedWord fuel rest lines pieces (c :: buf)

end

/-! ## Tokens -/

/-- A token of a script. -/
inductive Token where
  /-- A word, and its text when it has no quoting or expansion at all. -/
  | word (pieces : List Piece) (plain : Option String)
  /-- A control operator: `;`, `;;`, `&`, `&&`, `|`, `||`, `(`, `)`. -/
  | op (s : String)
  /-- A redirection operator with the descriptor written before it. -/
  | redirect (fd : Option Nat) (op : String)
  | newline
  | finish
  /-- Text that does not read. -/
  | fault (message : String)
deriving Repr, Inhabited

/-- A token and the line it is on. -/
structure Lexeme where
  token : Token
  line : Nat
deriving Repr, Inhabited

/-- The plain text of a word: all of it unquoted literal text. -/
def plainText (ps : List Piece) : Option String :=
  ps.foldlM (fun acc p => match p with
    | .text s false => some (acc ++ s)
    | _ => none) ""

/-- The redirection operator at the start of some characters, and the rest. -/
def redirectOp : List Char → Option (String × List Char)
  | '>' :: '>' :: r => some (">>", r)
  | '>' :: '&' :: r => some (">&", r)
  | '>' :: '|' :: r => some (">|", r)
  | '>' :: r => some (">", r)
  | '<' :: '&' :: r => some ("<&", r)
  | '<' :: '>' :: r => some ("<>", r)
  | '<' :: '<' :: r => some ("<<", r)
  | '<' :: r => some ("<", r)
  | _ => none

/-- The control operator at the start of some characters, and the rest. -/
def controlOp : List Char → Option (String × List Char)
  | ';' :: ';' :: r => some (";;", r)
  | ';' :: r => some (";", r)
  | '&' :: '&' :: r => some ("&&", r)
  | '&' :: r => some ("&", r)
  | '|' :: '|' :: r => some ("||", r)
  | '|' :: r => some ("|", r)
  | '(' :: r => some ("(", r)
  | ')' :: r => some (")", r)
  | _ => none

/-- The tokens of a script, ending in `finish` or in a fault. -/
def tokens : Nat → List Char → Nat → List Lexeme → List Lexeme
  | 0, _, line, acc => (⟨.finish, line⟩ :: acc).reverse
  | fuel + 1, cs, line, acc =>
    match cs with
    | [] => (⟨.finish, line⟩ :: acc).reverse
    | ' ' :: r | '\t' :: r => tokens fuel r line acc
    | '\\' :: '\n' :: r => tokens fuel r (line + 1) acc
    | '\n' :: r => tokens fuel r (line + 1) (⟨.newline, line⟩ :: acc)
    | '#' :: r => tokens fuel (r.dropWhile (· != '\n')) line acc
    | _ =>
      match controlOp cs with
      | some (op, r) => tokens fuel r line (⟨.op op, line⟩ :: acc)
      | none =>
        match redirectOp cs with
        | some (op, r) => tokens fuel r line (⟨.redirect none op, line⟩ :: acc)
        | none =>
          match unquotedWord (cs.length + 1) cs 0 [] [] with
          | .error m => (⟨.fault m, line⟩ :: acc).reverse
          | .ok (ps, rest, more) =>
            let plain := plainText ps
            let numbered := match plain, redirectOp rest with
              | some t, some (op, r) =>
                if !t.isEmpty && t.all Char.isDigit then some (t.toNat!, op, r) else none
              | _, _ => none
            match numbered with
            | some (fd, op, r) => tokens fuel r (line + more) (⟨.redirect (some fd) op, line⟩ :: acc)
            | none => tokens fuel rest (line + more) (⟨.word ps plain, line⟩ :: acc)

/-! ## Reading commands -/

namespace Parse

/-- Reading tokens: a fault with its line, or a value and the tokens left. -/
abbrev ReadM := ExceptT (Nat × String) (StateM (List Lexeme))

/-- The next token. -/
def peek : ReadM Lexeme := do
  match (← get) with
  | l :: _ => return l
  | [] => return ⟨.finish, 0⟩

/-- Step past the next token. -/
def advance : ReadM Unit := modify List.tail

/-- The fault for a token that cannot stand where it is. -/
def unexpected (l : Lexeme) : (Nat × String) :=
  match l.token with
  | .op s => (l.line, "Syntax error: \"" ++ s ++ "\" unexpected")
  | .redirect _ s => (l.line, "Syntax error: \"" ++ s ++ "\" unexpected")
  | .newline => (l.line, "Syntax error: newline unexpected")
  | .finish => (l.line, "Syntax error: end of file unexpected")
  | .fault m => (l.line, m)
  | .word _ _ => (l.line, "Syntax error: word unexpected")

/-- Step past newlines. -/
def skipNewlines : Nat → ReadM Unit
  | 0 => pure ()
  | fuel + 1 => do
    match (← peek).token with
    | .newline => advance; skipNewlines fuel
    | _ => pure ()

/-- A word that names a variable and gives it a value (`name=value`). -/
def assignmentOf (ps : List Piece) : Option (String × List Piece) :=
  match ps with
  | .text s false :: rest =>
    match s.splitOn "=" with
    | name :: value :: more =>
      if isName name then
        let v := "=".intercalate (value :: more)
        some (name, if v.isEmpty then rest else .text v false :: rest)
      else none
    | _ => none
  | _ => none

/-- The redirection an operator makes with its target. -/
def redirectOf (fd : Option Nat) (op : String) (target : List Piece) : Redirect :=
  match op with
  | ">>" => .write (fd.getD 1) target true
  | ">&" => .copy (fd.getD 1) target
  | "<&" => .copy (fd.getD 0) target
  | "<" | "<>" | "<<" => .read (fd.getD 0) target
  | _ => .write (fd.getD 1) target false

/-- The words, assignments and redirections of a command. -/
def commandItems : Nat → Command → ReadM Command
  | 0, c => pure c
  | fuel + 1, c => do
    let l ← peek
    match l.token with
    | .word ps _ =>
      advance
      match c.words, assignmentOf ps with
      | [], some a => commandItems fuel { c with assignments := c.assignments ++ [a] }
      | _, _ => commandItems fuel { c with words := c.words ++ [ps] }
    | .redirect fd op =>
      advance
      let t ← peek
      match t.token with
      | .word ps _ =>
        advance
        commandItems fuel { c with redirects := c.redirects ++ [redirectOf fd op ps] }
      | _ => throw (unexpected t)
    | _ => pure c

/-- A simple command. -/
def command (fuel : Nat) : ReadM Command := do
  let l ← peek
  let c ← commandItems fuel { line := l.line }
  if c.words.isEmpty && c.assignments.isEmpty && c.redirects.isEmpty then throw (unexpected l)
  return c

/-- The commands after the first of a pipeline. -/
def piped : Nat → List Command → ReadM (List Command)
  | 0, acc => pure acc.reverse
  | fuel + 1, acc => do
    match (← peek).token with
    | .op "|" =>
      advance
      skipNewlines fuel
      let c ← command fuel
      piped fuel (c :: acc)
    | _ => pure acc.reverse

/-- A pipeline. -/
def pipeline (fuel : Nat) : ReadM Pipeline := do
  let negated ← match (← peek).token with
    | .word _ (some "!") => do advance; pure true
    | _ => pure false
  let c ← command fuel
  let cs ← piped fuel [c]
  return ⟨negated, cs⟩

/-- The pipelines after the first of a chain. -/
def joined : Nat → List (Joint × Pipeline) → ReadM (List (Joint × Pipeline))
  | 0, acc => pure acc.reverse
  | fuel + 1, acc => do
    let joint := match (← peek).token with
      | .op "&&" => some Joint.both
      | .op "||" => some Joint.either
      | _ => none
    match joint with
    | some j =>
      advance
      skipNewlines fuel
      let p ← pipeline fuel
      joined fuel ((j, p) :: acc)
    | none => pure acc.reverse

/-- A chain. -/
def chain (fuel : Nat) : ReadM Chain := do
  let p ← pipeline fuel
  let rest ← joined fuel []
  return ⟨p, rest⟩

/-- The chains of one line after the first, each after a `;` or `&`. -/
def lineChains : Nat → List Chain → ReadM (List Chain)
  | 0, acc => pure acc.reverse
  | fuel + 1, acc => do
    let l ← peek
    match l.token with
    | .op ";" | .op "&" =>
      advance
      match (← peek).token with
      | .newline | .finish => pure acc.reverse
      | _ =>
        let c ← chain fuel
        lineChains fuel (c :: acc)
    | .newline | .finish => pure acc.reverse
    | _ => throw (unexpected l)

/-- The entries of a script from its tokens. -/
def entries : Nat → List Entry → ReadM (List Entry)
  | 0, acc => pure acc.reverse
  | fuel + 1, acc => do
    skipNewlines fuel
    match (← peek).token with
    | .finish => pure acc.reverse
    | _ =>
      let attempt : ReadM Entry := do
        let c ← chain fuel
        return .chains (← lineChains fuel [c])
      let e ← tryCatch attempt (fun f => pure (.fault f.1 f.2))
      match e with
      | .chains _ => entries fuel (e :: acc)
      | .fault .. => pure (e :: acc).reverse

end Parse

/-- A script read into its entries. -/
def parse (text : String) : List Entry :=
  let cs := text.toList
  let ls := tokens (cs.length + 1) cs 1 []
  match ((Parse.entries (ls.length + 1) []).run).run ls with
  | (.ok es, _) => es
  | (.error (n, m), _) => [.fault n m]

end Workflow.Shell
