/-! # TOML documents

A TOML document is a tree of tables.  Each table holds its entries in the order they were
written: values (strings, integers, floats, booleans, date-times, arrays and inline tables),
tables and arrays of tables.  Items remember the byte range they were read from, so that a
later fault can point at them.

A table is *implicit* when it only exists because a longer key or header passed through it,
and *dotted* when a dotted key created it.  The rules of the format are kept by the
operations that build a document (`Builder`):

* a header may name a table that exists only implicitly and was not made by dotted keys;
  naming any other existing item is a duplicate key;
* a dotted key may pass through implicit tables it made itself, and into the last table of
  an array of tables, but not through a table a header defined or through a value;
* a key may be given only once in a table.
-/

namespace Workflow.Toml

/-- A byte range of the source. -/
structure Span where
  start : Nat
  stop : Nat
deriving DecidableEq, Repr, Inhabited

/-- A key: its name, the text it was written as, and where. -/
structure Key where
  name : String
  repr : String
  span : Option Span := none
deriving DecidableEq, Repr, Inhabited

/-- A part of a document. -/
inductive Item where
  | str (s : String) (span : Option Span)
  | int (i : Int) (span : Option Span)
  | float (bits : UInt64) (span : Option Span)
  | bool (b : Bool) (span : Option Span)
  | datetime (text : String) (span : Option Span)
  | array (items : List Item) (span : Option Span)
  | inline (entries : List (Key × Item)) (implicit dotted : Bool) (span : Option Span)
  | table (entries : List (Key × Item)) (implicit dotted : Bool) (span : Option Span)
  | tables (list : List Item) (span : Option Span)
deriving Repr, Inhabited

namespace Item

/-- Where an item was read from. -/
def span? : Item → Option Span
  | .str _ s | .int _ s | .float _ s | .bool _ s | .datetime _ s | .array _ s => s
  | .inline _ _ _ s | .table _ _ _ s | .tables _ s => s

/-- The item with the place it was read from. -/
def withSpan (it : Item) (sp : Span) : Item :=
  match it with
  | .str s _ => .str s (some sp)
  | .int i _ => .int i (some sp)
  | .float b _ => .float b (some sp)
  | .bool b _ => .bool b (some sp)
  | .datetime t _ => .datetime t (some sp)
  | .array xs _ => .array xs (some sp)
  | .inline es imp dot _ => .inline es imp dot (some sp)
  | .table es imp dot _ => .table es imp dot (some sp)
  | .tables xs _ => .tables xs (some sp)

/-- The name of an item's kind, as faults show it. -/
def typeName : Item → String
  | .str .. => "string"
  | .int .. => "integer"
  | .float .. => "float"
  | .bool .. => "boolean"
  | .datetime .. => "datetime"
  | .array .. => "array"
  | .inline .. => "inline table"
  | .table .. => "table"
  | .tables .. => "array of tables"

end Item

/-- Why a document cannot be built as written. -/
inductive Clash where
  /-- A key given twice, with the path of the table it is in when known. -/
  | duplicateKey (key : String) (table : Option (List String))
  /-- A dotted key or header that would pass through a value. -/
  | extendsValue (path : List String) (actual : String)
  /-- A number or date part out of its range. -/
  | outOfRange
  /-- Nesting deeper than the reader allows. -/
  | tooDeep
deriving DecidableEq, Repr

/-- The words for a clash. -/
def Clash.message : Clash → String
  | .duplicateKey k none => "duplicate key `" ++ k ++ "`"
  | .duplicateKey k (some []) => "duplicate key `" ++ k ++ "` in document root"
  | .duplicateKey k (some path) => "duplicate key `" ++ k ++ "` in table `" ++ ".".intercalate path ++ "`"
  | .extendsValue path actual =>
    "dotted key `" ++ ".".intercalate path ++ "` attempted to extend non-table type (" ++ actual ++ ")"
  | .outOfRange => "value is out of range"
  | .tooDeep => "recursion limit exceeded"

/-- The entries of a table with their flags. -/
structure Body where
  entries : List (Key × Item) := []
  implicit : Bool := false
  dotted : Bool := false
  span : Option Span := none
deriving Repr, Inhabited

/-- The entries in order, by name. -/
abbrev Entries := List (Key × Item)

namespace Entries

/-- The item under a name. -/
def find? (es : Entries) (name : String) : Option Item :=
  (List.find? (fun p => p.1.name == name) es).map Prod.snd

/-- Put an item under a key: in place of the item of the same name (keeping the key as first
written), or at the end. -/
def put (es : Entries) (k : Key) (item : Item) : Entries :=
  if es.any (fun p => p.1.name == k.name) then
    es.map fun p => if p.1.name == k.name then (p.1, item) else p
  else es ++ [(k, item)]

/-- The entries without a name. -/
def remove (es : Entries) (name : String) : Entries := es.filter (fun p => p.1.name != name)

end Entries

/-- The names of keys. -/
def names (ks : List Key) : List String := ks.map Key.name

/-- A table item from a body. -/
def Body.toItem (b : Body) : Item := .table b.entries b.implicit b.dotted b.span

/-- Follow a path of keys down from a table, making the tables that are missing (implicit,
and dotted as asked), and change the table reached.  `whole` and `depth` place the path in
the full key for messages. -/
def Body.descend {β : Type} (dotted : Bool) (whole : List Key) (f : Body → Except Clash (Body × β)) :
    List Key → Nat → Body → Except Clash (Body × β)
  | [], _, b => f b
  | k :: rest, depth, b =>
    let goInto (child : Body) (rebuild : Body → Item) : Except Clash (Body × β) := do
      let (child', out) ← Body.descend dotted whole f rest (depth + 1) child
      return ({ b with entries := Entries.put b.entries k (rebuild child') }, out)
    match Entries.find? b.entries k.name with
    | none => goInto { implicit := true, dotted } Body.toItem
    | some (.table es imp dot sp) =>
      if dotted && !imp then .error (.duplicateKey k.name none)
      else goInto ⟨es, imp, dot, sp⟩ Body.toItem
    | some (.tables list sp) =>
      match list.getLast? with
      | some (.table es imp dot tsp) =>
        goInto ⟨es, imp, dot, tsp⟩ fun c => .tables (list.dropLast ++ [c.toItem]) sp
      | _ => goInto {} fun c => .tables (list ++ [c.toItem]) sp
    | some v => .error (.extendsValue (names (whole.take (depth + 1))) v.typeName)

/-- A clash for a key of a header: the key as written, and the table it is in. -/
def headerClash (path : List Key) : Clash :=
  match path.getLast? with
  | some k => .duplicateKey k.repr (some (names path.dropLast))
  | none => .duplicateKey "" (some [])

/-- The document being built: the root, the table the last header opened, and its path. -/
structure Builder where
  root : Body := {}
  current : Body := {}
  path : List Key := []
  isArray : Bool := false
deriving Repr, Inhabited

namespace Builder

/-- Put the table being filled in its place. -/
def finish (st : Builder) : Except Clash Builder := do
  match st.path.getLast? with
  | none => return { st with root := st.current, current := {}, isArray := false }
  | some k =>
    let place (parent : Body) : Except Clash (Body × Unit) :=
      if st.isArray then
        match Entries.find? parent.entries k.name with
        | none => .ok ({ parent with entries := parent.entries ++ [(k, .tables [st.current.toItem] none)] }, ())
        | some (.tables list sp) =>
          .ok ({ parent with entries := Entries.put parent.entries k (.tables (list ++ [st.current.toItem]) sp) }, ())
        | some _ => .error (headerClash st.path)
      else .ok ({ parent with entries := Entries.put parent.entries k st.current.toItem }, ())
    let (root, ()) ← Body.descend false st.path place st.path.dropLast 0 st.root
    return { root, current := {}, path := [], isArray := false }

/-- Open the table a `[path]` header names. -/
def openTable (st : Builder) (path : List Key) (span : Span) : Except Clash Builder := do
  let st ← st.finish
  let k := (path.getLast?).getD default
  let take (parent : Body) : Except Clash (Body × Body) :=
    match Entries.find? parent.entries k.name with
    | none => .ok (parent, {})
    | some (.table es true false _) =>
      .ok ({ parent with entries := Entries.remove parent.entries k.name }, { entries := es })
    | some _ => .error (headerClash path)
  let (root, body) ← Body.descend false path take path.dropLast 0 st.root
  return { root, current := { body with implicit := false, dotted := false, span := some span },
           path, isArray := false }

/-- Open a new table of the array of tables a `[[path]]` header names. -/
def openArrayTable (st : Builder) (path : List Key) (span : Span) : Except Clash Builder := do
  let st ← st.finish
  let k := (path.getLast?).getD default
  let take (parent : Body) : Except Clash (Body × Unit) :=
    match Entries.find? parent.entries k.name with
    | none => .ok ({ parent with entries := parent.entries ++ [(k, .tables [] none)] }, ())
    | some (.tables ..) => .ok (parent, ())
    | some _ => .error (headerClash path)
  let (root, ()) ← Body.descend false path take path.dropLast 0 st.root
  return { root, current := { span := some span }, path, isArray := true }

/-- Add `path.key = value` to the table being filled. -/
def addValue (st : Builder) (path : List Key) (k : Key) (v : Item) : Except Clash Builder := do
  let current := match st.current.span, v.span? with
    | some s, some vs => { st.current with span := some ⟨s.start, vs.stop⟩ }
    | _, _ => st.current
  let tablePath := names st.path
  let insert (t : Body) : Except Clash (Body × Unit) :=
    if t.dotted == path.isEmpty then .error (.duplicateKey k.name none)
    else if (Entries.find? t.entries k.name).isSome then .error (.duplicateKey k.name (some tablePath))
    else .ok ({ t with entries := t.entries ++ [(k, v)] }, ())
  let (current, ()) ← Body.descend true path insert path 0 current
  return { st with current }

end Builder

/-- Follow a dotted path down an inline table, making missing inline tables. -/
def inlineDescend {β : Type} (whole : List Key) (f : Body → Except Clash (Body × β)) :
    List Key → Nat → Body → Except Clash (Body × β)
  | [], _, b => f b
  | k :: rest, depth, b =>
    let goInto (child : Body) : Except Clash (Body × β) := do
      let (child', out) ← inlineDescend whole f rest (depth + 1) child
      let item := Item.inline child'.entries child'.implicit child'.dotted child'.span
      return ({ b with entries := Entries.put b.entries k item }, out)
    match Entries.find? b.entries k.name with
    | none => goInto { implicit := true, dotted := true }
    | some (.inline es imp dot sp) =>
      if !imp then .error (.duplicateKey k.name none) else goInto ⟨es, imp, dot, sp⟩
    | some v => .error (.extendsValue (names (whole.take (depth + 1))) v.typeName)

/-- An inline table from its `path.key = value` pairs, in order. -/
def inlineTable (pairs : List (List Key × Key × Item)) : Except Clash Body :=
  pairs.foldlM (fun root (path, k, v) => do
    let insert (t : Body) : Except Clash (Body × Unit) :=
      if t.dotted == path.isEmpty then .error (.duplicateKey k.name none)
      else if (Entries.find? t.entries k.name).isSome then .error (.duplicateKey k.name none)
      else .ok ({ t with entries := t.entries ++ [(k, v)] }, ())
    let (root, ()) ← inlineDescend path insert path 0 root
    return root) {}

end Workflow.Toml
