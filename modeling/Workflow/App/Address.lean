import Workflow.Host.Basic
/-! # Socket addresses

A socket address is an IP address and a port.  It is written `a.b.c.d:port` for IPv4 and
`[groups]:port` for IPv6.  IPv4 parts are decimal numbers up to 255 without leading zeros;
IPv6 groups are up to four hexadecimal digits, one run of zero groups may be left out as
`::`, and the last two groups may be written as an IPv4 address.

An IPv6 address is written back in lower case without leading zeros, with its longest run
of two or more zero groups (the first of equal runs) shortened to `::`, and a mapped IPv4
address as `::ffff:a.b.c.d`.

Binding a socket to a port below 1024 needs privileges the program does not have; any other
address can be bound.
-/

namespace Workflow

/-- An IP address. -/
inductive IpAddr where
  /-- Four parts, each below 256. -/
  | v4 (parts : List Nat)
  /-- Eight groups, each below 65536. -/
  | v6 (groups : List Nat)
deriving DecidableEq, Repr, Inhabited

/-- An IP address and a port. -/
structure SocketAddr where
  ip : IpAddr
  port : Nat
deriving DecidableEq, Repr, Inhabited

namespace IpAddr

/-- A decimal part of an IPv4 address. -/
def v4Part (s : String) : Option Nat :=
  let cs := s.toList
  if cs.isEmpty || cs.length > 3 || !cs.all Char.isDigit then none
  else if cs.length > 1 && cs.head? == some '0' then none
  else
    let n := s.toNat!
    if n ≤ 255 then some n else none

/-- An IPv4 address. -/
def parseV4 (s : String) : Option (List Nat) :=
  match s.splitOn "." with
  | [a, b, c, d] => [a, b, c, d].mapM v4Part
  | _ => none

/-- The value of a hexadecimal digit. -/
def hexDigit (c : Char) : Option Nat :=
  if c.isDigit then some (c.toNat - 48)
  else if 'a' ≤ c && c ≤ 'f' then some (c.toNat - 87)
  else if 'A' ≤ c && c ≤ 'F' then some (c.toNat - 55)
  else none

/-- A group of an IPv6 address. -/
def v6Group (s : String) : Option Nat :=
  let cs := s.toList
  if cs.isEmpty || cs.length > 4 then none
  else cs.foldlM (fun acc c => (hexDigit c).map (acc * 16 + ·)) 0

/-- Groups written between colons, the last of which may be an IPv4 address. -/
def v6Groups (parts : List String) (allowV4 : Bool) : Option (List Nat) :=
  match parts.reverse with
  | [] => some []
  | last :: before =>
    let tail : Option (List Nat) :=
      if allowV4 && last.contains '.' then
        (parseV4 last).map fun ps => match ps with
          | [a, b, c, d] => [a * 256 + b, c * 256 + d]
          | _ => []
      else (v6Group last).map ([·])
    match tail, before.reverse.mapM v6Group with
    | some t, some hs => some (hs ++ t)
    | _, _ => none

/-- An IPv6 address. -/
def parseV6 (s : String) : Option (List Nat) :=
  match s.splitOn "::" with
  | [whole] =>
    (v6Groups (whole.splitOn ":") true).filter (·.length == 8)
  | [front, back] =>
    let fs := if front.isEmpty then some [] else v6Groups (front.splitOn ":") false
    let bs := if back.isEmpty then some [] else v6Groups (back.splitOn ":") true
    match fs, bs with
    | some f, some b =>
      if f.length + b.length ≤ 7 then some (f ++ List.replicate (8 - f.length - b.length) 0 ++ b)
      else none
    | _, _ => none
  | _ => none

/-- Lower-case hexadecimal without leading zeros. -/
def hexText (n : Nat) : String := String.ofList (Nat.toDigits 16 n)

/-- The longest run of two or more zero groups, the first of equal runs: its start and
length. -/
def zeroRun (gs : List Nat) : Option (Nat × Nat) :=
  let step := fun (acc : Option (Nat × Nat) × Nat × Nat) (e : Nat × Nat) =>
    let (best, start, len) := acc
    let (i, g) := e
    if g == 0 then
      let start := if len == 0 then i else start
      let len := len + 1
      let best := match best with
        | some (_, l) => if len > l then some (start, len) else best
        | none => some (start, len)
      (best, start, len)
    else (best, start, 0)
  let (best, _, _) := (gs.zipIdx.map fun (g, i) => (i, g)).foldl step (none, 0, 0)
  best.filter (·.2 ≥ 2)

/-- The text of an address. -/
def display : IpAddr → String
  | .v4 ps => ".".intercalate (ps.map toString)
  | .v6 gs =>
    match gs with
    | [0, 0, 0, 0, 0, 0xffff, hi, lo] =>
      "::ffff:" ++ display (.v4 [hi / 256, hi % 256, lo / 256, lo % 256])
    | _ =>
      match zeroRun gs with
      | some (start, len) =>
        ":".intercalate ((gs.take start).map hexText) ++ "::" ++
          ":".intercalate ((gs.drop (start + len)).map hexText)
      | none => ":".intercalate (gs.map hexText)

end IpAddr

namespace SocketAddr

/-- A port: decimal digits up to 65535. -/
def parsePort (s : String) : Option Nat :=
  if s.isEmpty || !s.all Char.isDigit then none
  else
    let n := s.toNat!
    if n ≤ 65535 then some n else none

/-- A socket address from its text. -/
def parse (s : String) : Option SocketAddr :=
  if s.startsWith "[" then
    match s.splitOn "]:" with
    | [inner, port] =>
      match IpAddr.parseV6 (inner.drop 1).toString, parsePort port with
      | some gs, some p => some ⟨.v6 gs, p⟩
      | _, _ => none
    | _ => none
  else
    match s.splitOn ":" with
    | [ip, port] =>
      match IpAddr.parseV4 ip, parsePort port with
      | some ps, some p => some ⟨.v4 ps, p⟩
      | _, _ => none
    | _ => none

/-- The text of a socket address. -/
def display (a : SocketAddr) : String :=
  match a.ip with
  | .v4 _ => a.ip.display ++ ":" ++ toString a.port
  | .v6 _ => "[" ++ a.ip.display ++ "]:" ++ toString a.port

/-- Bind a socket: ports below 1024, other than zero, are refused. -/
def bind (a : SocketAddr) : Except Host.OsError Unit :=
  if 0 < a.port && a.port < 1024 then .error .permissionDenied else .ok ()

end SocketAddr

end Workflow
