import PacketMeter.Text.Decimal

/-!
# Socket addresses

A socket address is an IPv4 address and a port, or an IPv6 address in brackets
with an optional numeric scope and a port.

Reading is strict.  The parts of an IPv4 address have no leading zeros.  An IPv6
address has eight groups of up to four hexadecimal digits, of which one run may
be left out as `::`, and the last two groups may be written as an IPv4 address.

Writing leaves out the longest run of two or more zero groups, the first of
several, and writes the groups in lower case without leading zeros.  An address
of the block `::ffff:0:0/96` shows its IPv4 address, and a scope of zero is not
shown.
-/

namespace PacketMeter.Net

/-- An IPv4 address. -/
structure Ipv4 where
  a : UInt8
  b : UInt8
  c : UInt8
  d : UInt8
  deriving Repr, DecidableEq, Inhabited

/-- An IPv6 address as its eight groups. -/
structure Ipv6 where
  groups : List UInt16
  deriving Repr, DecidableEq, Inhabited

/-- A socket address. -/
inductive SocketAddress where
  | v4 (ip : Ipv4) (port : UInt16)
  | v6 (ip : Ipv6) (scope : UInt32) (port : UInt16)
  deriving Repr, DecidableEq, Inhabited

/-- The value of a digit in a base up to sixteen. -/
def digit? (base : Nat) (c : Char) : Option Nat :=
  let v? :=
    if '0' ≤ c ∧ c ≤ '9' then some (c.toNat - 48)
    else if 'a' ≤ c ∧ c ≤ 'f' then some (c.toNat - 87)
    else if 'A' ≤ c ∧ c ≤ 'F' then some (c.toNat - 55)
    else none
  v?.filter (· < base)

/-- The number that all the digits at the front of a text write, and the rest. -/
def number? (base greatest : Nat) (s : List Char) : Option (Nat × List Char) :=
  let ds := s.takeWhile fun c => (digit? base c).isSome
  let n := (ds.filterMap (digit? base)).foldl (fun n d => n * base + d) 0
  if ds.isEmpty ∨ greatest < n then none else some (n, s.drop ds.length)

/-- What follows a given character. -/
def after? (c : Char) : List Char → Option (List Char)
  | [] => none
  | d :: rest => if d = c then some rest else none

/-- One part of an IPv4 address. -/
def part? (s : List Char) : Option (UInt8 × List Char) := do
  let (n, rest) ← number? 10 255 s
  let width := s.length - rest.length
  if 3 < width ∨ (1 < width ∧ s.head? = some '0') then none else return (n.toUInt8, rest)

/-- An IPv4 address at the front of a text. -/
def ipv4? (s : List Char) : Option (Ipv4 × List Char) := do
  let (a, s) ← part? s
  let (b, s) ← part? (← after? '.' s)
  let (c, s) ← part? (← after? '.' s)
  let (d, s) ← part? (← after? '.' s)
  return (⟨a, b, c, d⟩, s)

/-- The two groups of an IPv4 address. -/
def Ipv4.groups (ip : Ipv4) : List UInt16 :=
  [ip.a.toUInt16 * 256 + ip.b.toUInt16, ip.c.toUInt16 * 256 + ip.d.toUInt16]

/-- One group of an IPv6 address. -/
def group? (s : List Char) : Option (UInt16 × List Char) := do
  let (n, rest) ← number? 16 65535 s
  if 4 < s.length - rest.length then none else return (n.toUInt16, rest)

/-- The text in which the group after `count` others starts: a colon stands
between groups. -/
def groupStart? (count : Nat) (s : List Char) : Option (List Char) :=
  if count = 0 then some s else after? ':' s

/-- As many groups as the text has, up to `room` of them after `count` others, and
whether an IPv4 address ended them. -/
def groups (count : Nat) : Nat → List Char → List UInt16 × Bool × List Char
  | 0, s => ([], false, s)
  | room + 1, s =>
    let embedded? := if room = 0 then none else (groupStart? count s).bind ipv4?
    match embedded? with
    | some (ip, rest) => (ip.groups, true, rest)
    | none =>
      match (groupStart? count s).bind group? with
      | none => ([], false, s)
      | some (g, rest) =>
        let (gs, ended, rest) := groups (count + 1) room rest
        (g :: gs, ended, rest)

/-- An IPv6 address at the front of a text. -/
def ipv6? (s : List Char) : Option (Ipv6 × List Char) :=
  let (head, ended, rest) := groups 0 8 s
  if head.length = 8 then some (⟨head⟩, rest)
  else if ended then none
  else do
    let rest ← after? ':' (← after? ':' rest)
    let (tail, _, rest) := groups 0 (7 - head.length) rest
    return (⟨head ++ List.replicate (8 - head.length - tail.length) 0 ++ tail⟩, rest)

def port? (s : List Char) : Option (UInt16 × List Char) := do
  let (n, rest) ← number? 10 65535 (← after? ':' s)
  return (n.toUInt16, rest)

/-- A scope after its percent sign, or zero where there is none. -/
def scope? (s : List Char) : UInt32 × List Char :=
  match (after? '%' s).bind (number? 10 4294967295) with
  | some (n, rest) => (n.toUInt32, rest)
  | none => (0, s)

/-- An IPv4 socket address that is all of a text. -/
def socketV4? (s : List Char) : Option SocketAddress := do
  let (ip, s) ← ipv4? s
  let (port, s) ← port? s
  if s.isEmpty then return .v4 ip port else none

/-- An IPv6 socket address that is all of a text. -/
def socketV6? (s : List Char) : Option SocketAddress := do
  let (ip, s) ← ipv6? (← after? '[' s)
  let (scope, s) := scope? s
  let (port, s) ← port? (← after? ']' s)
  if s.isEmpty then return .v6 ip scope port else none

/-- The socket address that a text is. -/
def SocketAddress.parse? (s : String) : Option SocketAddress :=
  match socketV4? s.toList with
  | some a => some a
  | none => socketV6? s.toList

/-- The text of an IPv4 address. -/
def Ipv4.text (ip : Ipv4) : String :=
  String.intercalate "." ([ip.a, ip.b, ip.c, ip.d].map fun n => toString n.toNat)

def groupText (g : UInt16) : String := String.ofList (Nat.toDigits 16 g.toNat)

def groupsText (gs : List UInt16) : String := String.intercalate ":" (gs.map groupText)

/-- The number of zero groups at the front. -/
def zeroRun (gs : List UInt16) : Nat := (gs.takeWhile (· == 0)).length

/-- The place and the length of the longest run of zero groups, the first of
several, among the groups from place `i` on. -/
def longestZeroRun (i : Nat) : List UInt16 → Nat × Nat
  | [] => (i, 0)
  | g :: gs =>
    let here := zeroRun (g :: gs)
    let (place, length) := longestZeroRun (i + 1) gs
    if length ≤ here then (i, here) else (place, length)

/-- The IPv4 address that an address of the block `::ffff:0:0/96` holds. -/
def Ipv6.mapped? (ip : Ipv6) : Option Ipv4 :=
  match ip.groups with
  | [0, 0, 0, 0, 0, 0xffff, high, low] =>
    some ⟨(high / 256).toUInt8, (high % 256).toUInt8, (low / 256).toUInt8, (low % 256).toUInt8⟩
  | _ => none

/-- The text of an IPv6 address. -/
def Ipv6.text (ip : Ipv6) : String :=
  match ip.mapped? with
  | some ipv4 => "::ffff:" ++ ipv4.text
  | none =>
    let (place, length) := longestZeroRun 0 ip.groups
    if 1 < length then
      groupsText (ip.groups.take place) ++ "::" ++ groupsText (ip.groups.drop (place + length))
    else groupsText ip.groups

/-- The text of a socket address. -/
def SocketAddress.text : SocketAddress → String
  | .v4 ip port => ip.text ++ ":" ++ toString port.toNat
  | .v6 ip scope port =>
    let zone := if scope = 0 then "" else "%" ++ toString scope.toNat
    "[" ++ ip.text ++ zone ++ "]:" ++ toString port.toNat

end PacketMeter.Net
