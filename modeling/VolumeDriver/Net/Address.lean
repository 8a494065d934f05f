import VolumeDriver.Text.Blank
import VolumeDriver.Text.Decimal

/-!
# Socket addresses: reading and writing

An address is an IPv4 or IPv6 address with a port. IPv4 octets carry no leading zeros; an IPv6 address has one run of zero
groups left out at most, may end in a dotted IPv4 address, and may name a scope. The written form is canonical: lower case, the
longest run of at least two zero groups left out, the first of several, and a mapped IPv4 address dotted.
-/

namespace VolumeDriver.Net

/-- The value of a hexadecimal digit. -/
def hexDigit? (c : Char) : Option Nat :=
  if '0' ≤ c ∧ c ≤ '9' then some (c.toNat - '0'.toNat)
  else if 'a' ≤ c ∧ c ≤ 'f' then some (c.toNat - 'a'.toNat + 10)
  else if 'A' ≤ c ∧ c ≤ 'F' then some (c.toNat - 'A'.toNat + 10)
  else none

/-- Reads a run of digits as far as it goes: their values and what follows. -/
def takeDigits (digit? : Char → Option Nat) : List Char → List Nat × List Char
  | [] => ([], [])
  | c :: cs =>
    match digit? c with
    | none => ([], c :: cs)
    | some d =>
      let (ds, rest) := takeDigits digit? cs
      (d :: ds, rest)

/-- The number that digits write in a base. -/
def ofDigits (base : Nat) (ds : List Nat) : Nat := ds.foldl (fun n d => base * n + d) 0

/-- Reads a decimal number of any length up to a bound. -/
def readDecimal (bound : Nat) (cs : List Char) : Option (Nat × List Char) :=
  let (ds, rest) := takeDigits Text.digit? cs
  if ds.isEmpty ∨ bound < ofDigits 10 ds then none else some (ofDigits 10 ds, rest)

/-- Reads an octet: at most three digits, and no zero before others. -/
def readOctet (cs : List Char) : Option (UInt8 × List Char) :=
  let (ds, rest) := takeDigits Text.digit? cs
  if ds.isEmpty ∨ 3 < ds.length ∨ (ds.head? = some 0 ∧ 1 < ds.length) ∨ 255 < ofDigits 10 ds then none
  else some ((ofDigits 10 ds).toUInt8, rest)

/-- Reads a group of an IPv6 address: at most four hexadecimal digits. -/
def readGroup (cs : List Char) : Option (UInt16 × List Char) :=
  let (ds, rest) := takeDigits hexDigit? cs
  if ds.isEmpty ∨ 4 < ds.length then none else some ((ofDigits 16 ds).toUInt16, rest)

/-- Reads one given character. -/
def readChar (c : Char) : List Char → Option (List Char)
  | [] => none
  | d :: cs => if d = c then some cs else none

structure Ipv4 where
  a : UInt8
  b : UInt8
  c : UInt8
  d : UInt8
  deriving DecidableEq, Repr

namespace Ipv4

def read (cs : List Char) : Option (Ipv4 × List Char) := do
  let (a, cs) ← readOctet cs
  let (b, cs) ← readOctet (← readChar '.' cs)
  let (c, cs) ← readOctet (← readChar '.' cs)
  let (d, cs) ← readOctet (← readChar '.' cs)
  some (⟨a, b, c, d⟩, cs)

def render (ip : Ipv4) : String := Text.joinWith "." ([ip.a, ip.b, ip.c, ip.d].map toString)

/-- The two groups an IPv6 address has in place of an IPv4 address. -/
def groups (ip : Ipv4) : List UInt16 :=
  [ip.a.toUInt16 * 256 + ip.b.toUInt16, ip.c.toUInt16 * 256 + ip.d.toUInt16]

/-- The IPv4 address in the place of two groups. -/
def ofGroups (g h : UInt16) : Ipv4 := ⟨(g / 256).toUInt8, g.toUInt8, (h / 256).toUInt8, h.toUInt8⟩

end Ipv4

/-- Eight groups of sixteen bits. -/
structure Ipv6 where
  groups : List UInt16
  length_groups : groups.length = 8
  deriving DecidableEq, Repr

namespace Ipv6

/-- What stands before a group: nothing before the first, a colon before the others. -/
def afterColon (first : Bool) (cs : List Char) : Option (List Char) := if first then some cs else readChar ':' cs

/-- Reads at most so many groups, and says whether the last two were written as an IPv4 address. -/
def readGroups : Nat → Bool → List Char → List UInt16 × Bool × List Char
  | 0, _, cs => ([], false, cs)
  | n + 1, first, cs =>
    match afterColon first cs with
    | none => ([], false, cs)
    | some r =>
      match if n = 0 then none else Ipv4.read r with
      | some (ip, rest) => (ip.groups, true, rest)
      | none =>
        match readGroup r with
        | none => ([], false, cs)
        | some (g, r) =>
          let (gs, dotted, rest) := readGroups n false r
          (g :: gs, dotted, rest)

/-- The address with zero groups between a head and a tail, if there are not too many groups. -/
def ofParts (head tail : List UInt16) : Option Ipv6 :=
  if h : (head ++ List.replicate (8 - (head.length + tail.length)) 0 ++ tail).length = 8 then some ⟨_, h⟩ else none

def read (cs : List Char) : Option (Ipv6 × List Char) := do
  let (head, dotted, rest) := readGroups 8 true cs
  if head.length = 8 then (ofParts head []).map (·, rest)
  else if dotted then none
  else
    let rest ← readChar ':' (← readChar ':' rest)
    let (tail, _, rest) := readGroups (8 - (head.length + 1)) true rest
    (ofParts head tail).map (·, rest)

def isUnspecified (ip : Ipv6) : Bool := ip.groups.all (· = 0)

/-- Whether an address stands for an IPv4 address. -/
def isMapped (ip : Ipv6) : Bool := ip.groups.take 6 = [0, 0, 0, 0, 0, 0xFFFF]

/-- Whether an address is in `ff00::/8`. -/
def isMulticast (ip : Ipv6) : Bool := ip.groups.head?.any fun g => g / 0x100 = 0xFF

/-- Whether an address is in `fe80::/10`, and so means nothing without a scope. -/
def isLinkLocal (ip : Ipv6) : Bool := ip.groups.head?.any fun g => g / 0x40 = 0xFE80 / 0x40

/-- A run of zero groups: where it starts and how long it is. -/
structure ZeroRun where
  start : Nat := 0
  length : Nat := 0
  deriving DecidableEq

/-- The longest run of zero groups from an index on, the first of several; `current` is the run that ends at the index. -/
def longestRun (best current : ZeroRun) (index : Nat) : List UInt16 → ZeroRun
  | [] => best
  | g :: gs =>
    if g = 0 then
      let current : ZeroRun := if current.length = 0 then ⟨index, 1⟩ else ⟨current.start, current.length + 1⟩
      longestRun (if best.length < current.length then current else best) current (index + 1) gs
    else longestRun best {} (index + 1) gs

def renderGroups (gs : List UInt16) : String :=
  Text.joinWith ":" (gs.map fun g => String.ofList (Nat.toDigits 16 g.toNat))

def render (ip : Ipv6) : String :=
  match ip.groups with
  | [0, 0, 0, 0, 0, 0xFFFF, g, h] => "::ffff:" ++ (Ipv4.ofGroups g h).render
  | gs =>
    let run := longestRun {} {} 0 gs
    if 1 < run.length then renderGroups (gs.take run.start) ++ "::" ++ renderGroups (gs.drop (run.start + run.length))
    else renderGroups gs

end Ipv6

/-- An address to listen on. The scope of an IPv6 address is zero where none is named. -/
inductive SocketAddress where
  | v4 (ip : Ipv4) (port : UInt16)
  | v6 (ip : Ipv6) (scope : UInt32) (port : UInt16)
  deriving DecidableEq

namespace SocketAddress

def readPort (cs : List Char) : Option (UInt16 × List Char) := do
  let (n, rest) ← readDecimal 0xFFFF (← readChar ':' cs)
  some (n.toUInt16, rest)

/-- Reads a scope after a percent sign; where none can be read there is none. -/
def readScope (cs : List Char) : UInt32 × List Char :=
  match readChar '%' cs >>= readDecimal 0xFFFFFFFF with
  | some (n, rest) => (n.toUInt32, rest)
  | none => (0, cs)

def readV4 (cs : List Char) : Option (SocketAddress × List Char) := do
  let (ip, rest) ← Ipv4.read cs
  let (port, rest) ← readPort rest
  some (.v4 ip port, rest)

def readV6 (cs : List Char) : Option (SocketAddress × List Char) := do
  let (ip, rest) ← Ipv6.read (← readChar '[' cs)
  let (scope, rest) := readScope rest
  let (port, rest) ← readPort (← readChar ']' rest)
  some (.v6 ip scope port, rest)

/-- Reads an address that is the whole of a text. -/
def parse (cs : List Char) : Option SocketAddress :=
  match readV4 cs <|> readV6 cs with
  | some (a, []) => some a
  | _ => none

/-- The address without its port and scope. -/
def host : SocketAddress → String
  | v4 ip _ => ip.render
  | v6 ip _ _ => ip.render

def port : SocketAddress → UInt16
  | v4 _ port | v6 _ _ port => port

def isV6 : SocketAddress → Bool
  | v4 _ _ => false
  | v6 _ _ _ => true

def render : SocketAddress → String
  | v4 ip port => ip.render ++ ":" ++ toString port
  | v6 ip scope port =>
    "[" ++ ip.render ++ (if scope = 0 then "" else "%" ++ toString scope) ++ "]:" ++ toString port

end SocketAddress

end VolumeDriver.Net
