/-!
# Socket addresses

A socket address is an IP address, a port and, for version 6, a numeric scope. This module
holds the type and its text: version 4 in dotted decimal, version 6 in brackets with groups
in lowercase hexadecimal, the longest run of two or more zero groups written `::`, and an
address that maps a version 4 address written `::ffff:a.b.c.d`.
-/

namespace NetNode.Address

/-- An IP address: four octets, or eight 16-bit groups. -/
inductive Ip where
  | v4 (a b c d : Nat)
  | v6 (groups : List Nat)
  deriving DecidableEq, Inhabited, Repr

/-- A socket address; the scope is used by version 6 only and is 0 when absent. -/
structure SocketAddress where
  ip : Ip
  port : Nat
  scope : Nat := 0
  deriving DecidableEq, Inhabited, Repr

/-- Lowercase hexadecimal digits of a number, without leading zeros. -/
def hexText (n : Nat) : String := String.ofList (Nat.toDigits 16 n)

/-- Groups joined by colons. -/
def groupsText (gs : List Nat) : String := ":".intercalate (gs.map hexText)

/-- One group in the search for the longest run of zero groups: the longest run so far, the
run that ends at this group, and the group's index, each run as start and length. -/
def zeroRunStep : (Nat × Nat) × (Nat × Nat) × Nat → Nat → (Nat × Nat) × (Nat × Nat) × Nat
  | (best, (start, len), i), g =>
    if g = 0 then
      let cur := if len = 0 then (i, 1) else (start, len + 1)
      (if cur.2 > best.2 then cur else best, cur, i + 1)
    else (best, (0, 0), i + 1)

/-- The first longest run of zero groups, as start and length. -/
def longestZeroRun (gs : List Nat) : Nat × Nat := (gs.foldl zeroRunStep ((0, 0), (0, 0), 0)).1

/-- Text of a version 6 address. -/
def v6Text (gs : List Nat) : String :=
  match gs with
  | [0, 0, 0, 0, 0, 0xffff, ab, cd] =>
    s!"::ffff:{ab / 256}.{ab % 256}.{cd / 256}.{cd % 256}"
  | _ =>
    let (start, len) := longestZeroRun gs
    if len > 1 then groupsText (gs.take start) ++ "::" ++ groupsText (gs.drop (start + len))
    else groupsText gs

/-- Text of an IP address. -/
def Ip.text : Ip → String
  | .v4 a b c d => s!"{a}.{b}.{c}.{d}"
  | .v6 gs => v6Text gs

/-- Text of a socket address: `a.b.c.d:port`, `[ip]:port` or `[ip%scope]:port`. -/
def SocketAddress.text (s : SocketAddress) : String :=
  match s.ip with
  | .v4 .. => s!"{s.ip.text}:{s.port}"
  | .v6 _ =>
    if s.scope = 0 then s!"[{s.ip.text}]:{s.port}"
    else s!"[{s.ip.text}%{s.scope}]:{s.port}"

/-- The same address with another port. -/
def SocketAddress.withPort (s : SocketAddress) (port : Nat) : SocketAddress := { s with port }

/-- `127.0.0.1` with a port. -/
def SocketAddress.loopback (port : Nat) : SocketAddress := ⟨.v4 127 0 0 1, port, 0⟩

end NetNode.Address
