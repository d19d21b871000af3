import NetNode.Address.Basic
import NetNode.Os.IoError

/-!
# An isolated host

The host the nodes run on has no route to anywhere: a socket binds to any version 4 address,
whether the host owns it or not, an ephemeral port is chosen for port 0, and a port already
bound for the same protocol on an overlapping address is refused with `EADDRINUSE`; but every
connection a client opens and every datagram it sends fails with `ENETUNREACH`. The program
runs unprivileged, so a port below 1024 other than 0 is refused with `EACCES`.

Version 6 addresses follow the kernel's rules: a stream socket cannot bind a multicast
address (`EINVAL`); then comes the privileged port check; a version 6 address carrying a
version 4 one binds as that address does; a link-local address, or a multicast address of
interface-local or link-local scope, needs a scope naming an interface (`EINVAL` without one,
`ENODEV` for any interface but the loopback one, number 1); and of the unicast addresses only
the wildcard and the loopback address `::1` belong to the host, any other one is refused with
`EADDRNOTAVAIL`. No unit of work ever reaches a node over the network, so a node's statistics
move only by its own scripted sources.

Ephemeral ports are handed out in increasing order from 32768, skipping ports in use, and
each socket gets the next descriptor number from 3 on. The host keeps the backlog each listening
socket asked for, saturated to a 32-bit signed integer as the call takes it.
-/

namespace NetNode.Net

open NetNode.Os NetNode.Address

/-- A transport protocol. -/
inductive Proto where
  | tcp
  | udp
  deriving DecidableEq, Inhabited, Repr

/-- The first ephemeral port. -/
def firstEphemeral : Nat := 32768

/-- The host's next ephemeral port and next descriptor, and every listen call made: the
socket's descriptor and the backlog handed to the kernel. -/
structure Host where
  nextPort : Nat := firstEphemeral
  nextFd : Nat := 3
  listens : List (Nat × Nat) := []
  deriving DecidableEq, Inhabited, Repr

/-- The wildcard address of either family. -/
def unspecified : Ip → Bool
  | .v4 0 0 0 0 => true
  | .v6 gs => gs.all (· = 0)
  | _ => false

/-- Two bindings collide when they share a port and their addresses are equal or one is the
wildcard. -/
def collides (a b : SocketAddress) : Bool :=
  a.port == b.port && (a.ip == b.ip || unspecified a.ip || unspecified b.ip)

/-- The first port from `start` on that no binding in `taken` uses at `ip`; among
`taken.length + 1` candidates one is always free. -/
def freePort (taken : List SocketAddress) (ip : Ip) (start : Nat) : Nat :=
  let candidates := (List.range (taken.length + 1)).map (start + ·)
  (candidates.find? fun p => !taken.any (collides ⟨ip, p, 0⟩)).getD start

/-- The first port that an unprivileged process may bind. -/
def firstUnprivileged : Nat := 1024

/-- Whether binding a port needs privileges: port 0 asks for an ephemeral port and never does. -/
def privileged (port : Nat) : Bool := port != 0 && port < firstUnprivileged

/-- The version 6 loopback address `::1`, the only version 6 unicast address of the host. -/
def loopback6 : List Nat := [0, 0, 0, 0, 0, 0, 0, 1]

/-- The loopback interface's number, the only interface of the host. -/
def loopbackIndex : Nat := 1

/-- Whether a version 6 address carries a version 4 address (`::ffff:a.b.c.d`). -/
def mappedV4 (gs : List Nat) : Bool := gs.take 6 == [0, 0, 0, 0, 0, 0xffff]

/-- Whether a version 6 address is multicast (`ff00::/8`). -/
def multicast6 (gs : List Nat) : Bool := (gs.headD 0) / 256 == 0xff

/-- Whether binding a version 6 address needs an interface: link-local unicast
(`fe80::/10`), or multicast of interface-local or link-local scope. -/
def needsScope (gs : List Nat) : Bool :=
  let first := gs.headD 0
  first / 64 == 0xfe80 / 64 || (multicast6 gs && (first % 16 == 1 || first % 16 == 2))

/-- Why an address cannot be bound for a protocol, whatever ports are in use. -/
def bindRefusal? (proto : Proto) (addr : SocketAddress) : Option Int :=
  match addr.ip with
  | .v4 .. => if privileged addr.port then some EACCES else none
  | .v6 gs =>
    if multicast6 gs && proto == .tcp then some EINVAL
    else if privileged addr.port then some EACCES
    else if mappedV4 gs || gs.all (· = 0) then none
    else if needsScope gs && addr.scope = 0 then some EINVAL
    else if needsScope gs && addr.scope ≠ loopbackIndex then some ENODEV
    else if multicast6 gs || gs == loopback6 then none
    else some EADDRNOTAVAIL

/-- Bind a socket for `proto` at `addr` given the addresses already bound for the protocol:
the bound address (its port chosen when 0), the socket's descriptor and the host after. -/
def Host.bind (h : Host) (proto : Proto) (taken : List SocketAddress) (addr : SocketAddress) :
    Except IoError (SocketAddress × Nat × Host) :=
  if let some errno := bindRefusal? proto addr then .error (.os errno)
  else if addr.port = 0 then
    let port := freePort taken addr.ip h.nextPort
    .ok ({ addr with port }, h.nextFd, { h with nextPort := port + 1, nextFd := h.nextFd + 1 })
  else if taken.any (collides addr) then .error (.os EADDRINUSE)
  else .ok (addr, h.nextFd, { h with nextFd := h.nextFd + 1 })

/-- The largest 32-bit signed integer. -/
def i32Max : Nat := 2147483647

/-- The backlog a listening socket hands the kernel: the one asked for, or the largest 32-bit
signed integer when it does not fit in one. -/
def listenBacklog (backlog : Nat) : Nat := min backlog i32Max

/-- A bound stream socket listens with a backlog. -/
def Host.listen (h : Host) (fd backlog : Nat) : Host :=
  { h with listens := h.listens ++ [(fd, listenBacklog backlog)] }

/-- What every client connection and every datagram a client sends ends with. -/
def unreachable : IoError := .os ENETUNREACH

end NetNode.Net
