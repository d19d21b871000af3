import NetNode.Os.IoError

/-!
# Classifying socket failures

A failure to accept a connection or receive a datagram is one of three classes: the socket
was closed under the loop (leave quietly), the failure touches one unit only (log and go on),
or the socket is unusable (stop the node). The kind decides first, the raw number second.
-/

namespace NetNode

open NetNode.Os

/-- The class of a socket failure. -/
inductive SocketClass where
  | aborted
  | transient
  | critical
  deriving DecidableEq, Inhabited, Repr

/-- The name of a class. -/
def SocketClass.name : SocketClass → String
  | .aborted => "Aborted"
  | .transient => "Transient"
  | .critical => "Critical"

/-- Rules shared by both sockets, if one applies. -/
def classifyCommon (e : IoError) : Option SocketClass :=
  match e.kind with
  | .permissionDenied | .addrInUse | .addrNotAvailable => some .critical
  | .notConnected => some .aborted
  | _ =>
    match e.rawOs? with
    | some c =>
      if c = EBADF ∨ c = ENOTSOCK ∨ c = ECANCELED then some .aborted
      else if c = ESHUTDOWN ∨ c = ENETDOWN then some .critical
      else none
    | none => none

/-- The class of a failure to accept a connection: a peer that went away is transient, and
an invalid argument means the listener no longer listens. -/
def classifyAccept (e : IoError) : SocketClass :=
  match e.kind with
  | .connectionAborted | .connectionReset | .interrupted => .transient
  | _ =>
    if e.rawOs? = some EINVAL then .aborted
    else (classifyCommon e).getD .transient

/-- The class of a failure to receive a datagram: a refused or reset peer is transient, and
an invalid argument means the socket is broken. -/
def classifyReceive (e : IoError) : SocketClass :=
  match e.kind with
  | .connectionReset | .connectionRefused | .interrupted => .transient
  | _ =>
    if e.rawOs? = some EINVAL then .critical
    else (classifyCommon e).getD .transient

/-- Running out of descriptors, buffers or memory calls for a pause before the next try. -/
def needsBackoff (e : IoError) : Bool :=
  match e.rawOs? with
  | some c => c = EMFILE ∨ c = ENFILE ∨ c = ENOBUFS ∨ c = ENOMEM || e.kind = .outOfMemory
  | none => e.kind = .outOfMemory

end NetNode
