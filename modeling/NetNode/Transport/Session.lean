import NetNode.Transport.Basic
import NetNode.Net.Host

/-!
# A transport used on its own

A session drives one transport without a node: bind its socket, classify failures with the
bound source's rules, exchange a payload through a client, release the processor, cancel the
token handed to processing, and drop the socket. On the isolated host a client never gets
through, so an exchange ends with the client's failure before the source sees anything.

A bound TCP processor numbers its connections from 1; a bound UDP processor answers through a
responder that holds the socket until it is released.
-/

namespace NetNode

open NetNode.Os NetNode.Address NetNode.Net

/-- The processor side of a bound socket: the bound address, the socket's descriptor, whether
the processor was released, and the next connection number. -/
structure BoundSocket where
  address : SocketAddress
  fd : Nat
  released : Bool := false
  nextId : Nat := 1
  deriving DecidableEq, Inhabited, Repr

/-- The number of send locks of a UDP responder. -/
def sendStripes : Nat := 64

/-- The one-line description of a bound transport's processor. -/
def BoundSocket.describe (t : Transport) (b : BoundSocket) : String :=
  match t with
  | .tcp _ => s!"ConnectionProcessor \x7b local_addr: {b.address.text}, next_id: {b.nextId}, .. \x7d"
  | .udp .. =>
    let socket :=
      if b.released then "None"
      else s!"Some(PollEvented \x7b io: Some(UdpSocket \x7b addr: {b.address.text}, fd: {b.fd} \x7d) \x7d)"
    s!"DatagramProcessor \x7b responder: Responder \x7b socket: {socket}, stripes: {sendStripes} \x7d, .. \x7d"

/-- A request on a transport. -/
inductive TransportRequest where
  | info
  | describe
  | bind
  | classify (error : IoError)
  | exchange (payload : List UInt8) (reply : Bool)
  | release
  | describeProcessor
  | cancel
  | unbind
  deriving Inhabited

/-- The answer to a request on a transport. -/
inductive TransportReply where
  | info (transport : Transport)
  | described (text : String)
  | bound (result : Except NodeError Unit)
  | classified (c : SocketClass)
  /-- The client failed with this error. -/
  | exchanged (error : IoError)
  | done
  | skipped (reason : String)
  deriving Inhabited

/-- A transport, the host, the bound socket if any, and whether the processing token is
cancelled. -/
structure TransportSession where
  transport : Transport
  host : Host := {}
  bound : Option BoundSocket := none
  cancelled : Bool := false
  deriving Inhabited

/-- The reason given by requests that need a bound socket. -/
def notBound : String := "not bound"

/-- Answer one request. A new bind happens while the old socket, if any, is still open. -/
def TransportSession.handle (s : TransportSession) : TransportRequest → TransportSession × TransportReply
  | .info => (s, .info s.transport)
  | .describe => (s, .described s.transport.describe)
  | .bind =>
    let taken := (s.bound.map (·.address)).toList
    match s.transport.bind s.host taken with
    | .error e => (s, .bound (.error (.bind s.transport.address e)))
    | .ok (a, fd, h) => ({ s with host := h, bound := some { address := a, fd } }, .bound (.ok ()))
  | .classify e =>
    match s.bound with
    | none => (s, .skipped notBound)
    | some _ => (s, .classified (s.transport.classify e))
  | .exchange _ _ =>
    match s.bound with
    | none => (s, .skipped notBound)
    | some _ => (s, .exchanged unreachable)
  | .release => ({ s with bound := s.bound.map fun b => { b with released := true } }, .done)
  | .describeProcessor =>
    match s.bound with
    | none => (s, .skipped notBound)
    | some b => (s, .described (b.describe s.transport))
  | .cancel => ({ s with cancelled := true }, .done)
  | .unbind => ({ s with bound := none }, .done)

end NetNode
