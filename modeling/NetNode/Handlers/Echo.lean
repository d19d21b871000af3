import NetNode.Transport.Process

/-!
# The echo handlers

The program's protocol handlers. The stream echo writes back every byte a connection sends, one
read at a time, until the end of the stream or the cancellation of its call; it counts the bytes
it echoed. The datagram echo sends each datagram back to its sender through the node's
responder.

What the sockets do is given, not run, as for the processors: each turn of the stream echo's
loop ends as the peer and the runtime make it end (a `Wake`), and a send on the node's socket
ends as the host makes it end.
-/

namespace NetNode.Echo

open NetNode.Os NetNode.Address

/-- How one turn of the stream echo's loop ends. Its read returns the bytes the peer sent next,
at most the 16 KiB of its buffer and none at the end of the stream, and writing them back either
succeeds or fails with an error after the first `sent` of them went out; or the read fails; or
the cancellation of the call comes first. -/
inductive Wake where
  | read (bytes : List UInt8) (writeFailure : Option (Nat × IoError) := none)
  | readFailed (error : IoError)
  | cancelled
  deriving DecidableEq, Inhabited, Repr

/-- The stream echo: the bytes it wrote back, and its count of bytes echoed. -/
structure StreamEcho where
  written : List UInt8 := []
  echoed : Nat := 0
  deriving DecidableEq, Inhabited, Repr

/-- The stream echo's loop over the turns the connection gives it: how the call ends, or none
while it still waits, and the echo after. A read of no bytes ends the call; the bytes of a read
are written back whole and counted before the next turn; a failure of a read or a write ends the
call with that I/O error, the bytes not yet counted. -/
def StreamEcho.run (s : StreamEcho) : List Wake → Option (Except HandlerError Unit) × StreamEcho
  | [] => (none, s)
  | .cancelled :: _ => (some (.error .cancelled), s)
  | .readFailed e :: _ => (some (.error (.io e)), s)
  | .read [] _ :: _ => (some (.ok ()), s)
  | .read (b :: bs) none :: rest =>
    StreamEcho.run { written := s.written ++ b :: bs, echoed := s.echoed + (b :: bs).length } rest
  | .read (b :: bs) (some (sent, e)) :: _ =>
    (some (.error (.io e)), { s with written := s.written ++ (b :: bs).take sent })

/-- The stream echo as a processor sees it: its `handle` ends as the loop ended, and its
`close` is the default one, which does nothing. -/
def StreamEcho.handler (result : Except HandlerError Unit) : Handler :=
  { handle := match result with
      | .ok () => .ok
      | .error e => .error e }

/-- A datagram the node sends: its payload and where it goes. -/
structure Outgoing where
  payload : List UInt8
  peer : SocketAddress
  deriving DecidableEq, Inhabited, Repr

/-- The failure of a send once the run that owned the node's socket has stopped. -/
def socketClosed : IoError := .custom .notConnected "node socket is closed"

/-- A send through the responder of a bound socket: refused, sending nothing, once the processor
is released; otherwise the socket sends the datagram, ending as `sent` says (the bytes it took,
or its failure, in which case nothing went out). -/
def sendTo (b : BoundSocket) (out : Outgoing) (sent : Except IoError Nat) :
    List Outgoing × Except IoError Nat :=
  if b.released then ([], .error socketClosed)
  else
    match sent with
    | .ok n => ([out], .ok n)
    | .error e => ([], .error e)

/-- The datagram echo: it sends the payload back to its sender through the responder, and fails
with the send's failure as an I/O error. The datagrams that went out, and how the call ends. -/
def echoDatagram (b : BoundSocket) (payload : List UInt8) (peer : SocketAddress)
    (sent : Except IoError Nat) : List Outgoing × Except HandlerError Unit :=
  let out := sendTo b ⟨payload, peer⟩ sent
  (out.1, out.2.map (fun _ => ()) |>.mapError .io)

end NetNode.Echo
