import NetNode.Transport.Session

/-!
# Processing one unit

A bound transport's processor runs a protocol handler over one unit: a TCP connection or a UDP
datagram. It makes a handler with the factory and calls the handler's `handle` inside a panic
boundary. It shuts down a connection's write half, awaits the handler's `close`, and lets the
unit go, a datagram's buffer going back to the pool. It returns what `handle` returned, a panic
caught as a handler error. A TCP processor numbers the connections it serves from a counter its
calls share, one number per call, taken first thing.

What code the runtime does not own does is given, not run: how the handler's `handle` ends, as
a `CallOutcome`, and whether its `close` panics. A call is a `Proc`: it records what it does
that can be seen from outside, in order, and a panic may escape it.
-/

namespace NetNode

open NetNode.Address

/-- What a connection's handler is told: the connection's number, the bound address and the
peer. -/
structure ConnectionContext where
  id : Nat
  localAddr : SocketAddress
  remoteAddr : Option SocketAddress
  deriving DecidableEq, Inhabited, Repr

/-- What a processor's call does that can be seen from outside. -/
inductive Effect where
  /-- The handler factory makes a handler. -/
  | create
  /-- The handler's `handle` runs, told its connection's context; a datagram's has none. -/
  | handle (ctx : Option ConnectionContext)
  /-- The connection's write half is flushed and shut down. -/
  | shutdown
  /-- The handler's `close` runs. -/
  | close
  /-- The unit goes: the connection's socket closes, or the datagram's buffer goes back. -/
  | release
  deriving DecidableEq, Inhabited, Repr

/-- A call: it records what it does, and a panic with a payload may escape it. -/
abbrev Proc := ExceptT PanicPayload (StateM (List Effect))

/-- Record an effect. -/
def Proc.emit (e : Effect) : Proc Unit := modify (· ++ [e])

/-- Run `body`, then `after` whether `body` returned or panicked, and pass a panic on: what
unwinding does with the values a function owns. -/
def Proc.finally {α : Type} (body : Proc α) (after : Proc Unit) : Proc α := do
  let r ← tryCatch (Except.ok <$> body) fun p => pure (.error p)
  after
  match r with
  | .ok a => pure a
  | .error p => throw p

/-- A panic boundary: a call that panics returns the handler error its panic is caught as. -/
def catchUnwind (body : Proc (Except HandlerError Unit)) : Proc (Except HandlerError Unit) :=
  tryCatch body fun p => pure (.error (HandlerError.ofPanic p))

/-- A call into code the runtime does not own, ending as given: it returns success or an error,
or it panics. -/
def CallOutcome.call : CallOutcome → Proc (Except HandlerError Unit)
  | .ok => pure (.ok ())
  | .error e => pure (.error e)
  | .panicked p => throw p

/-- A protocol handler as a processor sees it: how its `handle` ends on the unit, and the
payload its `close` panics with, if it does. -/
structure Handler where
  handle : CallOutcome
  closePanic : Option PanicPayload := none
  deriving DecidableEq, Inhabited, Repr

/-- The handler's `close`: it runs, and returns or panics. -/
def Handler.close (h : Handler) : Proc Unit := do
  Proc.emit .close
  match h.closePanic with
  | none => pure ()
  | some p => throw p

/-- The first thing a call on a connection does: take the next number from the counter the
processor's calls share, and read the peer. -/
def BoundSocket.begin (b : BoundSocket) (remote : Option SocketAddress) :
    ConnectionContext × BoundSocket :=
  (⟨b.nextId, b.address, remote⟩, { b with nextId := b.nextId + 1 })

/-- The rest of a call on a connection: make the handler, run it inside the panic boundary,
flush and shut down the write half whatever it did (a failed shutdown is only traced), await
its `close`, and return its result; the connection's socket closes as the call ends, or as a
panic of `close` unwinds it. -/
def serveConnection (ctx : ConnectionContext) (h : Handler) : Proc (Except HandlerError Unit) :=
  Proc.finally
    (do
      Proc.emit .create
      Proc.emit (.handle (some ctx))
      let result ← catchUnwind h.handle.call
      Proc.emit .shutdown
      h.close
      pure result)
    (Proc.emit .release)

/-- A call on a connection: it numbers the connection, then serves it. -/
def BoundSocket.processConnection (b : BoundSocket) (remote : Option SocketAddress)
    (h : Handler) : Proc (Except HandlerError Unit) × BoundSocket :=
  let (ctx, b) := b.begin remote
  (serveConnection ctx h, b)

/-- Calls on connections that begin one after another on a processor, each with its peer and
handler: the call each goes on with, and the processor after. A call shares only the counter
with the others, and takes from it only as it begins, so how the rest of the calls interleave
does not matter. -/
def BoundSocket.beginCalls (b : BoundSocket) :
    List (Option SocketAddress × Handler) → List (Proc (Except HandlerError Unit)) × BoundSocket
  | [] => ([], b)
  | (remote, h) :: calls =>
    let (call, b) := b.processConnection remote h
    let (rest, b) := b.beginCalls calls
    (call :: rest, b)

/-- A call on a datagram: make the handler, run it inside the panic boundary, await its
`close`, and return its result; the datagram's buffer goes back after `close`, or as a panic of
`close` unwinds the call. -/
def processDatagram (h : Handler) : Proc (Except HandlerError Unit) :=
  Proc.finally
    (do
      Proc.emit .create
      Proc.emit (.handle none)
      let result ← catchUnwind h.handle.call
      h.close
      pure result)
    (Proc.emit .release)

end NetNode
