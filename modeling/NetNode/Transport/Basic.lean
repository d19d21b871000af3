import NetNode.Config.Basic
import NetNode.Pool.Basic
import NetNode.Queue.Bounded
import NetNode.Error.Classify
import NetNode.Net.Host

/-!
# Transports

A transport is the socket flavour a node drives: TCP, which accepts connections, or UDP, which
receives datagrams into buffers rented from a pool. It fixes the node's queue policy (a TCP
acceptor waits for room, a UDP receiver evicts the oldest datagram), its worker count, whether
units run inline on a worker or as tasks of their own under a permit limit, the stop timeout,
and which rules classify the socket's failures.

A transport is built from validated options; a UDP transport given its own pool also needs
buffers at least as large as its receive size. Binding a TCP transport's socket also makes it
listen with the configured backlog.
-/

namespace NetNode

open NetNode.Os NetNode.Queue NetNode.Pool NetNode.Address

/-- A socket flavour with its options; a UDP transport owns its buffer pool. -/
inductive Transport where
  | tcp (config : TcpConfig)
  | udp (config : UdpConfig) (pool : BufferPool)
  deriving Inhabited

/-- A TCP transport from options that pass validation. -/
def Transport.ofTcp (c : TcpConfig) : Except ConfigError Transport := do
  c.validate
  pure (.tcp c)

/-- The refusal of a pool whose buffers are smaller than the receive size. -/
def poolTooSmall (size need : Nat) : ConfigError :=
  .validation s!"buffer pool size {size} is smaller than udp.receive_buffer_size {need}"

/-- Why a UDP transport could not be built: its options are refused, or building its pool
panicked with this message. -/
inductive BuildFailure where
  | config (error : ConfigError)
  | panic (message : String)
  deriving DecidableEq, Inhabited, Repr

/-- A UDP transport from options that pass validation, with the given pool or else a fresh
pool of `buffer_pool_capacity` buffers of the receive size; building that pool panics when its
capacity is beyond what a pool can keep. -/
def Transport.ofUdp (c : UdpConfig) (pool : Option BufferPool) : Except BuildFailure Transport := do
  c.validate.mapError .config
  match pool with
  | none =>
    match BufferPool.build c.bufferPoolCapacity c.receiveBufferSize 0 with
    | .ok p => pure (.udp c p)
    | .error m => throw (.panic m)
  | some p =>
    if p.bufferSize < c.receiveBufferSize then
      throw (.config (poolTooSmall p.bufferSize c.receiveBufferSize))
    else pure (.udp c p)

/-- The short name of a transport. -/
def Transport.name : Transport → String
  | .tcp _ => "tcp"
  | .udp .. => "udp"

/-- The protocol of the transport's socket. -/
def Transport.proto : Transport → Net.Proto
  | .tcp _ => .tcp
  | .udp .. => .udp

/-- The configured bind address. -/
def Transport.address : Transport → SocketAddress
  | .tcp c => c.address
  | .udp c _ => c.address

/-- What a push to the full queue does: an acceptor waits, a receiver evicts. -/
def Transport.fullMode : Transport → FullMode
  | .tcp _ => .wait
  | .udp .. => .dropOldest

/-- The queue capacity. -/
def Transport.queueCapacity : Transport → Nat
  | .tcp c => c.queueCapacity
  | .udp c _ => c.queueCapacity

/-- The number of workers. -/
def Transport.workerCount : Transport → Nat
  | .tcp c => c.maxConcurrentConnections
  | .udp c _ => c.workers

/-- The limit on units in flight when units run as tasks of their own; TCP units run inline. -/
def Transport.dispatchLimit : Transport → Option Nat
  | .tcp _ => none
  | .udp c _ => some c.maxConcurrency

/-- The stop timeout in milliseconds. -/
def Transport.stopMillis : Transport → Nat
  | .tcp c => c.stopTimeoutMs
  | .udp c _ => c.stopTimeoutMs

/-- The stop timeout as a span. -/
def Transport.stopTimeout : Transport → Span
  | .tcp c => c.stopTimeout
  | .udp c _ => c.stopTimeout

/-- The class of a socket failure: accept rules for TCP, receive rules for UDP. -/
def Transport.classify : Transport → IoError → SocketClass
  | .tcp _ => classifyAccept
  | .udp .. => classifyReceive

/-- The size of one unit in the queue, in bytes: an accepted stream, or a received datagram
with its pool buffer and its peer's address. -/
def Transport.unitBytes : Transport → Nat
  | .tcp _ => 32
  | .udp .. => 80

/-- Bind the transport's socket on the host, given the addresses already bound: the bound
address, the socket's descriptor and the host after. A TCP socket then listens with the
configured backlog. -/
def Transport.bind (t : Transport) (h : Net.Host) (taken : List SocketAddress) :
    Except IoError (SocketAddress × Nat × Net.Host) :=
  (h.bind t.proto taken t.address).map fun (a, fd, h) =>
    match t with
    | .tcp c => (a, fd, h.listen fd c.backlog)
    | .udp .. => (a, fd, h)

/-- The size of the pool's buffers, for UDP. -/
def Transport.poolBufferSize : Transport → Option Nat
  | .tcp _ => none
  | .udp _ p => some p.bufferSize

/-- The one-line description of TCP options. -/
def TcpConfig.describe (c : TcpConfig) : String :=
  s!"TcpNodeConfig \x7b address: {c.address.text}, max_concurrent_connections: {c.maxConcurrentConnections}, queue_capacity: {c.queueCapacity}, backlog: {c.backlog}, stop_timeout_ms: {c.stopTimeoutMs} \x7d"

/-- The one-line description of UDP options. -/
def UdpConfig.describe (c : UdpConfig) : String :=
  s!"UdpNodeConfig \x7b address: {c.address.text}, workers: {c.workers}, max_concurrency: {c.maxConcurrency}, queue_capacity: {c.queueCapacity}, receive_buffer_size: {c.receiveBufferSize}, buffer_pool_capacity: {c.bufferPoolCapacity}, stop_timeout_ms: {c.stopTimeoutMs} \x7d"

/-- The one-line description of a transport. -/
def Transport.describe : Transport → String
  | .tcp c => s!"TcpTransport \x7b config: {c.describe}, .. \x7d"
  | .udp c p => s!"UdpTransport \x7b config: {c.describe}, pool: {p.describe}, .. \x7d"

end NetNode
