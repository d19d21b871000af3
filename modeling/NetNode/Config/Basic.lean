import NetNode.Address.Basic
import NetNode.Error.Basic

/-!
# Node configurations

Options of a TCP node, of a UDP node and of logging, and the whole configuration that names
which nodes run. Every option but the address has a default. `validate` checks each limit and
reports the first that fails, TCP before UDP before logging.
-/

namespace NetNode

open NetNode.Address

/-- The largest number of permits a counting semaphore holds. -/
def maxPermits : Nat := 2305843009213693951

/-- The largest UDP payload. -/
def maxDatagramSize : Nat := 65535

/-- The largest 64-bit unsigned integer. -/
def wordMax : Nat := 18446744073709551615

/-- The number of processors of the machine the program runs on: at least one, and a count
that fits the machine's word. A UDP node has one worker per processor unless told otherwise. -/
structure Processors where
  count : Nat
  pos : 0 < count
  fits : count ≤ wordMax
  deriving DecidableEq, Repr

/-- The largest signed 64-bit integer: no allocation may take more bytes. -/
def isizeMax : Nat := 9223372036854775807

/-- The most values of `size` bytes, aligned to `align`, that one allocation lays out; asking
for more panics with a capacity overflow before anything is allocated. -/
def layoutMax (size align : Nat) : Nat := (isizeMax - (align - 1)) / size

/-- A span of time in whole seconds and nanoseconds. -/
structure Span where
  secs : Nat
  nanos : Nat
  deriving DecidableEq, Inhabited, Repr

/-- A span of milliseconds. -/
def Span.ofMillis (ms : Nat) : Span := ⟨ms / 1000, ms % 1000 * 1000000⟩

/-- Whole milliseconds of a span, kept to 64 bits as a stored timeout is. -/
def Span.millisWord (s : Span) : Nat := (s.secs * 1000 + s.nanos / 1000000) % Nat.pow 2 64

/-- Options of a TCP node. -/
structure TcpConfig where
  address : SocketAddress
  maxConcurrentConnections : Nat := 256
  queueCapacity : Nat := 1024
  backlog : Nat := 1024
  stopTimeoutMs : Nat := 30000
  deriving DecidableEq, Inhabited, Repr

/-- Options of a UDP node. -/
structure UdpConfig where
  address : SocketAddress
  workers : Nat
  maxConcurrency : Nat := 1024
  queueCapacity : Nat := 4096
  receiveBufferSize : Nat := maxDatagramSize
  bufferPoolCapacity : Nat := 1024
  stopTimeoutMs : Nat := 30000
  deriving DecidableEq, Inhabited, Repr

/-- Options of logging. -/
structure LogConfig where
  level : String := "info"
  format : String := "json"
  timestamps : Bool := true
  target : Bool := true
  deriving DecidableEq, Inhabited, Repr

/-- A whole configuration: which nodes run, and logging. -/
structure Config where
  tcp : Option TcpConfig := none
  udp : Option UdpConfig := none
  log : LogConfig := {}
  deriving DecidableEq, Inhabited, Repr

/-- A TCP node on `address` with every other option at its default. -/
def TcpConfig.new (address : SocketAddress) : TcpConfig := { address }

/-- A UDP node on `address` with every other option at its default: one worker per processor. -/
def UdpConfig.new (cpus : Processors) (address : SocketAddress) : UdpConfig :=
  { address, workers := cpus.count }

/-- The stop timeout of a TCP node as a span. -/
def TcpConfig.stopTimeout (c : TcpConfig) : Span := .ofMillis c.stopTimeoutMs

/-- The stop timeout of a UDP node as a span. -/
def UdpConfig.stopTimeout (c : UdpConfig) : Span := .ofMillis c.stopTimeoutMs

/-- Set a TCP node's stop timeout; milliseconds beyond 64 bits wrap. -/
def TcpConfig.withStopTimeout (c : TcpConfig) (s : Span) : TcpConfig :=
  { c with stopTimeoutMs := s.millisWord }

/-- Set a UDP node's stop timeout; milliseconds beyond 64 bits wrap. -/
def UdpConfig.withStopTimeout (c : UdpConfig) (s : Span) : UdpConfig :=
  { c with stopTimeoutMs := s.millisWord }

/-- A limit on one count of a node's options: the option's path in the configuration, the
largest value it may take when it has an upper bound, and the count. Every count must also be
at least 1. -/
structure Limit where
  option : String
  most : Option Nat := none
  value : Nat
  deriving DecidableEq, Inhabited, Repr

/-- Whether the count lies within its limit. -/
def Limit.holds (l : Limit) : Bool := 0 < l.value && l.most.all (l.value ≤ ·)

/-- The refusal of a count outside its limit; it names the option, and the range when the
count has an upper bound. -/
def Limit.refusal : Limit → ConfigError
  | ⟨option, none, _⟩ => .validation s!"{option} must be greater than 0"
  | ⟨option, some most, _⟩ => .validation s!"{option} must be between 1 and {most}"

/-- Check one count against its limit. -/
def Limit.check (l : Limit) : Except ConfigError Unit :=
  if l.holds then .ok () else .error l.refusal

/-- Check counts in order; the first outside its limit is reported. -/
def checkLimits : List Limit → Except ConfigError Unit
  | [] => .ok ()
  | l :: ls => do
    l.check
    checkLimits ls

/-- The limits on a TCP node's counts, in the order they are checked. -/
def TcpConfig.limits (c : TcpConfig) : List Limit :=
  [{ option := "tcp.max_concurrent_connections", value := c.maxConcurrentConnections },
   { option := "tcp.queue_capacity", value := c.queueCapacity },
   { option := "tcp.backlog", value := c.backlog }]

/-- The limits on a UDP node's counts, in the order they are checked: the concurrency is
bounded by what a semaphore holds, the receive size by the largest datagram. -/
def UdpConfig.limits (c : UdpConfig) : List Limit :=
  [{ option := "udp.workers", value := c.workers },
   { option := "udp.max_concurrency", most := some maxPermits, value := c.maxConcurrency },
   { option := "udp.queue_capacity", value := c.queueCapacity },
   { option := "udp.receive_buffer_size", most := some maxDatagramSize,
     value := c.receiveBufferSize },
   { option := "udp.buffer_pool_capacity", value := c.bufferPoolCapacity }]

/-- Check a TCP node's limits. -/
def TcpConfig.validate (c : TcpConfig) : Except ConfigError Unit := checkLimits c.limits

/-- Check a UDP node's limits. -/
def UdpConfig.validate (c : UdpConfig) : Except ConfigError Unit := checkLimits c.limits

/-- Check the logging options: the format is `json` or `text`. -/
def LogConfig.validate (c : LogConfig) : Except ConfigError Unit :=
  if c.format = "json" ∨ c.format = "text" then .ok ()
  else .error (.validation s!"log.format must be \"json\" or \"text\", got \"{c.format}\"")

/-- The refusal of a configuration that runs no node. -/
def noNodeConfigured : ConfigError := .validation "At least one of tcp or udp must be configured"

/-- Check a whole configuration: some node runs, then each part in turn. -/
def Config.validate (c : Config) : Except ConfigError Unit := do
  if c.tcp.isNone && c.udp.isNone then throw noNodeConfigured
  if let some t := c.tcp then t.validate
  if let some u := c.udp then u.validate
  c.log.validate

/-- The configuration written when asked for a default one: both nodes on the loopback
address, TCP on port 7000 and UDP on port 7001. -/
def Config.standard (cpus : Processors) : Config :=
  { tcp := some (.new (.loopback 7000)), udp := some (.new cpus (.loopback 7001)) }

end NetNode
