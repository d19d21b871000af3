import NetNode.Config.Basic
import NetNode.Json.Schema.Text
import NetNode.Json.Schema.Tree
import NetNode.Json.Read

/-!
# Reading configurations

The fields of each configuration record, in declaration order, and the readers built from
them: from JSON text, with every failure placed at its line and column, and from a JSON value.
Counts are 64-bit (`usize`, `u64`), the backlog is 32-bit (`u32`).
-/

namespace NetNode

open NetNode.Json NetNode.Address

variable {σ : Type}

/-- The largest 32-bit unsigned integer. -/
def halfWordMax : Nat := 4294967295

/-- The address read from text, as a change to a record. -/
def textAddress (set : SocketAddress → σ → σ) : Json.TextReader (σ → σ) := fun c =>
  (readAddress c).map fun (a, c') => (set a, c')

/-- A count read from text, as a change to a record. -/
def textCount (expected : String) (limit : Nat) (set : Nat → σ → σ) :
    Json.TextReader (σ → σ) := fun c =>
  (readUnsigned expected limit c).map fun (n, c') => (set n, c')

/-- The fields of a TCP node's options, as text. -/
def TcpConfig.textFields : List (TextField TcpConfig) :=
  [⟨"address", true, textAddress fun a c => { c with address := a }⟩,
   ⟨"max_concurrent_connections", false,
     textCount "usize" wordMax fun n c => { c with maxConcurrentConnections := n }⟩,
   ⟨"queue_capacity", false, textCount "usize" wordMax fun n c => { c with queueCapacity := n }⟩,
   ⟨"backlog", false, textCount "u32" halfWordMax fun n c => { c with backlog := n }⟩,
   ⟨"stop_timeout_ms", false, textCount "u64" wordMax fun n c => { c with stopTimeoutMs := n }⟩]

/-- The fields of a UDP node's options, as text. -/
def UdpConfig.textFields : List (TextField UdpConfig) :=
  [⟨"address", true, textAddress fun a c => { c with address := a }⟩,
   ⟨"workers", false, textCount "usize" wordMax fun n c => { c with workers := n }⟩,
   ⟨"max_concurrency", false, textCount "usize" wordMax fun n c => { c with maxConcurrency := n }⟩,
   ⟨"queue_capacity", false, textCount "usize" wordMax fun n c => { c with queueCapacity := n }⟩,
   ⟨"receive_buffer_size", false,
     textCount "usize" wordMax fun n c => { c with receiveBufferSize := n }⟩,
   ⟨"buffer_pool_capacity", false,
     textCount "usize" wordMax fun n c => { c with bufferPoolCapacity := n }⟩,
   ⟨"stop_timeout_ms", false, textCount "u64" wordMax fun n c => { c with stopTimeoutMs := n }⟩]

/-- The fields of the logging options, as text. -/
def LogConfig.textFields : List (TextField LogConfig) :=
  [⟨"level", false, fun c => (readText "a string" c).map fun (s, c') => (({ · with level := s }), c')⟩,
   ⟨"format", false,
     fun c => (readText "a string" c).map fun (s, c') => (({ · with format := s }), c')⟩,
   ⟨"timestamps", false,
     fun c => (readBoolean c).map fun (b, c') => (({ · with timestamps := b }), c')⟩,
   ⟨"target", false, fun c => (readBoolean c).map fun (b, c') => (({ · with target := b }), c')⟩]

/-- Read a TCP node's options from text. -/
def TcpConfig.readText : Json.TextReader TcpConfig :=
  readRecord "TcpNodeConfig" TcpConfig.textFields (.new default)

/-- Read a UDP node's options from text. -/
def UdpConfig.readText (cpus : Processors) : Json.TextReader UdpConfig :=
  readRecord "UdpNodeConfig" UdpConfig.textFields (.new cpus default)

/-- Read the logging options from text. -/
def LogConfig.readText : Json.TextReader LogConfig := readRecord "LogConfig" LogConfig.textFields {}

/-- The fields of a whole configuration, as text. -/
def Config.textFields (cpus : Processors) : List (TextField Config) :=
  [⟨"tcp", false,
     fun c => (readOptional TcpConfig.readText c).map fun (t, c') => (({ · with tcp := t }), c')⟩,
   ⟨"udp", false,
     fun c => (readOptional (UdpConfig.readText cpus) c).map fun (u, c') =>
       (({ · with udp := u }), c')⟩,
   ⟨"log", false, fun c => (LogConfig.readText c).map fun (l, c') => (({ · with log := l }), c')⟩]

/-- Read a whole configuration from a JSON document, with nothing but blanks after it. The
failure is the message with its line and column. -/
def Config.parseText (cpus : Processors) (text : String) : Except String Config :=
  let run : Except Failure Config := do
    let (cfg, c) ← readRecord "Config" (Config.textFields cpus) {} (Cursor.start text)
    let c := c.skipBlank
    match c.peek? with
    | none => pure cfg
    | some _ => throw (c.failAhead .trailingCharacters)
  run.mapError (·.render text.toList)

/-- The fields of a TCP node's options, as a value. -/
def TcpConfig.treeFields : List (TreeField TcpConfig) :=
  [⟨"address", true, fun v => (treeAddress v).map fun a c => { c with address := a }⟩,
   ⟨"max_concurrent_connections", false,
     fun v => (treeUnsigned "usize" wordMax v).map fun n c => { c with maxConcurrentConnections := n }⟩,
   ⟨"queue_capacity", false,
     fun v => (treeUnsigned "usize" wordMax v).map fun n c => { c with queueCapacity := n }⟩,
   ⟨"backlog", false,
     fun v => (treeUnsigned "u32" halfWordMax v).map fun n c => { c with backlog := n }⟩,
   ⟨"stop_timeout_ms", false,
     fun v => (treeUnsigned "u64" wordMax v).map fun n c => { c with stopTimeoutMs := n }⟩]

/-- The fields of a UDP node's options, as a value. -/
def UdpConfig.treeFields : List (TreeField UdpConfig) :=
  [⟨"address", true, fun v => (treeAddress v).map fun a c => { c with address := a }⟩,
   ⟨"workers", false, fun v => (treeUnsigned "usize" wordMax v).map fun n c => { c with workers := n }⟩,
   ⟨"max_concurrency", false,
     fun v => (treeUnsigned "usize" wordMax v).map fun n c => { c with maxConcurrency := n }⟩,
   ⟨"queue_capacity", false,
     fun v => (treeUnsigned "usize" wordMax v).map fun n c => { c with queueCapacity := n }⟩,
   ⟨"receive_buffer_size", false,
     fun v => (treeUnsigned "usize" wordMax v).map fun n c => { c with receiveBufferSize := n }⟩,
   ⟨"buffer_pool_capacity", false,
     fun v => (treeUnsigned "usize" wordMax v).map fun n c => { c with bufferPoolCapacity := n }⟩,
   ⟨"stop_timeout_ms", false,
     fun v => (treeUnsigned "u64" wordMax v).map fun n c => { c with stopTimeoutMs := n }⟩]

/-- Read a TCP node's options from a value. -/
def TcpConfig.ofValue : TreeReader TcpConfig :=
  treeRecord "TcpNodeConfig" TcpConfig.treeFields (.new default)

/-- Read a UDP node's options from a value. -/
def UdpConfig.ofValue (cpus : Processors) : TreeReader UdpConfig :=
  treeRecord "UdpNodeConfig" UdpConfig.treeFields (.new cpus default)

end NetNode
