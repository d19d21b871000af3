import NetNode.Config.Decode
import NetNode.Address.Parse
import NetNode.Files.Tree

/-!
# Loading a configuration

A configuration comes from the text of a file, is checked, and may then be changed by four
environment variables: the TCP and UDP addresses (each only when that node is configured), the
log level, and one count that sets both the TCP worker count and the UDP concurrency. The
changed configuration is checked again.
-/

namespace NetNode

open NetNode.Address NetNode.Os

/-- The variable that moves the TCP node. -/
def envTcpAddr : String := "NODE_RUNTIME_TCP_ADDR"

/-- The variable that moves the UDP node. -/
def envUdpAddr : String := "NODE_RUNTIME_UDP_ADDR"

/-- The variable that sets the log level. -/
def envLogLevel : String := "NODE_RUNTIME_LOG_LEVEL"

/-- The variable that sets the TCP worker count and the UDP concurrency. -/
def envMaxConcurrency : String := "NODE_RUNTIME_MAX_CONCURRENCY"

/-- Read a 64-bit unsigned count: an optional `+`, then one or more ASCII digits. -/
def parseCount? (s : String) : Option Nat :=
  let cs := s.toList
  let digits := match cs with
    | '+' :: rest => rest
    | _ => cs
  if digits.isEmpty || !digits.all (fun ch => '0' ≤ ch && ch ≤ '9') then none
  else
    let n := digits.foldl (fun acc ch => acc * 10 + (ch.toNat - 48)) 0
    if n ≤ wordMax then some n else none

/-- An address from a variable, or the error naming it. -/
def envAddress (name value : String) : Except ConfigError SocketAddress :=
  match SocketAddress.parse? value with
  | some a => .ok a
  | none => .error (.env name s!"Invalid socket address: {value}")

/-- Move a node to the address a variable holds. Nothing happens when the node is not
configured, and its variable is then not read; nor when the variable is unset. A value that is
no address is refused with the variable's name. -/
def overrideAddress {α : Type} (name : String) (value : Option String)
    (setAddress : α → SocketAddress → α) : Option α → Except ConfigError (Option α)
  | some n =>
    match value with
    | some v => (envAddress name v).map fun a => some (setAddress n a)
    | none => .ok (some n)
  | none => .ok none

/-- Read the count variable, when it is set: a 64-bit count, or the error naming it. -/
def overrideCount : Option String → Except ConfigError (Option Nat)
  | some v =>
    match parseCount? v with
    | some n => .ok (some n)
    | none => .error (.env envMaxConcurrency s!"Invalid number: {v}")
  | none => .ok none

/-- Apply the variables found by `lookup`, in order, then check the result: the TCP address,
the UDP address, the log level, which takes any value, and the count, which sets the TCP worker
count and the UDP concurrency of the nodes configured. -/
def Config.applyEnv (c : Config) (lookup : String → Option String) : Except ConfigError Config := do
  let tcp ← overrideAddress envTcpAddr (lookup envTcpAddr) (fun t a => { t with address := a }) c.tcp
  let udp ← overrideAddress envUdpAddr (lookup envUdpAddr) (fun u a => { u with address := a }) c.udp
  let level := (lookup envLogLevel).getD c.log.level
  let count ← overrideCount (lookup envMaxConcurrency)
  let c : Config :=
    { tcp := tcp.map fun t => { t with maxConcurrentConnections := count.getD t.maxConcurrentConnections }
      udp := udp.map fun u => { u with maxConcurrency := count.getD u.maxConcurrency }
      log := { c.log with level } }
  c.validate
  return c

/-- Read and check a configuration given as JSON text. -/
def Config.load (cpus : Processors) (text : String) : Except ConfigError Config := do
  let c ← (Config.parseText cpus text).mapError ConfigError.parse
  c.validate
  return c

/-- The failure of reading a file whose bytes are not UTF-8. -/
def notUtf8 : IoError := .custom .invalidData "stream did not contain valid UTF-8"

/-- Load the configuration file at `path` in the file tree `fs`: a path that names nothing is
reported as not found; the file must then be read, and its bytes must be UTF-8; a parse failure
names the path. -/
def Config.loadFile (cpus : Processors) (fs : Files.Tree) (path : String) :
    Except ConfigError Config := do
  if !fs.exists path then throw (.fileNotFound path)
  let bytes ← (fs.read path).mapError ConfigError.io
  let some text := String.fromUTF8? bytes | throw (.io notUtf8)
  let c ← (Config.parseText cpus text).mapError fun m =>
    ConfigError.parse s!"Failed to parse JSON: {m} at {Text.Quote.quote path}"
  c.validate
  return c

/-- Load a configuration file, then apply the environment. -/
def Config.loadFileWithEnv (cpus : Processors) (fs : Files.Tree) (path : String)
    (lookup : String → Option String) : Except ConfigError Config := do
  (← Config.loadFile cpus fs path).applyEnv lookup

end NetNode
