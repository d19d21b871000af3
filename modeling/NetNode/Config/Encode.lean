import NetNode.Config.Basic
import NetNode.Json.Write

/-!
# Writing configurations

A configuration as a JSON value, each record's fields in declaration order under their
option names; the address is written as its text, an absent node as `null`.
-/

namespace NetNode

open NetNode.Json

/-- A TCP node's options as a value. -/
def TcpConfig.toValue (c : TcpConfig) : Value :=
  .obj [("address", .str c.address.text),
        ("max_concurrent_connections", .nat c.maxConcurrentConnections),
        ("queue_capacity", .nat c.queueCapacity),
        ("backlog", .nat c.backlog),
        ("stop_timeout_ms", .nat c.stopTimeoutMs)]

/-- A UDP node's options as a value. -/
def UdpConfig.toValue (c : UdpConfig) : Value :=
  .obj [("address", .str c.address.text),
        ("workers", .nat c.workers),
        ("max_concurrency", .nat c.maxConcurrency),
        ("queue_capacity", .nat c.queueCapacity),
        ("receive_buffer_size", .nat c.receiveBufferSize),
        ("buffer_pool_capacity", .nat c.bufferPoolCapacity),
        ("stop_timeout_ms", .nat c.stopTimeoutMs)]

/-- The logging options as a value. -/
def LogConfig.toValue (c : LogConfig) : Value :=
  .obj [("level", .str c.level), ("format", .str c.format),
        ("timestamps", .bool c.timestamps), ("target", .bool c.target)]

/-- A whole configuration as a value. -/
def Config.toValue (c : Config) : Value :=
  .obj [("tcp", (c.tcp.map TcpConfig.toValue).getD .null),
        ("udp", (c.udp.map UdpConfig.toValue).getD .null),
        ("log", c.log.toValue)]

/-- The text of a configuration file: the value, indented by two spaces. -/
def Config.fileText (c : Config) : String := c.toValue.pretty

end NetNode
