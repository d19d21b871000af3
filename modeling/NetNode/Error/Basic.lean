import NetNode.Os.IoError
import NetNode.Address.Basic

/-!
# Errors of the runtime

Configuration errors, errors a node reports to its caller, and failures of a single unit of
work. Each has one function for its text.
-/

namespace NetNode

open NetNode.Os NetNode.Address

/-- What can go wrong with a configuration. -/
inductive ConfigError where
  | fileNotFound (path : String)
  | parse (message : String)
  | validation (message : String)
  | env (name reason : String)
  | io (err : IoError)
  deriving DecidableEq, Inhabited, Repr

/-- The name of a configuration error's case. -/
def ConfigError.kindName : ConfigError → String
  | .fileNotFound _ => "FileNotFound"
  | .parse _ => "ParseError"
  | .validation _ => "ValidationError"
  | .env .. => "EnvError"
  | .io _ => "IoError"

/-- The text of a configuration error. -/
def ConfigError.message : ConfigError → String
  | .fileNotFound p => s!"Configuration file not found: {p}"
  | .parse m => s!"Failed to parse configuration: {m}"
  | .validation m => s!"Configuration validation failed: {m}"
  | .env n r => s!"Environment variable error: {n}: {r}"
  | .io e => s!"I/O error reading configuration: {e.message}"

/-- What a node reports to its caller. -/
inductive NodeError where
  | config (err : ConfigError)
  | bind (addr : SocketAddress) (err : IoError)
  deriving DecidableEq, Inhabited, Repr

/-- The name of a node error's case. -/
def NodeError.kindName : NodeError → String
  | .config _ => "Config"
  | .bind .. => "Bind"

/-- The text of a node error. -/
def NodeError.message : NodeError → String
  | .config e => s!"Configuration error: {e.message}"
  | .bind a e => s!"Failed to bind {a.text}: {e.message}"

/-- A node error may go away on retry only when the address was in use. -/
def NodeError.isRecoverable : NodeError → Bool
  | .config _ => false
  | .bind _ e => e.kind = .addrInUse

/-- How a unit of work failed. -/
inductive HandlerError where
  | failed (message : String)
  | io (err : IoError)
  | panicked (message : String)
  | cancelled
  deriving DecidableEq, Inhabited, Repr

/-- The name of a handler error's case. -/
def HandlerError.kindName : HandlerError → String
  | .failed _ => "Failed"
  | .io _ => "Io"
  | .panicked _ => "Panicked"
  | .cancelled => "Cancelled"

/-- The text of a handler error. -/
def HandlerError.message : HandlerError → String
  | .failed m => s!"Handler failed: {m}"
  | .io e => s!"Handler I/O error: {e.message}"
  | .panicked m => s!"Handler panicked: {m}"
  | .cancelled => "Handler cancelled"

/-- Cancellation is an expected end of work, not a failure. -/
def HandlerError.isCancellation : HandlerError → Bool
  | .cancelled => true
  | _ => false

/-- What a panic carried: text, or something else. -/
inductive PanicPayload where
  | text (message : String)
  | opaqueValue
  deriving DecidableEq, Inhabited, Repr

/-- A contained panic as a handler error. -/
def HandlerError.ofPanic : PanicPayload → HandlerError
  | .text m => .panicked m
  | .opaqueValue => .panicked "unknown panic payload"

/-- How a call into code the runtime does not own ended: a processor's `process` or a protocol
handler's `handle`. It returned success or an error, or it panicked with a payload. -/
inductive CallOutcome where
  | ok
  | error (e : HandlerError)
  | panicked (payload : PanicPayload)
  deriving DecidableEq, Inhabited, Repr

/-- The result of a call once a panic boundary has caught its panic. -/
def CallOutcome.caught : CallOutcome → Except HandlerError Unit
  | .ok => .ok ()
  | .error e => .error e
  | .panicked p => .error (HandlerError.ofPanic p)

end NetNode
