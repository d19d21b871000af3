import NetNode.Address.Basic
import NetNode.Error.Basic

/-!
# Units of work and the scripts that produce them

A node's socket loop hands units of work to a pool of workers. Here a unit is a number and a
behaviour, the behaviour saying what the processor does with it; a source is a script of
events, one per request for the next unit: a unit, a failure, a crash, a pause, or a gate that
holds the source back until the processor has started or finished enough units. Once the
script is spent the source never answers again.

A unit with an even number has a peer address; one with an odd number has none. The worker
hands the peer, if any, to the exception callback together with the failure.
-/

namespace NetNode.Node

open NetNode.Os NetNode.Address

/-- What the processor does with a unit. -/
inductive Behavior where
  /-- Succeeds at once. -/
  | ok
  /-- Fails at once with a message. -/
  | fail (message : String)
  /-- Reports cancellation at once. -/
  | cancel
  /-- Panics at once. -/
  | panic
  /-- Fails at once with a broken pipe. -/
  | brokenPipe
  /-- Succeeds after 300 ms, whatever happens meanwhile. -/
  | stall
  /-- Reports cancellation once the node cancels its work. -/
  | awaitCancel
  /-- Asking the unit for its peer panics, before the processor sees it. -/
  | remotePanic
  /-- Ends at once as given: success, any handler error, or a panic with any payload. -/
  | ends (outcome : CallOutcome)
  deriving DecidableEq, Inhabited, Repr

/-- A unit of work: its number and what processing it does. -/
structure Work where
  id : Nat
  behavior : Behavior
  deriving DecidableEq, Inhabited, Repr

/-- The peer of a unit: `10.0.0.1` at the unit's number for even numbers, none for odd. -/
def Work.remote (w : Work) : Option SocketAddress :=
  if w.id % 2 = 0 then some ⟨.v4 10 0 0 1, w.id % 65536, 0⟩ else none

/-- How long a stalling unit takes, in milliseconds. -/
def stallMillis : Nat := 300

/-- The text a panicking processor leaves for a unit. -/
def Work.panicText (w : Work) : String := s!"processor exploded on unit {w.id}"

/-- What a gate waits for: units started, or units finished, by the processor in this run. -/
inductive Gate where
  | started
  | finished
  deriving DecidableEq, Inhabited, Repr

/-- The longest a gate holds the source back, in milliseconds. -/
def gateMillis : Nat := 1000

/-- One answer of a scripted source. -/
inductive Event where
  /-- A unit of work. -/
  | deliver (work : Work)
  /-- A failure; with `cancelParent` the source first cancels the parent token. -/
  | failure (error : IoError) (cancelParent : Bool)
  /-- The source panics. -/
  | crash (message : String)
  /-- A pause of some milliseconds before the next event. -/
  | pause (millis : Nat)
  /-- A wait, bounded by `gateMillis`, until the processor reaches a count in this run. -/
  | gate (kind : Gate) (count : Nat)
  deriving DecidableEq, Inhabited, Repr

/-- What the exception callback does with a failed unit: keep it, panic, or there is no
callback at all. -/
inductive Sink where
  | record
  | panic
  | none
  deriving DecidableEq, Inhabited, Repr

/-- A failure the recording callback was handed: the error and the unit's peer, if any. -/
structure Report where
  error : HandlerError
  remote : Option SocketAddress
  deriving DecidableEq, Inhabited, Repr

/-- Counters kept by the scripted transport over the whole life of a node: units whose
processing started and finished, releases of the processor, and successful binds. -/
structure Counters where
  started : Nat := 0
  finished : Nat := 0
  released : Nat := 0
  binds : Nat := 0
  deriving DecidableEq, Inhabited, Repr

/-- The outcome of processing a unit that returned: success or a handler error. -/
def Behavior.outcome (w : Work) : Behavior → Except HandlerError Unit
  | .ok | .stall => .ok ()
  | .fail m => .error (.failed m)
  | .cancel | .awaitCancel => .error .cancelled
  | .panic => .error (HandlerError.ofPanic (.text w.panicText))
  | .brokenPipe => .error (.io (.os EPIPE))
  | .remotePanic => .ok ()
  | .ends o => o.caught

end NetNode.Node
