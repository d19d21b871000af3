/-!
# Node lifecycle states and statistics

A node is created, starts, runs, stops and may start again, until it is disposed of for good.
Its statistics count units of work: accepted from the socket, processed, failed, dropped,
in flight, and transient errors of the socket loop.
-/

namespace NetNode

/-- Where a node is in its life. -/
inductive NodeState where
  | created
  | starting
  | running
  | stopping
  | stopped
  | disposed
  deriving DecidableEq, Inhabited, Repr

/-- The lowercase name of a state. -/
def NodeState.display : NodeState → String
  | .created => "created"
  | .starting => "starting"
  | .running => "running"
  | .stopping => "stopping"
  | .stopped => "stopped"
  | .disposed => "disposed"

/-- The capitalised name of a state. -/
def NodeState.name : NodeState → String
  | .created => "Created"
  | .starting => "Starting"
  | .running => "Running"
  | .stopping => "Stopping"
  | .stopped => "Stopped"
  | .disposed => "Disposed"

/-- The state of a capitalised name. -/
def NodeState.ofName? (s : String) : Option NodeState :=
  [NodeState.created, .starting, .running, .stopping, .stopped, .disposed].find? (·.name = s)

/-- A disposed node stays disposed; any other takes the new state. -/
def NodeState.next (s t : NodeState) : NodeState := if s = .disposed then s else t

/-- Counters of a node. -/
structure Stats where
  accepted : Nat := 0
  processed : Nat := 0
  failed : Nat := 0
  dropped : Nat := 0
  active : Nat := 0
  producerErrors : Nat := 0
  deriving DecidableEq, Inhabited, Repr

/-- Units processed without error; never below zero. -/
def Stats.succeeded (s : Stats) : Nat := s.processed - s.failed

/-- The answers of the source the counters count: units accepted and transient failures. -/
def Stats.events (s : Stats) : Nat := s.accepted + s.producerErrors

end NetNode
