import NetNode.Node.Machine

/-!
# Starting, stopping and watching a node

The calls a node's owner makes, on top of the machine. Start and stop take turns on one lock:
each first waits for a stop in progress to end.
* `start` is a no-op on a disposed or running node; otherwise the caller binds, and on success
  `launch` creates the run, with its queue, workers and producer, and the node runs.
* `stop` takes the running run, if any, and waits for its stop to end; it reports whether it
  stopped something and whether it gave up waiting.
* `dispose` stops and makes the node refuse every later start.
* `orphan` is the node dropped by its owner: its run is cancelled and its producer aborted at
  once, without waiting.
* `cancelParent` cancels a parent token, and with it the runs started under it, and watches for
  the node to stop by itself.
* `awaitGoal` polls for up to `pollMillis` until a condition holds.
-/

namespace NetNode.Node

open NetNode.Address

/-- How long a caller polls for a condition, in milliseconds. -/
def pollMillis : Nat := 800

/-- The stop in progress, if any, gives up waiting: the clock reaches its deadline and the stop
ends. -/
def Machine.giveUp (m : Machine) : Machine :=
  match m.stopping with
  | none => m
  | some s => ((m.at s.deadline).completeStop?).getD m

/-- Wait for a stop in progress to end, and for any stop it leaves asked for. Taking a free
lock does not wait, so tasks that have not run yet still have not. The stop holding the lock
ends at the latest when its timeout is over, so the lock is then free. -/
def Machine.awaitLock (m : Machine) : Machine :=
  match m.stopping with
  | none => m
  | some s =>
    (m.runUntil (fun m => m.stopping.isNone && m.world.selfStops.isEmpty)
      (s.deadline + m.world.plan.stopMillis)).1.giveUp

/-- A start binds only on a node that is neither disposed of nor running. -/
def Machine.canStart (m : Machine) : Bool := m.state != .disposed && m.slot.isNone

/-- The parent token a start passes: the one the source holds, when the start is linked to it. -/
def Plan.parentOf (plan : Plan) (linked : Bool) : Option Nat :=
  if linked then some plan.parentToken else none

/-- Create a run bound at `bound` and let it go: a fresh queue, idle workers, the producer at
the start of its script, and the parent token it is started under, if any. A run started under
a token already cancelled starts cancelled. The new tasks are only spawned: they first move
when the caller next waits, so a caller that looks at once sees none of their work. -/
def Machine.launch (m : Machine) (bound : SocketAddress) (parent : Option Nat) : Machine :=
  let plan := m.world.plan
  let run : Run :=
    { generation := m.generations, localAddr := bound, parent,
      cancelled := parent.any m.world.cancelledTokens.contains,
      workers := List.replicate plan.workers .idle, permits := plan.dispatch }
  ({ m with
    slot := some run
    generations := m.generations + 1
    state := m.state.next .running
    world := { m.world with counters := { m.world.counters with binds := m.world.counters.binds + 1 } } })

/-- What a stop reports: whether it stopped a running node, and whether it gave up waiting. -/
structure StopReport where
  wasRunning : Bool
  timedOut : Bool
  deriving DecidableEq, Inhabited, Repr

/-- Stop the running run, if any, and wait until the stop ends. -/
def Machine.stop (m : Machine) : Machine × StopReport :=
  let m := m.awaitLock
  match m.slot with
  | none => (m, ⟨false, false⟩)
  | some r =>
    let m := m.beginStop r
    let (m, _) := m.runUntil (fun m => m.stopping.isNone) (m.world.clock + m.world.plan.stopMillis)
    (m, ⟨true, m.timedOut⟩)

/-- Stop, then refuse every later start. -/
def Machine.dispose (m : Machine) : Machine :=
  { m.stop.1 with state := .disposed }

/-- The owner drops the node: the running run is cancelled, its queued units are dropped
without being counted, its producer is aborted and the processor released; its workers and
dispatched units go on in the background until they see the cancellation. -/
def Machine.orphan (m : Machine) : Machine :=
  match m.slot with
  | none => m
  | some r =>
    let w := r.queue.foldl (fun w i => w.giveBack i.loan) m.world
    let (r, w) := ({ r with cancelled := true, queue := [], closed := true }).abort w
    let w := { w with counters := { w.counters with released := w.counters.released + 1 } }
    { m with slot := none, world := w, background := m.background ++ [r] }

/-- Parent token `k` is cancelled, and with it every run started under it. -/
def Machine.cancelToken (m : Machine) (k : Nat) : Machine :=
  { m with
    slot := m.slot.map (Run.cancelUnder k)
    stopping := m.stopping.map fun s => { s with run := s.run.cancelUnder k }
    background := m.background.map (Run.cancelUnder k)
    world := { m.world with cancelledTokens := m.world.cancelledTokens ++ [k] } }

/-- Cancel parent token `k`: the runs started under it are cancelled. Reports whether the node
was still running right after, and whether it stopped running within `pollMillis`. -/
def Machine.cancelParent (m : Machine) (k : Nat) : Machine × Bool × Bool :=
  let m := m.cancelToken k
  let leftRunning := m.state == .running
  let (m, settled) := m.runUntil (fun m => m.state != .running) (m.world.clock + pollMillis)
  (m, leftRunning, settled)

/-- The run the node shows: the running one, or the one being stopped. -/
def Machine.current? (m : Machine) : Option Run :=
  m.slot <|> m.stopping.map (·.run)

/-- The bound address while a run is shown. -/
def Machine.localAddr? (m : Machine) : Option SocketAddress :=
  m.current?.map (·.localAddr)

/-- Units waiting in the shown run's queue. -/
def Machine.queueLen (m : Machine) : Nat :=
  (m.current?.map (·.queue.length)).getD 0

/-- Whether the node is serving. -/
def Machine.isRunning (m : Machine) : Bool := m.state == .running

/-- The addresses whose sockets are still open: those of runs whose producer is alive. -/
def Machine.liveAddresses (m : Machine) : List SocketAddress :=
  let runs := m.slot.toList ++ (m.stopping.map (·.run)).toList ++ m.background
  (runs.filter fun r => r.producer != .finished).map (·.localAddr)

/-- Poll for up to `pollMillis` until `goal` holds. The first look comes before any waiting,
so a goal that already holds is reached before spawned tasks move. -/
def Machine.awaitGoal (m : Machine) (goal : Machine → Bool) : Machine × Bool :=
  if goal m then (m, true) else m.runUntil goal (m.world.clock + pollMillis)

end NetNode.Node
