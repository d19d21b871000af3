import NetNode.Node.Work
import NetNode.Node.State
import NetNode.Error.Classify
import NetNode.Queue.Bounded
import NetNode.Pool.Basic

/-!
# The running node as a machine over virtual time

A running node is a set of tasks sharing a bounded queue: one producer asks the source for
units and pushes them, and a pool of workers pops them and runs each through the processor,
either inline or, under a permit limit, as a task of its own. A stop cancels the run, discards
the queue, and waits, at most for the stop timeout, until the producer, the workers and the
dispatched units are gone; whatever is still running then goes on in the background.

The machine is deterministic. Time is a number of milliseconds that moves only when every task
waits; at one instant the tasks take turns in a fixed order, the producer first, until none can
move (`settle`). `runUntil` lets time pass from one timer to the next until a goal holds or a
limit is reached. Every loop carries fuel, so every function here is total.

Each step of a task follows the node's rules:
* the producer checks for cancellation before each request to the source, and while it waits
  inside the source, for room in the queue, or after a failure that calls for a pause;
* a failure of the source is classified: a closed socket or a critical failure ends the
  producer, a transient one is counted and the producer goes on;
* the producer's loop returns with the reason it ended: cancellation, a socket closed without
  cancellation, or a critical failure; it then closes the queue. A panic inside the producer
  leaves the queue open until a stop drains it. Either way the producer asks for a stop of its
  run;
* a worker checks for cancellation before each pop and ends once the queue is closed and
  empty; a unit whose peer panics kills an inline worker, or only its own task;
* a finished unit counts as processed; a failed one also as failed, and is reported to the
  exception callback with its peer, unless it was cancelled.
-/

namespace NetNode.Node

open NetNode.Os NetNode.Queue NetNode.Pool NetNode.Address

/-- Which rules classify the failures of a source. -/
inductive Classifier where
  | accept
  | receive
  deriving DecidableEq, Inhabited, Repr

/-- The class of a failure under a classifier's rules. -/
def Classifier.apply : Classifier → IoError → SocketClass
  | .accept => classifyAccept
  | .receive => classifyReceive

/-- The pause after a failure that signals exhausted resources, in milliseconds. -/
def backoffMillis : Nat := 50

/-- What a run is made of: the queue's capacity and policy, the workers, the permit limit of
dispatched units, the stop timeout, the classifier, the source's script, whether the source
holds a pool buffer while it waits, and the parent token the source holds. -/
structure Plan where
  capacity : Nat
  mode : FullMode
  workers : Nat
  dispatch : Option Nat
  stopMillis : Nat
  classifier : Classifier
  script : List Event
  holdsBuffer : Bool := false
  /-- The parent token the source can cancel: the one its owner passes to `start_with_parent`. -/
  parentToken : Nat := 0
  deriving Inhabited

/-- A unit in the pipeline: its work, and the pool buffer its datagram was received into when
the source rents buffers. Dropping the unit gives the buffer back. -/
structure Item where
  work : Work
  loan : Option Buffer := none
  deriving DecidableEq, Inhabited, Repr

/-- A unit being processed: the unit, its peer, the time it ends by itself, or none when it
ends on cancellation, and the buffer it holds. -/
structure Job where
  work : Work
  remote : Option SocketAddress
  doneAt : Option Nat
  loan : Option Buffer := none
  deriving DecidableEq, Inhabited, Repr

/-- A job is over at `clock` when its time has come, or when it waits for cancellation and the
run is cancelled. -/
def Job.due (j : Job) (clock : Nat) (cancelled : Bool) : Bool :=
  match j.doneAt with
  | some t => t ≤ clock
  | none => cancelled

/-- Where the producer is: about to ask the source for the event at a position, pausing,
held by a gate, backing off after a failure, waiting for room to push a unit, waiting on a
spent source, or gone. The position is always that of the next event to ask for. -/
inductive Producer where
  | fetch (pos : Nat)
  | pausing (pos : Nat) (wake : Nat)
  | gated (pos : Nat) (kind : Gate) (count : Nat) (deadline : Nat)
  | backingOff (pos : Nat) (wake : Nat)
  | pushing (pos : Nat) (item : Item)
  | parked
  | finished
  deriving DecidableEq, Inhabited, Repr

/-- Why the producer's loop ended by itself: cancellation, the socket closed without
cancellation, or a failure that made the socket unusable. -/
inductive ProducerExit where
  | cancelled
  | socketClosed
  | critical
  deriving DecidableEq, Inhabited, Repr

/-- How the producer ended by itself: its loop returned, or it panicked, which its task reports
as a critical exit. -/
inductive Ending where
  | returned (why : ProducerExit)
  | panicked
  deriving DecidableEq, Inhabited, Repr

/-- Whether the producer closed the queue on its way out: only a loop that returned did. -/
def Ending.closes : Ending → Bool
  | .returned _ => true
  | .panicked => false

/-- Where a worker is: waiting to pop, processing a unit inline, holding a unit until a permit
frees, or gone. -/
inductive Worker where
  | idle
  | busy (job : Job)
  | acquiring (item : Item)
  | exited
  deriving DecidableEq, Inhabited, Repr

/-- One run of a node, from a bind to the end of its tasks. -/
structure Run where
  generation : Nat
  localAddr : SocketAddress
  /-- The parent token the run was started under, if any: its cancellation reaches the run. -/
  parent : Option Nat
  cancelled : Bool := false
  queue : List Item := []
  closed : Bool := false
  producer : Producer := .fetch 0
  /-- How the producer ended by itself, once it has; a producer stopped from outside has none. -/
  ending : Option Ending := none
  /-- The pool buffer the waiting source holds. -/
  holding : Option Buffer := none
  workers : List Worker
  /-- Workers waiting for a permit, oldest first. -/
  waiters : List Nat := []
  /-- Free permits, or none when units run inline. -/
  permits : Option Nat
  dispatched : List Job := []
  /-- Units whose processing started in this run. -/
  started : Nat := 0
  /-- Units whose processing finished in this run. -/
  finished : Nat := 0
  deriving Inhabited

/-- What every run of a node shares: the plan, the exception callback, the clock, the
statistics, the failures kept, the transport's counters, the stops asked for by producers
(by generation, oldest first), the buffer pool, and the parent tokens cancelled so far. -/
structure World where
  plan : Plan
  sink : Sink
  clock : Nat := 0
  stats : Stats := {}
  reports : List Report := []
  counters : Counters := {}
  selfStops : List Nat := []
  pool : Option BufferPool := none
  cancelledTokens : List Nat := []
  deriving Inhabited

/-- Count units dropped without processing. -/
def World.drop (w : World) (n : Nat) : World :=
  { w with stats := { w.stats with dropped := w.stats.dropped + n } }

/-- A buffer a unit or the source held goes back to the pool. -/
def World.giveBack (w : World) : Option Buffer → World
  | some b =>
    match w.pool with
    | some p => { w with pool := some (p.giveBack b) }
    | none => w
  | none => w

/-- Units dropped without processing: counted as dropped, their buffers given back. -/
def World.discard (w : World) (items : List Item) : World :=
  (items.foldl (fun w i => w.giveBack i.loan) w).drop items.length

/-- Hand a failed unit to the exception callback. Only the recording callback keeps it; a
panicking callback is contained and keeps nothing. -/
def World.report (w : World) (e : HandlerError) (remote : Option SocketAddress) : World :=
  match w.sink with
  | .record => { w with reports := w.reports ++ [⟨e, remote⟩] }
  | _ => w

/-- Put a worker in a new place. -/
def Run.setWorker (r : Run) (i : Nat) (x : Worker) : Run :=
  { r with workers := r.workers.set i x }

/-- A freed permit goes back to the pool of permits. -/
def Run.givePermit (r : Run) : Run :=
  { r with permits := r.permits.map (· + 1) }

/-- Whether the processor has started or finished `n` units in this run. -/
def Run.reached (r : Run) : Gate → Nat → Bool
  | .started, n => n ≤ r.started
  | .finished, n => n ≤ r.finished

/-- Every task of the run is gone. -/
def Run.quiet (r : Run) : Bool :=
  r.producer == .finished && r.workers.all (· == .exited) && r.dispatched.isEmpty

/-- The end of a unit's processing: counted as processed, as failed unless it succeeded or
was cancelled, and a failure is reported with the unit's peer. -/
def Run.finish (w : World) (r : Run) (job : Job) : Run × World :=
  let r := { r with finished := r.finished + 1 }
  let w := w.giveBack job.loan
  let w := { w with
    counters := { w.counters with finished := w.counters.finished + 1 }
    stats := { w.stats with active := w.stats.active - 1, processed := w.stats.processed + 1 } }
  match Behavior.outcome job.work job.work.behavior with
  | .ok () => (r, w)
  | .error e =>
    if e.isCancellation then (r, w)
    else (r, ({ w with stats := { w.stats with failed := w.stats.failed + 1 } }).report e job.remote)

/-- How the start of a unit's processing ended: the unit's peer panicked before processing,
processing finished at once, or it goes on as a job. -/
inductive Start where
  | died
  | done
  | running (job : Job)
  deriving Inhabited

/-- Start processing a unit: ask for its peer, count it active and started, and run the
processor until it returns or has to wait. A unit whose peer panics is dropped while the
panic unwinds, giving its buffer back. -/
def Run.begin (w : World) (r : Run) (item : Item) : Start × Run × World :=
  let work := item.work
  if work.behavior = .remotePanic then (.died, r, w.giveBack item.loan)
  else
    let w := { w with
      stats := { w.stats with active := w.stats.active + 1 }
      counters := { w.counters with started := w.counters.started + 1 } }
    let r := { r with started := r.started + 1 }
    let job : Job := ⟨work, work.remote, none, item.loan⟩
    match work.behavior with
    | .stall => (.running { job with doneAt := some (w.clock + stallMillis) }, r, w)
    | .awaitCancel =>
      if r.cancelled then
        let (r, w) := r.finish w job
        (.done, r, w)
      else (.running job, r, w)
    | _ =>
      let (r, w) := r.finish w job
      (.done, r, w)

/-- Run a unit as a task of its own under a permit already taken; the permit comes back when
the task ends, at once or later. -/
def Run.spawn (w : World) (r : Run) (item : Item) : Run × World :=
  match r.begin w item with
  | (.running job, r, w) => ({ r with dispatched := r.dispatched ++ [job] }, w)
  | (_, r, w) => (r.givePermit, w)

/-- A worker took a unit from the queue: it runs the unit inline, or takes a free permit and
spawns it, or waits in line for a permit. -/
def Run.take (w : World) (r : Run) (i : Nat) (item : Item) : Run × World :=
  match r.permits with
  | none =>
    match r.begin w item with
    | (.died, r, w) => (r.setWorker i .exited, w)
    | (.done, r, w) => (r.setWorker i .idle, w)
    | (.running job, r, w) => (r.setWorker i (.busy job), w)
  | some (p + 1) =>
    if r.waiters.isEmpty then
      let (r, w) := ({ r with permits := some p }).spawn w item
      (r.setWorker i .idle, w)
    else ({ r.setWorker i (.acquiring item) with waiters := r.waiters ++ [i] }, w)
  | some 0 => ({ r.setWorker i (.acquiring item) with waiters := r.waiters ++ [i] }, w)

/-- A receiver rents a buffer before it receives, unless it still holds one. -/
def Run.holdBuffer (w : World) (r : Run) : Run × World :=
  match w.plan.holdsBuffer, r.holding, w.pool with
  | true, none, some p =>
    let (b, p) := p.rent
    ({ r with holding := some b }, { w with pool := some p })
  | _, _, _ => (r, w)

/-- The buffer held by the source goes back to the pool. -/
def Run.returnBuffer (w : World) (r : Run) : Run × World :=
  match r.holding, w.pool with
  | some b, some p => ({ r with holding := none }, { w with pool := some (p.giveBack b) })
  | _, _ => (r, w)

/-- The producer ends: it closes the queue unless it panicked, drops its source, and asks
for a stop of its run. -/
def Run.exit (w : World) (r : Run) (e : Ending) : Run × World :=
  let r := if e.closes then { r with closed := true } else r
  let (r, w) := r.returnBuffer w
  ({ r with producer := .finished, ending := some e },
    { w with selfStops := w.selfStops ++ [r.generation] })

/-- Push a unit the source produced. A closed queue refuses it and the producer ends; a full
queue in `dropOldest` mode evicts its oldest unit, asking it for its peer; a full queue in
`wait` mode makes the producer wait. -/
def Run.enqueue (w : World) (r : Run) (next : Nat) (item : Item) : Run × World :=
  if r.closed then r.exit (w.discard [item]) (.returned .cancelled)
  else if r.queue.length < w.plan.capacity then
    ({ r with queue := r.queue ++ [item], producer := .fetch next }, w)
  else
    match w.plan.mode, r.queue with
    | .dropOldest, old :: rest =>
      let r := { r with queue := rest ++ [item] }
      if old.work.behavior = .remotePanic then r.exit (w.discard [old]) .panicked
      else ({ r with producer := .fetch next }, w.discard [old])
    | .dropOldest, [] => ({ r with queue := [item], producer := .fetch next }, w)
    | .wait, _ => ({ r with producer := .pushing next item }, w)

/-- The cancellation of parent token `k` reaches a run started under it. -/
def Run.cancelUnder (k : Nat) (r : Run) : Run := { r with cancelled := r.cancelled || r.parent == some k }

/-- The source cancels the parent token it holds, which cancels the run when it was started under
that token. -/
def Run.cancelParent (w : World) (r : Run) : Run × World :=
  (r.cancelUnder w.plan.parentToken,
    { w with cancelledTokens := w.cancelledTokens ++ [w.plan.parentToken] })

/-- The producer asks the source for the event at `pos` and acts on it. A receiver rents its
buffer first: a datagram keeps it, a failed receive gives it back. -/
def Run.fetch (w : World) (r : Run) (pos : Nat) : Run × World :=
  let (r, w) := r.holdBuffer w
  match w.plan.script[pos]? with
  | none => ({ r with producer := .parked }, w)
  | some (.deliver work) =>
    ({ r with holding := none }).enqueue
      { w with stats := { w.stats with accepted := w.stats.accepted + 1 } } (pos + 1) ⟨work, r.holding⟩
  | some (.failure e cancelParent) =>
    let (r, w) := r.returnBuffer w
    let (r, w) := if cancelParent then r.cancelParent w else (r, w)
    match w.plan.classifier.apply e with
    | .transient =>
      let w := { w with stats := { w.stats with producerErrors := w.stats.producerErrors + 1 } }
      if needsBackoff e then ({ r with producer := .backingOff (pos + 1) (w.clock + backoffMillis) }, w)
      else ({ r with producer := .fetch (pos + 1) }, w)
    | .aborted => r.exit w (.returned (if r.cancelled then .cancelled else .socketClosed))
    | .critical => r.exit w (.returned .critical)
  | some (.crash _) => r.exit w .panicked
  | some (.pause ms) => ({ r with producer := .pausing (pos + 1) (w.clock + ms) }, w)
  | some (.gate k n) => ({ r with producer := .gated (pos + 1) k n (w.clock + gateMillis) }, w)

/-- One move of the producer, if it can move. -/
def Run.stepProducer (w : World) (r : Run) : Option (Run × World) :=
  match r.producer with
  | .finished => none
  | .pushing next item =>
    if r.cancelled || r.closed then some (r.exit (w.discard [item]) (.returned .cancelled))
    else if r.queue.length < w.plan.capacity then
      some ({ r with queue := r.queue ++ [item], producer := .fetch next }, w)
    else none
  | .fetch pos =>
    if r.cancelled then some (r.exit w (.returned .cancelled)) else some (r.fetch w pos)
  | .pausing pos t | .backingOff pos t =>
    if r.cancelled then some (r.exit w (.returned .cancelled))
    else if t ≤ w.clock then some ({ r with producer := .fetch pos }, w)
    else none
  | .gated pos k n d =>
    if r.cancelled then some (r.exit w (.returned .cancelled))
    else if r.reached k n || d ≤ w.clock then some ({ r with producer := .fetch pos }, w)
    else none
  | .parked => if r.cancelled then some (r.exit w (.returned .cancelled)) else none

/-- One move of worker `i`, if it can move. -/
def Run.stepWorker (w : World) (r : Run) (i : Nat) : Option (Run × World) :=
  match r.workers[i]? with
  | some .idle =>
    if r.cancelled then some (r.setWorker i .exited, w)
    else
      match r.queue with
      | item :: rest => some (({ r with queue := rest }).take w i item)
      | [] => if r.closed then some (r.setWorker i .exited, w) else none
  | some (.busy job) =>
    if job.due w.clock r.cancelled then
      let (r, w) := r.finish w job
      some (r.setWorker i .idle, w)
    else none
  | some (.acquiring item) =>
    if r.cancelled then
      some ({ r.setWorker i .exited with waiters := r.waiters.erase i }, w.discard [item])
    else
      match r.permits, r.waiters with
      | some (p + 1), j :: rest =>
        if j = i then
          let (r, w) := ({ r with permits := some p, waiters := rest }).spawn w item
          some (r.setWorker i .idle, w)
        else none
      | _, _ => none
  | _ => none

/-- One move of dispatched unit `k`, if it is over: it finishes and frees its permit. -/
def Run.stepDispatched (w : World) (r : Run) (k : Nat) : Option (Run × World) :=
  match r.dispatched[k]? with
  | some job =>
    if job.due w.clock r.cancelled then
      let (r, w) := ({ r with dispatched := r.dispatched.eraseIdx k }).finish w job
      some (r.givePermit, w)
    else none
  | none => none

/-- One move of a worker or of a dispatched unit, the first in order that can move. -/
def Run.stepTasks (w : World) (r : Run) : Option (Run × World) :=
  ((List.range r.workers.length).findSome? (r.stepWorker w)) <|>
    ((List.range r.dispatched.length).findSome? (r.stepDispatched w))

/-- One move of any task of the run, the producer first. -/
def Run.step (w : World) (r : Run) : Option (Run × World) :=
  r.stepProducer w <|> r.stepTasks w

/-- The producer is stopped from outside: it ends where it is, without closing the queue
and without asking for a stop. A unit it was pushing is dropped with it, uncounted. -/
def Run.abort (w : World) (r : Run) : Run × World :=
  if r.producer == .finished then (r, w)
  else
    let w := match r.producer with
      | .pushing _ item => w.giveBack item.loan
      | _ => w
    let (r, w) := r.returnBuffer w
    ({ r with producer := .finished }, w)

/-- The times at which some task of the run moves by itself. -/
def Run.timers (r : Run) : List Nat :=
  let own := match r.producer with
    | .pausing _ t | .backingOff _ t => [t]
    | .gated _ _ _ d => [d]
    | _ => []
  let busy := r.workers.filterMap fun
    | .busy j => j.doneAt
    | _ => none
  own ++ busy ++ r.dispatched.filterMap (·.doneAt)

/-- A run taken by a stop in progress, with the time the stop gives up waiting. -/
structure Stopping where
  run : Run
  deadline : Nat
  deriving Inhabited

/-- A node: the shared world, its state, the run in the running slot, the run being stopped,
runs a timed-out stop left behind, the number of runs so far, and whether the last stop
timed out. -/
structure Machine where
  world : World
  state : NodeState := .created
  slot : Option Run := none
  stopping : Option Stopping := none
  background : List Run := []
  generations : Nat := 0
  timedOut : Bool := false
  deriving Inhabited

/-- A fresh node for a plan and an exception callback, with a pool when its source rents
buffers. -/
def Machine.new (plan : Plan) (sink : Sink) (pool : Option BufferPool := none) : Machine :=
  { world := { plan, sink, pool } }

/-- A stop takes run `r`: the node is stopping, the run is cancelled, and the queue is closed
and drained, its units counted as dropped. -/
def Machine.beginStop (m : Machine) (r : Run) : Machine :=
  { m with
    state := m.state.next .stopping
    slot := none
    stopping := some
      ⟨{ r with cancelled := true, queue := [], closed := true },
        m.world.clock + m.world.plan.stopMillis⟩
    world := m.world.discard r.queue }

/-- The oldest stop asked for by a producer runs once no other stop is in progress; it only
stops the run of its generation, if that run still holds the slot. -/
def Machine.selfStop? (m : Machine) : Option Machine :=
  if m.stopping.isSome then none
  else
    match m.world.selfStops with
    | [] => none
    | g :: rest =>
      let m := { m with world := { m.world with selfStops := rest } }
      match m.slot with
      | some r => if r.generation = g then some (m.beginStop r) else some m
      | none => some m

/-- The stop in progress ends once the run is quiet or the timeout is over: the producer is
aborted, the processor released, the node stopped, and a run with work left goes on in the
background. -/
def Machine.completeStop? (m : Machine) : Option Machine :=
  match m.stopping with
  | none => none
  | some s =>
    let done := s.run.quiet
    if done || s.deadline ≤ m.world.clock then
      let (r, w) := s.run.abort m.world
      let w := { w with counters := { w.counters with released := w.counters.released + 1 } }
      some { m with
        stopping := none
        world := w
        state := m.state.next .stopped
        timedOut := !done
        background := if done then m.background else m.background ++ [r] }
    else none

/-- One move of a background run, the first that can move. -/
def Machine.stepBackground? (m : Machine) : Option Machine :=
  (List.range m.background.length).findSome? fun i =>
    (m.background[i]?).bind fun r =>
      (r.step m.world).map fun (r, w) => { m with background := m.background.set i r, world := w }

/-- One move of the node at the current instant: the running producer, then a stop it asked
for, then the running workers and units, then the run being stopped, then background runs,
and last the end of a stop. -/
def Machine.step? (m : Machine) : Option Machine :=
  (m.slot.bind fun r =>
      (r.stepProducer m.world).map fun (r, w) => { m with slot := some r, world := w }) <|>
    m.selfStop? <|>
    (m.slot.bind fun r =>
      (r.stepTasks m.world).map fun (r, w) => { m with slot := some r, world := w }) <|>
    (m.stopping.bind fun s =>
      (s.run.step m.world).map fun (r, w) => { m with stopping := some { s with run := r }, world := w }) <|>
    m.stepBackground? <|>
    m.completeStop?

/-- The most moves taken at one instant. -/
def settleFuel : Nat := 100000

/-- Move until nothing can move at the current instant. -/
def Machine.settleWith : Nat → Machine → Machine
  | 0, m => m
  | n + 1, m =>
    match m.step? with
    | some m' => m'.settleWith n
    | none => m

/-- Move until nothing can move at the current instant. -/
def Machine.settle (m : Machine) : Machine := m.settleWith settleFuel

/-- The times at which something moves by itself. -/
def Machine.timers (m : Machine) : List Nat :=
  (m.slot.map Run.timers).getD [] ++
    (match m.stopping with
     | some s => s.deadline :: s.run.timers
     | none => []) ++
    m.background.flatMap Run.timers

/-- The next time after now at which something moves by itself. -/
def Machine.nextTimer? (m : Machine) : Option Nat :=
  (m.timers.filter (m.world.clock < ·)).min?

/-- The clock moves forward to `t`. -/
def Machine.at (m : Machine) (t : Nat) : Machine :=
  { m with world := { m.world with clock := max t m.world.clock } }

/-- The most timers passed while waiting. -/
def timerFuel : Nat := 100000

/-- Let time pass, timer by timer, until `goal` holds or the clock reaches `limit`; the flag
says whether the goal holds at the end. -/
def Machine.runUntilWith (goal : Machine → Bool) (limit : Nat) : Nat → Machine → Machine × Bool
  | 0, m => (m, goal m)
  | n + 1, m =>
    let m := m.settle
    if goal m then (m, true)
    else
      match m.nextTimer? with
      | some t =>
        if t ≤ limit then (m.at t).runUntilWith goal limit n
        else
          let m := (m.at limit).settle
          (m, goal m)
      | none =>
        let m := (m.at limit).settle
        (m, goal m)

/-- Let time pass until `goal` holds or the clock reaches `limit`. -/
def Machine.runUntil (m : Machine) (goal : Machine → Bool) (limit : Nat) : Machine × Bool :=
  m.runUntilWith goal limit timerFuel

end NetNode.Node
