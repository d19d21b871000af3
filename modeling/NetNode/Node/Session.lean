import NetNode.Node.Control
import NetNode.Net.Host
import NetNode.Transport.Basic
import NetNode.Json.Write

/-!
# A session of calls on one node

A session drives one node through a list of requests, as its owner would: start it, with or
without a parent token, stop it, dispose of it, watch its state, statistics and failures, wait
for a condition, or act as a client against it. The node either replays a script on each bind
or drives a TCP or UDP transport on the isolated host, where binds succeed but no client ever
gets through. Once the node is dropped every request but `drop` is skipped.

A start that binds then builds its run, and building it panics when the queue's slots or the
workers' join handles cannot be laid out, or the dispatch semaphore is asked for more permits
than it holds; the panic ends the session.
-/

namespace NetNode.Node

open NetNode.Os NetNode.Address NetNode.Queue NetNode.Pool NetNode.Net

/-- Options of a node whose source is a script. -/
structure ScriptSetup where
  mode : FullMode := .wait
  capacity : Nat := 4
  workers : Nat := 1
  dispatch : Option Nat := none
  stopMillis : Nat := 200
  /-- When set, every bind fails with this error number. -/
  bindErrno : Option Int := none
  classifier : Classifier := .accept
  address : SocketAddress := .loopback 0
  script : List Event := []
  deriving Inhabited

/-- What a node drives: a scripted source, or a socket transport on the isolated host. -/
inductive Flavor where
  | scripted (setup : ScriptSetup)
  | socket (transport : Transport)
  deriving Inhabited

/-- The run plan of a flavour. A queue capacity of zero is taken as one. -/
def Flavor.plan : Flavor → Plan
  | .scripted s =>
    { capacity := max s.capacity 1, mode := s.mode, workers := s.workers, dispatch := s.dispatch,
      stopMillis := s.stopMillis, classifier := s.classifier, script := s.script }
  | .socket t =>
    { capacity := max t.queueCapacity 1, mode := t.fullMode, workers := t.workerCount,
      dispatch := t.dispatchLimit, stopMillis := t.stopMillis,
      classifier := (match t with | .tcp _ => .accept | .udp .. => .receive), script := [],
      holdsBuffer := (match t with | .tcp _ => false | .udp .. => true) }

/-- The size of one queued unit, in bytes; a scripted unit is taken as 32. -/
def Flavor.unitBytes : Flavor → Nat
  | .scripted _ => 32
  | .socket t => t.unitBytes

/-- The panic of a semaphore asked for more permits than it holds. -/
def tooManyPermits : String :=
  s!"a semaphore may not have more than MAX_PERMITS permits ({maxPermits})"

/-- The panic that building a run of the flavour raises, if any, checked in the order the run
is built: the queue's slots, the dispatch semaphore's permits, and the workers' join handles,
8 bytes each. -/
def Flavor.startPanic? (f : Flavor) : Option String :=
  let plan := f.plan
  if layoutMax f.unitBytes 8 < plan.capacity then some capacityOverflow
  else if plan.dispatch.any (maxPermits < ·) then some tooManyPermits
  else if layoutMax 8 8 < plan.workers then some capacityOverflow
  else none

/-- The buffer pool of a flavour, for UDP. -/
def Flavor.pool : Flavor → Option BufferPool
  | .socket (.udp _ p) => some p
  | _ => none

/-- The same flavour bound to another address. -/
def Flavor.at (f : Flavor) (a : SocketAddress) : Flavor :=
  match f with
  | .scripted s => .scripted { s with address := a }
  | .socket (.tcp c) => .socket (.tcp { c with address := a })
  | .socket (.udp c p) => .socket (.udp { c with address := a } p)

/-- A node and the host it lives on; `gone` once the node is dropped. -/
structure Session where
  flavor : Flavor
  machine : Machine
  host : Host := {}
  gone : Bool := false
  deriving Inhabited

/-- A fresh session on a created node. -/
def Session.new (flavor : Flavor) (sink : Sink) : Session :=
  { flavor, machine := Machine.new flavor.plan sink flavor.pool }

/-- Bind the node's socket, given the addresses already bound: the scripted transport binds
at its address unless told to fail; a socket transport binds on the host. -/
def Session.bind (s : Session) (taken : List SocketAddress) : Except NodeError (SocketAddress × Host) :=
  match s.flavor with
  | .scripted setup =>
    match setup.bindErrno with
    | some n => .error (.bind setup.address (.os n))
    | none => .ok (setup.address, s.host)
  | .socket t =>
    match t.bind s.host taken with
    | .error e => .error (.bind t.address e)
    | .ok (a, _, h) => .ok (a, h)

/-- Start the node against the given bound addresses: a no-op on a disposed or running node,
and a failed bind leaves the node as it was. A start that binds panics, with the panic's
message, when its run cannot be built. -/
def Session.startAgainst (s : Session) (taken : List SocketAddress) (linked : Bool) :
    Except String (Session × Except NodeError Unit) :=
  let m := s.machine.awaitLock
  if !m.canStart then .ok ({ s with machine := m }, .ok ())
  else
    match s.bind taken with
    | .error e => .ok ({ s with machine := m }, .error e)
    | .ok (a, h) =>
      match s.flavor.startPanic? with
      | some message => .error message
      | none => .ok ({ s with machine := m.launch a (m.world.plan.parentOf linked), host := h }, .ok ())

/-- Start the node. -/
def Session.start (s : Session) (linked : Bool) : Except String (Session × Except NodeError Unit) :=
  s.startAgainst s.machine.liveAddresses linked

/-- A second node with the same options, bound to the address this one is bound to, tries to
start: its result and its state after, or none when this node has no address. -/
def Session.conflict (s : Session) : Option (Except String (Except NodeError Unit × NodeState)) :=
  s.machine.localAddr?.map fun a =>
    let other : Session := { Session.new (s.flavor.at a) s.machine.world.sink with host := s.host }
    (other.startAgainst s.machine.liveAddresses false).map fun (other, result) =>
      (result, other.machine.state)

/-- The one-line description of the node, its transport showing the pool as it is now. -/
def Session.describe (s : Session) : String :=
  let m := s.machine
  let transport := match s.flavor, m.world.pool with
    | .socket (.udp c _), some p => (Transport.udp c p).describe
    | .socket t, _ => t.describe
    | .scripted _, _ => "ScriptTransport"
  let addr := match m.localAddr? with
    | some a => s!"Some({a.text})"
    | none => "None"
  s!"Node \x7b transport: {transport}, state: {m.state.name}, local_addr: {addr}, .. \x7d"

/-- A condition on the node: every value given must match exactly. -/
structure Goal where
  accepted : Option Nat := none
  active : Option Nat := none
  processed : Option Nat := none
  dropped : Option Nat := none
  failed : Option Nat := none
  producerErrors : Option Nat := none
  queueLen : Option Nat := none
  /-- Stalls seen by the scripted handler, which no client reaches. -/
  stalls : Option Nat := none
  /-- Units the scripted processor finished. -/
  finished : Option Nat := none
  /-- Failures the recording callback kept. -/
  exceptions : Option Nat := none
  state : Option String := none
  deriving Inhabited

/-- Whether a condition holds of the node. -/
def Goal.holds (g : Goal) (m : Machine) : Bool :=
  let st := m.world.stats
  let is (want : Option Nat) (v : Nat) : Bool := want.all (· == v)
  is g.accepted st.accepted && is g.active st.active && is g.processed st.processed &&
    is g.dropped st.dropped && is g.failed st.failed && is g.producerErrors st.producerErrors &&
    is g.queueLen m.queueLen && is g.stalls 0 && is g.finished m.world.counters.finished &&
    is g.exceptions m.world.reports.length && g.state.all (· == m.state.display)

/-- A request to the session. -/
inductive Request where
  | start
  | startWithParent
  | cancelParent
  | stop
  | dispose
  | state
  | stats
  | exceptions
  | exceptionsSorted
  | counters
  | describe
  | drop
  | wait (goal : Goal)
  /-- A client sends a payload, waiting for the reply or not, and for processing or not. -/
  | send (payload : List UInt8) (reply await : Bool)
  | openIdle
  | startConflict
  deriving Inhabited

/-- The answer to a request. -/
inductive Reply where
  | started (result : Except NodeError Unit)
  | parentCancelled (leftRunning settled : Bool)
  | stopped (report : StopReport)
  | disposed
  | state (state : NodeState) (running hasAddr : Bool) (queueLen : Nat)
  | stats (stats : Stats) (poolOutstanding : Option Nat)
  | reports (list : List Report)
  | counters (counters : Counters)
  | described (text : String)
  | dropped (first : Bool)
  | reached (holds : Bool)
  /-- A client exchange failed with `error`; with `await`, whether processing grew. -/
  | sent (processed : Option Bool) (error : IoError)
  | connectFailed (error : IoError)
  | conflict (result : Except NodeError Unit) (after : NodeState)
  | skipped (reason : String)
  /-- The call panicked with this message. -/
  | panicked (message : String)
  deriving Inhabited

/-- A kept failure as a JSON object: the error's text and whether a peer came with it. -/
def Report.toValue (r : Report) : Json.Value :=
  .obj [("error", .str r.error.message), ("has_peer", .bool r.remote.isSome)]

/-- Kept failures in the order of their compact JSON text. -/
def sortReports (rs : List Report) : List Report :=
  rs.mergeSort fun a b => !decide (b.toValue.compact < a.toValue.compact)

/-- A client exchange with the node: on the isolated host it fails before reaching it, and a
waiting client then watches for processing to grow until it gives up. -/
def Session.send (s : Session) (await : Bool) : Session × Reply :=
  match s.machine.localAddr? with
  | none => (s, .skipped "not running")
  | some _ =>
    if await then
      let before := s.machine.world.stats.processed
      let (m, grew) := s.machine.awaitGoal fun m => before < m.world.stats.processed
      ({ s with machine := m }, .sent (some grew) unreachable)
    else (s, .sent none unreachable)

/-- Answer one request. -/
def Session.handle (s : Session) (req : Request) : Session × Reply :=
  if s.gone then
    (s, match req with
      | .drop => .dropped false
      | _ => .skipped "dropped")
  else
    let m := s.machine
    match req with
    | .start =>
      match s.start false with
      | .ok (s, r) => (s, .started r)
      | .error message => (s, .panicked message)
    | .startWithParent =>
      match s.start true with
      | .ok (s, r) => (s, .started r)
      | .error message => (s, .panicked message)
    | .cancelParent =>
      let (m, left, settled) := m.cancelParent m.world.plan.parentToken
      ({ s with machine := m }, .parentCancelled left settled)
    | .stop =>
      let (m, report) := m.stop
      ({ s with machine := m }, .stopped report)
    | .dispose => ({ s with machine := m.dispose }, .disposed)
    | .state => (s, .state m.state m.isRunning m.localAddr?.isSome m.queueLen)
    | .stats => (s, .stats m.world.stats (m.world.pool.map (·.stats.outstanding)))
    | .exceptions => (s, .reports m.world.reports)
    | .exceptionsSorted => (s, .reports (sortReports m.world.reports))
    | .counters => (s, .counters m.world.counters)
    | .describe => (s, .described s.describe)
    | .drop => ({ s with gone := true, machine := m.orphan }, .dropped true)
    | .wait g =>
      let (m, holds) := m.awaitGoal g.holds
      ({ s with machine := m }, .reached holds)
    | .send _ _ await => s.send await
    | .openIdle =>
      match m.localAddr? with
      | none => (s, .skipped "not running")
      | some _ => (s, .connectFailed unreachable)
    | .startConflict =>
      match s.conflict with
      | none => (s, .skipped "not running")
      | some (.ok (r, after)) => (s, .conflict r after)
      | some (.error message) => (s, .panicked message)

/-- Answer requests in order, until one panics. -/
def Session.run (s : Session) : List Request → List Reply
  | [] => []
  | req :: rest =>
    match s.handle req with
    | (_, .panicked message) => [.panicked message]
    | (s, reply) => reply :: s.run rest

end NetNode.Node
