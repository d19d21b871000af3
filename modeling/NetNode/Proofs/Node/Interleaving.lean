import Mathlib
import NetNode.Node.Control

/-!
# The node under any interleaving

The machine of `NetNode.Node.Machine` lets the tasks of a node take turns in one fixed order.
Here any of them may move at any moment: the producer, a worker or a dispatched unit of any run
(the running one, the one a stop has taken, or one a timed-out stop left in the background), a
stop asked for by a producer, the end of a stop, time passing, and the owner's calls. Each move
is the model's own step of that task; `Machine.act` makes one move and `Machine.exec` a
sequence of them, skipping the moves that cannot be made.

Read `step?_act` first: every move of the fixed order is an action, so what holds after every
sequence of actions holds of the node as the machine runs it.
-/

namespace NetNode.Node

open NetNode.Address

/-- Where a run stands: in the running slot, taken by the stop in progress, or left in the
background by a stop that gave up waiting (by position). -/
inductive Place where
  | running
  | stopping
  | background (i : Nat)
  deriving DecidableEq, Repr

/-- A task of a run. -/
inductive Task where
  | producer
  | worker (i : Nat)
  | dispatched (k : Nat)
  deriving DecidableEq, Repr

/-- One move of the node. `start` is a start whose bind succeeded at `bound`, under the parent
token `parent` if any, made while no stop holds the lock; `stop` is a stop that finds the lock
free and takes the running run; `dispose` is the write that ends a disposal; `cancelParent k`
cancels parent token `k`; `drop` is the owner dropping the node. -/
inductive Action where
  | task (p : Place) (t : Task)
  | selfStop
  | completeStop
  | tick (t : Nat)
  | start (bound : SocketAddress) (parent : Option Nat)
  | stop
  | dispose
  | cancelParent (k : Nat)
  | drop

/-- One move of a task of a run. -/
def Run.move (w : World) (r : Run) : Task → Option (Run × World)
  | .producer => r.stepProducer w
  | .worker i => r.stepWorker w i
  | .dispatched k => r.stepDispatched w k

/-- Moves of a run's tasks in order, with no other run changing the world; a move that cannot be
made is skipped. -/
def Run.runTasks (w : World) (r : Run) : List Task → Run × World
  | [] => (r, w)
  | t :: ts =>
    let x := (r.move w t).getD (r, w)
    x.1.runTasks x.2 ts

@[simp] theorem Run.runTasks_nil (w : World) (r : Run) : r.runTasks w [] = (r, w) := rfl

@[simp] theorem Run.runTasks_cons (w : World) (r : Run) (t : Task) (ts : List Task) :
    r.runTasks w (t :: ts) =
      ((r.move w t).getD (r, w)).1.runTasks ((r.move w t).getD (r, w)).2 ts := rfl

/-- The run at a place. -/
def Machine.runAt (m : Machine) : Place → Option Run
  | .running => m.slot
  | .stopping => m.stopping.map (·.run)
  | .background i => m.background[i]?

/-- Put a run back at its place, with the world it left. -/
def Machine.put (m : Machine) (r : Run) (w : World) : Place → Machine
  | .running => { m with slot := some r, world := w }
  | .stopping => { m with stopping := m.stopping.map ({ · with run := r }), world := w }
  | .background i => { m with background := m.background.set i r, world := w }

/-- Make one move, if it can be made. -/
def Machine.act (m : Machine) : Action → Option Machine
  | .task p t => (m.runAt p).bind fun r => (r.move m.world t).map fun (r, w) => m.put r w p
  | .selfStop => m.selfStop?
  | .completeStop => m.completeStop?
  | .tick t => some (m.at t)
  | .start a parent => if m.canStart && m.stopping.isNone then some (m.launch a parent) else none
  | .stop =>
    match m.stopping, m.slot with
    | none, some r => some (m.beginStop r)
    | _, _ => none
  | .dispose => some { m with state := .disposed }
  | .cancelParent k => some (m.cancelToken k)
  | .drop => if m.stopping.isNone then some m.orphan else none

/-- Make moves in order; a move that cannot be made is skipped. -/
def Machine.exec (m : Machine) : List Action → Machine
  | [] => m
  | a :: as => ((m.act a).getD m).exec as

@[simp] theorem Machine.exec_nil (m : Machine) : m.exec [] = m := rfl

@[simp] theorem Machine.exec_cons (m : Machine) (a : Action) (as : List Action) :
    m.exec (a :: as) = ((m.act a).getD m).exec as := rfl

theorem Machine.exec_append (m : Machine) (as bs : List Action) :
    m.exec (as ++ bs) = (m.exec as).exec bs := by
  induction as generalizing m with
  | nil => rfl
  | cons a as ih => exact ih _

/-! ## What the steps of a run touch

One frame lemma for each helper of a step: it names the fields the helper changes, and the
statistics it counts. The buffer a source holds and the pool it rents from change at many
steps, so most frames leave them unknown; later proofs that do not count buffers then never
look inside. -/

theorem World.giveBack_frame (w : World) (l : Option Pool.Buffer) :
    ∃ p, w.giveBack l = { w with pool := p } := by
  unfold World.giveBack
  split
  · split
    · exact ⟨_, rfl⟩
    · exact ⟨w.pool, rfl⟩
  · exact ⟨w.pool, rfl⟩

theorem World.foldl_giveBack_frame (w : World) (items : List Item) :
    ∃ p, items.foldl (fun w i => w.giveBack i.loan) w = { w with pool := p } := by
  induction items generalizing w with
  | nil => exact ⟨w.pool, rfl⟩
  | cons i items ih =>
    obtain ⟨p, hp⟩ := World.giveBack_frame w i.loan
    obtain ⟨p', hp'⟩ := ih (w.giveBack i.loan)
    refine ⟨p', ?_⟩
    rw [List.foldl_cons, hp', hp]

/-- Dropping units counts them and gives their buffers back. -/
theorem World.discard_frame (w : World) (items : List Item) :
    ∃ p, w.discard items = { w with
      pool := p, stats := { w.stats with dropped := w.stats.dropped + items.length } } := by
  obtain ⟨p, hp⟩ := World.foldl_giveBack_frame w items
  exact ⟨p, by rw [World.discard, hp]; rfl⟩

/-- Renting a buffer before a receive touches only the source's buffer and the pool. -/
theorem Run.holdBuffer_frame (w : World) (r : Run) :
    ∃ h p, r.holdBuffer w = ({ r with holding := h }, { w with pool := p }) := by
  unfold Run.holdBuffer
  split
  · exact ⟨_, _, rfl⟩
  · exact ⟨r.holding, w.pool, rfl⟩

/-- Giving the source's buffer back touches only that buffer and the pool. -/
theorem Run.returnBuffer_frame (w : World) (r : Run) :
    ∃ h p, r.returnBuffer w = ({ r with holding := h }, { w with pool := p }) := by
  unfold Run.returnBuffer
  split
  · exact ⟨_, _, rfl⟩
  · exact ⟨r.holding, w.pool, rfl⟩

/-- A failed receive that may cancel the parent token touches only the run's cancellation and
the token. -/
theorem Run.cancelParent_frame (w : World) (r : Run) (cancel : Bool) :
    ∃ c ks, (if cancel then r.cancelParent w else (r, w)) =
      ({ r with cancelled := c }, { w with cancelledTokens := ks }) := by
  cases cancel
  · exact ⟨r.cancelled, w.cancelledTokens, rfl⟩
  · exact ⟨_, _, rfl⟩

/-- The producer's exit: the queue closed unless the producer panicked, the producer gone with
how it ended, and a stop of its run asked for. -/
theorem Run.exit_frame (w : World) (r : Run) (e : Ending) :
    ∃ h p, r.exit w e = ({ r with
        closed := r.closed || e.closes, holding := h, producer := .finished, ending := some e },
      { w with pool := p, selfStops := w.selfStops ++ [r.generation] }) := by
  obtain ⟨h, p, hb⟩ := Run.returnBuffer_frame w (if e.closes then { r with closed := true } else r)
  refine ⟨h, p, ?_⟩
  cases hc : e.closes <;> simp_all [Run.exit]

@[simp] theorem World.giveBack_stats (w : World) (l : Option Pool.Buffer) :
    (w.giveBack l).stats = w.stats := by
  obtain ⟨p, hp⟩ := World.giveBack_frame w l
  rw [hp]

@[simp] theorem World.discard_stats (w : World) (items : List Item) :
    (w.discard items).stats = { w.stats with dropped := w.stats.dropped + items.length } := by
  obtain ⟨p, hp⟩ := World.discard_frame w items
  rw [hp]

@[simp] theorem World.discard_selfStops (w : World) (items : List Item) :
    (w.discard items).selfStops = w.selfStops := by
  obtain ⟨p, hp⟩ := World.discard_frame w items
  rw [hp]

section exit

variable (w : World) (r : Run) (e : Ending)

/-- The producer's exit touches neither the queue nor the workers nor the dispatched units. -/
@[simp] theorem Run.exit_queue : (r.exit w e).1.queue = r.queue := by
  obtain ⟨h, p, hx⟩ := Run.exit_frame w r e
  rw [hx]

@[simp] theorem Run.exit_workers : (r.exit w e).1.workers = r.workers := by
  obtain ⟨h, p, hx⟩ := Run.exit_frame w r e
  rw [hx]

@[simp] theorem Run.exit_dispatched : (r.exit w e).1.dispatched = r.dispatched := by
  obtain ⟨h, p, hx⟩ := Run.exit_frame w r e
  rw [hx]

@[simp] theorem Run.exit_producer : (r.exit w e).1.producer = .finished := by
  obtain ⟨h, p, hx⟩ := Run.exit_frame w r e
  rw [hx]

@[simp] theorem Run.exit_stats : (r.exit w e).2.stats = w.stats := by
  obtain ⟨h, p, hx⟩ := Run.exit_frame w r e
  rw [hx]

end exit

/-- The end of a unit's processing: the unit counted processed, and failed at most once more;
its buffer goes back, and only the reports change besides. -/
theorem Run.finish_frame (w : World) (r : Run) (job : Job) :
    ∃ rs fl, fl ≤ w.stats.failed + 1 ∧ r.finish w job =
      ({ r with finished := r.finished + 1 },
       { w with
         pool := (w.giveBack job.loan).pool
         reports := rs
         counters := { w.counters with finished := w.counters.finished + 1 }
         stats := { w.stats with
           active := w.stats.active - 1
           processed := w.stats.processed + 1
           failed := fl } }) := by
  obtain ⟨p, hp⟩ := World.giveBack_frame w job.loan
  unfold Run.finish
  rw [hp]
  split
  · exact ⟨_, _, Nat.le_succ _, rfl⟩
  · split
    · exact ⟨_, _, Nat.le_succ _, rfl⟩
    · dsimp only
      unfold World.report
      split
      · exact ⟨_, _, Nat.le_refl _, rfl⟩
      · exact ⟨_, _, Nat.le_refl _, rfl⟩

/-- How the start of a unit's processing ends: its peer panics and the unit is gone, its
buffer given back; or it is counted active and started and goes on as a job holding its buffer;
or it is counted active and started and finishes at once. -/
theorem Run.begin_cases (w : World) (r : Run) (item : Item) :
    let r' := { r with started := r.started + 1 }
    let w' := { w with
      stats := { w.stats with active := w.stats.active + 1 }
      counters := { w.counters with started := w.counters.started + 1 } }
    (item.work.behavior = .remotePanic ∧ r.begin w item = (.died, r, w.giveBack item.loan)) ∨
      (item.work.behavior ≠ .remotePanic ∧
        ((∃ j : Job, j.loan = item.loan ∧ r.begin w item = (.running j, r', w')) ∨
          (∃ j : Job, j.loan = item.loan ∧ r.begin w item = (.done, r'.finish w' j)))) := by
  intro r' w'
  unfold Run.begin
  dsimp only
  split
  next hp => exact .inl ⟨hp, rfl⟩
  next hp =>
    refine .inr ⟨hp, ?_⟩
    split
    · exact .inl ⟨_, rfl, rfl⟩
    · split
      · exact .inr ⟨_, rfl, rfl⟩
      · exact .inl ⟨_, rfl, rfl⟩
    · exact .inr ⟨_, rfl, rfl⟩

/-- Stopping a producer from outside ends it where it is; its buffer, and that of a unit it was
pushing, go back. -/
theorem Run.abort_frame (w : World) (r : Run) :
    ∃ h p, r.abort w = ({ r with producer := .finished, holding := h }, { w with pool := p }) := by
  unfold Run.abort
  split
  next hf =>
    have hfin : r.producer = .finished := beq_iff_eq.mp hf
    exact ⟨r.holding, w.pool, by rw [← hfin]⟩
  next =>
    dsimp only
    split
    · obtain ⟨p, hp⟩ := World.giveBack_frame w _
      rw [hp]
      obtain ⟨h, p', hr⟩ := Run.returnBuffer_frame { w with pool := p } r
      rw [hr]
      exact ⟨h, p', rfl⟩
    · obtain ⟨h, p, hr⟩ := Run.returnBuffer_frame w r
      rw [hr]
      exact ⟨h, p, rfl⟩

/-! ## The runs of a node -/

/-- Replacing one element of a list changes a sum over it by the difference. -/
theorem sum_map_set {α : Type} {l : List α} {i : Nat} {old : α} (h : l[i]? = some old)
    (f : α → Nat) (x : α) : ((l.set i x).map f).sum + f old = (l.map f).sum + f x := by
  induction l generalizing i with
  | nil => simp at h
  | cons y l ih =>
    cases i with
    | zero =>
      simp only [List.getElem?_cons_zero, Option.some.injEq] at h
      subst h
      simp only [List.set_cons_zero, List.map_cons, List.sum_cons]
      omega
    | succ i =>
      simp only [List.getElem?_cons_succ] at h
      have := ih h
      simp only [List.set_cons_succ, List.map_cons, List.sum_cons]
      omega

/-- The runs of a node: the running one, the one being stopped, and those in the background. -/
def Machine.runs (m : Machine) : List Run :=
  m.slot.toList ++ (m.stopping.map (·.run)).toList ++ m.background

/-- Cancelling a parent token changes no run's place. -/
theorem Machine.runs_cancelToken (m : Machine) (k : Nat) :
    (m.cancelToken k).runs = m.runs.map (Run.cancelUnder k) := by
  simp [Machine.runs, Machine.cancelToken, Option.toList_map]

theorem Machine.mem_runs {m : Machine} {p : Place} {r : Run} (h : m.runAt p = some r) :
    r ∈ m.runs := by
  cases p with
  | running => simp [Machine.runs, ← h, Machine.runAt]
  | stopping =>
    obtain ⟨s, hs, rfl⟩ := Option.map_eq_some_iff.mp h
    simp [Machine.runs, hs]
  | background i => simp [Machine.runs, List.mem_of_getElem? h]

/-- Putting back a run that moved changes a sum over the runs by the difference. -/
theorem Machine.sum_put {m : Machine} {p : Place} {r : Run} (h : m.runAt p = some r)
    (f : Run → Nat) (r' : Run) (w : World) :
    ((m.put r' w p).runs.map f).sum + f r = (m.runs.map f).sum + f r' := by
  cases p with
  | running =>
    simp only [Machine.runAt] at h
    simp only [Machine.runs, Machine.put, h, Option.toList_some, List.cons_append, List.map_cons,
      List.sum_cons]
    omega
  | stopping =>
    obtain ⟨s, hs, rfl⟩ := Option.map_eq_some_iff.mp h
    simp only [Machine.runs, Machine.put, hs, Option.map_some, Option.toList_some,
      List.map_append, List.sum_append, List.map_cons, List.map_nil, List.sum_cons,
      List.sum_nil]
    omega
  | background i =>
    have := sum_map_set h f r'
    simp only [Machine.runs, Machine.put, List.map_append, List.sum_append]
    omega

@[simp] theorem Machine.put_world (m : Machine) (r : Run) (w : World) (p : Place) :
    (m.put r w p).world = w := by
  cases p <;> rfl

/-! ## What each kind of move does

Every invariant of a node is kept move by move. These lemmas say once what the owner's moves
and a producer's stop leave, so that each invariant's proof is one case per kind of move. -/

/-- A move of a task is a move of the run at its place, put back there with the world it
leaves. -/
theorem Machine.act_task {m m' : Machine} {p : Place} {t : Task}
    (h : m.act (.task p t) = some m') :
    ∃ r x, m.runAt p = some r ∧ r.move m.world t = some x ∧ m' = m.put x.1 x.2 p := by
  obtain ⟨r, hr, hm⟩ := Option.bind_eq_some_iff.mp h
  obtain ⟨x, hx, rfl⟩ := Option.map_eq_some_iff.mp hm
  exact ⟨r, x, hr, hx, rfl⟩

/-- A move of a task of the run at `p` puts the run and the world it leaves back at `p`. -/
theorem Machine.act_task_of_move {m : Machine} {p : Place} {r : Run} {t : Task}
    {x : Run × World} (hr : m.runAt p = some r) (hx : r.move m.world t = some x) :
    m.act (.task p t) = some (m.put x.1 x.2 p) := by
  simp [Machine.act, hr, hx]

/-- A launch needs the lock free: a node not disposed, with no run in the slot and no stop in
progress. -/
theorem Machine.act_start {m m' : Machine} {a : SocketAddress} {k : Option Nat}
    (h : m.act (.start a k) = some m') :
    m.state ≠ .disposed ∧ m.slot = none ∧ m.stopping = none ∧ m' = m.launch a k := by
  simp only [Machine.act, Machine.canStart, Bool.and_eq_true, bne_iff_ne, ne_eq,
    Option.isNone_iff_eq_none] at h
  split at h
  next hc =>
    cases h
    exact ⟨hc.1.1, hc.1.2, hc.2, rfl⟩
  · cases h

/-- A stop takes the running run, and needs no stop in progress. -/
theorem Machine.act_stop {m m' : Machine} (h : m.act .stop = some m') :
    ∃ r, m.stopping = none ∧ m.slot = some r ∧ m' = m.beginStop r := by
  simp only [Machine.act] at h
  split at h
  next r hs hr =>
    cases h
    exact ⟨r, hs, hr, rfl⟩
  · cases h

/-- Dropping the node needs no stop in progress. -/
theorem Machine.act_drop {m m' : Machine} (h : m.act .drop = some m') :
    m.stopping = none ∧ m' = m.orphan := by
  simp only [Machine.act] at h
  split at h
  next hs =>
    cases h
    exact ⟨Option.isNone_iff_eq_none.mp hs, rfl⟩
  · cases h

/-- A stop asked for by a producer is taken off the line once no stop is in progress. It stops
the running run when that run is of the generation that asked, and otherwise changes nothing
else. -/
theorem Machine.selfStop?_eq_some {m m' : Machine} (h : m.selfStop? = some m') :
    m.stopping = none ∧ ∃ g rest, m.world.selfStops = g :: rest ∧
      ((∀ r, m.slot = some r → r.generation ≠ g) ∧
          m' = { m with world := { m.world with selfStops := rest } } ∨
        ∃ r, m.slot = some r ∧ r.generation = g ∧
          m' = ({ m with world := { m.world with selfStops := rest } } : Machine).beginStop r) := by
  unfold Machine.selfStop? at h
  split at h
  · cases h
  next hs =>
    refine ⟨by simpa using hs, ?_⟩
    split at h
    · cases h
    next g rest hq =>
      refine ⟨g, rest, hq, ?_⟩
      dsimp only at h
      split at h
      next r hr =>
        split at h
        next hg =>
          cases h
          exact .inr ⟨r, hr, hg, rfl⟩
        next hg =>
          cases h
          refine .inl ⟨fun r' hr' => ?_, rfl⟩
          -- the slot holds one run, of another generation
          have he : r' = r := Option.some.inj (hr'.symm.trans hr)
          exact he ▸ hg
      next hr =>
        cases h
        exact .inl ⟨fun r' hr' => absurd (hr'.symm.trans hr) (by simp), rfl⟩

/-- The end of a stop needs one in progress whose run is quiet or whose time is over. It aborts
the run's producer, releases the processor and stops the node; a run with work left goes on in
the background, and the stop timed out exactly then. -/
theorem Machine.completeStop?_eq_some {m m' : Machine} (h : m.completeStop? = some m') :
    ∃ s holding p, m.stopping = some s ∧ (s.run.quiet = true ∨ s.deadline ≤ m.world.clock) ∧
      m' = { m with
        stopping := none
        world := { m.world with
          pool := p
          counters := { m.world.counters with released := m.world.counters.released + 1 } }
        state := m.state.next .stopped
        timedOut := !s.run.quiet
        background := if s.run.quiet then m.background
          else m.background ++ [{ s.run with producer := .finished, holding }] } := by
  unfold Machine.completeStop? at h
  cases hs : m.stopping with
  | none => simp [hs] at h
  | some s =>
    obtain ⟨hb, p, ha⟩ := Run.abort_frame m.world s.run
    simp only [hs, ha] at h
    split at h
    next hdone =>
      cases h
      exact ⟨s, hb, p, rfl, by simpa using hdone, rfl⟩
    · cases h

/-- Dropping a node whose slot is empty changes nothing. -/
theorem Machine.orphan_of_empty {m : Machine} (h : m.slot = none) : m.orphan = m := by
  unfold Machine.orphan
  rw [h]

/-- Dropping the node while a run holds the slot sends the run to the background, cancelled,
its queue handed back and closed and its producer aborted, and releases the processor. -/
theorem Machine.orphan_of_slot {m : Machine} {r : Run} (hr : m.slot = some r) :
    ∃ holding p, m.orphan = { m with
      slot := none
      world := { m.world with
        pool := p
        counters := { m.world.counters with released := m.world.counters.released + 1 } }
      background := m.background ++
        [{ r with
            cancelled := true, queue := [], closed := true, producer := .finished, holding }] } := by
  obtain ⟨p, hp⟩ := World.foldl_giveBack_frame m.world r.queue
  obtain ⟨hb, p', ha⟩ := Run.abort_frame { m.world with pool := p }
    { r with cancelled := true, queue := [], closed := true }
  refine ⟨hb, p', ?_⟩
  unfold Machine.orphan
  rw [hr]
  dsimp only
  rw [hp, ha]

/-! ## The fixed order is one interleaving -/

/-- A move of a run in the fixed order is the move of one of its tasks. -/
theorem Run.step_move {w : World} {r : Run} {x : Run × World} (h : r.step w = some x) :
    ∃ t, r.move w t = some x := by
  simp only [Run.step, Run.stepTasks, Option.orElse_eq_orElse, Option.orElse_eq_or,
    Option.or_eq_some_iff] at h
  rcases h with h | ⟨-, h | ⟨-, h⟩⟩
  · exact ⟨.producer, h⟩
  · obtain ⟨i, -, hi⟩ := List.exists_of_findSome?_eq_some h
    exact ⟨.worker i, hi⟩
  · obtain ⟨k, -, hk⟩ := List.exists_of_findSome?_eq_some h
    exact ⟨.dispatched k, hk⟩

/-- Every move the machine makes in its fixed order is an action. -/
theorem Machine.step?_act {m m' : Machine} (h : m.step? = some m') : ∃ a, m.act a = some m' := by
  simp only [Machine.step?, Option.orElse_eq_orElse, Option.orElse_eq_or,
    Option.or_eq_some_iff] at h
  rcases h with h | ⟨-, h | ⟨-, h | ⟨-, h | ⟨-, h | ⟨-, h⟩⟩⟩⟩⟩
  · -- the running producer
    exact ⟨.task .running .producer, h⟩
  · exact ⟨.selfStop, h⟩
  · -- a worker or a dispatched unit of the running run
    obtain ⟨r, hr, hm⟩ := Option.bind_eq_some_iff.mp h
    obtain ⟨x, hx, rfl⟩ := Option.map_eq_some_iff.mp hm
    simp only [Run.stepTasks, Option.orElse_eq_orElse, Option.orElse_eq_or,
      Option.or_eq_some_iff] at hx
    rcases hx with hx | ⟨-, hx⟩
    · obtain ⟨i, -, hi⟩ := List.exists_of_findSome?_eq_some hx
      exact ⟨.task .running (.worker i), by simp [Machine.act, Machine.runAt, hr, Run.move, hi,
        Machine.put]⟩
    · obtain ⟨k, -, hk⟩ := List.exists_of_findSome?_eq_some hx
      exact ⟨.task .running (.dispatched k), by simp [Machine.act, Machine.runAt, hr, Run.move,
        hk, Machine.put]⟩
  · -- a task of the run being stopped
    obtain ⟨s, hs, hm⟩ := Option.bind_eq_some_iff.mp h
    obtain ⟨x, hx, rfl⟩ := Option.map_eq_some_iff.mp hm
    obtain ⟨t, ht⟩ := Run.step_move hx
    exact ⟨.task .stopping t, by simp [Machine.act, Machine.runAt, hs, ht, Machine.put]⟩
  · -- a task of a background run
    obtain ⟨i, -, hi⟩ := List.exists_of_findSome?_eq_some h
    obtain ⟨r, hr, hm⟩ := Option.bind_eq_some_iff.mp hi
    obtain ⟨x, hx, rfl⟩ := Option.map_eq_some_iff.mp hm
    obtain ⟨t, ht⟩ := Run.step_move hx
    exact ⟨.task (.background i) t, by simp [Machine.act, Machine.runAt, hr, ht, Machine.put]⟩
  · exact ⟨.completeStop, h⟩

/-! ## The owner's calls are interleavings

Waiting runs the machine in its fixed order and lets time pass from timer to timer; a call then
makes one move of its own. So every call leaves the node at a state some sequence of moves
reaches (`Machine.Reaches`), and what holds after every sequence of moves holds after every call.
-/

/-- `m'` is the node `m` after some sequence of moves. -/
def Machine.Reaches (m m' : Machine) : Prop := ∃ as, m' = m.exec as

theorem Machine.Reaches.refl (m : Machine) : m.Reaches m := ⟨[], rfl⟩

theorem Machine.Reaches.trans {m₁ m₂ m₃ : Machine} (h₁ : m₁.Reaches m₂) (h₂ : m₂.Reaches m₃) :
    m₁.Reaches m₃ := by
  obtain ⟨as, rfl⟩ := h₁
  obtain ⟨bs, rfl⟩ := h₂
  exact ⟨as ++ bs, (Machine.exec_append m₁ as bs).symm⟩

theorem Machine.Reaches.of_act {m m' : Machine} {a : Action} (h : m.act a = some m') :
    m.Reaches m' := ⟨[a], by simp [h]⟩

theorem Machine.reaches_at (m : Machine) (t : Nat) : m.Reaches (m.at t) :=
  .of_act (a := .tick t) rfl

/-- Settling makes moves of the fixed order, each an action. -/
theorem Machine.reaches_settleWith (n : Nat) (m : Machine) : m.Reaches (m.settleWith n) := by
  induction n generalizing m with
  | zero => exact .refl m
  | succ n ih =>
    cases h : m.step? with
    | none =>
      simp only [Machine.settleWith, h]
      exact .refl m
    | some m' =>
      obtain ⟨a, ha⟩ := Machine.step?_act h
      simp only [Machine.settleWith, h]
      exact (Machine.Reaches.of_act ha).trans (ih m')

/-- Waiting for a goal settles, lets time pass to the next timer, and settles again. -/
theorem Machine.reaches_runUntilWith (goal : Machine → Bool) (limit n : Nat) (m : Machine) :
    m.Reaches (m.runUntilWith goal limit n).1 := by
  induction n generalizing m with
  | zero => exact .refl m
  | succ n ih =>
    have hs := Machine.reaches_settleWith settleFuel m
    have hlast (t : Nat) : m.Reaches ((m.settle.at t).settle) :=
      hs.trans ((Machine.reaches_at _ t).trans (Machine.reaches_settleWith _ _))
    simp only [Machine.runUntilWith]
    split
    · exact hs
    · split
      · split
        · exact hs.trans ((Machine.reaches_at _ _).trans (ih _))
        · exact hlast limit
      · exact hlast limit

theorem Machine.reaches_runUntil (m : Machine) (goal : Machine → Bool) (limit : Nat) :
    m.Reaches (m.runUntil goal limit).1 :=
  Machine.reaches_runUntilWith goal limit timerFuel m

/-- A stop that gives up has reached its deadline and ended. -/
theorem Machine.reaches_giveUp (m : Machine) : m.Reaches m.giveUp := by
  unfold Machine.giveUp
  split
  · exact .refl m
  · next s _ =>
    cases h : (m.at s.deadline).completeStop? with
    | none => exact .refl m
    | some m' => exact (m.reaches_at _).trans (.of_act (a := .completeStop) h)

/-- Once a stop gives up, none is in progress. -/
theorem Machine.giveUp_stopping (m : Machine) : m.giveUp.stopping = none := by
  unfold Machine.giveUp
  split
  · assumption
  · next s hs =>
    have hle : s.deadline ≤ max s.deadline m.world.clock := Nat.le_max_left _ _
    simp [Machine.completeStop?, Machine.at, hs, hle]

theorem Machine.reaches_awaitLock (m : Machine) : m.Reaches m.awaitLock := by
  unfold Machine.awaitLock
  split
  · exact .refl m
  · exact (Machine.reaches_runUntil _ _ _).trans (Machine.reaches_giveUp _)

/-- A call that has taken the lock finds no stop in progress. -/
theorem Machine.awaitLock_stopping (m : Machine) : m.awaitLock.stopping = none := by
  unfold Machine.awaitLock
  split
  · assumption
  · exact Machine.giveUp_stopping _

theorem Machine.reaches_stop (m : Machine) : m.Reaches m.stop.1 := by
  have hl := Machine.reaches_awaitLock m
  cases hr : m.awaitLock.slot with
  | none =>
    have e : m.stop.1 = m.awaitLock := by simp only [Machine.stop, hr]
    rw [e]
    exact hl
  | some r =>
    -- the lock is free, so the stop takes the running run as a move of its own
    have hb : m.awaitLock.act .stop = some (m.awaitLock.beginStop r) := by
      simp [Machine.act, Machine.awaitLock_stopping, hr]
    let m₁ := m.awaitLock.beginStop r
    have e : m.stop.1 =
        (m₁.runUntil (fun m => m.stopping.isNone) (m₁.world.clock + m₁.world.plan.stopMillis)).1 := by
      simp only [Machine.stop, hr, m₁]
    rw [e]
    exact hl.trans ((Machine.Reaches.of_act hb).trans (Machine.reaches_runUntil _ _ _))

theorem Machine.reaches_dispose (m : Machine) : m.Reaches m.dispose :=
  (Machine.reaches_stop m).trans (.of_act (a := .dispose) rfl)

theorem Machine.reaches_cancelParent (m : Machine) (k : Nat) : m.Reaches (m.cancelParent k).1 :=
  (Machine.Reaches.of_act (a := .cancelParent k) rfl).trans
    (Machine.reaches_runUntil (m.cancelToken k) (fun m => m.state != .running)
      ((m.cancelToken k).world.clock + pollMillis))

theorem Machine.reaches_awaitGoal (m : Machine) (goal : Machine → Bool) :
    m.Reaches (m.awaitGoal goal).1 := by
  unfold Machine.awaitGoal
  split
  · exact .refl m
  · exact Machine.reaches_runUntil _ _ _

/-- Dropping a node is a move, or changes nothing while a stop holds the only run. -/
theorem Machine.reaches_orphan {m : Machine} (h : m.stopping.isSome → m.slot = none) :
    m.Reaches m.orphan := by
  cases hs : m.stopping with
  | none => exact .of_act (a := .drop) (by simp [Machine.act, hs])
  | some s =>
    have hslot : m.slot = none := h (by simp [hs])
    simp only [Machine.orphan, hslot]
    exact .refl m

end NetNode.Node
