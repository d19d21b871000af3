import NetNode.Proofs.Node.Shape

/-!
# Every unit is accounted for, save three kinds of loss

The statistics of a node count the units its producer accepted from the source, and those
processed and dropped. Over every interleaving of the node's tasks and its owner's calls, each
accepted unit is processed, dropped, still held by a run (queued, pushed, with a worker, or
dispatched), or lost, and no unit is counted twice (`unit_ledger`). A unit is lost in three
ways only (`Machine.loss`):
* a worker starts it and its peer panics: the panic unwinds past the counters;
* a stop gives up waiting while the producer of its run is pushing it: the push is dropped;
* the node is dropped: the units queued in its running run, and the one its producer is
  pushing, go without being counted.

Each move of a task keeps the books of its run and of the shared statistics (`Books`), and
each move of the node keeps the node's (`Machine.Balanced`); the run lemma follows by induction
on the moves. The units active are those being processed, and no more units fail than are
processed. Once no task of the node is running, nothing is held: every accepted unit is then
processed, dropped or lost.
-/

namespace NetNode.Node

open NetNode.Pool

/-! ## The books of a run -/

/-- Units a worker holds: the one it processes inline or waits with for a permit. -/
def Worker.holds : Worker → Nat
  | .idle => 0
  | .busy _ => 1
  | .acquiring _ => 1
  | .exited => 0

@[simp] theorem Worker.holds_idle : Worker.idle.holds = 0 := rfl
@[simp] theorem Worker.holds_busy (j : Job) : (Worker.busy j).holds = 1 := rfl
@[simp] theorem Worker.holds_acquiring (i : Item) : (Worker.acquiring i).holds = 1 := rfl
@[simp] theorem Worker.holds_exited : Worker.exited.holds = 0 := rfl

/-- Units a worker processes inline. -/
def Worker.runs : Worker → Nat
  | .idle => 0
  | .busy _ => 1
  | .acquiring _ => 0
  | .exited => 0

@[simp] theorem Worker.runs_idle : Worker.idle.runs = 0 := rfl
@[simp] theorem Worker.runs_busy (j : Job) : (Worker.busy j).runs = 1 := rfl
@[simp] theorem Worker.runs_acquiring (i : Item) : (Worker.acquiring i).runs = 0 := rfl
@[simp] theorem Worker.runs_exited : Worker.exited.runs = 0 := rfl

/-- Units the producer holds: the one it waits to push. -/
def Producer.holds : Producer → Nat
  | .pushing _ _ => 1
  | .fetch _ => 0
  | .pausing _ _ => 0
  | .gated _ _ _ _ => 0
  | .backingOff _ _ => 0
  | .parked => 0
  | .finished => 0

@[simp] theorem Producer.holds_pushing (pos : Nat) (i : Item) :
    (Producer.pushing pos i).holds = 1 := rfl
@[simp] theorem Producer.holds_fetch (pos : Nat) : (Producer.fetch pos).holds = 0 := rfl
@[simp] theorem Producer.holds_pausing (pos t : Nat) : (Producer.pausing pos t).holds = 0 := rfl
@[simp] theorem Producer.holds_gated (pos : Nat) (k : Gate) (n d : Nat) :
    (Producer.gated pos k n d).holds = 0 := rfl
@[simp] theorem Producer.holds_backingOff (pos t : Nat) :
    (Producer.backingOff pos t).holds = 0 := rfl
@[simp] theorem Producer.holds_parked : Producer.parked.holds = 0 := rfl
@[simp] theorem Producer.holds_finished : Producer.finished.holds = 0 := rfl

/-- Only a producer pushing a unit holds one. -/
theorem Producer.holds_eq_zero {p : Producer} (h : ∀ next item, p ≠ .pushing next item) :
    p.holds = 0 := by
  cases p with
  | pushing next item => exact absurd rfl (h next item)
  | _ => rfl

/-- Units a run holds: queued, in the producer's hands, with its workers, or dispatched. -/
def Run.held (r : Run) : Nat :=
  r.queue.length + r.producer.holds + (r.workers.map Worker.holds).sum + r.dispatched.length

/-- Units a run is processing: inline by its workers, or dispatched. -/
def Run.busy (r : Run) : Nat := (r.workers.map Worker.runs).sum + r.dispatched.length

/-- Units the statistics count as gone: processed or dropped. -/
def World.counted (w : World) : Nat := w.stats.processed + w.stats.dropped

/-- A unit whose peer panics as its processing starts is lost: it is counted neither as
processed nor as dropped. -/
def Item.lostAtStart (item : Item) : Nat := if item.work.behavior = .remotePanic then 1 else 0

/-- A worker that holds a unit may start it at once: units run inline, or a permit is free and
no other worker waits for one. -/
def Run.mayStart (r : Run) : Bool :=
  match r.permits, r.waiters with
  | none, _ => true
  | some (_ + 1), [] => true
  | _, _ => false

/-- The unit worker `i` starts at its next move, if it starts one: the head of the queue when
it is idle and may start at once, or the unit it waits with once the first free permit is its
own. A cancelled run starts nothing. -/
def Run.starts (r : Run) (i : Nat) : Option Item :=
  if r.cancelled then none
  else
    match r.workers[i]? with
    | some .idle => if r.mayStart then r.queue.head? else none
    | some (.acquiring item) =>
      match r.permits, r.waiters with
      | some (_ + 1), j :: _ => if j = i then some item else none
      | _, _ => none
    | _ => none

/-- Units a move of a task loses: the unit a worker starts, if its peer panics. -/
def Run.loses (r : Run) : Task → Nat
  | .worker i => ((r.starts i).map Item.lostAtStart).getD 0
  | .producer => 0
  | .dispatched _ => 0

/-- A step from `x` to `y` keeps the books, save `lost` units: every unit it accepts, and each of
the `handed` units given to the run from outside, is held or counted, and every unit it lets go
is counted, save those lost; a unit is active exactly while it is processed; and no more units
fail than are processed. -/
structure Books (x y : Run × World) (handed lost : Nat) : Prop where
  units : y.2.stats.accepted + handed + (x.1.held + x.2.counted) =
    x.2.stats.accepted + (y.1.held + y.2.counted) + lost
  active : y.2.stats.active + x.1.busy = x.2.stats.active + y.1.busy
  failed : y.2.stats.failed + x.2.stats.processed ≤ x.2.stats.failed + y.2.stats.processed

theorem Run.held_setWorker {r : Run} {i : Nat} {old : Worker} (h : r.workers[i]? = some old)
    (x : Worker) : (r.setWorker i x).held + old.holds = r.held + x.holds := by
  have := sum_map_set h Worker.holds x
  simp only [Run.held, Run.setWorker]
  omega

theorem Run.busy_setWorker {r : Run} {i : Nat} {old : Worker} (h : r.workers[i]? = some old)
    (x : Worker) : (r.setWorker i x).busy + old.runs = r.busy + x.runs := by
  have := sum_map_set h Worker.runs x
  simp only [Run.busy, Run.setWorker]
  omega

/-- An exit of a producer that holds no unit keeps the books. -/
theorem Books.exit {r r₀ : Run} {w w₀ : World} (e : Ending) (hheld : r₀.held = r.held)
    (hbusy : r₀.busy = r.busy) (hstats : w₀.stats = w.stats) (hidle : r₀.producer.holds = 0) :
    Books (r, w) (r₀.exit w₀ e) 0 0 := by
  simp only [Run.held, Run.busy] at hheld hbusy
  constructor <;> simp only [Run.held, Run.busy, World.counted, Run.exit_stats, Run.exit_queue,
    Run.exit_workers, Run.exit_dispatched, Run.exit_producer, Producer.holds_finished, hstats] <;>
    omega

/-- Pushing a unit the source just delivered keeps the books, the unit counted accepted: the
queue takes it, refuses and drops it, or drops its oldest unit for it. -/
theorem Run.enqueue_books (w : World) (r : Run) (next : Nat) (item : Item)
    (hidle : r.producer.holds = 0) :
    Books (r, w)
      (r.enqueue { w with stats := { w.stats with accepted := w.stats.accepted + 1 } } next item)
      0 0 := by
  unfold Run.enqueue
  dsimp only
  split
  · -- a closed queue refuses the unit: it is dropped
    constructor <;> simp only [Run.held, Run.busy, World.counted, Run.exit_stats, Run.exit_queue,
      Run.exit_workers, Run.exit_dispatched, Run.exit_producer, Producer.holds_finished,
      World.discard_stats, List.length_singleton] <;> omega
  · split
    · constructor <;> simp only [Run.held, Run.busy, World.counted, Producer.holds_fetch,
        List.length_append, List.length_singleton] <;> omega
    · split
      next _ _ old rest _ hq =>
        -- the oldest unit is evicted and dropped
        have hlen : r.queue.length = rest.length + 1 := by rw [hq, List.length_cons]
        split
        · constructor <;> simp only [Run.held, Run.busy, World.counted, Run.exit_stats,
            Run.exit_queue, Run.exit_workers, Run.exit_dispatched, Run.exit_producer,
            Producer.holds_finished, World.discard_stats, List.length_append,
            List.length_singleton] <;> omega
        · constructor <;> simp only [Run.held, Run.busy, World.counted, World.discard_stats,
            Producer.holds_fetch, List.length_append, List.length_singleton] <;> omega
      next _ _ _ hq =>
        constructor <;> simp only [Run.held, Run.busy, World.counted, Producer.holds_fetch,
          List.length_singleton, hq, List.length_nil] <;> omega
      next =>
        constructor <;> simp only [Run.held, Run.busy, World.counted, Producer.holds_pushing] <;>
          omega

/-- A request to the source keeps the books: a delivered unit is accepted and pushed, and
nothing else is accepted, held or counted. -/
theorem Run.fetch_books (w : World) (r : Run) (pos : Nat) (hidle : r.producer.holds = 0) :
    Books (r, w) (r.fetch w pos) 0 0 := by
  obtain ⟨h, p, hb⟩ := Run.holdBuffer_frame w r
  unfold Run.fetch
  rw [hb]
  dsimp only
  split
  next =>
    constructor <;> simp only [Run.held, Run.busy, World.counted, Producer.holds_parked] <;> omega
  next work _ =>
    have hbooks := Run.enqueue_books { w with pool := p } { r with holding := none } (pos + 1)
      ⟨work, h⟩ hidle
    exact ⟨hbooks.units, hbooks.active, hbooks.failed⟩
  next e cancel _ =>
    -- the buffer goes back and the parent may be cancelled; then the failure is classified
    obtain ⟨h', p', hr⟩ := Run.returnBuffer_frame { w with pool := p } { r with holding := h }
    obtain ⟨c, b, hc⟩ :=
      Run.cancelParent_frame { w with pool := p' } { r with holding := h' } cancel
    rw [hr]
    dsimp only
    rw [hc]
    dsimp only
    split
    · split <;> constructor <;> simp only [Run.held, Run.busy, World.counted,
        Producer.holds_backingOff, Producer.holds_fetch] <;> omega
    · exact Books.exit _ rfl rfl rfl hidle
    · exact Books.exit _ rfl rfl rfl hidle
  next => exact Books.exit _ rfl rfl rfl hidle
  next =>
    constructor <;> simp only [Run.held, Run.busy, World.counted, Producer.holds_pausing] <;> omega
  next =>
    constructor <;> simp only [Run.held, Run.busy, World.counted, Producer.holds_gated] <;> omega

/-- A move of the producer keeps the books. -/
theorem Run.stepProducer_books {w : World} {r : Run} {x : Run × World}
    (h : r.stepProducer w = some x) : Books (r, w) x 0 0 := by
  rcases Run.stepProducer_cases h with
    ⟨next, item, hp, ⟨-, rfl⟩ | ⟨-, -, rfl⟩⟩ | ⟨hpush, ⟨-, rfl⟩ | ⟨-, pos, ⟨-, rfl⟩ | rfl⟩⟩
  · -- a cancelled or closed run drops the unit waiting to be pushed
    constructor <;> simp only [Run.held, Run.busy, World.counted, Run.exit_stats, Run.exit_queue,
      Run.exit_workers, Run.exit_dispatched, Run.exit_producer, Producer.holds_finished,
      World.discard_stats, List.length_singleton, hp, Producer.holds_pushing] <;> omega
  · constructor <;> simp only [Run.held, Run.busy, World.counted, hp, Producer.holds_pushing,
      Producer.holds_fetch, List.length_append, List.length_singleton] <;> omega
  · exact Books.exit _ rfl rfl rfl (Producer.holds_eq_zero hpush)
  · exact Run.fetch_books w r pos (Producer.holds_eq_zero hpush)
  · have hidle := Producer.holds_eq_zero hpush
    constructor <;> simp only [Run.held, Run.busy, World.counted, Producer.holds_fetch, hidle] <;>
      omega

/-- A unit run as a task of its own is dispatched, processed at once, or lost when its peer
panics; the workers are left as they are. -/
theorem Run.spawn_books (w : World) (r : Run) (item : Item) :
    Books (r, w) (r.spawn w item) 1 item.lostAtStart ∧ (r.spawn w item).1.workers = r.workers := by
  rcases Run.begin_cases w r item with ⟨hp, h⟩ | ⟨hp, ⟨j, -, h⟩ | ⟨j, -, h⟩⟩
  · -- the peer panics: the unit is gone, counted nowhere
    simp only [Run.spawn, h, Run.givePermit, Item.lostAtStart, hp, ↓reduceIte]
    refine ⟨?_, trivial⟩
    constructor <;> simp only [Run.held, Run.busy, World.counted, World.giveBack_stats] <;> omega
  · simp only [Run.spawn, h]
    refine ⟨?_, trivial⟩
    constructor <;> simp only [Run.held, Run.busy, World.counted, Item.lostAtStart, hp,
      ↓reduceIte, List.length_append, List.length_singleton] <;> omega
  · obtain ⟨rs, fl, hfl, hf⟩ := Run.finish_frame
      { w with
        stats := { w.stats with active := w.stats.active + 1 }
        counters := { w.counters with started := w.counters.started + 1 } }
      { r with started := r.started + 1 } j
    simp only [Run.spawn, h, hf, Run.givePermit]
    refine ⟨?_, trivial⟩
    constructor <;> simp only [Run.held, Run.busy, World.counted, Item.lostAtStart, hp,
      ↓reduceIte] at hfl ⊢ <;> omega

/-- Books kept from a run are kept from any run that holds as many units, less those handed
over, and processes as many. -/
theorem Books.shift {r r₀ : Run} {w : World} {y : Run × World} {handed handed₀ lost : Nat}
    (hb : Books (r₀, w) y handed₀ lost) (hheld : r.held + handed = r₀.held + handed₀)
    (hbusy : r.busy = r₀.busy) : Books (r, w) y handed lost := by
  obtain ⟨hu, ha, hf⟩ := hb
  constructor <;> dsimp only at hu ha hf ⊢ <;> omega

/-- A worker that runs its unit as a task of its own is idle again. -/
theorem Run.spawn_idle_books (w : World) (r : Run) (i : Nat) (item : Item) {old : Worker}
    (hi : r.workers[i]? = some old) (hruns : old.runs = 0) :
    Books (r, w) (let (r', w') := r.spawn w item; (r'.setWorker i .idle, w'))
      (1 - old.holds) item.lostAtStart := by
  obtain ⟨⟨hu, ha, hf⟩, hworkers⟩ := Run.spawn_books w r item
  have hheld := Run.held_setWorker (hworkers ▸ hi) .idle
  have hbusy := Run.busy_setWorker (hworkers ▸ hi) .idle
  have hold : old.holds ≤ 1 := by cases old <;> simp
  simp only [Worker.holds_idle, Worker.runs_idle, hruns] at hheld hbusy
  constructor <;> dsimp only at hu ha hf ⊢ <;> omega

/-- A worker that took a unit from the queue runs it inline, spawns it, or waits with it for a
permit; only a unit it starts at once can be lost. -/
theorem Run.take_books (w : World) (r : Run) (i : Nat) (item : Item)
    (hi : r.workers[i]? = some .idle) :
    Books (r, w) (r.take w i item) 1 (if r.mayStart then item.lostAtStart else 0) := by
  unfold Run.take
  split
  next hperm =>
    -- units run inline
    have hmay : r.mayStart = true := by simp only [Run.mayStart, hperm]
    rw [hmay, if_pos rfl]
    rcases Run.begin_cases w r item with ⟨hp, h⟩ | ⟨hp, ⟨j, -, h⟩ | ⟨j, -, h⟩⟩
    · have hheld := Run.held_setWorker hi .exited
      have hbusy := Run.busy_setWorker hi .exited
      simp only [h]
      constructor <;> simp only [Run.held, Run.busy, Run.setWorker, World.counted,
        World.giveBack_stats, Item.lostAtStart, hp, ↓reduceIte, Worker.holds_idle,
        Worker.holds_exited, Worker.runs_idle, Worker.runs_exited] at hheld hbusy ⊢ <;> omega
    · have hheld := Run.held_setWorker hi (.busy j)
      have hbusy := Run.busy_setWorker hi (.busy j)
      simp only [h]
      constructor <;> simp only [Run.held, Run.busy, Run.setWorker, World.counted, Item.lostAtStart,
        hp, ↓reduceIte, Worker.holds_idle, Worker.holds_busy, Worker.runs_idle,
        Worker.runs_busy] at hheld hbusy ⊢ <;> omega
    · obtain ⟨rs, fl, hfl, hf⟩ := Run.finish_frame
        { w with
          stats := { w.stats with active := w.stats.active + 1 }
          counters := { w.counters with started := w.counters.started + 1 } }
        { r with started := r.started + 1 } j
      have hheld := Run.held_setWorker hi .idle
      have hbusy := Run.busy_setWorker hi .idle
      simp only [h, hf]
      constructor <;> simp only [Run.held, Run.busy, Run.setWorker, World.counted, Item.lostAtStart,
        hp, ↓reduceIte, Worker.holds_idle, Worker.runs_idle] at hheld hbusy hfl ⊢ <;> omega
  next p hperm =>
    split
    next hw =>
      -- a free permit and nobody waiting: the unit is spawned
      have hmay : r.mayStart = true := by
        simp only [Run.mayStart, hperm, List.isEmpty_iff.mp hw]
      rw [hmay, if_pos rfl]
      exact Books.shift (Run.spawn_idle_books w { r with permits := some p } i item hi rfl) rfl rfl
    next hw =>
      -- others wait for a permit already: the worker waits in line
      have hmay : r.mayStart = false := by
        cases hq : r.waiters with
        | nil => simp [hq] at hw
        | cons _ _ => simp only [Run.mayStart, hperm, hq]
      rw [hmay]
      have hheld := Run.held_setWorker hi (.acquiring item)
      have hbusy := Run.busy_setWorker hi (.acquiring item)
      constructor <;> simp only [Run.held, Run.busy, Run.setWorker, World.counted,
        Worker.holds_idle, Worker.holds_acquiring, Worker.runs_idle,
        Worker.runs_acquiring, Bool.false_eq_true, ↓reduceIte] at hheld hbusy ⊢ <;> omega
  next hperm =>
    -- no permit is free: the worker waits in line
    have hmay : r.mayStart = false := by simp only [Run.mayStart, hperm]
    rw [hmay]
    have hheld := Run.held_setWorker hi (.acquiring item)
    have hbusy := Run.busy_setWorker hi (.acquiring item)
    constructor <;> simp only [Run.held, Run.busy, Run.setWorker, World.counted,
      Worker.holds_idle, Worker.holds_acquiring, Worker.runs_idle,
      Worker.runs_acquiring, Bool.false_eq_true, ↓reduceIte] at hheld hbusy ⊢ <;> omega

/-- A move of worker `i` keeps the books, save the unit it starts if that unit's peer panics. -/
theorem Run.stepWorker_books {w : World} {r : Run} {i : Nat} {x : Run × World}
    (h : r.stepWorker w i = some x) (hbusy : r.busy ≤ w.stats.active) :
    Books (r, w) x 0 (r.loses (.worker i)) := by
  unfold Run.stepWorker at h
  split at h
  next hi =>
    split at h
    next hc =>
      -- a cancelled run: the worker ends
      cases h
      have hloss : r.loses (.worker i) = 0 := by simp [Run.loses, Run.starts, hc]
      have hheld := Run.held_setWorker hi .exited
      have hbusy' := Run.busy_setWorker hi .exited
      rw [hloss]
      constructor <;> simp only [Worker.holds_idle, Worker.holds_exited, Worker.runs_idle,
        Worker.runs_exited] at hheld hbusy' ⊢ <;> omega
    next hc =>
      split at h
      next item rest hq =>
        -- the worker takes the head of the queue
        cases h
        have hloss : r.loses (.worker i) = if r.mayStart then item.lostAtStart else 0 := by
          cases hm : r.mayStart <;> simp [Run.loses, Run.starts, hc, hi, hm, hq]
        rw [hloss]
        exact Books.shift (Run.take_books w { r with queue := rest } i item hi)
          (by simp only [Run.held, hq, List.length_cons]; omega) rfl
      next hq =>
        split at h
        · cases h
          have hloss : r.loses (.worker i) = 0 := by
            cases hm : r.mayStart <;> simp [Run.loses, Run.starts, hc, hi, hm, hq]
          have hheld := Run.held_setWorker hi .exited
          have hbusy' := Run.busy_setWorker hi .exited
          rw [hloss]
          constructor <;> simp only [Worker.holds_idle, Worker.holds_exited, Worker.runs_idle,
            Worker.runs_exited] at hheld hbusy' ⊢ <;> omega
        · cases h
  next job hi =>
    -- a unit processed inline ends: it is counted processed, and no longer active
    obtain ⟨rs, fl, hfl, hf⟩ := Run.finish_frame w r job
    rw [hf] at h
    split at h
    · cases h
      have hloss : r.loses (.worker i) = 0 := by simp [Run.loses, Run.starts, hi]
      have hheld := Run.held_setWorker hi .idle
      have hbusy' := Run.busy_setWorker hi .idle
      rw [hloss]
      constructor
      all_goals simp only [Run.held, Run.busy, Run.setWorker, World.counted, Worker.holds_busy,
        Worker.holds_idle, Worker.runs_busy, Worker.runs_idle] at hheld hbusy' hbusy ⊢
      all_goals omega
    · cases h
  next item hi =>
    split at h
    next hc =>
      -- a cancelled run: the unit waiting for a permit is dropped
      cases h
      have hloss : r.loses (.worker i) = 0 := by simp [Run.loses, Run.starts, hc]
      have hheld := Run.held_setWorker hi .exited
      have hbusy' := Run.busy_setWorker hi .exited
      rw [hloss]
      constructor <;> simp only [Run.held, Run.busy, Run.setWorker, World.counted,
        World.discard_stats, List.length_singleton, Worker.holds_acquiring, Worker.holds_exited,
        Worker.runs_acquiring, Worker.runs_exited] at hheld hbusy' ⊢ <;> omega
    next hc =>
      split at h
      next p j rest hperm hwait =>
        split at h
        next hj =>
          -- the first free permit is this worker's: the unit is spawned
          subst hj
          have hloss : r.loses (.worker j) = item.lostAtStart := by
            simp [Run.loses, Run.starts, hc, hi, hperm, hwait]
          rw [hloss]
          cases h
          exact Books.shift (Run.spawn_idle_books w { r with permits := some p, waiters := rest } j
            item hi rfl) (by simp only [Worker.holds_acquiring]; rfl) rfl
        · cases h
      · cases h
  next => cases h

/-- A move of dispatched unit `k` keeps the books: the unit is counted processed and is no
longer active. -/
theorem Run.stepDispatched_books {w : World} {r : Run} {k : Nat} {x : Run × World}
    (h : r.stepDispatched w k = some x) (hbusy : r.busy ≤ w.stats.active) :
    Books (r, w) x 0 0 := by
  unfold Run.stepDispatched at h
  split at h
  next job hk =>
    have hlen : (r.dispatched.eraseIdx k).length + 1 = r.dispatched.length := by
      have hlt : k < r.dispatched.length := (List.getElem?_eq_some_iff.mp hk).1
      rw [List.length_eraseIdx_of_lt hlt]
      omega
    obtain ⟨rs, fl, hfl, hf⟩ :=
      Run.finish_frame w { r with dispatched := r.dispatched.eraseIdx k } job
    rw [hf] at h
    split at h
    · cases h
      constructor <;> simp only [Run.held, Run.busy, Run.givePermit, World.counted] at hbusy ⊢ <;>
        omega
    · cases h
  next => cases h

/-- A move of any task of a run keeps the books, save the unit a worker starts if its peer
panics. -/
theorem Run.move_books {w : World} {r : Run} {t : Task} {x : Run × World}
    (h : r.move w t = some x) (hbusy : r.busy ≤ w.stats.active) :
    Books (r, w) x 0 (r.loses t) := by
  cases t with
  | producer => exact Run.stepProducer_books h
  | worker i => exact Run.stepWorker_books h hbusy
  | dispatched k => exact Run.stepDispatched_books h hbusy

/-! ## The books of a node -/

/-- Units the runs of a node hold. -/
def Machine.held (m : Machine) : Nat := (m.runs.map Run.held).sum

/-- Units the runs of a node are processing. -/
def Machine.busy (m : Machine) : Nat := (m.runs.map Run.busy).sum

/-- Units a move of a node loses: a unit a worker starts whose peer panics; the unit a producer
was pushing when the stop that took its run ends; and, when the node is dropped, the units
queued in its running run and the one its producer was pushing. -/
def Machine.loss (m : Machine) : Action → Nat
  | .task p t => ((m.runAt p).map fun r => r.loses t).getD 0
  | .completeStop => (m.stopping.map fun s => s.run.producer.holds).getD 0
  | .drop => (m.slot.map fun r => r.queue.length + r.producer.holds).getD 0
  | .selfStop | .tick _ | .start _ _ | .stop | .dispose | .cancelParent _ => 0

/-- Units lost along a sequence of moves, counting the moves that are made. -/
def Machine.lost (m : Machine) : List Action → Nat
  | [] => 0
  | a :: as =>
    match m.act a with
    | some m' => m.loss a + m'.lost as
    | none => m.lost as

/-- The books of a node after `lost` units were lost: every unit accepted is processed, dropped,
held by a run or lost; the units active are those being processed; and no more units failed
than were processed. -/
structure Machine.Balanced (m : Machine) (lost : Nat) : Prop where
  units : m.world.stats.accepted = m.world.stats.processed + m.world.stats.dropped + m.held + lost
  active : m.world.stats.active = m.busy
  failed : m.world.stats.failed ≤ m.world.stats.processed

/-- A move of a task keeps the node's books, save what the move loses. -/
theorem Machine.put_balanced {m : Machine} {p : Place} {r r' : Run} {w' : World} {lost loss : Nat}
    (hbal : m.Balanced lost) (hr : m.runAt p = some r) (hb : Books (r, m.world) (r', w') 0 loss) :
    (m.put r' w' p).Balanced (lost + loss) := by
  obtain ⟨hu, ha, hf⟩ := hb
  obtain ⟨bu, ba, bf⟩ := hbal
  have hheld := Machine.sum_put hr Run.held r' w'
  have hbusy := Machine.sum_put hr Run.busy r' w'
  dsimp only at hu ha hf
  simp only [World.counted] at hu
  simp only [Machine.held, Machine.busy] at bu ba
  constructor <;> simp only [Machine.put_world, Machine.held, Machine.busy] <;> omega

/-- A unit a run holds is counted among the node's. -/
theorem Machine.busy_le {m : Machine} {p : Place} {r : Run} (hr : m.runAt p = some r) :
    r.busy ≤ m.busy :=
  List.le_sum_of_mem (List.mem_map_of_mem (Machine.mem_runs hr))

/-- A stop taking the running run drops its queued units and counts them. -/
theorem Machine.beginStop_balanced {m : Machine} {r : Run} {lost : Nat} (hbal : m.Balanced lost)
    (hslot : m.slot = some r) (hs : m.stopping = none) : (m.beginStop r).Balanced lost := by
  obtain ⟨bu, ba, bf⟩ := hbal
  simp only [Machine.held, Machine.busy, Machine.runs, hslot, hs] at bu ba
  constructor <;> simp only [Machine.beginStop, Machine.held, Machine.busy, Machine.runs,
    World.discard_stats, Option.toList_some, Option.toList_none, Option.map_some, Option.map_none,
    List.nil_append, List.singleton_append, List.map_cons, List.sum_cons, Run.held,
    Run.busy, List.length_nil] at bu ba ⊢
  · omega
  · omega
  · omega

/-- A run whose tasks are all gone holds nothing but its queue, and processes nothing. -/
theorem Run.held_of_quiet {r : Run} (h : r.quiet = true) :
    r.held = r.queue.length ∧ r.busy = 0 := by
  simp only [Run.quiet, Bool.and_eq_true, beq_iff_eq, List.all_eq_true,
    List.isEmpty_iff] at h
  obtain ⟨⟨hp, hw⟩, hd⟩ := h
  have hholds : (r.workers.map Worker.holds).sum = 0 :=
    List.sum_eq_zero_iff_forall_eq_nat.mpr fun n hn => by
      obtain ⟨x, hx, rfl⟩ := List.mem_map.mp hn
      rw [hw x hx, Worker.holds_exited]
  have hruns : (r.workers.map Worker.runs).sum = 0 :=
    List.sum_eq_zero_iff_forall_eq_nat.mpr fun n hn => by
      obtain ⟨x, hx, rfl⟩ := List.mem_map.mp hn
      rw [hw x hx, Worker.runs_exited]
  simp only [Run.held, Run.busy, hp, Producer.holds_finished, hholds, hruns, hd, List.length_nil,
    Nat.add_zero, and_self]

/-- The end of a stop keeps the books, save the unit its producer was still pushing. -/
theorem Machine.completeStop_balanced {m m' : Machine} {lost : Nat} (hwf : m.Wf)
    (hbal : m.Balanced lost) (h : m.completeStop? = some m') :
    m'.Balanced (lost + m.loss .completeStop) := by
  obtain ⟨bu, ba, bf⟩ := hbal
  obtain ⟨s, hb, p, hs, -, rfl⟩ := Machine.completeStop?_eq_some h
  obtain ⟨-, hq⟩ := hwf.stopping s hs
  simp only [Machine.held, Machine.busy, Machine.runs, hs] at bu ba
  simp only [Machine.loss, hs, Option.map_some, Option.getD_some]
  cases hd : s.run.quiet
  · -- a run with work left goes on in the background, its producer gone
    constructor <;> simp only [Machine.held, Machine.busy, Machine.runs, Bool.false_eq_true,
      ↓reduceIte, Option.toList_none, Option.map_none, List.map_append, List.sum_append,
      List.map_cons, List.map_nil, List.sum_cons, List.sum_nil, Run.held, Run.busy,
      Producer.holds_finished, Option.toList_some, Option.map_some] at bu ba ⊢ <;> omega
  · -- a quiet run is gone, and with it nothing
    obtain ⟨hheld, hbusy⟩ := Run.held_of_quiet hd
    have hp : s.run.producer.holds = 0 := by
      simp only [Run.quiet, Bool.and_eq_true, beq_iff_eq] at hd
      rw [hd.1.1, Producer.holds_finished]
    rw [hq] at hheld
    constructor <;> simp only [Machine.held, Machine.busy, Machine.runs, ↓reduceIte,
      Option.toList_none, Option.map_none, List.map_append, List.sum_append, List.map_cons,
      List.map_nil, List.sum_cons, List.sum_nil, Option.toList_some,
      Option.map_some, hheld, hbusy, hp, List.length_nil] at bu ba ⊢ <;> omega

/-- Every move of a node keeps its books, save what the move loses. -/
theorem Machine.act_balanced {m m' : Machine} {a : Action} {lost : Nat} (hwf : m.Wf)
    (hbal : m.Balanced lost) (h : m.act a = some m') : m'.Balanced (lost + m.loss a) := by
  cases a with
  | task p t =>
    obtain ⟨r, ⟨r', w'⟩, hr, hx, rfl⟩ := Machine.act_task h
    have hbusy : r.busy ≤ m.world.stats.active := hbal.active ▸ Machine.busy_le hr
    have hloss : m.loss (.task p t) = r.loses t := by simp [Machine.loss, hr]
    rw [hloss]
    exact Machine.put_balanced hbal hr (Run.move_books hx hbusy)
  | selfStop =>
    -- the stops asked for change nothing in the books
    obtain ⟨hs, g, rest, -, ⟨-, rfl⟩ | ⟨r, hr, -, rfl⟩⟩ := Machine.selfStop?_eq_some h
    · exact ⟨hbal.units, hbal.active, hbal.failed⟩
    · exact Machine.beginStop_balanced ⟨hbal.units, hbal.active, hbal.failed⟩ hr hs
  | completeStop => exact Machine.completeStop_balanced hwf hbal h
  | tick t => cases h; exact ⟨hbal.units, hbal.active, hbal.failed⟩
  | start bound parent =>
    obtain ⟨-, hslot, hs, rfl⟩ := Machine.act_start h
    obtain ⟨bu, ba, bf⟩ := hbal
    -- the new run holds nothing yet
    have hidle : ((List.replicate m.world.plan.workers Worker.idle).map Worker.holds).sum = 0 ∧
        ((List.replicate m.world.plan.workers Worker.idle).map Worker.runs).sum = 0 := by
      simp [List.map_replicate, List.sum_replicate]
    simp only [Machine.held, Machine.busy, Machine.runs, hs, hslot, Option.toList_none,
      Option.map_none, List.nil_append] at bu ba
    constructor <;> simp only [Machine.launch, Machine.loss, Machine.held, Machine.busy,
      Machine.runs, hs, Option.toList_some, Option.map_none, Option.toList_none, List.append_nil,
      List.singleton_append, List.map_cons, List.sum_cons, Run.held, Run.busy, List.length_nil,
      Producer.holds_fetch, hidle, Nat.add_zero] at bu ba ⊢ <;> omega
  | stop =>
    obtain ⟨r, hs, hr, rfl⟩ := Machine.act_stop h
    exact Machine.beginStop_balanced hbal hr hs
  | dispose => cases h; exact ⟨hbal.units, hbal.active, hbal.failed⟩
  | cancelParent k =>
    cases h
    obtain ⟨bu, ba, bf⟩ := hbal
    have hruns := Machine.runs_cancelToken m k
    -- cancelling a run moves none of its units
    have hheld : Run.held ∘ Run.cancelUnder k = Run.held := rfl
    have hbusy : Run.busy ∘ Run.cancelUnder k = Run.busy := rfl
    refine ⟨?_, ?_, bf⟩
    · rw [Machine.held, hruns, List.map_map, hheld]
      exact bu
    · rw [Machine.busy, hruns, List.map_map, hbusy]
      exact ba
  | drop =>
    obtain ⟨hs, rfl⟩ := Machine.act_drop h
    cases hslot : m.slot with
    | none => simpa [Machine.loss, hslot, Machine.orphan_of_empty hslot] using hbal
    | some r =>
      obtain ⟨bu, ba, bf⟩ := hbal
      obtain ⟨hb, p, ho⟩ := Machine.orphan_of_slot hslot
      simp only [Machine.held, Machine.busy, Machine.runs, hs, hslot, Option.toList_some,
        Option.toList_none, Option.map_none, List.append_nil, List.singleton_append,
        List.map_cons, List.sum_cons, Run.held, Run.busy] at bu ba
      rw [ho]
      constructor <;> simp only [Machine.loss, hslot, Option.map_some, Option.getD_some,
        Machine.held, Machine.busy, Machine.runs, hs, Option.toList_none, Option.map_none,
        List.nil_append, List.map_append, List.sum_append, List.map_cons, List.map_nil,
        List.sum_cons, List.sum_nil, Run.held, Run.busy, Producer.holds_finished,
        List.length_nil] at bu ba ⊢ <;> omega

/-- Every sequence of moves keeps the books, save the units its moves lose. -/
theorem Machine.exec_balanced {m : Machine} {lost : Nat} (hwf : m.Wf) (hbal : m.Balanced lost)
    (as : List Action) : (m.exec as).Balanced (lost + m.lost as) := by
  induction as generalizing m lost with
  | nil => exact hbal
  | cons a as ih =>
    rw [Machine.exec_cons]
    cases h : m.act a with
    | none =>
      simp only [Machine.lost, h, Option.getD_none]
      exact ih hwf hbal
    | some m' =>
      simp only [Machine.lost, h, Option.getD_some, ← Nat.add_assoc]
      exact ih (Machine.act_wf hwf h) (Machine.act_balanced hwf hbal h)

/-- Once no task of a node is running, its runs hold no units and process none. -/
theorem Machine.held_of_halted {m : Machine} (hwf : m.Wf) (h : m.Halted) :
    m.held = 0 ∧ m.busy = 0 := by
  obtain ⟨hruns, hleft⟩ := h.runs_eq hwf
  -- the runs left are quiet, and a stop emptied their queues
  have hzero : ∀ r ∈ m.background, r.held = 0 ∧ r.busy = 0 := fun r hr => by
    obtain ⟨hquiet, hq⟩ := hleft r hr
    obtain ⟨hheld, hbusy⟩ := Run.held_of_quiet hquiet
    rw [hq, List.length_nil] at hheld
    exact ⟨hheld, hbusy⟩
  constructor
  · rw [Machine.held, hruns]
    exact List.sum_eq_zero_iff_forall_eq_nat.mpr fun n hn => by
      obtain ⟨r, hr, rfl⟩ := List.mem_map.mp hn
      exact (hzero r hr).1
  · rw [Machine.busy, hruns]
    exact List.sum_eq_zero_iff_forall_eq_nat.mpr fun n hn => by
      obtain ⟨r, hr, rfl⟩ := List.mem_map.mp hn
      exact (hzero r hr).2

/-- Along any interleaving, every accepted unit is processed, dropped, held or lost in one of
the ways `Machine.loss` names, and counted once; once no task runs, none is held or active. -/
theorem unit_ledger (plan : Plan) (sink : Sink) (pool : Option BufferPool) (as : List Action) :
    let m₀ := Machine.new plan sink pool
    let m := m₀.exec as
    m.world.stats.accepted =
        m.world.stats.processed + m.world.stats.dropped + m.held + m₀.lost as ∧
      m.world.stats.active = m.busy ∧ m.world.stats.failed ≤ m.world.stats.processed ∧
      (m.Halted → m.world.stats.accepted =
          m.world.stats.processed + m.world.stats.dropped + m₀.lost as ∧
        m.world.stats.active = 0) := by
  intro m₀ m
  have hwf : m.Wf := Machine.exec_wf (Machine.new_wf plan sink pool) as
  have hbal : m.Balanced (0 + m₀.lost as) :=
    Machine.exec_balanced (Machine.new_wf plan sink pool) ⟨rfl, rfl, Nat.le_refl _⟩ as
  rw [Nat.zero_add] at hbal
  refine ⟨hbal.units, hbal.active, hbal.failed, fun hhalt => ?_⟩
  obtain ⟨hheld, hbusy⟩ := Machine.held_of_halted hwf hhalt
  have hu := hbal.units
  rw [hheld, Nat.add_zero] at hu
  exact ⟨hu, hbal.active.trans hbusy⟩

/-- A node whose only unit has a peer that panics, and whose source then crashes, halts with
that unit accepted and lost: neither processed nor dropped. -/
theorem unit_ledger_of_panicking_peer :
    let plan : Plan :=
      { capacity := 4, mode := .wait, workers := 1, dispatch := none, stopMillis := 1000,
        classifier := .receive, script := [.deliver ⟨1, .remotePanic⟩, .crash "gone"] }
    let as : List Action :=
      [.start (NetNode.Address.SocketAddress.loopback 9000) none, .task .running .producer,
        .task .running (.worker 0), .task .running .producer, .selfStop, .completeStop]
    ((Machine.new plan .record).exec as).Halted ∧
      ((Machine.new plan .record).exec as).world.stats.accepted = 1 ∧
      ((Machine.new plan .record).exec as).world.stats.processed +
        ((Machine.new plan .record).exec as).world.stats.dropped = 0 ∧
      (Machine.new plan .record).lost as = 1 := by
  intro plan as
  -- the run is evaluated by the kernel: a stop took it and ended, leaving nothing behind
  have hstop : ((Machine.new plan .record).exec as).stopping.isNone = true := by decide +kernel
  have hself : ((Machine.new plan .record).exec as).world.selfStops = [] := by decide +kernel
  have hruns : ((Machine.new plan .record).exec as).runs.length = 0 := by decide +kernel
  have hhalt : ((Machine.new plan .record).exec as).Halted :=
    ⟨Option.isNone_iff_eq_none.mp hstop, hself,
      fun r hr => absurd (List.length_pos_of_mem hr) (by omega)⟩
  have hunits := ((unit_ledger plan .record none as).2.2.2 hhalt).1
  have hacc : ((Machine.new plan .record).exec as).world.stats.accepted = 1 := by decide +kernel
  have hcount : ((Machine.new plan .record).exec as).world.stats.processed +
      ((Machine.new plan .record).exec as).world.stats.dropped = 0 := by decide +kernel
  refine ⟨hhalt, hacc, hcount, ?_⟩
  omega

/-! ## The counts fit in 64 bits

The node keeps its counts in 64-bit words that wrap around. Every count is at most the answers
of the source counted so far, the units accepted and the failures, and the count of active units
is never taken below zero, since it is the number of units being processed. So while the source
gives fewer than 2^64 answers, a 64-bit word holds every count exactly. -/

/-- A unit a run processes is one it holds. -/
theorem Run.busy_le_held (r : Run) : r.busy ≤ r.held := by
  have hw : (r.workers.map Worker.runs).sum ≤ (r.workers.map Worker.holds).sum :=
    List.sum_le_sum fun x _ => by cases x <;> simp
  unfold Run.busy Run.held
  omega

theorem Machine.busy_le_held (m : Machine) : m.busy ≤ m.held :=
  List.sum_le_sum fun r _ => r.busy_le_held

/-- Along every interleaving, the units processed, dropped and active together are at most the
units accepted, and no more units failed than were processed; so while fewer than 2^64 answers
of the source are counted, every count of the node is below 2^64. -/
theorem Machine.stats_fit_words (plan : Plan) (sink : Sink) (pool : Option BufferPool)
    (as : List Action) :
    let st := ((Machine.new plan sink pool).exec as).world.stats
    st.processed + st.dropped + st.active ≤ st.accepted ∧ st.failed ≤ st.processed ∧
      (st.events < 2 ^ 64 →
        ∀ n ∈ [st.accepted, st.processed, st.failed, st.dropped, st.active, st.producerErrors],
          n < 2 ^ 64) := by
  have hbal := Machine.exec_balanced (Machine.new_wf plan sink pool)
    (⟨rfl, rfl, Nat.le_refl _⟩ : (Machine.new plan sink pool).Balanced 0) as
  have hheld := Machine.busy_le_held ((Machine.new plan sink pool).exec as)
  dsimp only
  generalize (Machine.new plan sink pool).exec as = m at hbal hheld ⊢
  obtain ⟨hu, ha, hf⟩ := hbal
  have hsum : m.world.stats.processed + m.world.stats.dropped + m.world.stats.active ≤
      m.world.stats.accepted := by omega
  refine ⟨hsum, hf, fun hev n hn => ?_⟩
  simp only [Stats.events] at hev
  simp only [List.mem_cons, List.not_mem_nil, or_false] at hn
  rcases hn with rfl | rfl | rfl | rfl | rfl | rfl <;> omega

end NetNode.Node
