import NetNode.Proofs.Node.Interleaving

/-!
# A failed unit stays with its unit

A worker runs the processor on each unit it takes inside a panic boundary, and hands a failure
to the exception callback inside a second one. Whatever the processor does with a unit (it
succeeds, returns any handler error, or panics with any payload) and whatever the callback does
(it records, panics, or is absent), the worker counts the unit processed once and failed exactly
when it neither succeeded nor was cancelled, hands the callback that failure with the peer it
read before processing, and is idle again for the next unit, with the count of units in progress
back where it was.

The main statement is `worker_isolates_failures`: it follows one worker of a run whose units run
inline through the units it takes from the queue, one move of the node each (`Machine.act`).
`worker_isolates_dispatched_failures` follows one worker of a run that dispatches its units under
permits: it takes each unit and a free permit and spawns it; a unit that ends at once finishes
there, and one that stalls is dispatched and finishes by its own move once its time has come,
giving its permit back. The counts come out the same.
-/

namespace NetNode.Node

open NetNode.Address

/-- The failure a unit's processing reports, if any: its error, unless it succeeded or was
cancelled. -/
def failureOf : Except HandlerError Unit → Option HandlerError
  | .ok () => none
  | .error e => if e.isCancellation then none else some e

/-- A unit's processing reports a failure unless it succeeded or was cancelled. -/
theorem failureOf_eq_none_iff (x : Except HandlerError Unit) :
    failureOf x = none ↔ x = .ok () ∨ x = .error .cancelled := by
  cases x with
  | ok u => simp [failureOf]
  | error e => cases e <;> simp [failureOf, HandlerError.isCancellation]

/-- A call that panicked reports the panic as its failure: its text, or a fixed text for a
payload that is not text. -/
theorem failureOf_panicked (p : PanicPayload) :
    failureOf (CallOutcome.panicked p).caught = some (HandlerError.ofPanic p) := by
  cases p <;> rfl

/-- What the exception callback is handed for a job that failed: the error, and the peer read
before processing. -/
def Job.report? (j : Job) : Option Report :=
  (failureOf (Behavior.outcome j.work j.work.behavior)).map (⟨·, j.remote⟩)

/-- The job a worker makes of a unit it takes: the unit with the peer read from it. -/
def Item.job (item : Item) : Job := ⟨item.work, item.work.remote, none, item.loan⟩

/-- The reports for units processed in order: one for each unit that failed. -/
def failureReports (items : List Item) : List Report := items.filterMap (·.job.report?)

@[simp] theorem failureReports_nil : failureReports [] = [] := rfl

theorem failureReports_cons (item : Item) (items : List Item) :
    failureReports (item :: items) = item.job.report?.toList ++ failureReports items := by
  cases h : item.job.report? <;> simp [failureReports, h]

/-- Whether processing a unit ends as soon as it starts: its peer is read normally, and the
processor returns or panics at once. -/
def Behavior.immediate : Behavior → Bool
  | .stall | .awaitCancel | .remotePanic => false
  | _ => true

/-! ## One unit -/

/-- Finishing a job counts it processed and no longer in progress, counts it failed if it
failed, and hands the failure to a recording callback; a panicking or absent callback keeps
nothing. -/
theorem Run.finish_counts (w : World) (r : Run) (job : Job) :
    (r.finish w job).2.stats = { w.stats with
        active := w.stats.active - 1
        processed := w.stats.processed + 1
        failed := w.stats.failed + job.report?.toList.length } ∧
      (r.finish w job).2.reports =
        w.reports ++ (if w.sink = .record then job.report?.toList else []) ∧
      (r.finish w job).2.sink = w.sink := by
  obtain ⟨p, hp⟩ := World.giveBack_frame w job.loan
  unfold Run.finish Job.report?
  rw [hp]
  split
  next hok => simp [hok, failureOf]
  next e herr =>
    split
    next hc => simp [herr, failureOf, hc]
    next hc =>
      unfold World.report
      split <;> simp_all [failureOf]

/-- A unit processed at once is counted started and in progress, and finishes there and then. -/
theorem Run.begin_immediate (w : World) (r : Run) (item : Item)
    (h : item.work.behavior.immediate = true) :
    r.begin w item = (.done, Run.finish
      { w with
        stats := { w.stats with active := w.stats.active + 1 }
        counters := { w.counters with started := w.counters.started + 1 } }
      { r with started := r.started + 1 } item.job) := by
  have hne : item.work.behavior ≠ .remotePanic := by
    intro he
    rw [he] at h
    cases h
  unfold Run.begin
  rw [if_neg hne]
  split
  next hs => rw [hs] at h; cases h
  next hs => rw [hs] at h; cases h
  next => rfl

@[simp] theorem Run.finish_fst (w : World) (r : Run) (job : Job) :
    (r.finish w job).1 = { r with finished := r.finished + 1 } := by
  obtain ⟨rs, fl, -, hf⟩ := Run.finish_frame w r job
  rw [hf]

@[simp] theorem Run.finish_clock (w : World) (r : Run) (job : Job) :
    (r.finish w job).2.clock = w.clock := by
  obtain ⟨rs, fl, -, hf⟩ := Run.finish_frame w r job
  rw [hf]

/-- The world after unit `item` was processed from `w`: counted processed once and failed if it
failed, its failure handed to a recording callback, every other count back where it was. -/
structure World.Processed (item : Item) (w w' : World) : Prop where
  stats : w'.stats = { w.stats with
    processed := w.stats.processed + 1
    failed := w.stats.failed + (failureReports [item]).length }
  reports : w'.reports = w.reports ++ (if w.sink = .record then failureReports [item] else [])
  sink : w'.sink = w.sink

/-- A unit counted in progress, and nothing else, then finished as a job that fails as it does,
is processed. -/
theorem World.Processed.of_finish {w w' : World} {item : Item} (r : Run) (job : Job)
    (hstats : w'.stats = { w.stats with active := w.stats.active + 1 })
    (hreports : w'.reports = w.reports) (hsink : w'.sink = w.sink)
    (hjob : job.report? = item.job.report?) : World.Processed item w (r.finish w' job).2 := by
  obtain ⟨hs, hr, hk⟩ := Run.finish_counts w' r job
  refine ⟨?_, ?_, ?_⟩
  · rw [hs, hstats, hjob]
    simp [failureReports_cons]
  · rw [hr, hreports, hsink, hjob]
    simp [failureReports_cons]
  · rw [hk, hsink]

/-- What a worker's move on a unit processed at once leaves: the rest of the queue, the worker
idle and the run as it was, the unit counted processed and, if it failed, failed and reported. -/
structure Run.Processes (item : Item) (rest : List Item) (i : Nat) (w : World) (x : Run × World) :
    Prop where
  queue : x.1.queue = rest
  cancelled : x.1.cancelled = false
  inline : x.1.permits = none
  idle : x.1.workers[i]? = some .idle
  stats : x.2.stats = { w.stats with
    processed := w.stats.processed + 1
    failed := w.stats.failed + (failureReports [item]).length }
  reports : x.2.reports = w.reports ++ (if w.sink = .record then failureReports [item] else [])
  sink : x.2.sink = w.sink

/-- An idle worker of a run whose units run inline takes the head of the queue; a unit
processed at once leaves it idle, the unit counted. -/
theorem Run.stepWorker_immediate {w : World} {r : Run} {i : Nat} {item : Item}
    {rest : List Item} (hc : r.cancelled = false) (hinline : r.permits = none)
    (hidle : r.workers[i]? = some .idle) (hq : r.queue = item :: rest)
    (hb : item.work.behavior.immediate = true) :
    ∃ x, r.stepWorker w i = some x ∧ Run.Processes item rest i w x := by
  have hlen : i < r.workers.length := (List.getElem?_eq_some_iff.mp hidle).1
  -- the unit is counted started and in progress, then finishes at once
  let w₀ : World := { w with
    stats := { w.stats with active := w.stats.active + 1 }
    counters := { w.counters with started := w.counters.started + 1 } }
  let r₀ : Run := { r with queue := rest, started := r.started + 1 }
  have hproc : World.Processed item w (r₀.finish w₀ item.job).2 :=
    World.Processed.of_finish r₀ item.job rfl rfl rfl rfl
  have hstep : r.stepWorker w i = some (({ r with queue := rest } : Run).take w i item) := by
    simp only [Run.stepWorker, hidle, hc, hq, Bool.false_eq_true, if_false]
  have htake : ({ r with queue := rest } : Run).take w i item =
      ((r₀.finish w₀ item.job).1.setWorker i .idle, (r₀.finish w₀ item.job).2) := by
    unfold Run.take
    split
    next =>
      rw [Run.begin_immediate _ _ _ hb]
    next hp => simp [hinline] at hp
    next hp => simp [hinline] at hp
  refine ⟨_, hstep.trans (congrArg some htake), ?_⟩
  rw [Run.finish_fst]
  exact ⟨rfl, hc, hinline, by simp [Run.setWorker, r₀, hlen], hproc.stats, hproc.reports,
    hproc.sink⟩

/-! ## A run of units -/

theorem Machine.runAt_put_self {m : Machine} {p : Place} {r : Run} (hr : m.runAt p = some r)
    (r' : Run) (w : World) : (m.put r' w p).runAt p = some r' := by
  cases p with
  | running => rfl
  | stopping =>
    obtain ⟨s, hs, -⟩ := Option.map_eq_some_iff.mp hr
    simp [Machine.put, Machine.runAt, hs]
  | background i =>
    have hi : i < m.background.length := (List.getElem?_eq_some_iff.mp hr).1
    simp [Machine.put, Machine.runAt, hi]

/-- A unit processed, then a list of units, counts the list with the unit in front. -/
theorem World.Processed.stats_cons {w w₁ : World} {item : Item} {items : List Item} {s : Stats}
    (h₁ : World.Processed item w w₁)
    (hs : s = { w₁.stats with
      processed := w₁.stats.processed + items.length
      failed := w₁.stats.failed + (failureReports items).length }) :
    s = { w.stats with
      processed := w.stats.processed + (item :: items).length
      failed := w.stats.failed + (failureReports (item :: items)).length } := by
  rw [hs, h₁.stats]
  simp only [failureReports_cons, failureReports_nil, List.append_nil, List.length_append,
    List.length_cons]
  congr 1 <;> omega

/-- A unit processed, then a list of units, reports the failures of the list with the unit in
front. -/
theorem World.Processed.reports_cons {w w₁ : World} {item : Item} {items : List Item}
    {rs : List Report} (h₁ : World.Processed item w w₁)
    (hr : rs = w₁.reports ++ (if w₁.sink = .record then failureReports items else [])) :
    rs = w.reports ++ (if w.sink = .record then failureReports (item :: items) else []) := by
  rw [hr, h₁.reports, h₁.sink]
  simp only [failureReports_cons, failureReports_nil, List.append_nil]
  split <;> simp

/-- An idle worker of a live run processes the queued units one move each, however each ends:
each is counted processed once and failed exactly when it failed, each failure is reported once
to a recording callback, and every other count stays where it was. -/
theorem worker_isolates_failures {m : Machine} {p : Place} {r : Run} {i : Nat}
    {items rest : List Item} (hr : m.runAt p = some r) (hinline : r.permits = none)
    (hc : r.cancelled = false) (hidle : r.workers[i]? = some .idle)
    (hq : r.queue = items ++ rest) (hb : ∀ item ∈ items, item.work.behavior.immediate = true) :
    let m' := m.exec (List.replicate items.length (.task p (.worker i)))
    ∃ r', m'.runAt p = some r' ∧ r'.queue = rest ∧ r'.workers[i]? = some .idle ∧
      m'.world.stats = { m.world.stats with
        processed := m.world.stats.processed + items.length
        failed := m.world.stats.failed + (failureReports items).length } ∧
      m'.world.reports =
        m.world.reports ++ (if m.world.sink = .record then failureReports items else []) := by
  -- induction on the units, the worker's run and the node moving along
  induction items generalizing m r with
  | nil => exact ⟨r, hr, hq, hidle, by simp, by simp⟩
  | cons item items ih =>
    obtain ⟨⟨r', w'⟩, hstep, hx⟩ := Run.stepWorker_immediate (w := m.world) hc hinline hidle
      (by rw [hq, List.cons_append]) (hb item List.mem_cons_self)
    have hproc : World.Processed item m.world (m.put r' w' p).world := by
      rw [Machine.put_world]
      exact ⟨hx.stats, hx.reports, hx.sink⟩
    obtain ⟨r'', hr'', hq'', hidle'', hstats, hreports⟩ :=
      ih (Machine.runAt_put_self hr r' w') hx.inline hx.cancelled hx.idle hx.queue
        fun it hit => hb it (List.mem_cons_of_mem _ hit)
    have hexec : m.exec (List.replicate (item :: items).length (.task p (.worker i))) =
        (m.put r' w' p).exec (List.replicate items.length (.task p (.worker i))) := by
      rw [List.length_cons, List.replicate_succ, Machine.exec_cons,
        Machine.act_task_of_move (t := .worker i) hr hstep, Option.getD_some]
    refine ⟨r'', ?_, hq'', hidle'', ?_, ?_⟩
    · rw [hexec]
      exact hr''
    · rw [hexec]
      exact hproc.stats_cons hstats
    · rw [hexec]
      exact hproc.reports_cons hreports

/-! ## The dispatched path -/

@[simp] theorem Machine.at_runAt (m : Machine) (t : Nat) (p : Place) :
    (m.at t).runAt p = m.runAt p := by
  cases p <;> rfl

@[simp] theorem Machine.at_world (m : Machine) (t : Nat) :
    (m.at t).world = { m.world with clock := max t m.world.clock } := rfl

@[simp] theorem Machine.act_tick (m : Machine) (t : Nat) : m.act (.tick t) = some (m.at t) := rfl

/-- A run ready to process the units at the head of its queue through worker `i` under `n + 1`
permits: live, every permit free, no unit in flight or waiting for a permit, the worker idle. -/
structure Run.Dispatching (r : Run) (i n : Nat) : Prop where
  cancelled : r.cancelled = false
  permits : r.permits = some (n + 1)
  waiters : r.waiters = []
  dispatched : r.dispatched = []
  idle : r.workers[i]? = some .idle

/-- A run whose worker `i` dispatched `job`, which holds one of the `n + 1` permits: live, no other
unit in flight or waiting, the worker idle again. -/
structure Run.Stalled (r : Run) (i n : Nat) (job : Job) : Prop where
  cancelled : r.cancelled = false
  permits : r.permits = some n
  waiters : r.waiters = []
  dispatched : r.dispatched = [job]
  idle : r.workers[i]? = some .idle

theorem Run.Dispatching.worker_lt {r : Run} {i n : Nat} (hd : r.Dispatching i n) :
    i < r.workers.length :=
  (List.getElem?_eq_some_iff.mp hd.idle).1

/-- A unit that stalls is counted active and started and goes on as a job, due once its time has
passed. -/
theorem Run.begin_stall (w : World) (r : Run) (item : Item) (h : item.work.behavior = .stall) :
    r.begin w item = (.running { item.job with doneAt := some (w.clock + stallMillis) },
      { r with started := r.started + 1 },
      { w with
        stats := { w.stats with active := w.stats.active + 1 }
        counters := { w.counters with started := w.counters.started + 1 } }) := by
  unfold Run.begin
  simp [h, Item.job]

/-- An idle worker of a dispatching run takes the head of the queue and a free permit, and
spawns the unit. -/
theorem Run.stepWorker_spawn {w : World} {r : Run} {i n : Nat} {item : Item} {rest : List Item}
    (hd : r.Dispatching i n) (hq : r.queue = item :: rest) :
    r.stepWorker w i = some
      (((({ r with queue := rest, permits := some n } : Run).spawn w item).1.setWorker i .idle,
        (({ r with queue := rest, permits := some n } : Run).spawn w item).2)) := by
  simp [Run.stepWorker, Run.take, hd.idle, hd.cancelled, hq, hd.permits, hd.waiters]

/-- A spawned unit that ends at once finishes in the worker's move and frees its permit: the run
is ready for the next unit. -/
theorem Run.stepWorker_spawn_immediate {w : World} {r : Run} {i n : Nat} {item : Item}
    {rest : List Item} (hd : r.Dispatching i n) (hq : r.queue = item :: rest)
    (himm : item.work.behavior.immediate = true) :
    ∃ x, r.stepWorker w i = some x ∧ x.1.Dispatching i n ∧ x.1.queue = rest ∧
      World.Processed item w x.2 ∧ x.2.clock = w.clock := by
  refine ⟨_, Run.stepWorker_spawn hd hq, ?_⟩
  rw [Run.spawn, Run.begin_immediate _ _ _ himm]
  dsimp only
  rw [Run.finish_fst]
  refine ⟨⟨hd.cancelled, ?_, hd.waiters, hd.dispatched, ?_⟩, rfl,
    World.Processed.of_finish _ _ rfl rfl rfl rfl, by simp⟩
  · simp [Run.setWorker, Run.givePermit]
  · simp [Run.setWorker, Run.givePermit, hd.worker_lt]

/-- A spawned unit that stalls is dispatched and holds its permit; the worker is idle again. -/
theorem Run.stepWorker_spawn_stall {w : World} {r : Run} {i n : Nat} {item : Item}
    {rest : List Item} (hd : r.Dispatching i n) (hq : r.queue = item :: rest)
    (hstall : item.work.behavior = .stall) :
    ∃ x, r.stepWorker w i = some x ∧
      x.1.Stalled i n { item.job with doneAt := some (w.clock + stallMillis) } ∧
      x.1.queue = rest ∧ x.2 = { w with
        stats := { w.stats with active := w.stats.active + 1 }
        counters := { w.counters with started := w.counters.started + 1 } } := by
  refine ⟨_, Run.stepWorker_spawn hd hq, ?_⟩
  rw [Run.spawn, Run.begin_stall _ _ _ hstall]
  dsimp only
  refine ⟨⟨hd.cancelled, rfl, hd.waiters, ?_, ?_⟩, rfl, rfl⟩
  · simp [Run.setWorker, hd.dispatched]
  · simp [Run.setWorker, hd.worker_lt]

/-- The job in flight, once due, finishes by its own move and frees its permit: the run is ready
for the next unit. -/
theorem Run.stepDispatched_stalled {w : World} {r : Run} {i n : Nat} {job : Job}
    (hs : r.Stalled i n job) (hdue : job.due w.clock false = true) :
    ∃ y, r.stepDispatched w 0 = some y ∧ y.1.Dispatching i n ∧ y.1.queue = r.queue ∧
      y.2 = (({ r with dispatched := [] } : Run).finish w job).2 := by
  have hstep : r.stepDispatched w 0 = some
      ((({ r with dispatched := [] } : Run).finish w job).1.givePermit,
        (({ r with dispatched := [] } : Run).finish w job).2) := by
    simp only [Run.stepDispatched, hs.dispatched, hs.cancelled, hdue, List.getElem?_cons_zero,
      List.eraseIdx_cons_zero, if_true]
  refine ⟨_, hstep, ?_, ?_, rfl⟩
  · rw [Run.finish_fst]
    exact ⟨hs.cancelled, by simp [Run.givePermit, hs.permits], hs.waiters, rfl, hs.idle⟩
  · rw [Run.finish_fst]
    rfl

/-- Worker `i` of the run at `p` takes a unit, time passes until `t`, and the first dispatched
unit moves: a unit processed through a permit, whether it ends at once or later. -/
def dispatchRound (p : Place) (i t : Nat) : List Action :=
  [.task p (.worker i), .tick t, .task p (.dispatched 0)]

/-- Rounds for `n` units from the clock `c`, each giving a stalled unit its time. -/
def dispatchRounds (p : Place) (i : Nat) : Nat → Nat → List Action
  | _, 0 => []
  | c, n + 1 => dispatchRound p i (c + stallMillis) ++ dispatchRounds p i (c + stallMillis) n

/-- One round of a dispatching run processes the unit at the head of its queue, which ends at
once or stalls: the unit is counted as `World.Processed` says, the run is ready for the next
unit, and the clock has moved on by the time a stalled unit takes. -/
theorem Machine.dispatchRound_processes {m : Machine} {p : Place} {r : Run} {i n : Nat}
    {item : Item} {rest : List Item} (hr : m.runAt p = some r) (hd : r.Dispatching i n)
    (hq : r.queue = item :: rest)
    (hb : item.work.behavior.immediate = true ∨ item.work.behavior = .stall) :
    let m' := m.exec (dispatchRound p i (m.world.clock + stallMillis))
    ∃ r', m'.runAt p = some r' ∧ r'.Dispatching i n ∧ r'.queue = rest ∧
      World.Processed item m.world m'.world ∧ m'.world.clock = m.world.clock + stallMillis := by
  intro m'
  have hmax : max (m.world.clock + stallMillis) m.world.clock = m.world.clock + stallMillis :=
    Nat.max_eq_left (Nat.le_add_right _ _)
  rcases hb with himm | hstall
  · -- a unit that ends at once is processed by the worker's move; no unit is left in flight
    obtain ⟨x, hx, hdx, hqx, hproc, hclock⟩ :=
      Run.stepWorker_spawn_immediate (w := m.world) hd hq himm
    set m₂ := (m.put x.1 x.2 p).at (m.world.clock + stallMillis)
    have h₂ : m₂.act (.task p (.dispatched 0)) = none := by
      simp [m₂, Machine.act, Machine.runAt_put_self hr, Run.move, Run.stepDispatched,
        hdx.dispatched]
    have hm' : m' = m₂ := by
      simp only [m', dispatchRound, Machine.exec_cons, Machine.act_task_of_move (t := .worker i) hr hx,
        Option.getD_some, Machine.act_tick, h₂, Option.getD_none, Machine.exec_nil, m₂]
    refine ⟨x.1, by simp [hm', m₂, Machine.runAt_put_self hr], hdx, hqx, ?_, ?_⟩
    · rw [hm', Machine.at_world, Machine.put_world]
      exact ⟨hproc.stats, hproc.reports, hproc.sink⟩
    · rw [hm', Machine.at_world, Machine.put_world, hclock, hmax]
  · -- a unit that stalls is dispatched, and finishes by its own move once its time has come
    obtain ⟨x, hx, hsx, hqx, hw⟩ := Run.stepWorker_spawn_stall (w := m.world) hd hq hstall
    set m₂ := (m.put x.1 x.2 p).at (m.world.clock + stallMillis)
    have hdue : Job.due { item.job with doneAt := some (m.world.clock + stallMillis) }
        m₂.world.clock false = true := by
      simp [m₂, Job.due, hw]
    obtain ⟨y, hy, hdy, hqy, hwy⟩ := Run.stepDispatched_stalled hsx hdue
    have h₂ : m₂.act (.task p (.dispatched 0)) = some (m₂.put y.1 y.2 p) :=
      Machine.act_task_of_move (t := .dispatched 0) (by simp [m₂, Machine.runAt_put_self hr]) hy
    have hm' : m' = m₂.put y.1 y.2 p := by
      simp only [m', dispatchRound, Machine.exec_cons, Machine.act_task_of_move (t := .worker i) hr hx,
        Option.getD_some, Machine.act_tick, h₂, Machine.exec_nil, m₂]
    refine ⟨y.1, ?_, hdy, hqy.trans hqx, ?_, ?_⟩
    · rw [hm']
      exact Machine.runAt_put_self (r := x.1) (by simp [m₂, Machine.runAt_put_self hr]) y.1 y.2
    · rw [hm', Machine.put_world, hwy]
      exact World.Processed.of_finish _ _ (by simp [m₂, hw]) (by simp [m₂, hw])
        (by simp [m₂, hw]) rfl
    · rw [hm', Machine.put_world, hwy, Run.finish_clock]
      simp [m₂, hw]

/-- A worker of a live run that dispatches its units under permits processes the queued units
one round each, however each ends, at once or after it stalls: each is counted processed once
and failed exactly when it failed, each failure is reported once to a recording callback, every
other count stays where it was, and every permit is free again. -/
theorem worker_isolates_dispatched_failures {m : Machine} {p : Place} {r : Run} {i n : Nat}
    {items rest : List Item} (hr : m.runAt p = some r) (hd : r.Dispatching i n)
    (hq : r.queue = items ++ rest)
    (hb : ∀ item ∈ items, item.work.behavior.immediate = true ∨ item.work.behavior = .stall) :
    let m' := m.exec (dispatchRounds p i m.world.clock items.length)
    ∃ r', m'.runAt p = some r' ∧ r'.Dispatching i n ∧ r'.queue = rest ∧
      m'.world.stats = { m.world.stats with
        processed := m.world.stats.processed + items.length
        failed := m.world.stats.failed + (failureReports items).length } ∧
      m'.world.reports =
        m.world.reports ++ (if m.world.sink = .record then failureReports items else []) := by
  -- induction on the units, one round each, the run ready again after every round
  induction items generalizing m r with
  | nil => exact ⟨r, hr, hd, hq, by simp [dispatchRounds], by simp [dispatchRounds]⟩
  | cons item items ih =>
    obtain ⟨r₁, hr₁, hd₁, hq₁, hproc, hclock⟩ := Machine.dispatchRound_processes hr hd
      (by rw [hq, List.cons_append]) (hb item List.mem_cons_self)
    obtain ⟨r', hr', hd', hq', hstats, hreports⟩ :=
      ih hr₁ hd₁ hq₁ fun it hit => hb it (List.mem_cons_of_mem _ hit)
    set m₁ := m.exec (dispatchRound p i (m.world.clock + stallMillis))
    have hexec : m.exec (dispatchRounds p i m.world.clock (item :: items).length) =
        m₁.exec (dispatchRounds p i m₁.world.clock items.length) := by
      rw [hclock, List.length_cons, dispatchRounds, Machine.exec_append]
    refine ⟨r', ?_, hd', hq', ?_, ?_⟩
    · rw [hexec]
      exact hr'
    · rw [hexec]
      exact hproc.stats_cons hstats
    · rw [hexec]
      exact hproc.reports_cons hreports

/-- Under two permits, one worker takes three units: one fails, one stalls and finishes by its own
move later, and one panics with a payload that is not text. -/
example :
    let items : List Item :=
      [⟨⟨3, .ends (.error (.failed "refused"))⟩, none⟩, ⟨⟨4, .stall⟩, none⟩,
        ⟨⟨5, .ends (.panicked .opaqueValue)⟩, none⟩]
    let r : Run :=
      { generation := 0, localAddr := default, parent := none, queue := items,
        workers := [.idle], permits := some 2 }
    let plan : Plan :=
      { capacity := 4, mode := .wait, workers := 1, dispatch := some 2, stopMillis := 1000,
        classifier := .accept, script := [] }
    let m : Machine := { world := { plan, sink := .record }, slot := some r }
    let m' := m.exec (dispatchRounds .running 0 m.world.clock items.length)
    ∃ r', m'.runAt .running = some r' ∧ r'.Dispatching 0 1 ∧ r'.queue = [] ∧
      m'.world.stats = { m.world.stats with
        processed := m.world.stats.processed + items.length
        failed := m.world.stats.failed + (failureReports items).length } ∧
      m'.world.reports =
        m.world.reports ++ (if m.world.sink = .record then failureReports items else []) :=
  worker_isolates_dispatched_failures rfl ⟨rfl, rfl, rfl, rfl, rfl⟩ (List.append_nil _).symm
    (by decide)

/-- One worker takes four units: one succeeds, one fails, one panics with a payload that is not
text, and one is cancelled. -/
theorem worker_isolates_mixed_failures :
    let items : List Item :=
      [⟨⟨2, .ends .ok⟩, none⟩, ⟨⟨3, .ends (.error (.failed "refused"))⟩, none⟩,
        ⟨⟨4, .ends (.panicked .opaqueValue)⟩, none⟩, ⟨⟨5, .ends (.error .cancelled)⟩, none⟩]
    let r : Run :=
      { generation := 0, localAddr := default, parent := none, queue := items,
        workers := [.idle], permits := none }
    let plan : Plan :=
      { capacity := 4, mode := .wait, workers := 1, dispatch := none, stopMillis := 1000,
        classifier := .accept, script := [] }
    let m : Machine := { world := { plan, sink := .record }, slot := some r }
    let m' := m.exec (List.replicate items.length (.task .running (.worker 0)))
    ∃ r', m'.runAt .running = some r' ∧ r'.queue = [] ∧ r'.workers[0]? = some .idle ∧
      m'.world.stats = { m.world.stats with
        processed := m.world.stats.processed + items.length
        failed := m.world.stats.failed + (failureReports items).length } ∧
      m'.world.reports =
        m.world.reports ++ (if m.world.sink = .record then failureReports items else []) :=
  worker_isolates_failures rfl rfl rfl rfl (List.append_nil _).symm (by decide)

end NetNode.Node
