import NetNode.Proofs.Node.Isolation
import NetNode.Node.Session

/-!
# The lifecycle under concurrent owner calls

The owner of a node may call `start`, `stop` and `dispose` from any number of tasks at once,
while the node's own tasks run and a producer that ends asks for a stop of its run. A start
holds the node's lock while it binds and launches; a stop holds it from taking the running run
until the run's tasks are gone or the timeout is over; a disposal is a stop followed by a write
of the disposed state, made without the lock. A call waiting for the lock has done nothing yet,
so a node with the calls in flight on it (`Calls`) keeps only whether the stop in progress is a
disposal's and how many disposals have stopped the node and not yet written. `Calls.Quiet`: no
start, stop or disposal is executing.

Along every schedule, every run ever started is running, being stopped, or was released once,
when its stop ended (`Calls.exec_ledger`), and a disposed node stays disposed and starts no run
(`Calls.exec_disposed`). Whether the state, the running run and the bound address agree once
the calls are over depends on the schedule: a start that takes the lock after a disposal's stop
and before its write launches a run, and the write then leaves it serving under the disposed
state (`start_in_disposal_gap`). Every schedule without such a start keeps them in agreement
(`Calls.Inv`, `Calls.exec_inv`). `lifecycle` gathers these with what each call does.
-/

namespace NetNode.Node

open NetNode.Address

/-! ## Calls in flight -/

/-- One move of a node while its owner's calls run: a move of a task of some run, time passing,
the cancellation of a parent token, a stop asked for by a producer taking the lock, the end of
the stop in progress, a start taking the lock and binding at `bound` under a parent token or
none, a stop taking the lock and the running run, a disposal's stop taking the lock, and a
disposal's final write. -/
inductive Move where
  | task (p : Place) (t : Task)
  | tick (t : Nat)
  | cancelParent (k : Nat)
  | selfStop
  | completeStop
  | start (bound : SocketAddress) (parent : Option Nat)
  | stop
  | disposeStop
  | disposeWrite

/-- A node with the owner calls in flight on it. -/
structure Calls where
  machine : Machine
  /-- The stop in progress was made by a disposal. -/
  disposing : Bool := false
  /-- Disposals that have stopped the node and not yet written the disposed state. -/
  writes : Nat := 0

/-- A new node with no call in flight. -/
def Calls.new (plan : Plan) (sink : Sink) (pool : Option Pool.BufferPool) : Calls :=
  { machine := Machine.new plan sink pool }

/-- A move of the machine that changes no call in flight. -/
def Calls.lift (c : Calls) (a : Action) : Option Calls :=
  (c.machine.act a).map ({ c with machine := · })

/-- Make one move, if it can be made. A disposal's stop that finds the lock free and no run
running has stopped at once, and its write is next. -/
def Calls.step (c : Calls) : Move → Option Calls
  | .task p t => c.lift (.task p t)
  | .tick t => c.lift (.tick t)
  | .cancelParent k => c.lift (.cancelParent k)
  | .selfStop => c.lift .selfStop
  | .completeStop =>
    (c.machine.act .completeStop).map fun m =>
      { machine := m, disposing := false, writes := if c.disposing then c.writes + 1 else c.writes }
  | .start bound parent => c.lift (.start bound parent)
  | .stop => c.lift .stop
  | .disposeStop =>
    match c.machine.act .stop with
    | some m => some { c with machine := m, disposing := true }
    | none => if c.machine.stopping.isNone then some { c with writes := c.writes + 1 } else none
  | .disposeWrite =>
    if c.writes = 0 then none
    else (c.machine.act .dispose).map fun m => { c with machine := m, writes := c.writes - 1 }

/-- Make moves in order; a move that cannot be made is skipped. -/
def Calls.exec (c : Calls) : List Move → Calls
  | [] => c
  | mv :: mvs => ((c.step mv).getD c).exec mvs

@[simp] theorem Calls.exec_nil (c : Calls) : c.exec [] = c := rfl

@[simp] theorem Calls.exec_cons (c : Calls) (mv : Move) (mvs : List Move) :
    c.exec (mv :: mvs) = ((c.step mv).getD c).exec mvs := rfl

theorem Calls.exec_append (c : Calls) (mvs mvs' : List Move) :
    c.exec (mvs ++ mvs') = (c.exec mvs).exec mvs' := by
  induction mvs generalizing c with
  | nil => rfl
  | cons mv mvs ih => exact ih _

/-- No start, stop or disposal is executing: no stop is in progress and no disposal's write is
pending. -/
def Calls.Quiet (c : Calls) : Prop := c.machine.stopping = none ∧ c.writes = 0

/-! ## What the tasks of a run leave to the calls

A task never releases the processor: only the end of a stop does. -/

@[simp] theorem World.giveBack_counters (w : World) (l : Option Pool.Buffer) :
    (w.giveBack l).counters = w.counters := by
  obtain ⟨p, hp⟩ := World.giveBack_frame w l
  rw [hp]

@[simp] theorem World.discard_counters (w : World) (items : List Item) :
    (w.discard items).counters = w.counters := by
  obtain ⟨p, hp⟩ := World.discard_frame w items
  rw [hp]

@[simp] theorem Run.exit_counters (w : World) (r : Run) (e : Ending) :
    (r.exit w e).2.counters = w.counters := by
  obtain ⟨h, p, hx⟩ := Run.exit_frame w r e
  rw [hx]

@[simp] theorem Run.holdBuffer_counters (w : World) (r : Run) :
    (r.holdBuffer w).2.counters = w.counters := by
  obtain ⟨h, p, hb⟩ := Run.holdBuffer_frame w r
  rw [hb]

@[simp] theorem Run.returnBuffer_counters (w : World) (r : Run) :
    (r.returnBuffer w).2.counters = w.counters := by
  obtain ⟨h, p, hb⟩ := Run.returnBuffer_frame w r
  rw [hb]

@[simp] theorem Run.finish_released (w : World) (r : Run) (job : Job) :
    (r.finish w job).2.counters.released = w.counters.released := by
  obtain ⟨rs, fl, -, hf⟩ := Run.finish_frame w r job
  rw [hf]

@[simp] theorem Run.begin_released (w : World) (r : Run) (item : Item) :
    (r.begin w item).2.2.counters.released = w.counters.released := by
  rcases Run.begin_cases w r item with ⟨-, h⟩ | ⟨-, ⟨j, -, h⟩ | ⟨j, -, h⟩⟩ <;> simp [h]

@[simp] theorem Run.spawn_released (w : World) (r : Run) (item : Item) :
    (r.spawn w item).2.counters.released = w.counters.released := by
  have h := Run.begin_released w r item
  unfold Run.spawn
  split <;> simp_all

@[simp] theorem Run.take_released (w : World) (r : Run) (i : Nat) (item : Item) :
    (r.take w i item).2.counters.released = w.counters.released := by
  have h := Run.begin_released w r item
  unfold Run.take
  split
  · split <;> simp_all
  · split <;> simp
  · simp

@[simp] theorem Run.enqueue_released (w : World) (r : Run) (next : Nat) (item : Item) :
    (r.enqueue w next item).2.counters.released = w.counters.released := by
  unfold Run.enqueue
  split
  · simp
  · split
    · rfl
    · split
      · split <;> simp
      · rfl
      · rfl

theorem Run.fetch_released (w : World) (r : Run) (pos : Nat) :
    (r.fetch w pos).2.counters.released = w.counters.released := by
  obtain ⟨h, p, hb⟩ := Run.holdBuffer_frame w r
  unfold Run.fetch
  rw [hb]
  dsimp only
  split
  · rfl
  · simp
  · next e cancel _ =>
    obtain ⟨h', p', hr⟩ := Run.returnBuffer_frame { w with pool := p } { r with holding := h }
    obtain ⟨c, b, hc⟩ :=
      Run.cancelParent_frame { w with pool := p' } { r with holding := h' } cancel
    rw [hr]
    dsimp only
    rw [hc]
    dsimp only
    split
    · split <;> rfl
    · simp
    · simp
  · simp
  · rfl
  · rfl

theorem Run.move_released {w : World} {r : Run} {t : Task} {x : Run × World}
    (h : r.move w t = some x) : x.2.counters.released = w.counters.released := by
  cases t with
  | producer =>
    rcases Run.stepProducer_cases h with
      ⟨next, item, -, ⟨-, rfl⟩ | ⟨-, -, rfl⟩⟩ | ⟨-, ⟨-, rfl⟩ | ⟨-, pos, ⟨-, rfl⟩ | rfl⟩⟩
    · simp
    · rfl
    · simp
    · exact Run.fetch_released w r pos
    · rfl
  | worker i =>
    simp only [Run.move, Run.stepWorker] at h
    split at h
    · split at h
      · cases h
        rfl
      · split at h
        · cases h
          simp
        · split at h <;> cases h
          rfl
    · split at h <;> cases h
      simp
    · split at h
      · cases h
        simp
      · split at h
        · split at h
          · cases h
            simp
          · cases h
        · cases h
    · cases h
  | dispatched k =>
    simp only [Run.move, Run.stepDispatched] at h
    split at h
    · split at h <;> cases h
      simp
    · cases h

/-! ## The lifecycle as a machine of its own

What the calls read and change of a node is its state, whether a run holds the running slot and
whether a stop is in progress, how many runs were started and how many processors released.
Each move either keeps these or makes one of four changes: a launch, the start of a stop, the
end of a stop, a disposal's write. -/

/-- What the lifecycle reads of a node. -/
structure Life where
  state : NodeState
  running : Bool
  stopping : Bool
  started : Nat
  released : Nat
  deriving DecidableEq, Repr

/-- The lifecycle of a node: its state, whether a run holds the slot and whether a stop is in
progress, the runs started and the processors released. -/
def Machine.life (m : Machine) : Life :=
  ⟨m.state, m.slot.isSome, m.stopping.isSome, m.generations, m.world.counters.released⟩

/-- A run is launched: it holds the slot and the node runs, unless disposed. -/
def Life.launch (l : Life) : Life :=
  { l with state := l.state.next .running, running := true, started := l.started + 1 }

/-- A stop takes the running run. -/
def Life.beginStop (l : Life) : Life :=
  { l with state := l.state.next .stopping, running := false, stopping := true }

/-- The stop in progress ends and releases the run's processor. -/
def Life.endStop (l : Life) : Life :=
  { l with state := l.state.next .stopped, stopping := false, released := l.released + 1 }

/-- A disposal's write. -/
def Life.dispose (l : Life) : Life := { l with state := .disposed }

@[simp] theorem Machine.launch_life (m : Machine) (a : SocketAddress) (parent : Option Nat) :
    (m.launch a parent).life = m.life.launch := rfl

@[simp] theorem Machine.beginStop_life (m : Machine) (r : Run) :
    (m.beginStop r).life = m.life.beginStop := by
  simp [Machine.life, Machine.beginStop, Life.beginStop]

@[simp] theorem Machine.at_life (m : Machine) (t : Nat) : (m.at t).life = m.life := rfl

@[simp] theorem Machine.cancelToken_life (m : Machine) (k : Nat) :
    (m.cancelToken k).life = m.life := by
  simp [Machine.life, Machine.cancelToken]

/-- The bound address is shown while a run holds the slot or is being stopped. -/
theorem Machine.localAddr?_isSome (m : Machine) :
    m.localAddr?.isSome = (m.slot.isSome || m.stopping.isSome) := by
  unfold Machine.localAddr? Machine.current?
  cases m.slot <;> cases m.stopping <;> simp

/-- A move of a task keeps the lifecycle. -/
theorem Machine.act_task_life {m m' : Machine} {p : Place} {t : Task}
    (h : m.act (.task p t) = some m') : m'.life = m.life := by
  obtain ⟨r, ⟨r', w'⟩, hr, hx, rfl⟩ := Machine.act_task h
  have hrel : w'.counters.released = m.world.counters.released := Run.move_released hx
  cases p with
  | running =>
    simp only [Machine.runAt] at hr
    simp [Machine.life, Machine.put, hr, hrel]
  | stopping =>
    obtain ⟨s, hs, rfl⟩ := Option.map_eq_some_iff.mp hr
    simp [Machine.life, Machine.put, hs, hrel]
  | background i => simp [Machine.life, Machine.put, hrel]

/-- A stop asked for by a producer runs only while no stop is in progress; it takes the
running run if that run is its own, and otherwise only leaves the line. -/
theorem Machine.selfStop?_cases {m m' : Machine} (h : m.selfStop? = some m') :
    m.stopping = none ∧ (m'.life = m.life ∧ m'.stopping = none ∨
      ∃ r rest, m.slot = some r ∧ m' = ({ m with world := { m.world with selfStops := rest } }).beginStop r) := by
  obtain ⟨hs, g, rest, -, ⟨-, rfl⟩ | ⟨r, hr, -, rfl⟩⟩ := Machine.selfStop?_eq_some h
  · exact ⟨hs, .inl ⟨rfl, hs⟩⟩
  · exact ⟨hs, .inr ⟨r, rest, hr, rfl⟩⟩

/-- The end of a stop: the processor is released, the node is stopped unless disposed, the
running slot is left as it was, and the stop timed out exactly when its run was not quiet. -/
theorem Machine.completeStop?_cases {m m' : Machine} (h : m.completeStop? = some m') :
    ∃ s, m.stopping = some s ∧ m'.life = m.life.endStop ∧ m'.slot = m.slot ∧
      m'.stopping = none ∧ (m'.timedOut = false ↔ s.run.quiet = true) := by
  obtain ⟨s, hb, p, hs, -, rfl⟩ := Machine.completeStop?_eq_some h
  refine ⟨s, hs, ?_, rfl, rfl, by simp⟩
  simp [Machine.life, Life.endStop, hs]

/-! ## What a move does to the lifecycle -/

/-- What a move does to the lifecycle, said once for every invariant below: it keeps it (a
task, time passing, a parent token's cancellation, a stop asked for by a run no longer
running), launches a run, makes a stop take the running run, ends the stop in progress, lets a
disposal's stop find no run, or makes a disposal's write. The lock shows in the guards: a launch and the start of a
stop need it free. -/
theorem Calls.step_cases {c c' : Calls} {mv : Move} (h : c.step mv = some c') :
    (c'.machine.life = c.machine.life ∧ c'.disposing = c.disposing ∧ c'.writes = c.writes) ∨
    (∃ a l, mv = .start a l ∧ c.machine.life.state ≠ .disposed ∧
      c.machine.life.running = false ∧ c.machine.life.stopping = false ∧
      c'.machine.life = c.machine.life.launch ∧ c'.disposing = c.disposing ∧ c'.writes = c.writes) ∨
    (c.machine.life.running = true ∧ c.machine.life.stopping = false ∧
      c'.machine.life = c.machine.life.beginStop ∧ c'.writes = c.writes) ∨
    (c.machine.life.stopping = true ∧ c'.machine.life = c.machine.life.endStop ∧
      c'.disposing = false ∧ c'.writes = (if c.disposing then c.writes + 1 else c.writes)) ∨
    (c.machine.life.running = false ∧ c.machine.life.stopping = false ∧
      c'.machine.life = c.machine.life ∧ c'.disposing = c.disposing ∧ c'.writes = c.writes + 1) ∨
    (c.writes ≠ 0 ∧ c'.machine.life = c.machine.life.dispose ∧ c'.disposing = c.disposing ∧
      c'.writes = c.writes - 1) := by
  cases mv with
  | task p t =>
    obtain ⟨m, hm, rfl⟩ := Option.map_eq_some_iff.mp h
    exact .inl ⟨Machine.act_task_life hm, rfl, rfl⟩
  | tick t =>
    simp only [Calls.step, Calls.lift, Machine.act, Option.map_some, Option.some.injEq] at h
    subst h
    exact .inl ⟨rfl, rfl, rfl⟩
  | cancelParent k =>
    simp only [Calls.step, Calls.lift, Machine.act, Option.map_some, Option.some.injEq] at h
    subst h
    exact .inl ⟨Machine.cancelToken_life _ _, rfl, rfl⟩
  | selfStop =>
    obtain ⟨m, hm, rfl⟩ := Option.map_eq_some_iff.mp h
    obtain ⟨hnone, ⟨hlife, -⟩ | ⟨r, rest, hr, rfl⟩⟩ := Machine.selfStop?_cases hm
    · exact .inl ⟨hlife, rfl, rfl⟩
    · -- its own run still holds the slot: the stop takes it
      refine .inr (.inr (.inl ⟨?_, ?_, Machine.beginStop_life _ r, rfl⟩))
      · simp [Machine.life, hr]
      · simp [Machine.life, hnone]
  | completeStop =>
    obtain ⟨m, hm, rfl⟩ := Option.map_eq_some_iff.mp h
    obtain ⟨s, hs, hlife, -⟩ := Machine.completeStop?_cases hm
    exact .inr (.inr (.inr (.inl ⟨by simp [Machine.life, hs], hlife, rfl, rfl⟩)))
  | start a l =>
    obtain ⟨m, hm, rfl⟩ := Option.map_eq_some_iff.mp h
    obtain ⟨hd, hslot, hs, rfl⟩ := Machine.act_start hm
    exact .inr (.inl ⟨a, l, rfl, hd, by simp [Machine.life, hslot], by simp [Machine.life, hs],
      Machine.launch_life _ a l, rfl, rfl⟩)
  | stop =>
    obtain ⟨m, hm, rfl⟩ := Option.map_eq_some_iff.mp h
    obtain ⟨r, hs, hr, rfl⟩ := Machine.act_stop hm
    exact .inr (.inr (.inl ⟨by simp [Machine.life, hr], by simp [Machine.life, hs],
      Machine.beginStop_life _ r, rfl⟩))
  | disposeStop =>
    simp only [Calls.step] at h
    split at h
    next m hm =>
      cases h
      obtain ⟨r, hs, hr, rfl⟩ := Machine.act_stop hm
      exact .inr (.inr (.inl ⟨by simp [Machine.life, hr], by simp [Machine.life, hs],
        Machine.beginStop_life _ r, rfl⟩))
    next hm =>
      split at h
      next hs =>
        cases h
        -- the lock is free, so the stop found no run
        have hs' : c.machine.stopping = none := by simpa using hs
        have hslot : c.machine.slot = none := by
          cases hr : c.machine.slot with
          | none => rfl
          | some r => simp [Machine.act, hs', hr] at hm
        exact .inr (.inr (.inr (.inr (.inl ⟨by simp [Machine.life, hslot],
          by simp [Machine.life, hs'], rfl, rfl, rfl⟩))))
      · cases h
  | disposeWrite =>
    simp only [Calls.step] at h
    split at h
    · cases h
    next hw =>
      obtain ⟨m, hm, rfl⟩ := Option.map_eq_some_iff.mp h
      cases hm
      exact .inr (.inr (.inr (.inr (.inr ⟨hw, rfl, rfl, rfl⟩))))

/-- What every move keeps, every schedule keeps. -/
theorem Calls.exec_induction (P : Calls → Prop)
    (hstep : ∀ {c c' : Calls} {mv : Move}, P c → c.step mv = some c' → P c') {c : Calls}
    (hc : P c) (mvs : List Move) : P (c.exec mvs) := by
  induction mvs generalizing c with
  | nil => exact hc
  | cons mv mvs ih =>
    rw [Calls.exec_cons]
    cases h : c.step mv with
    | none => exact ih hc
    | some c' => exact ih (hstep hc h)

/-! ## Along every schedule -/

/-- What holds of the lifecycle along every schedule: no run holds the slot while a stop is in
progress, so at most one run is running or being stopped; and every run ever started is
running, being stopped, or was released once, when its stop ended. -/
structure Life.Sound (l : Life) : Prop where
  exclusive : l.stopping = true → l.running = false
  ledger : l.released + l.stopping.toNat + l.running.toNat = l.started

theorem Calls.step_sound {c c' : Calls} {mv : Move} (hs : c.machine.life.Sound)
    (h : c.step mv = some c') : c'.machine.life.Sound := by
  obtain ⟨hex, hled⟩ := hs
  rcases Calls.step_cases h with ⟨hl, -, -⟩ | ⟨a, l, -, -, hr, hst, hl, -, -⟩ |
    ⟨hr, hst, hl, -⟩ | ⟨hst, hl, -, -⟩ | ⟨-, -, hl, -, -⟩ | ⟨-, hl, -, -⟩ <;> rw [hl]
  · exact ⟨hex, hled⟩
  · -- a launch needs the slot empty and the lock free
    refine ⟨by simp [Life.launch, hst], ?_⟩
    simp only [Life.launch, hr, hst, Bool.toNat_true, Bool.toNat_false] at hled ⊢
    omega
  · refine ⟨fun _ => rfl, ?_⟩
    simp only [Life.beginStop, hr, hst, Bool.toNat_true, Bool.toNat_false] at hled ⊢
    omega
  · -- the run being stopped is released as its stop ends
    refine ⟨fun h => by simp [Life.endStop] at h, ?_⟩
    simp only [Life.endStop, hst, hex hst, Bool.toNat_true, Bool.toNat_false] at hled ⊢
    omega
  · exact ⟨hex, hled⟩
  · exact ⟨hex, hled⟩

theorem Calls.exec_sound {c : Calls} (hs : c.machine.life.Sound) (mvs : List Move) :
    (c.exec mvs).machine.life.Sound :=
  Calls.exec_induction (fun c => c.machine.life.Sound) Calls.step_sound hs mvs

theorem Calls.new_sound (plan : Plan) (sink : Sink) (pool : Option Pool.BufferPool) :
    (Calls.new plan sink pool).machine.life.Sound :=
  ⟨fun h => (by cases h), rfl⟩

/-- Disposal is final: a disposed node stays disposed, and no start launches a run on it. -/
theorem Calls.step_disposed {c c' : Calls} {mv : Move} (hd : c.machine.life.state = .disposed)
    (h : c.step mv = some c') :
    c'.machine.life.state = .disposed ∧ c'.machine.life.started = c.machine.life.started := by
  rcases Calls.step_cases h with ⟨hl, -, -⟩ | ⟨a, l, -, hnd, -⟩ | ⟨-, -, hl, -⟩ | ⟨-, hl, -, -⟩ |
    ⟨-, -, hl, -, -⟩ | ⟨-, hl, -, -⟩
  · rw [hl]
    exact ⟨hd, rfl⟩
  · exact absurd hd hnd
  · rw [hl]
    simp [Life.beginStop, NodeState.next, hd]
  · rw [hl]
    simp [Life.endStop, NodeState.next, hd]
  · rw [hl]
    exact ⟨hd, rfl⟩
  · rw [hl]
    exact ⟨rfl, rfl⟩

theorem Calls.exec_disposed {c : Calls} (hd : c.machine.life.state = .disposed) (mvs : List Move) :
    (c.exec mvs).machine.life.state = .disposed ∧
      (c.exec mvs).machine.life.started = c.machine.life.started := by
  refine Calls.exec_induction
    (fun c' => c'.machine.life.state = .disposed ∧ c'.machine.life.started = c.machine.life.started)
    ?_ ⟨hd, rfl⟩ mvs
  intro c₁ c₂ mv ⟨hd₁, hg₁⟩ h
  obtain ⟨hd₂, hg₂⟩ := Calls.step_disposed hd₁ h
  exact ⟨hd₂, hg₂.trans hg₁⟩

/-! ## Schedules without a start in a disposal's gap -/

/-- A schedule in which no start launches a run while a disposal's write is pending. -/
def Calls.Orderly : Calls → List Move → Prop
  | _, [] => True
  | c, mv :: mvs =>
    (∀ a l, mv = .start a l → c.writes ≠ 0 → c.step mv = none) ∧
      Calls.Orderly ((c.step mv).getD c) mvs

/-- The lifecycle along an orderly schedule: a run in the slot is running; a stop in progress
leaves the node stopping, or disposed; a disposal's stop is a stop in progress; a pending
write finds no run and no stop; and a node with neither is new, stopped after a start, or
disposed. -/
structure Calls.Inv (c : Calls) : Prop where
  sound : c.machine.life.Sound
  running : c.machine.life.running = true → c.machine.life.state = .running
  stopping : c.machine.life.stopping = true →
    c.machine.life.state = .stopping ∨ c.machine.life.state = .disposed
  disposing : c.disposing = true → c.machine.life.stopping = true
  writes : c.writes ≠ 0 → c.machine.life.running = false ∧ c.machine.life.stopping = false
  idle : c.machine.life.running = false → c.machine.life.stopping = false →
    (c.machine.life.state = .created ∧ c.machine.life.started = 0) ∨
    (c.machine.life.state = .stopped ∧ 0 < c.machine.life.started) ∨
    c.machine.life.state = .disposed

theorem Calls.new_inv (plan : Plan) (sink : Sink) (pool : Option Pool.BufferPool) :
    (Calls.new plan sink pool).Inv where
  sound := Calls.new_sound plan sink pool
  running h := by cases h
  stopping h := by cases h
  disposing h := by cases h
  writes h := absurd rfl h
  idle _ _ := .inl ⟨rfl, rfl⟩

theorem Calls.step_inv {c c' : Calls} {mv : Move} (hi : c.Inv) (h : c.step mv = some c')
    (hstart : ∀ a l, mv = .start a l → c.writes = 0) : c'.Inv := by
  have hsound := Calls.step_sound hi.sound h
  rcases Calls.step_cases h with ⟨hl, hd, hw⟩ | ⟨a, l, rfl, hnd, hr, hst, hl, hd, hw⟩ |
    ⟨hr, hst, hl, hw⟩ | ⟨hst, hl, hd, hw⟩ | ⟨hr, hst, hl, hd, hw⟩ | ⟨hw0, hl, hd, hw⟩
  · -- the lifecycle is kept
    exact ⟨hsound, hl ▸ hi.running, hl ▸ hi.stopping, hd ▸ hl ▸ hi.disposing,
      hw ▸ hl ▸ hi.writes, hl ▸ hi.idle⟩
  · -- a launch from the free lock, with no write pending
    have hw0 : c'.writes = 0 := hw.trans (hstart a l rfl)
    have hd0 : c'.disposing = false := by
      cases hdc : c.disposing
      · exact hd.trans hdc
      · exact absurd (hi.disposing hdc) (by simp [hst])
    refine ⟨hsound, fun _ => ?_, ?_, ?_, ?_, ?_⟩ <;> simp_all [Life.launch, NodeState.next]
  · -- a stop takes the running run, so no write was pending
    have hw0 : c.writes = 0 := by
      by_contra hne
      simp [(hi.writes hne).1] at hr
    refine ⟨hsound, fun h' => ?_, fun _ => ?_, fun _ => ?_, fun hne => absurd (hw.trans hw0) hne,
      fun _ h' => ?_⟩ <;> rw [hl] at *
    · simp [Life.beginStop] at h'
    · by_cases hdisp : c.machine.life.state = .disposed <;>
        simp [Life.beginStop, NodeState.next, hdisp]
    · rfl
    · simp [Life.beginStop] at h'
  · -- the stop in progress ends; a disposal's stop leaves its write pending
    have hrun : c.machine.life.running = false := hi.sound.exclusive hst
    have hpos : 0 < c.machine.life.started := by
      have := hi.sound.ledger
      rw [hst] at this
      simp only [Bool.toNat_true] at this
      omega
    refine ⟨hsound, ?_, ?_, ?_, ?_, ?_⟩ <;> simp only [hl, hd, Life.endStop, hrun]
    · simp
    · simp
    · simp
    · simp
    · intro _ _
      by_cases hdisp : c.machine.life.state = .disposed <;> simp [NodeState.next, hdisp, hpos]
  · -- a disposal's stop finds no run; its write is pending
    refine ⟨hsound, hl ▸ hi.running, hl ▸ hi.stopping, hd ▸ hl ▸ hi.disposing, ?_, hl ▸ hi.idle⟩
    intro _
    rw [hl]
    exact ⟨hr, hst⟩
  · -- a disposal's write, made with no run and no stop
    obtain ⟨hr, hst⟩ := hi.writes hw0
    refine ⟨hsound, ?_, ?_, ?_, ?_, ?_⟩ <;> simp only [hl, hd, Life.dispose]
    · simp [hr]
    · simp [hst]
    · exact hi.disposing
    · exact fun _ => ⟨hr, hst⟩
    · simp

theorem Calls.exec_inv {c : Calls} (hi : c.Inv) {mvs : List Move} (ho : c.Orderly mvs) :
    (c.exec mvs).Inv := by
  induction mvs generalizing c with
  | nil => exact hi
  | cons mv mvs ih =>
    obtain ⟨hstart, ho⟩ := ho
    rw [Calls.exec_cons]
    cases h : c.step mv with
    | none => exact ih hi (by simpa [h] using ho)
    | some c' =>
      -- a start that moved found no write pending
      refine ih (Calls.step_inv hi h fun a l ha => ?_) (by simpa [h] using ho)
      by_contra hne
      simp [hstart a l ha hne] at h

/-- The state, the running run and the bound address agree: the node is running exactly when a
run holds the slot, which is exactly when it shows an address; otherwise it was never started,
is stopped after a start, or is disposed. -/
structure Machine.Agrees (m : Machine) : Prop where
  running : m.state = .running ↔ m.slot.isSome
  address : m.localAddr?.isSome ↔ m.slot.isSome
  idle : m.slot = none → (m.state = .created ∧ m.generations = 0) ∨
    (m.state = .stopped ∧ 0 < m.generations) ∨ m.state = .disposed

theorem Calls.Inv.agrees {c : Calls} (hi : c.Inv) (hq : c.Quiet) : c.machine.Agrees := by
  obtain ⟨hs, -⟩ := hq
  have hst : c.machine.life.stopping = false := by simp [Machine.life, hs]
  have hidle : c.machine.slot = none → (c.machine.state = .created ∧ c.machine.generations = 0) ∨
      (c.machine.state = .stopped ∧ 0 < c.machine.generations) ∨ c.machine.state = .disposed :=
    fun hslot => hi.idle (by simp [Machine.life, hslot]) hst
  refine ⟨?_, by simp [Machine.localAddr?_isSome, hs], hidle⟩
  cases hslot : c.machine.slot with
  | none =>
    -- with no run and no stop the node is new, stopped or disposed
    rcases hidle hslot with ⟨h, -⟩ | ⟨h, -⟩ | h <;> simp [h]
  | some r =>
    have hr : c.machine.life.running = true := by simp [Machine.life, hslot]
    exact iff_of_true (hi.running hr) rfl

/-! ## What each call does -/

/-- A stop taking the running run: the run is cancelled and its queue closed and drained, the
units drained counted as dropped; the slot is left empty. -/
theorem Machine.beginStop_takes (m : Machine) (r : Run) :
    (m.beginStop r).stopping.map (·.run) = some { r with cancelled := true, queue := [], closed := true } ∧
      (m.beginStop r).world.stats.dropped = m.world.stats.dropped + r.queue.length ∧
      (m.beginStop r).slot = none ∧ (m.beginStop r).world.counters = m.world.counters := by
  simp [Machine.beginStop]

/-- A move that starts a stop takes the running run and does what `Machine.beginStop_takes`
says. -/
theorem Calls.step_takes {c c' : Calls} {mv : Move} {s : Stopping} (h : c.step mv = some c')
    (hs : c.machine.stopping = none) (hs' : c'.machine.stopping = some s) :
    ∃ r, c.machine.slot = some r ∧ s.run = { r with cancelled := true, queue := [], closed := true } ∧
      c'.machine.world.stats.dropped = c.machine.world.stats.dropped + r.queue.length ∧
      c'.machine.slot = none ∧ c'.machine.world.counters = c.machine.world.counters := by
  -- a stop took `r` from a machine with the same slot, statistics and counters
  have taken : ∀ (m₀ : Machine) (r : Run), m₀.slot = some r → m₀.world.stats = c.machine.world.stats →
      m₀.world.counters = c.machine.world.counters → c.machine.slot = m₀.slot →
      c'.machine = m₀.beginStop r →
      ∃ r, c.machine.slot = some r ∧ s.run = { r with cancelled := true, queue := [], closed := true } ∧
        c'.machine.world.stats.dropped = c.machine.world.stats.dropped + r.queue.length ∧
        c'.machine.slot = none ∧ c'.machine.world.counters = c.machine.world.counters := by
    intro m₀ r hr hstats hcount hslot hm
    obtain ⟨h₁, h₂, h₃, h₄⟩ := Machine.beginStop_takes m₀ r
    rw [← hm, hs', Option.map_some, Option.some.injEq] at h₁
    rw [← hm] at h₂ h₃ h₄
    exact ⟨r, hslot.trans hr, h₁, by rw [h₂, hstats], h₃, h₄.trans hcount⟩
  -- every other move leaves the stop's place empty
  have kept : c'.machine.life.stopping = c.machine.life.stopping → False := by
    intro hl
    simp [Machine.life, hs, hs'] at hl
  cases mv with
  | task p t =>
    obtain ⟨m, hm, rfl⟩ := Option.map_eq_some_iff.mp h
    exact (kept (congrArg Life.stopping (Machine.act_task_life hm))).elim
  | tick t =>
    simp only [Calls.step, Calls.lift, Machine.act, Option.map_some, Option.some.injEq] at h
    subst h
    exact (kept rfl).elim
  | cancelParent k =>
    simp only [Calls.step, Calls.lift, Machine.act, Option.map_some, Option.some.injEq] at h
    subst h
    exact (kept (congrArg Life.stopping (Machine.cancelToken_life _ _))).elim
  | selfStop =>
    obtain ⟨m, hm, rfl⟩ := Option.map_eq_some_iff.mp h
    obtain ⟨-, ⟨-, hnone⟩ | ⟨r, rest, hr, rfl⟩⟩ := Machine.selfStop?_cases hm
    · simp [hnone] at hs'
    · exact taken { c.machine with world := { c.machine.world with selfStops := rest } } r hr rfl
        rfl rfl rfl
  | completeStop =>
    obtain ⟨m, hm, rfl⟩ := Option.map_eq_some_iff.mp h
    obtain ⟨s₀, hs₀, -⟩ := Machine.completeStop?_cases hm
    simp [hs] at hs₀
  | start a l =>
    obtain ⟨m, hm, rfl⟩ := Option.map_eq_some_iff.mp h
    obtain ⟨-, -, -, rfl⟩ := Machine.act_start hm
    exact (kept rfl).elim
  | stop =>
    obtain ⟨m, hm, rfl⟩ := Option.map_eq_some_iff.mp h
    obtain ⟨r, -, hr, rfl⟩ := Machine.act_stop hm
    exact taken _ r hr rfl rfl rfl rfl
  | disposeStop =>
    simp only [Calls.step] at h
    split at h
    next m hm =>
      cases h
      obtain ⟨r, -, hr, rfl⟩ := Machine.act_stop hm
      exact taken _ r hr rfl rfl rfl rfl
    next =>
      split at h
      · cases h
        exact (kept rfl).elim
      · cases h
  | disposeWrite =>
    simp only [Calls.step] at h
    split at h
    · cases h
    · obtain ⟨m, hm, rfl⟩ := Option.map_eq_some_iff.mp h
      cases hm
      exact (kept rfl).elim

/-- The end of a stop releases the run's processor; the node then shows no address and no
queued units, and the stop reports a timeout exactly when the run's producer, workers and
dispatched units were not all gone. -/
theorem Calls.step_completeStop {c c' : Calls} (hsound : c.machine.life.Sound)
    (h : c.step .completeStop = some c') :
    ∃ s, c.machine.stopping = some s ∧
      c'.machine.world.counters.released = c.machine.world.counters.released + 1 ∧
      c'.machine.localAddr? = none ∧ c'.machine.queueLen = 0 ∧
      (c'.machine.timedOut = false ↔ s.run.quiet = true) := by
  obtain ⟨m, hm, rfl⟩ := Option.map_eq_some_iff.mp h
  obtain ⟨s, hs, hlife, hslot, hstop, hquiet⟩ := Machine.completeStop?_cases hm
  -- no run held the slot while the stop was in progress
  have hslot₀ : c.machine.slot = none := by
    have := hsound.exclusive (by simp [Machine.life, hs])
    simpa [Machine.life] using this
  have hrel := congrArg Life.released hlife
  simp only [Machine.life, Life.endStop] at hrel
  refine ⟨s, hs, hrel, ?_, ?_, hquiet⟩
  · simp [Machine.localAddr?, Machine.current?, hslot, hslot₀, hstop]
  · simp [Machine.queueLen, Machine.current?, hslot, hslot₀, hstop]

/-- A stop that finds no run once it holds the lock reports that nothing was running and
changes nothing more. -/
theorem Machine.stop_of_idle {m : Machine} (h : m.awaitLock.slot = none) :
    m.stop = (m.awaitLock, ⟨false, false⟩) := by
  simp [Machine.stop, h]

/-- A bind fails only with a bind error. -/
theorem Session.bind_error {s : Session} {taken : List SocketAddress} {e : NodeError}
    (h : s.bind taken = .error e) : ∃ a io, e = .bind a io := by
  unfold Session.bind at h
  split at h
  · split at h
    · cases h
      exact ⟨_, _, rfl⟩
    · cases h
  · split at h
    · cases h
      exact ⟨_, _, rfl⟩
    · cases h

/-- A start whose bind fails reports the bind error and leaves the node as it found it once it
held the lock: state, run, address and the count of runs started. -/
theorem Session.startAgainst_bind_error {s s' : Session} {taken : List SocketAddress}
    {linked : Bool} {e : NodeError} (h : s.startAgainst taken linked = .ok (s', .error e)) :
    s'.machine = s.machine.awaitLock ∧ s'.host = s.host ∧ ∃ a io, e = .bind a io := by
  unfold Session.startAgainst at h
  cases hcan : s.machine.awaitLock.canStart with
  | false => simp [hcan] at h
  | true =>
    cases hb : s.bind taken with
    | error e' =>
      simp only [hcan, hb, Bool.not_true, Bool.false_eq_true, if_false, Except.ok.injEq,
        Prod.mk.injEq, Except.error.injEq] at h
      obtain ⟨rfl, rfl⟩ := h
      exact ⟨rfl, rfl, Session.bind_error hb⟩
    | ok b =>
      -- a bind that succeeds launches, or panics
      obtain ⟨a, host⟩ := b
      simp only [hcan, hb, Bool.not_true, Bool.false_eq_true, if_false] at h
      cases hp : s.flavor.startPanic? <;> simp [hp] at h

/-! ## The lifecycle -/

/-- Under any schedule of concurrent owner calls at most one run is running or being stopped,
every run started is released once, disposal is final, and each call does what it should; once
no call is executing, state, run and address agree unless a start ran in a disposal's gap. -/
theorem lifecycle (plan : Plan) (sink : Sink) (pool : Option Pool.BufferPool) (mvs : List Move) :
    let c := (Calls.new plan sink pool).exec mvs
    c.machine.life.Sound ∧
    (c.machine.state = .disposed → ∀ more, (c.exec more).machine.state = .disposed ∧
      (c.exec more).machine.generations = c.machine.generations) ∧
    ((Calls.new plan sink pool).Orderly mvs → c.Quiet → c.machine.Agrees) ∧
    (∀ mv c' s, c.step mv = some c' → c.machine.stopping = none → c'.machine.stopping = some s →
      ∃ r, c.machine.slot = some r ∧
        s.run = { r with cancelled := true, queue := [], closed := true } ∧
        c'.machine.world.stats.dropped = c.machine.world.stats.dropped + r.queue.length ∧
        c'.machine.slot = none ∧ c'.machine.world.counters = c.machine.world.counters) ∧
    (∀ c', c.step .completeStop = some c' → ∃ s, c.machine.stopping = some s ∧
      c'.machine.world.counters.released = c.machine.world.counters.released + 1 ∧
      c'.machine.localAddr? = none ∧ c'.machine.queueLen = 0 ∧
      (c'.machine.timedOut = false ↔ s.run.quiet = true)) ∧
    (∀ m : Machine, m.awaitLock.slot = none → m.stop = (m.awaitLock, ⟨false, false⟩)) ∧
    (∀ (s s' : Session) taken linked e, s.startAgainst taken linked = .ok (s', .error e) →
      s'.machine = s.machine.awaitLock ∧ s'.host = s.host ∧ ∃ a io, e = .bind a io) := by
  intro c
  have hsound : c.machine.life.Sound := Calls.exec_sound (Calls.new_sound plan sink pool) mvs
  refine ⟨hsound, fun hd more => Calls.exec_disposed hd more, fun ho hq => ?_,
    fun mv c' s h hs hs' => Calls.step_takes h hs hs', fun c' h => Calls.step_completeStop hsound h,
    fun m h => Machine.stop_of_idle h, fun s s' taken linked e h => Session.startAgainst_bind_error h⟩
  exact (Calls.exec_inv (Calls.new_inv plan sink pool) ho).agrees hq

/-- A start that takes the lock after a disposal's stop and before its write launches a run,
and the write leaves that run serving under the disposed state: once every call has returned,
the node is disposed, yet a run holds the slot and the node shows its address. -/
theorem start_in_disposal_gap :
    let plan : Plan :=
      { capacity := 1, mode := .wait, workers := 0, dispatch := none, stopMillis := 0,
        classifier := .accept, script := [] }
    let c := (Calls.new plan .none none).exec
      [.start (.loopback 7000) none, .disposeStop, .task .stopping .producer, .completeStop,
        .start (.loopback 7000) none, .disposeWrite]
    c.Quiet ∧ c.machine.state = .disposed ∧ c.machine.slot.isSome = true ∧
      c.machine.localAddr?.isSome = true :=
  ⟨⟨rfl, rfl⟩, rfl, rfl, rfl⟩

end NetNode.Node
