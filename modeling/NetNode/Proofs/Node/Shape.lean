import NetNode.Proofs.Node.Interleaving

/-!
# The shape of a node's runs

Three facts about where runs stand hold at every moment of every interleaving:
* the run a stop has taken is cancelled and its queue is empty, and so is every run a stop left
  in the background;
* the running run, once its producer has ended, has a stop of its own asked for;
* a cancelled run stays cancelled, and nothing is queued to it again.

Each move of a task keeps a run's generation and lets the stops asked for only grow
(`Run.Stays`); the moves of workers and dispatched units touch only the workers, the permits
and the dispatched units (`Run.Steady`). From these, `Machine.act_wf` shows that every move of
the node keeps the shape, and `Machine.Halted.runs_eq` what is left once no task is running:
background runs whose tasks are gone and whose queues are empty.
-/

namespace NetNode.Node

open NetNode.Pool

/-! ## What the tasks of a run leave alone -/

/-- A step that touches only the workers, the permits, the dispatched units and the counts of a
run: the run keeps its generation, producer, cancellation and queue, and the stops asked for
stay as they were. -/
def Run.Steady (x y : Run × World) : Prop :=
  y.1.generation = x.1.generation ∧ y.1.producer = x.1.producer ∧
    y.1.cancelled = x.1.cancelled ∧ y.1.queue = x.1.queue ∧ y.2.selfStops = x.2.selfStops

theorem Run.spawn_steady (w : World) (r : Run) (item : Item) :
    Run.Steady (r, w) (r.spawn w item) := by
  rcases Run.begin_cases w r item with ⟨-, h⟩ | ⟨-, ⟨j, -, h⟩ | ⟨j, -, h⟩⟩
  · obtain ⟨p, hp⟩ := World.giveBack_frame w item.loan
    simp only [Run.spawn, h, hp]
    exact ⟨rfl, rfl, rfl, rfl, rfl⟩
  · simp only [Run.spawn, h]
    exact ⟨rfl, rfl, rfl, rfl, rfl⟩
  · obtain ⟨rs, fl, -, hf⟩ := Run.finish_frame
      { w with
        stats := { w.stats with active := w.stats.active + 1 }
        counters := { w.counters with started := w.counters.started + 1 } }
      { r with started := r.started + 1 } j
    simp only [Run.spawn, h, hf]
    exact ⟨rfl, rfl, rfl, rfl, rfl⟩

theorem Run.take_steady (w : World) (r : Run) (i : Nat) (item : Item) :
    Run.Steady (r, w) (r.take w i item) := by
  unfold Run.take
  split
  · rcases Run.begin_cases w r item with ⟨-, h⟩ | ⟨-, ⟨j, -, h⟩ | ⟨j, -, h⟩⟩
    · obtain ⟨p, hp⟩ := World.giveBack_frame w item.loan
      simp only [h, hp]
      exact ⟨rfl, rfl, rfl, rfl, rfl⟩
    · simp only [h]
      exact ⟨rfl, rfl, rfl, rfl, rfl⟩
    · obtain ⟨rs, fl, -, hf⟩ := Run.finish_frame
        { w with
          stats := { w.stats with active := w.stats.active + 1 }
          counters := { w.counters with started := w.counters.started + 1 } }
        { r with started := r.started + 1 } j
      simp only [h, hf]
      exact ⟨rfl, rfl, rfl, rfl, rfl⟩
  · split
    · obtain ⟨h1, h2, h3, h4, h5⟩ := Run.spawn_steady w { r with permits := some _ } item
      exact ⟨h1, h2, h3, h4, h5⟩
    · exact ⟨rfl, rfl, rfl, rfl, rfl⟩
  · exact ⟨rfl, rfl, rfl, rfl, rfl⟩

/-- What every move of a task of a run keeps: the run's generation; a cancelled run stays
cancelled with its queue as it is; the stops asked for only grow; and a producer that ends in
the move has asked for a stop of its run. -/
structure Run.Stays (x y : Run × World) : Prop where
  generation : y.1.generation = x.1.generation
  cancelled : x.1.cancelled = true → y.1.cancelled = true ∧ y.1.queue = x.1.queue
  selfStops : ∃ l, y.2.selfStops = x.2.selfStops ++ l
  exit : y.1.producer = .finished → x.1.producer = .finished ∨ x.1.generation ∈ y.2.selfStops

theorem Run.Steady.stays {x y : Run × World} (h : Run.Steady x y) : Run.Stays x y := by
  obtain ⟨hgen, hprod, hcan, hq, hself⟩ := h
  refine ⟨hgen, fun hc => ⟨hcan ▸ hc, hq⟩, ⟨[], by rw [hself, List.append_nil]⟩, ?_⟩
  intro hfin
  exact .inl (hprod ▸ hfin)

/-- The producer's exit asks for a stop of its run. -/
theorem Run.Stays.of_exit {r r₀ : Run} {w w₀ : World} (e : Ending)
    (hgen : r₀.generation = r.generation)
    (hcan : r.cancelled = true → r₀.cancelled = true ∧ r₀.queue = r.queue)
    (hself : w₀.selfStops = w.selfStops) : Run.Stays (r, w) (r₀.exit w₀ e) := by
  obtain ⟨h, p, hx⟩ := Run.exit_frame w₀ r₀ e
  rw [hx]
  refine ⟨hgen, ?_, ⟨[r₀.generation], by rw [hself]⟩, ?_⟩
  · intro hc
    obtain ⟨hc₀, hq⟩ := hcan hc
    exact ⟨by simp [hc₀], hq⟩
  · intro _
    exact .inr (by simp [hgen])

/-- A request to the source of a run that is not cancelled ends its producer only by an exit. -/
theorem Run.fetch_stays (w : World) (r : Run) (pos : Nat) (hc : r.cancelled = false) :
    Run.Stays (r, w) (r.fetch w pos) := by
  have hnc : r.cancelled = true → False := by simp [hc]
  obtain ⟨h, p, hb⟩ := Run.holdBuffer_frame w r
  unfold Run.fetch
  rw [hb]
  dsimp only
  split
  next => exact ⟨rfl, (hnc · |>.elim), ⟨[], by simp⟩, fun h => nomatch h⟩
  next work _ =>
    unfold Run.enqueue
    dsimp only
    split
    · exact Run.Stays.of_exit _ rfl (hnc · |>.elim) (by simp)
    · split
      · exact ⟨rfl, (hnc · |>.elim), ⟨[], by simp⟩, fun h => nomatch h⟩
      · split
        · split
          · exact Run.Stays.of_exit _ rfl (hnc · |>.elim) (by simp)
          · exact ⟨rfl, (hnc · |>.elim), ⟨[], by simp⟩, fun h => nomatch h⟩
        · exact ⟨rfl, (hnc · |>.elim), ⟨[], by simp⟩, fun h => nomatch h⟩
        · exact ⟨rfl, (hnc · |>.elim), ⟨[], by simp⟩, fun h => nomatch h⟩
  next e cancel _ =>
    obtain ⟨h', p', hr⟩ := Run.returnBuffer_frame { w with pool := p } { r with holding := h }
    obtain ⟨c, b, hc⟩ :=
      Run.cancelParent_frame { w with pool := p' } { r with holding := h' } cancel
    rw [hr]
    dsimp only
    rw [hc]
    dsimp only
    split
    · split <;> exact ⟨rfl, (hnc · |>.elim), ⟨[], by simp⟩, fun h => nomatch h⟩
    · exact Run.Stays.of_exit _ rfl (hnc · |>.elim) rfl
    · exact Run.Stays.of_exit _ rfl (hnc · |>.elim) rfl
  next => exact Run.Stays.of_exit _ rfl (hnc · |>.elim) rfl
  next => exact ⟨rfl, (hnc · |>.elim), ⟨[], by simp⟩, fun h => nomatch h⟩
  next => exact ⟨rfl, (hnc · |>.elim), ⟨[], by simp⟩, fun h => nomatch h⟩

/-- A move that ends the producer once its run is cancelled, and is `o` otherwise. -/
theorem Run.guard_cases {w : World} {r : Run} {o : Option (Run × World)} {x : Run × World}
    (h : (if r.cancelled = true then some (r.exit w (.returned .cancelled)) else o) = some x) :
    r.cancelled = true ∧ x = r.exit w (.returned .cancelled) ∨ r.cancelled = false ∧ o = some x := by
  cases hc : r.cancelled with
  | true =>
    rw [hc, if_pos rfl, Option.some.injEq] at h
    exact .inl ⟨rfl, h.symm⟩
  | false =>
    rw [hc, if_neg Bool.false_ne_true] at h
    exact .inr ⟨rfl, h⟩

/-- What a move of the producer can do. A producer pushing a unit drops it and exits once its
run is cancelled or closed, or pushes it into a queue with room. Any other producer exits once
its run is cancelled, and otherwise asks the source, or goes back to asking once its wait is
over. -/
theorem Run.stepProducer_cases {w : World} {r : Run} {x : Run × World}
    (h : r.stepProducer w = some x) :
    (∃ next item, r.producer = .pushing next item ∧
      ((r.cancelled || r.closed) = true ∧ x = r.exit (w.discard [item]) (.returned .cancelled) ∨
        (r.cancelled || r.closed) = false ∧ r.queue.length < w.plan.capacity ∧
          x = ({ r with queue := r.queue ++ [item], producer := .fetch next }, w))) ∨
    ((∀ next item, r.producer ≠ .pushing next item) ∧
      (r.cancelled = true ∧ x = r.exit w (.returned .cancelled) ∨
        r.cancelled = false ∧ ∃ pos, r.producer = .fetch pos ∧ x = r.fetch w pos ∨
          x = ({ r with producer := .fetch pos }, w))) := by
  cases hpr : r.producer with
  | finished => simp [Run.stepProducer, hpr] at h
  | pushing next item =>
    simp only [Run.stepProducer, hpr] at h
    refine .inl ⟨next, item, rfl, ?_⟩
    split at h
    next hc =>
      cases h
      exact .inl ⟨hc, rfl⟩
    next hc =>
      split at h
      next hcap =>
        cases h
        exact .inr ⟨by simpa using hc, hcap, rfl⟩
      next => cases h
  | fetch pos =>
    simp only [Run.stepProducer, hpr] at h
    refine .inr ⟨by simp, ?_⟩
    rcases Run.guard_cases h with hx | ⟨hc, hx⟩
    · exact .inl hx
    · exact .inr ⟨hc, pos, .inl ⟨rfl, (Option.some.inj hx).symm⟩⟩
  | pausing pos t | backingOff pos t | gated pos _ _ _ =>
    simp only [Run.stepProducer, hpr] at h
    refine .inr ⟨by simp, ?_⟩
    rcases Run.guard_cases h with hx | ⟨hc, hx⟩
    · exact .inl hx
    · split at hx
      · exact .inr ⟨hc, pos, .inr (Option.some.inj hx).symm⟩
      · cases hx
  | parked =>
    simp only [Run.stepProducer, hpr] at h
    refine .inr ⟨by simp, ?_⟩
    rcases Run.guard_cases h with hx | ⟨-, hx⟩
    · exact .inl hx
    · cases hx

theorem Run.stepProducer_stays {w : World} {r : Run} {x : Run × World}
    (h : r.stepProducer w = some x) : Run.Stays (r, w) x := by
  rcases Run.stepProducer_cases h with
    ⟨next, item, -, ⟨-, rfl⟩ | ⟨hc, -, rfl⟩⟩ | ⟨-, ⟨-, rfl⟩ | ⟨hc, pos, ⟨-, rfl⟩ | rfl⟩⟩
  · exact Run.Stays.of_exit _ rfl (fun hc => ⟨hc, rfl⟩) (by simp)
  · exact ⟨rfl, fun hc' => absurd hc' (by simp_all), ⟨[], by simp⟩, fun h => nomatch h⟩
  · exact Run.Stays.of_exit _ rfl (fun hc => ⟨hc, rfl⟩) rfl
  · exact Run.fetch_stays w r pos hc
  · exact ⟨rfl, fun hc' => absurd hc' (by simp [hc]), ⟨[], by simp⟩, fun h => nomatch h⟩

theorem Run.stepWorker_stays {w : World} {r : Run} {i : Nat} {x : Run × World}
    (h : r.stepWorker w i = some x) : Run.Stays (r, w) x := by
  unfold Run.stepWorker at h
  split at h
  next =>
    split at h
    · cases h
      exact Run.Steady.stays ⟨rfl, rfl, rfl, rfl, rfl⟩
    next hc =>
      split at h
      next item rest hq =>
        cases h
        obtain ⟨hgen, hprod, hcan, -, hself⟩ := Run.take_steady w { r with queue := rest } i item
        exact ⟨hgen, fun hc' => absurd hc' hc, ⟨[], by rw [hself, List.append_nil]⟩,
          fun hfin => .inl (hprod ▸ hfin)⟩
      next =>
        split at h <;> cases h
        exact Run.Steady.stays ⟨rfl, rfl, rfl, rfl, rfl⟩
  next job _ =>
    obtain ⟨rs, fl, -, hf⟩ := Run.finish_frame w r job
    rw [hf] at h
    split at h <;> cases h
    exact Run.Steady.stays ⟨rfl, rfl, rfl, rfl, rfl⟩
  next item _ =>
    split at h
    · cases h
      exact Run.Steady.stays ⟨rfl, rfl, rfl, rfl, by simp⟩
    · split at h
      · split at h
        · cases h
          exact Run.Steady.stays
            (Run.spawn_steady w { r with permits := some _, waiters := _ } item)
        · cases h
      · cases h
  next => cases h

theorem Run.stepDispatched_stays {w : World} {r : Run} {k : Nat} {x : Run × World}
    (h : r.stepDispatched w k = some x) : Run.Stays (r, w) x := by
  unfold Run.stepDispatched at h
  split at h
  next job _ =>
    obtain ⟨rs, fl, -, hf⟩ :=
      Run.finish_frame w { r with dispatched := r.dispatched.eraseIdx k } job
    rw [hf] at h
    split at h <;> cases h
    exact Run.Steady.stays ⟨rfl, rfl, rfl, rfl, rfl⟩
  next => cases h

theorem Run.move_stays {w : World} {r : Run} {t : Task} {x : Run × World}
    (h : r.move w t = some x) : Run.Stays (r, w) x := by
  cases t with
  | producer => exact Run.stepProducer_stays h
  | worker i => exact Run.stepWorker_stays h
  | dispatched k => exact Run.stepDispatched_stays h

/-! ## The shape of a node's runs -/

/-- The runs a stop has taken are cancelled and their queues are empty, and the running run,
once its producer has ended, has a stop of its own asked for. -/
structure Machine.Wf (m : Machine) : Prop where
  stopping : ∀ s, m.stopping = some s → s.run.cancelled = true ∧ s.run.queue = []
  background : ∀ r ∈ m.background, r.cancelled = true ∧ r.queue = []
  slot : ∀ r, m.slot = some r → r.producer = .finished → r.generation ∈ m.world.selfStops

theorem Machine.new_wf (plan : Plan) (sink : Sink) (pool : Option BufferPool) :
    (Machine.new plan sink pool).Wf :=
  ⟨fun _ h => (by cases h), fun _ h => (by cases h), fun _ h => (by cases h)⟩

/-- A stop taking the running run keeps the shape. -/
theorem Machine.beginStop_wf {m : Machine} {r : Run}
    (hbg : ∀ r ∈ m.background, r.cancelled = true ∧ r.queue = []) : (m.beginStop r).Wf := by
  refine ⟨?_, hbg, fun _ h => nomatch h⟩
  intro s h
  simp only [Machine.beginStop, Option.some.injEq] at h
  subst h
  exact ⟨rfl, rfl⟩

/-- A move of a task keeps the shape. -/
theorem Machine.put_wf {m : Machine} {p : Place} {r r' : Run} {w' : World} (hwf : m.Wf)
    (hr : m.runAt p = some r) (hs : Run.Stays (r, m.world) (r', w')) : (m.put r' w' p).Wf := by
  obtain ⟨hgen, hcan, ⟨l, hself⟩, hexit⟩ := hs
  dsimp only at hgen hcan hself hexit
  -- stops asked for are never taken back by a move
  have hmem : ∀ g ∈ m.world.selfStops, g ∈ w'.selfStops := fun g hg => by
    rw [hself]; exact List.mem_append_left _ hg
  cases p with
  | running =>
    simp only [Machine.runAt] at hr
    refine ⟨hwf.stopping, hwf.background, ?_⟩
    intro r₁ h hfin
    simp only [Machine.put, Option.some.injEq] at h
    subst h
    rcases hexit hfin with hfin' | hg
    · exact hgen ▸ hmem _ (hwf.slot r hr hfin')
    · exact hgen ▸ hg
  | stopping =>
    obtain ⟨s, hs, rfl⟩ := Option.map_eq_some_iff.mp hr
    refine ⟨?_, hwf.background, fun r₁ h hfin => hmem _ (hwf.slot r₁ h hfin)⟩
    intro s₁ h
    simp only [Machine.put, hs, Option.map_some, Option.some.injEq] at h
    subst h
    obtain ⟨hc, hq⟩ := hwf.stopping s hs
    obtain ⟨hc', hq'⟩ := hcan hc
    exact ⟨hc', hq'.trans hq⟩
  | background i =>
    refine ⟨hwf.stopping, ?_, fun r₁ h hfin => hmem _ (hwf.slot r₁ h hfin)⟩
    intro r₁ h
    simp only [Machine.put] at h
    rcases List.mem_or_eq_of_mem_set h with h | rfl
    · exact hwf.background r₁ h
    · obtain ⟨hc, hq⟩ := hwf.background r (List.mem_of_getElem? hr)
      obtain ⟨hc', hq'⟩ := hcan hc
      exact ⟨hc', hq'.trans hq⟩

/-- Every move of a node keeps the shape of its runs. -/
theorem Machine.act_wf {m m' : Machine} {a : Action} (hwf : m.Wf) (h : m.act a = some m') :
    m'.Wf := by
  cases a with
  | task p t =>
    obtain ⟨r, ⟨r', w'⟩, hr, hx, rfl⟩ := Machine.act_task h
    exact Machine.put_wf hwf hr (Run.move_stays hx)
  | selfStop =>
    obtain ⟨-, g, rest, hq, ⟨hg, rfl⟩ | ⟨r, -, -, rfl⟩⟩ := Machine.selfStop?_eq_some h
    · refine ⟨hwf.stopping, hwf.background, fun r' h' hfin => ?_⟩
      -- the stop asked for was another run's, so this run's own is still to come
      have hmem := hwf.slot r' h' hfin
      rw [hq] at hmem
      exact (List.mem_cons.mp hmem).resolve_left (hg r' h')
    · exact Machine.beginStop_wf hwf.background
  | completeStop =>
    obtain ⟨s, hb, p, hs, -, rfl⟩ := Machine.completeStop?_eq_some h
    obtain ⟨hc, hq⟩ := hwf.stopping s hs
    refine ⟨(fun _ h => by cases h), ?_, hwf.slot⟩
    intro r hmem
    split at hmem
    · exact hwf.background r hmem
    · rcases List.mem_append.mp hmem with hmem | hmem
      · exact hwf.background r hmem
      · rw [List.mem_singleton.mp hmem]
        exact ⟨hc, hq⟩
  | tick t =>
    cases h
    exact ⟨hwf.stopping, hwf.background, hwf.slot⟩
  | start bound parent =>
    obtain ⟨-, -, -, rfl⟩ := Machine.act_start h
    refine ⟨hwf.stopping, hwf.background, fun r h' hfin => ?_⟩
    simp only [Machine.launch, Option.some.injEq] at h'
    subst h'
    cases hfin
  | stop =>
    obtain ⟨r, -, -, rfl⟩ := Machine.act_stop h
    exact Machine.beginStop_wf hwf.background
  | dispose =>
    cases h
    exact ⟨hwf.stopping, hwf.background, hwf.slot⟩
  | cancelParent k =>
    cases h
    refine ⟨?_, ?_, ?_⟩
    · intro s h'
      simp only [Machine.cancelToken, Option.map_eq_some_iff] at h'
      obtain ⟨s₀, hs₀, rfl⟩ := h'
      obtain ⟨hc, hq⟩ := hwf.stopping s₀ hs₀
      exact ⟨by simp [Run.cancelUnder, hc], hq⟩
    · intro r hmem
      simp only [Machine.cancelToken, List.mem_map] at hmem
      obtain ⟨r₀, hr₀, rfl⟩ := hmem
      obtain ⟨hc, hq⟩ := hwf.background r₀ hr₀
      exact ⟨by simp [Run.cancelUnder, hc], hq⟩
    · intro r h' hfin
      simp only [Machine.cancelToken, Option.map_eq_some_iff] at h'
      obtain ⟨r₀, hr₀, rfl⟩ := h'
      exact hwf.slot r₀ hr₀ hfin
  | drop =>
    obtain ⟨-, rfl⟩ := Machine.act_drop h
    cases hslot : m.slot with
    | none => rwa [Machine.orphan_of_empty hslot]
    | some r =>
      obtain ⟨hb, p, ho⟩ := Machine.orphan_of_slot hslot
      rw [ho]
      refine ⟨hwf.stopping, ?_, fun _ h => by cases h⟩
      intro r' hmem
      rcases List.mem_append.mp hmem with hmem | hmem
      · exact hwf.background r' hmem
      · rw [List.mem_singleton.mp hmem]
        exact ⟨rfl, rfl⟩

/-- Every sequence of moves keeps the shape of a node's runs. -/
theorem Machine.exec_wf {m : Machine} (hwf : m.Wf) (as : List Action) : (m.exec as).Wf := by
  induction as generalizing m with
  | nil => exact hwf
  | cons a as ih =>
    rw [Machine.exec_cons]
    cases h : m.act a with
    | none => exact ih hwf
    | some m' => exact ih (Machine.act_wf hwf h)

/-- No task of the node is running: no stop is in progress or asked for, and every run's
producer, workers and dispatched units are gone. -/
def Machine.Halted (m : Machine) : Prop :=
  m.stopping = none ∧ m.world.selfStops = [] ∧ ∀ r ∈ m.runs, r.quiet = true

/-- Once no task of a node is running, no run is in the slot: the running run would have asked
for its own stop. The runs left are background runs whose tasks are gone and whose queues are
empty. -/
theorem Machine.Halted.runs_eq {m : Machine} (hwf : m.Wf) (h : m.Halted) :
    m.runs = m.background ∧ ∀ r ∈ m.background, r.quiet = true ∧ r.queue = [] := by
  obtain ⟨hs, hself, hquiet⟩ := h
  have hslot : m.slot = none := by
    cases hr : m.slot with
    | none => rfl
    | some r =>
      have hq : r.quiet = true := hquiet r (by simp [Machine.runs, hr])
      simp only [Run.quiet, Bool.and_eq_true, beq_iff_eq] at hq
      have hmem := hwf.slot r hr hq.1.1
      rw [hself] at hmem
      cases hmem
  have hruns : m.runs = m.background := by simp [Machine.runs, hslot, hs]
  refine ⟨hruns, fun r hr => ⟨hquiet r (hruns ▸ hr), (hwf.background r hr).2⟩⟩

end NetNode.Node
