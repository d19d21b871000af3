import NetNode.Proofs.Node.Producer

/-!
# Permits bound the units in flight

A run whose units run as tasks of their own has a pool of permits of the plan's size: a worker
takes a free permit before it spawns a unit, or waits in line for one, and the unit's task gives
the permit back when it ends, at once when processing ends at once or the unit's peer panics
before processing, later otherwise. A run whose units run inline has no permits and spawns
nothing, and each of its workers processes one unit at a time.

The main statement, `dispatch_permits`, says that along every interleaving of a node's tasks and
its owner's calls, every run's free permits and its units in flight add up to the limit, so no
permit is lost or given back twice and at most the limit of units are in flight; and that a run
without a limit dispatches nothing and processes at most one unit per worker.

It rests on one fact per step (`Run.move_tally`): a move keeps a run's tally of permits
(`Run.tally`), its number of workers, and, when units run inline, its dispatched units; and a
move never changes the plan.
-/

namespace NetNode.Node

open NetNode.Pool

/-! ## The tally of a run's permits -/

/-- A run's free permits together with its units in flight, or none when units run inline. -/
def Run.tally (r : Run) : Option Nat := r.permits.map (· + r.dispatched.length)

/-- A step that leaves a run's workers, permits and dispatched units alone. -/
def Run.SameTasks (r r' : Run) : Prop :=
  r'.workers = r.workers ∧ r'.permits = r.permits ∧ r'.dispatched = r.dispatched

theorem Run.SameTasks.tally {r r' : Run} (h : Run.SameTasks r r') : r'.tally = r.tally := by
  obtain ⟨-, hp, hd⟩ := h
  simp only [Run.tally, hp, hd]

/-- A permit given back adds one to the tally. -/
theorem Run.givePermit_tally (r : Run) : r.givePermit.tally = r.tally.map (· + 1) := by
  cases hp : r.permits <;> simp [Run.tally, Run.givePermit, hp, Nat.add_right_comm]

/-! ## What the steps of a run leave alone -/

theorem Run.finish_sameTasks (w : World) (r : Run) (job : Job) :
    Run.SameTasks r (r.finish w job).1 ∧ (r.finish w job).2.plan = w.plan := by
  obtain ⟨rs, fl, -, hf⟩ := Run.finish_frame w r job
  rw [hf]
  exact ⟨⟨rfl, rfl, rfl⟩, rfl⟩

theorem Run.begin_sameTasks (w : World) (r : Run) (item : Item) :
    Run.SameTasks r (r.begin w item).2.1 ∧ (r.begin w item).2.2.plan = w.plan := by
  rcases Run.begin_cases w r item with ⟨-, h⟩ | ⟨-, ⟨j, -, h⟩ | ⟨j, -, h⟩⟩
  · rw [h]
    exact ⟨⟨rfl, rfl, rfl⟩, World.giveBack_plan w item.loan⟩
  · rw [h]
    exact ⟨⟨rfl, rfl, rfl⟩, rfl⟩
  · rw [h]
    exact Run.finish_sameTasks _ _ j

theorem Run.exit_sameTasks (w : World) (r : Run) (e : Ending) :
    Run.SameTasks r (r.exit w e).1 ∧ (r.exit w e).2.plan = w.plan := by
  obtain ⟨h, p, hx⟩ := Run.exit_frame w r e
  rw [hx]
  exact ⟨⟨rfl, rfl, rfl⟩, rfl⟩

theorem Run.enqueue_sameTasks (w : World) (r : Run) (next : Nat) (item : Item) :
    Run.SameTasks r (r.enqueue w next item).1 ∧ (r.enqueue w next item).2.plan = w.plan := by
  unfold Run.enqueue
  split
  · obtain ⟨ht, hp⟩ := Run.exit_sameTasks (w.discard [item]) r (.returned .cancelled)
    exact ⟨ht, hp.trans (World.discard_plan w [item])⟩
  · split
    · exact ⟨⟨rfl, rfl, rfl⟩, rfl⟩
    · split
      · split
        · obtain ⟨ht, hp⟩ := Run.exit_sameTasks (w.discard [_]) { r with queue := _ } .panicked
          exact ⟨ht, hp.trans (World.discard_plan w _)⟩
        · exact ⟨⟨rfl, rfl, rfl⟩, World.discard_plan w _⟩
      · exact ⟨⟨rfl, rfl, rfl⟩, rfl⟩
      · exact ⟨⟨rfl, rfl, rfl⟩, rfl⟩

/-- A request to the source touches neither the workers, nor the permits, nor the dispatched
units, nor the plan. -/
theorem Run.fetch_sameTasks (w : World) (r : Run) (pos : Nat) :
    Run.SameTasks r (r.fetch w pos).1 ∧ (r.fetch w pos).2.plan = w.plan := by
  obtain ⟨h, p, hb⟩ := Run.holdBuffer_frame w r
  unfold Run.fetch
  rw [hb]
  dsimp only
  split
  · exact ⟨⟨rfl, rfl, rfl⟩, rfl⟩
  · exact Run.enqueue_sameTasks _ { r with holding := none } _ _
  · obtain ⟨h', p', hr⟩ := Run.returnBuffer_frame { w with pool := p } { r with holding := h }
    rw [hr]
    dsimp only
    rw [Run.cancelParent_eq]
    dsimp only
    split
    · split <;> exact ⟨⟨rfl, rfl, rfl⟩, rfl⟩
    · exact Run.exit_sameTasks _ _ _
    · exact Run.exit_sameTasks _ _ _
  · exact Run.exit_sameTasks _ _ _
  · exact ⟨⟨rfl, rfl, rfl⟩, rfl⟩
  · exact ⟨⟨rfl, rfl, rfl⟩, rfl⟩

/-- A move of the producer touches neither the workers, nor the permits, nor the dispatched
units, nor the plan. -/
theorem Run.stepProducer_sameTasks {w : World} {r : Run} {x : Run × World}
    (h : r.stepProducer w = some x) : Run.SameTasks r x.1 ∧ x.2.plan = w.plan := by
  rcases Run.stepProducer_cases h with
    ⟨next, item, -, ⟨-, rfl⟩ | ⟨-, -, rfl⟩⟩ | ⟨-, ⟨-, rfl⟩ | ⟨-, pos, ⟨-, rfl⟩ | rfl⟩⟩
  · obtain ⟨ht, hp⟩ := Run.exit_sameTasks (w.discard [item]) r (.returned .cancelled)
    exact ⟨ht, hp.trans (World.discard_plan w [item])⟩
  · exact ⟨⟨rfl, rfl, rfl⟩, rfl⟩
  · exact Run.exit_sameTasks _ _ _
  · exact Run.fetch_sameTasks w r pos
  · exact ⟨⟨rfl, rfl, rfl⟩, rfl⟩

/-! ## Permits taken and given back -/

/-- Spawning a unit under a permit already taken gives one back to the tally: the unit is in
flight, or its permit is free again because it ended at once or its peer panicked. -/
theorem Run.spawn_tally (w : World) (r : Run) (item : Item) :
    (r.spawn w item).1.tally = r.tally.map (· + 1) ∧ (r.spawn w item).1.workers = r.workers ∧
      (r.spawn w item).2.plan = w.plan := by
  obtain ⟨⟨hw, hp, hd⟩, hplan⟩ := Run.begin_sameTasks w r item
  unfold Run.spawn
  split
  next job r' w' heq =>
    rw [heq] at hw hp hd hplan
    dsimp only at hw hp hd hplan
    refine ⟨?_, hw, hplan⟩
    cases hperm : r.permits <;>
      simp [Run.tally, hp, hd, hperm, List.length_append, Nat.add_assoc]
  next heq =>
    rw [heq] at hw hp hd hplan
    dsimp only at hw hp hd hplan
    refine ⟨?_, hw, hplan⟩
    rw [Run.givePermit_tally]
    exact congrArg (Option.map (· + 1)) (Run.SameTasks.tally ⟨hw, hp, hd⟩)

/-- What a move of a task keeps of its run's permits: the tally and the number of workers; a
run whose units run inline gains no dispatched unit; and the plan stays. -/
structure Run.KeepsTally (r : Run) (w : World) (x : Run × World) : Prop where
  tally : x.1.tally = r.tally
  workers : x.1.workers.length = r.workers.length
  inline : r.permits = none → x.1.dispatched.length ≤ r.dispatched.length
  plan : x.2.plan = w.plan

theorem Run.SameTasks.keepsTally {r : Run} {w : World} {x : Run × World}
    (h : Run.SameTasks r x.1) (hplan : x.2.plan = w.plan) : Run.KeepsTally r w x :=
  ⟨h.tally, by rw [h.1], fun _ => by rw [h.2.2], hplan⟩

/-- A worker that takes a free permit and spawns its unit is idle again, and the tally stays. -/
theorem Run.spawn_idle_keepsTally (w : World) (r : Run) (i : Nat) (item : Item) {p : Nat}
    (hperm : r.permits = some (p + 1)) :
    Run.KeepsTally r w
      (let (r', w') := ({ r with permits := some p } : Run).spawn w item
       (r'.setWorker i .idle, w')) := by
  obtain ⟨ht, hw, hplan⟩ := Run.spawn_tally w { r with permits := some p } item
  have hlen : ∀ r' : Run, (r'.setWorker i .idle).workers.length = r'.workers.length := by
    intro r'
    simp [Run.setWorker]
  refine ⟨?_, (hlen _).trans (congrArg List.length hw), fun h => by simp [hperm] at h, hplan⟩
  show (((({ r with permits := some p } : Run).spawn w item).1).setWorker i .idle).tally = r.tally
  have htally : ∀ r' : Run, (r'.setWorker i .idle).tally = r'.tally := fun _ => rfl
  rw [htally, ht]
  simp only [Run.tally, hperm, Option.map_some, Option.some.injEq]
  omega

/-- A worker that took a unit runs it inline, spawns it under a permit it takes, or waits in line
with it: the tally stays. -/
theorem Run.take_keepsTally (w : World) (r : Run) (i : Nat) (item : Item) :
    Run.KeepsTally r w (r.take w i item) := by
  unfold Run.take
  split
  next hperm =>
    -- units run inline: the worker processes the unit itself
    obtain ⟨⟨hw, hp, hd⟩, hplan⟩ := Run.begin_sameTasks w r item
    split
    all_goals
      next heq =>
        rw [heq] at hw hp hd hplan
        dsimp only at hw hp hd hplan
        exact ⟨by simp [Run.tally, Run.setWorker, hp, hd], by simp [Run.setWorker, hw],
          fun _ => by simp [Run.setWorker, hd], hplan⟩
  next p hperm =>
    split
    next =>
      -- the permit taken comes back to the tally through the spawned unit
      exact Run.spawn_idle_keepsTally w r i item hperm
    next => exact ⟨rfl, by simp [Run.setWorker], fun _ => Nat.le_refl _, rfl⟩
  next => exact ⟨rfl, by simp [Run.setWorker], fun _ => Nat.le_refl _, rfl⟩

theorem Run.stepWorker_keepsTally {w : World} {r : Run} {i : Nat} {x : Run × World}
    (h : r.stepWorker w i = some x) : Run.KeepsTally r w x := by
  unfold Run.stepWorker at h
  split at h
  next =>
    split at h
    · cases h
      exact ⟨rfl, by simp [Run.setWorker], fun _ => Nat.le_refl _, rfl⟩
    · split at h
      next item rest _ =>
        cases h
        -- taking the head of the queue leaves the permits as they were
        obtain ⟨ht, hw, hi, hplan⟩ := Run.take_keepsTally w { r with queue := rest } i item
        exact ⟨ht, hw, hi, hplan⟩
      next =>
        split at h <;> cases h
        exact ⟨rfl, by simp [Run.setWorker], fun _ => Nat.le_refl _, rfl⟩
  next job _ =>
    obtain ⟨rs, fl, -, hf⟩ := Run.finish_frame w r job
    rw [hf] at h
    split at h <;> cases h
    exact ⟨rfl, by simp [Run.setWorker], fun _ => Nat.le_refl _, rfl⟩
  next item _ =>
    split at h
    · cases h
      exact ⟨rfl, by simp [Run.setWorker], fun _ => Nat.le_refl _, World.discard_plan w [item]⟩
    · split at h
      next p j rest hperm _ =>
        split at h
        · -- the first free permit is this worker's: it is taken, and the unit spawned
          cases h
          obtain ⟨ht, hw, hi, hplan⟩ :=
            Run.spawn_idle_keepsTally w { r with waiters := rest } i item hperm
          exact ⟨ht, hw, hi, hplan⟩
        · cases h
      · cases h
  next => cases h

/-- A dispatched unit that ends gives its permit back. -/
theorem Run.stepDispatched_keepsTally {w : World} {r : Run} {k : Nat} {x : Run × World}
    (h : r.stepDispatched w k = some x) : Run.KeepsTally r w x := by
  unfold Run.stepDispatched at h
  split at h
  next job hk =>
    have hlt : k < r.dispatched.length := (List.getElem?_eq_some_iff.mp hk).1
    obtain ⟨rs, fl, -, hf⟩ :=
      Run.finish_frame w { r with dispatched := r.dispatched.eraseIdx k } job
    rw [hf] at h
    split at h
    · cases h
      refine ⟨?_, rfl, fun _ => ?_, rfl⟩
      · -- the unit leaves the dispatched units and its permit is free again
        rw [Run.givePermit_tally]
        cases hperm : r.permits with
        | none => simp [Run.tally, hperm]
        | some n =>
          simp only [Run.tally, hperm, Option.map_some, Option.some.injEq,
            List.length_eraseIdx_of_lt hlt]
          omega
      · simp only [Run.givePermit, List.length_eraseIdx_of_lt hlt]
        omega
    · cases h
  next => cases h

/-- Every move of a task keeps its run's tally of permits. -/
theorem Run.move_tally {w : World} {r : Run} {t : Task} {x : Run × World}
    (h : r.move w t = some x) : Run.KeepsTally r w x := by
  cases t with
  | producer =>
    obtain ⟨hs, hplan⟩ := Run.stepProducer_sameTasks h
    exact hs.keepsTally hplan
  | worker i => exact Run.stepWorker_keepsTally h
  | dispatched k => exact Run.stepDispatched_keepsTally h

/-! ## The permits of a node's runs -/

/-- A run's permits under a plan: one worker per worker of the plan; the free permits and the
units in flight add up to the plan's limit, if it has one; a run without a limit dispatches
nothing. -/
structure Run.Permitted (plan : Plan) (r : Run) : Prop where
  workers : r.workers.length = plan.workers
  tally : r.tally = plan.dispatch
  inline : r.permits = none → r.dispatched = []

theorem Run.Permitted.of_sameTasks {plan : Plan} {r r' : Run} (h : r.Permitted plan)
    (hs : Run.SameTasks r r') : r'.Permitted plan := by
  obtain ⟨hw, hp, hd⟩ := hs
  refine ⟨hw ▸ h.workers, (Run.SameTasks.tally ⟨hw, hp, hd⟩).trans h.tally, fun hn => ?_⟩
  rw [hd]
  exact h.inline (hp ▸ hn)

/-- A move of a task keeps its run permitted. -/
theorem Run.Permitted.move {plan : Plan} {r : Run} {w : World} {t : Task} {x : Run × World}
    (h : r.Permitted plan) (hm : r.move w t = some x) : x.1.Permitted plan := by
  have hk := Run.move_tally hm
  refine ⟨hk.workers.trans h.workers, hk.tally.trans h.tally, fun hn => ?_⟩
  -- a run without permits after the move had none before, so it had dispatched nothing
  have hnone : r.permits = none := by
    have ht := hk.tally
    simp only [Run.tally, hn, Option.map_none] at ht
    exact Option.map_eq_none_iff.mp ht.symm
  have hle := hk.inline hnone
  rw [h.inline hnone, List.length_nil] at hle
  exact List.eq_nil_of_length_eq_zero (Nat.le_zero.mp hle)

/-- The permits of a node under a plan: the plan stays, and every run is permitted. -/
structure Machine.Permitted (m : Machine) (plan : Plan) : Prop where
  planned : m.world.plan = plan
  runs : ∀ r ∈ m.runs, r.Permitted plan

/-- A move of the node that starts no run, and leaves the tasks of the runs it keeps alone,
keeps the permits. -/
theorem Machine.Permitted.of_runs {m m' : Machine} {plan : Plan} (h : m.Permitted plan)
    (hplan : m'.world.plan = m.world.plan)
    (hruns : ∀ x ∈ m'.runs, ∃ r ∈ m.runs, Run.SameTasks r x) : m'.Permitted plan := by
  refine ⟨hplan.trans h.planned, fun x hx => ?_⟩
  obtain ⟨r, hr, hs⟩ := hruns x hx
  exact (h.runs r hr).of_sameTasks hs

theorem Run.SameTasks.refl (r : Run) : Run.SameTasks r r := ⟨rfl, rfl, rfl⟩

/-- A stop taking the running run cancels it and drains its queue, and touches no task. -/
theorem Machine.beginStop_permitted {m : Machine} {r : Run} {plan : Plan} (h : m.Permitted plan)
    (hslot : m.slot = some r) : (m.beginStop r).Permitted plan := by
  refine h.of_runs (World.discard_plan m.world r.queue) fun x hx => ?_
  simp only [Machine.runs, Machine.beginStop, Option.toList_none, Option.map_some,
    Option.toList_some, List.nil_append, List.singleton_append, List.mem_cons] at hx
  rcases hx with rfl | hx
  · exact ⟨r, by simp [Machine.runs, hslot], ⟨rfl, rfl, rfl⟩⟩
  · exact ⟨x, by simp [Machine.runs, hx], Run.SameTasks.refl x⟩

/-- A start gives the new run a free permit for each of the plan's, no unit in flight, and one
idle worker for each of the plan's. -/
theorem Machine.launch_permitted {m : Machine} {plan : Plan} (h : m.Permitted plan)
    (hslot : m.slot = none) (bound : NetNode.Address.SocketAddress) (parent : Option Nat) :
    (m.launch bound parent).Permitted plan := by
  refine ⟨h.planned, fun x hx => ?_⟩
  simp only [Machine.runs, Machine.launch, Option.toList_some, List.cons_append, List.nil_append,
    List.mem_cons] at hx
  rcases hx with rfl | hx
  · refine ⟨by simp [h.planned], ?_, fun _ => rfl⟩
    cases hd : m.world.plan.dispatch <;> simp [Run.tally, hd, ← h.planned]
  · exact h.runs x (by simpa [Machine.runs, hslot] using hx)

/-- Every move of a node keeps the permits of its runs. -/
theorem Machine.act_permitted {m m' : Machine} {a : Action} {plan : Plan} (h : m.Permitted plan)
    (hact : m.act a = some m') : m'.Permitted plan := by
  cases a with
  | task p t =>
    obtain ⟨r, ⟨r', w'⟩, hr, hx, rfl⟩ := Machine.act_task hact
    refine ⟨?_, fun x hx' => ?_⟩
    · rw [Machine.put_world, (Run.move_tally hx).plan]
      exact h.planned
    · rcases Machine.mem_put hx' with rfl | hx'
      · exact (h.runs r (Machine.mem_runs hr)).move hx
      · exact h.runs x hx'
  | selfStop =>
    -- the stops asked for are no part of the permits
    obtain ⟨-, g, rest, -, ⟨-, rfl⟩ | ⟨r, hr, -, rfl⟩⟩ := Machine.selfStop?_eq_some hact
    · exact ⟨h.planned, h.runs⟩
    · exact Machine.beginStop_permitted ⟨h.planned, h.runs⟩ hr
  | completeStop =>
    obtain ⟨s, hb, p, hs, -, rfl⟩ := Machine.completeStop?_eq_some hact
    -- the run stopped leaves, or goes on in the background with its producer gone
    refine h.of_runs rfl fun x hx => ?_
    have hmem : s.run ∈ m.runs := by simp [Machine.runs, hs]
    simp only [Machine.runs, Option.map_none, Option.toList_none, List.append_nil,
      List.mem_append] at hx
    rcases hx with hx | hx
    · exact ⟨x, by simp [Machine.runs, hx], Run.SameTasks.refl x⟩
    · split at hx
      · exact ⟨x, by simp [Machine.runs, hx], Run.SameTasks.refl x⟩
      · rcases List.mem_append.mp hx with hx | hx
        · exact ⟨x, by simp [Machine.runs, hx], Run.SameTasks.refl x⟩
        · rw [List.mem_singleton.mp hx]
          exact ⟨s.run, hmem, ⟨rfl, rfl, rfl⟩⟩
  | tick t =>
    cases hact
    exact ⟨h.planned, h.runs⟩
  | start bound parent =>
    obtain ⟨-, hslot, -, rfl⟩ := Machine.act_start hact
    exact Machine.launch_permitted h hslot bound parent
  | stop =>
    obtain ⟨r, -, hr, rfl⟩ := Machine.act_stop hact
    exact Machine.beginStop_permitted h hr
  | dispose =>
    cases hact
    exact ⟨h.planned, h.runs⟩
  | cancelParent k =>
    cases hact
    refine h.of_runs rfl fun x hx => ?_
    rw [Machine.runs_cancelToken, List.mem_map] at hx
    obtain ⟨r, hr, rfl⟩ := hx
    exact ⟨r, hr, ⟨rfl, rfl, rfl⟩⟩
  | drop =>
    obtain ⟨hs, rfl⟩ := Machine.act_drop hact
    cases hslot : m.slot with
    | none => rwa [Machine.orphan_of_empty hslot]
    | some r =>
      obtain ⟨hb, p, ho⟩ := Machine.orphan_of_slot hslot
      rw [ho]
      -- the dropped node's run goes on in the background, cancelled, its producer gone
      refine h.of_runs rfl fun x hx => ?_
      simp only [Machine.runs, hs, Option.map_none, Option.toList_none, List.append_nil,
        List.nil_append, List.mem_append, List.mem_singleton] at hx
      rcases hx with hx | rfl
      · exact ⟨x, by simp [Machine.runs, hx], Run.SameTasks.refl x⟩
      · exact ⟨r, by simp [Machine.runs, hslot], ⟨rfl, rfl, rfl⟩⟩

/-- Every sequence of moves keeps the permits of a node's runs. -/
theorem Machine.exec_permitted {m : Machine} {plan : Plan} (h : m.Permitted plan)
    (as : List Action) : (m.exec as).Permitted plan := by
  induction as generalizing m with
  | nil => exact h
  | cons a as ih =>
    rw [Machine.exec_cons]
    cases hact : m.act a with
    | none => exact ih h
    | some m' => exact ih (Machine.act_permitted h hact)

/-- A worker processes at most one unit inline. -/
theorem Worker.runs_le_one (x : Worker) : x.runs ≤ 1 := by
  cases x <;> simp

/-- Units of a run being processed inline number at most its workers. -/
theorem Run.inline_le (r : Run) : (r.workers.map Worker.runs).sum ≤ r.workers.length := by
  have h := List.sum_le_card_nsmul (r.workers.map Worker.runs) 1 (by
    intro n hn
    obtain ⟨x, -, rfl⟩ := List.mem_map.mp hn
    exact x.runs_le_one)
  simpa using h

/-- Along any interleaving, a run's free permits and its units in flight add up to its limit,
each permit coming back once when its unit's task ends; a run without a limit dispatches
nothing. -/
theorem dispatch_permits (plan : Plan) (sink : Sink) (pool : Option BufferPool)
    (as : List Action) :
    ∀ r ∈ ((Machine.new plan sink pool).exec as).runs,
      (∀ n, plan.dispatch = some n → ∃ p, r.permits = some p ∧ p + r.dispatched.length = n) ∧
      (plan.dispatch = none → r.permits = none ∧ r.dispatched = [] ∧ r.busy ≤ plan.workers) := by
  intro r hr
  have h : ((Machine.new plan sink pool).exec as).Permitted plan :=
    Machine.exec_permitted ⟨rfl, fun _ h => by simp [Machine.runs, Machine.new] at h⟩ as
  have hp := h.runs r hr
  refine ⟨fun n hn => ?_, fun hn => ?_⟩
  · -- the tally is the limit
    have ht := hp.tally
    rw [hn, Run.tally] at ht
    obtain ⟨p, hperm, hsum⟩ := Option.map_eq_some_iff.mp ht
    exact ⟨p, hperm, hsum⟩
  · have hnone : r.permits = none := by
      have ht := hp.tally
      rw [hn, Run.tally] at ht
      exact Option.map_eq_none_iff.mp ht
    have hd := hp.inline hnone
    refine ⟨hnone, hd, ?_⟩
    have hle := r.inline_le
    have hw := hp.workers
    simp only [Run.busy, hd, List.length_nil, Nat.add_zero]
    omega

/-- A node under a limit of two permits whose worker dispatches a stalling unit and one that
waits for cancellation has both units in flight and no permit left. -/
theorem dispatch_permits_of_dispatching_node :
    let plan : Plan :=
      { capacity := 2, mode := .wait, workers := 1, dispatch := some 2, stopMillis := 1000,
        classifier := .accept, script := [.deliver ⟨1, .stall⟩, .deliver ⟨2, .awaitCancel⟩] }
    let as : List Action :=
      [.start default none, .task .running .producer, .task .running (.worker 0),
        .task .running .producer, .task .running (.worker 0)]
    ∃ r ∈ ((Machine.new plan .none).exec as).runs,
      r.dispatched.length = 2 ∧ r.permits = some 0 ∧
      (∀ n, plan.dispatch = some n → ∃ p, r.permits = some p ∧ p + r.dispatched.length = n) ∧
      (plan.dispatch = none → r.permits = none ∧ r.dispatched = [] ∧ r.busy ≤ plan.workers) := by
  intro plan as
  refine ⟨_, List.Mem.head _, ?_, ?_, dispatch_permits plan .none none as _ (List.Mem.head _)⟩
  · decide +kernel
  · decide +kernel

end NetNode.Node
