import NetNode.Proofs.Node.Permits

/-!
# The pace of a run's producer

A run's producer takes a unit from the source only when it holds none: it pushes the unit into
the queue, or, in `wait` mode with the queue full, waits with it until there is room, the queue
closes or the run is cancelled, and asks the source again only after that. So in `wait` mode a
queue never holds more than its capacity, and in `dropOldest` mode a producer never waits with a
unit.

`Run.Paced` says so of one run, and `Machine.act_paced` shows that every move of a node keeps it
for all its runs. The owner's calls, the producers' requests for a stop and time passing reshape
a node's runs in one of five ways (`Machine.Reshapes`); invariants over the runs are kept one
way at a time.
-/

namespace NetNode.Node

open NetNode.Pool NetNode.Queue

/-! ## A run's queue and producer -/

/-- How far a run's producer runs ahead under a plan: in `wait` mode the queue holds at most the
capacity; in `dropOldest` mode the producer never waits with a unit. -/
structure Run.Paced (plan : Plan) (r : Run) : Prop where
  queue : plan.mode = .wait → r.queue.length ≤ plan.capacity
  evicts : plan.mode = .dropOldest → r.producer.holds = 0

/-- A run whose queue did not grow and whose producer holds no unit keeps its pace. -/
theorem Run.Paced.of_shrink {plan : Plan} {r r' : Run} (h : r.Paced plan)
    (hq : r'.queue.length ≤ r.queue.length) (hp : r'.producer.holds = 0) : r'.Paced plan :=
  ⟨fun hw => Nat.le_trans hq (h.queue hw), fun _ => hp⟩

/-- A run whose queue and producer did not change keeps its pace. -/
theorem Run.Paced.of_same {plan : Plan} {r r' : Run} (h : r.Paced plan)
    (hq : r'.queue.length ≤ r.queue.length) (hp : r'.producer = r.producer) : r'.Paced plan :=
  ⟨fun hw => Nat.le_trans hq (h.queue hw), fun hd => hp ▸ h.evicts hd⟩

/-- A producer that ends holds no unit. -/
theorem Run.exit_holds (w : World) (r : Run) (e : Ending) : (r.exit w e).1.producer.holds = 0 := by
  rw [Run.exit_producer, Producer.holds_finished]

/-- A unit offered to the queue is pushed only into room, and waited with only in `wait` mode. -/
theorem Run.enqueue_paced (w : World) (r : Run) (next : Nat) (item : Item) (h : r.Paced w.plan) :
    (r.enqueue w next item).1.Paced w.plan := by
  unfold Run.enqueue
  split
  · -- a closed queue refuses the unit, and the producer ends
    exact h.of_shrink (by rw [Run.exit_queue]) (Run.exit_holds _ _ _)
  · split
    next hroom =>
      refine ⟨fun _ => ?_, fun _ => rfl⟩
      simp only [List.length_append, List.length_singleton]
      omega
    next =>
      split
      next old rest hmode _ =>
        -- a full queue in `dropOldest` mode: no bound on the queue to keep
        have hwait : w.plan.mode ≠ .wait := by rw [hmode]; simp
        split
        · exact ⟨fun hw => absurd hw hwait, fun _ => Run.exit_holds _ _ _⟩
        · exact ⟨fun hw => absurd hw hwait, fun _ => rfl⟩
      next hmode _ =>
        have hwait : w.plan.mode ≠ .wait := by rw [hmode]; simp
        exact ⟨fun hw => absurd hw hwait, fun _ => rfl⟩
      next hmode =>
        -- a full queue in `wait` mode: the producer waits with the unit
        refine ⟨fun hw => h.queue hw, fun hd => ?_⟩
        rw [hmode] at hd
        cases hd

/-- A request to the source keeps the pace of a producer that held no unit. -/
theorem Run.fetch_paced (w : World) (r : Run) (pos : Nat) (h : r.Paced w.plan) :
    (r.fetch w pos).1.Paced w.plan := by
  obtain ⟨hb, p, hbuf⟩ := Run.holdBuffer_frame w r
  unfold Run.fetch
  rw [hbuf]
  dsimp only
  split
  · exact h.of_shrink (Nat.le_refl _) rfl
  · exact Run.enqueue_paced { w with pool := p, stats := _ } { r with holding := none } _ _
      ⟨h.queue, h.evicts⟩
  · obtain ⟨h', p', hr⟩ := Run.returnBuffer_frame { w with pool := p } { r with holding := hb }
    rw [hr]
    dsimp only
    rw [Run.cancelParent_eq]
    dsimp only
    split
    · split <;> exact h.of_shrink (Nat.le_refl _) rfl
    · exact h.of_shrink (by rw [Run.exit_queue]) (Run.exit_holds _ _ _)
    · exact h.of_shrink (by rw [Run.exit_queue]) (Run.exit_holds _ _ _)
  · exact h.of_shrink (by rw [Run.exit_queue]) (Run.exit_holds _ _ _)
  · exact h.of_shrink (Nat.le_refl _) rfl
  · exact h.of_shrink (Nat.le_refl _) rfl

/-- A move of the producer keeps its run's pace. -/
theorem Run.stepProducer_paced {w : World} {r : Run} {x : Run × World}
    (hs : r.stepProducer w = some x) (h : r.Paced w.plan) : x.1.Paced w.plan := by
  rcases Run.stepProducer_cases hs with
    ⟨next, item, -, ⟨-, rfl⟩ | ⟨-, hroom, rfl⟩⟩ | ⟨-, ⟨-, rfl⟩ | ⟨-, pos, ⟨-, rfl⟩ | rfl⟩⟩
  · exact h.of_shrink (by rw [Run.exit_queue]) (Run.exit_holds _ _ _)
  · -- the unit waited with goes into the room that opened
    refine ⟨fun _ => ?_, fun _ => rfl⟩
    simp only [List.length_append, List.length_singleton]
    omega
  · exact h.of_shrink (by rw [Run.exit_queue]) (Run.exit_holds _ _ _)
  · exact Run.fetch_paced w r pos h
  · exact h.of_shrink (Nat.le_refl _) rfl

/-- A worker's move takes at most the head of the queue. -/
theorem Run.stepWorker_queue {w : World} {r : Run} {i : Nat} {x : Run × World}
    (h : r.stepWorker w i = some x) : x.1.queue.length ≤ r.queue.length := by
  unfold Run.stepWorker at h
  split at h
  next =>
    split at h
    · cases h
      exact Nat.le_refl _
    · split at h
      next item rest hq =>
        cases h
        obtain ⟨-, -, -, hq', -⟩ := Run.take_steady w { r with queue := rest } i item
        rw [hq', hq, List.length_cons]
        exact Nat.le_succ _
      next =>
        split at h <;> cases h
        exact Nat.le_refl _
  next job _ =>
    obtain ⟨rs, fl, -, hf⟩ := Run.finish_frame w r job
    rw [hf] at h
    split at h <;> cases h
    exact Nat.le_refl _
  next item _ =>
    split at h
    · cases h
      exact Nat.le_refl _
    · split at h
      next p j rest _ _ =>
        split at h
        · cases h
          obtain ⟨-, -, -, hq', -⟩ :=
            Run.spawn_steady w { r with permits := some p, waiters := rest } item
          exact Nat.le_of_eq (congrArg List.length hq')
        · cases h
      · cases h
  next => cases h

/-- A dispatched unit's end leaves the queue alone. -/
theorem Run.stepDispatched_queue {w : World} {r : Run} {k : Nat} {x : Run × World}
    (h : r.stepDispatched w k = some x) : x.1.queue = r.queue := by
  unfold Run.stepDispatched at h
  split at h
  next job _ =>
    obtain ⟨rs, fl, -, hf⟩ :=
      Run.finish_frame w { r with dispatched := r.dispatched.eraseIdx k } job
    rw [hf] at h
    split at h <;> cases h
    rfl
  next => cases h

/-- A move of a worker or a dispatched unit leaves the producer where it is and the queue no
longer than it was. -/
theorem Run.move_queue_of_ne {w : World} {r : Run} {t : Task} {x : Run × World}
    (h : r.move w t = some x) (ht : t ≠ .producer) :
    x.1.queue.length ≤ r.queue.length ∧ x.1.producer = r.producer := by
  cases t with
  | producer => exact absurd rfl ht
  | worker i => exact ⟨Run.stepWorker_queue h, (Run.stepWorker_leavesProducer h).1⟩
  | dispatched k =>
    exact ⟨Nat.le_of_eq (congrArg List.length (Run.stepDispatched_queue h)),
      (Run.stepDispatched_leavesProducer h).1⟩

/-- Every move of a task keeps its run's pace. -/
theorem Run.move_paced {w : World} {r : Run} {t : Task} {x : Run × World}
    (hm : r.move w t = some x) (h : r.Paced w.plan) : x.1.Paced w.plan := by
  cases t with
  | producer => exact Run.stepProducer_paced hm h
  | worker i =>
    obtain ⟨hq, hp⟩ := Run.move_queue_of_ne (t := .worker i) hm (by simp)
    exact h.of_same hq hp
  | dispatched k =>
    obtain ⟨hq, hp⟩ := Run.move_queue_of_ne (t := .dispatched k) hm (by simp)
    exact h.of_same hq hp

/-! ## How the owner's calls move runs -/

/-- A stop takes the running run: it is cancelled, its queue drained and closed, and it moves to
the stop's place. -/
theorem Machine.runs_beginStop {m : Machine} {r : Run} (hslot : m.slot = some r)
    (hs : m.stopping = none) :
    m.runs = r :: m.background ∧
      (m.beginStop r).runs = { r with cancelled := true, queue := [], closed := true } ::
        m.background := by
  constructor
  · simp [Machine.runs, hslot, hs]
  · simp [Machine.runs, Machine.beginStop]

/-- The end of a stop aborts the producer of the run stopped, which leaves or goes on in the
background. -/
theorem Machine.runs_completeStop {m m' : Machine} (hsep : m.Separate)
    (h : m.completeStop? = some m') :
    ∃ s holding, m.stopping = some s ∧ m.runs = s.run :: m.background ∧
      m'.runs = m.background ++
        (if s.run.quiet then [] else [{ s.run with producer := .finished, holding }]) ∧
      m'.generations = m.generations := by
  obtain ⟨s, hb, p, hs, -, rfl⟩ := Machine.completeStop?_eq_some h
  have hslot : m.slot = none := hsep.single (by simp [hs])
  refine ⟨s, hb, hs, by simp [Machine.runs, hslot, hs], ?_, rfl⟩
  split <;> simp [Machine.runs, hslot]

/-- The owner drops a node while it runs: the running run is cancelled, its queue drained, its
producer aborted, and it goes on in the background. -/
theorem Machine.runs_orphan {m : Machine} {r : Run} (hslot : m.slot = some r)
    (hs : m.stopping = none) :
    ∃ holding, m.runs = r :: m.background ∧
      m.orphan.runs = m.background ++
        [{ r with
            cancelled := true, queue := [], closed := true, producer := .finished, holding }] ∧
      m.orphan.generations = m.generations := by
  obtain ⟨hb, p, ho⟩ := Machine.orphan_of_slot hslot
  refine ⟨hb, by simp [Machine.runs, hslot, hs], ?_, ?_⟩
  · rw [ho]
    simp [Machine.runs, hs]
  · rw [ho]

/-- A start puts a new run of the next generation in the slot, with an empty queue and its
producer about to ask the source. -/
theorem Machine.runs_launch {m : Machine} (hslot : m.slot = none) (hs : m.stopping = none)
    (bound : NetNode.Address.SocketAddress) (parent : Option Nat) :
    ∃ r, m.runs = m.background ∧ (m.launch bound parent).runs = r :: m.background ∧
      r.generation = m.generations ∧ r.queue = [] ∧ r.producer = .fetch 0 ∧
      (m.launch bound parent).generations = m.generations + 1 := by
  refine ⟨{ generation := m.generations, localAddr := bound, parent,
            cancelled := parent.any m.world.cancelledTokens.contains,
            workers := List.replicate m.world.plan.workers .idle,
            permits := m.world.plan.dispatch },
    by simp [Machine.runs, hslot, hs], by simp [Machine.runs, Machine.launch, hs], rfl, rfl, rfl,
    rfl⟩

/-- How a move that is not a task's leaves a node's runs. -/
inductive Machine.Reshapes (m m' : Machine) : Prop where
  /-- The runs stay as they are. -/
  | keep (runs : m'.runs = m.runs) (gens : m'.generations = m.generations)
  /-- A stop takes the running run: it is cancelled, its queue drained and closed. -/
  | stop (r : Run) (runs : m.runs = r :: m.background)
      (runs' : m'.runs = { r with cancelled := true, queue := [], closed := true } :: m.background)
      (gens : m'.generations = m.generations)
  /-- The producer of the first run is aborted, and the run leaves or goes on in the background
  with its queue empty. -/
  | abort (x : Run) (xs : List Run) (runs : m.runs = x :: m.background)
      (runs' : m'.runs = m.background ++ xs) (gens : m'.generations = m.generations)
      (ended : ∀ y ∈ xs, y.generation = x.generation ∧ y.producer = .finished ∧ y.queue = [])
  /-- A start adds a run of the next generation with an empty queue and a fresh producer. -/
  | start (r : Run) (runs : m.runs = m.background) (runs' : m'.runs = r :: m.background)
      (gen : r.generation = m.generations) (queue : r.queue = []) (producer : r.producer = .fetch 0)
      (gens : m'.generations = m.generations + 1)
  /-- A parent token's cancellation reaches the runs started under it. -/
  | cancel (k : Nat) (runs' : m'.runs = m.runs.map (Run.cancelUnder k))
      (gens : m'.generations = m.generations)

/-- The owner's calls, the producers' requests for a stop and time passing reshape the runs in
one of five ways. -/
theorem Machine.act_reshapes {m m' : Machine} {a : Action} (hsep : m.Separate) (hwf : m.Wf)
    (hact : m.act a = some m') (ha : ∀ p t, a ≠ .task p t) : m.Reshapes m' := by
  cases a with
  | task p t => exact absurd rfl (ha p t)
  | selfStop =>
    obtain ⟨hs, g, rest, -, ⟨-, rfl⟩ | ⟨r, hr, -, rfl⟩⟩ := Machine.selfStop?_eq_some hact
    · exact .keep rfl rfl
    · -- the stop asked for takes the running run, once the request is taken off the list
      obtain ⟨-, hruns'⟩ := Machine.runs_beginStop
        (m := { m with world := { m.world with selfStops := rest } }) hr hs
      exact .stop r (Machine.runs_beginStop hr hs).1 hruns' rfl
  | completeStop =>
    obtain ⟨s, hb, hs, hruns, hruns', hgens⟩ := Machine.runs_completeStop hsep hact
    refine .abort s.run _ hruns hruns' hgens fun y hy => ?_
    split at hy
    · cases hy
    · rw [List.mem_singleton.mp hy]
      exact ⟨rfl, rfl, (hwf.stopping s hs).2⟩
  | tick t =>
    cases hact
    exact .keep rfl rfl
  | start bound parent =>
    obtain ⟨-, hslot, hs, rfl⟩ := Machine.act_start hact
    obtain ⟨r, hruns, hruns', hgen, hq, hp, hgens⟩ := Machine.runs_launch hslot hs bound parent
    exact .start r hruns hruns' hgen hq hp hgens
  | stop =>
    obtain ⟨r, hs, hr, rfl⟩ := Machine.act_stop hact
    obtain ⟨hruns, hruns'⟩ := Machine.runs_beginStop hr hs
    exact .stop r hruns hruns' rfl
  | dispose =>
    cases hact
    exact .keep rfl rfl
  | cancelParent k =>
    cases hact
    exact .cancel k (Machine.runs_cancelToken m k) rfl
  | drop =>
    obtain ⟨hs, rfl⟩ := Machine.act_drop hact
    cases hslot : m.slot with
    | none =>
      rw [Machine.orphan_of_empty hslot]
      exact .keep rfl rfl
    | some r =>
      obtain ⟨hb, hruns, hruns', hgens⟩ := Machine.runs_orphan hslot hs
      refine .abort r _ hruns hruns' hgens fun y hy => ?_
      rw [List.mem_singleton.mp hy]
      exact ⟨rfl, rfl, rfl⟩

/-! ## The pace of a node's runs -/

/-- The pace of a node under a plan: the permits are kept and every run keeps its pace. -/
structure Machine.Paced (m : Machine) (plan : Plan) : Prop where
  permitted : m.Permitted plan
  runs : ∀ r ∈ m.runs, r.Paced plan

/-- A move of the node whose runs each come from a run whose queue was no shorter and whose
producer was the same, or are runs whose producer holds nothing, keeps the pace. -/
theorem Machine.Paced.of_runs {m m' : Machine} {plan : Plan} (h : m.Paced plan)
    (hperm : m'.Permitted plan)
    (hruns : ∀ x ∈ m'.runs, ∃ r ∈ m.runs, x.queue.length ≤ r.queue.length ∧
      (x.producer = r.producer ∨ x.producer.holds = 0)) : m'.Paced plan := by
  refine ⟨hperm, fun x hx => ?_⟩
  obtain ⟨r, hr, hq, hp | hp⟩ := hruns x hx
  · exact (h.runs r hr).of_same hq hp
  · exact (h.runs r hr).of_shrink hq hp

/-- Reshaping the runs keeps their pace: a queue is only drained, a producer only aborted, and
a new run starts empty-handed with an empty queue. -/
theorem Machine.Reshapes.paced {m m' : Machine} {plan : Plan} (hr : m.Reshapes m')
    (h : m.Paced plan) (hperm : m'.Permitted plan) : m'.Paced plan := by
  cases hr with
  | keep runs _ => exact h.of_runs hperm fun x hx => ⟨x, runs ▸ hx, Nat.le_refl _, .inl rfl⟩
  | stop r runs runs' _ =>
    refine h.of_runs hperm fun x hx => ?_
    rw [runs', List.mem_cons] at hx
    rcases hx with rfl | hx
    · exact ⟨r, by simp [runs], by simp, .inl rfl⟩
    · exact ⟨x, by simp [runs, hx], Nat.le_refl _, .inl rfl⟩
  | abort x xs runs runs' _ ended =>
    refine h.of_runs hperm fun y hy => ?_
    rw [runs', List.mem_append] at hy
    rcases hy with hy | hy
    · exact ⟨y, by simp [runs, hy], Nat.le_refl _, .inl rfl⟩
    · obtain ⟨-, hfin, hq⟩ := ended y hy
      exact ⟨x, by simp [runs], by simp [hq], .inr (by rw [hfin, Producer.holds_finished])⟩
  | start r runs runs' _ hq hp _ =>
    refine ⟨hperm, fun x hx => ?_⟩
    rw [runs', List.mem_cons] at hx
    rcases hx with rfl | hx
    · exact ⟨fun _ => by simp [hq], fun _ => by rw [hp]; rfl⟩
    · exact h.runs x (by rw [runs]; exact hx)
  | cancel k runs' _ =>
    refine h.of_runs hperm fun x hx => ?_
    rw [runs', List.mem_map] at hx
    obtain ⟨r, hr, rfl⟩ := hx
    exact ⟨r, hr, Nat.le_refl _, .inl rfl⟩

/-- Every move of a node keeps the pace of its runs. -/
theorem Machine.act_paced {m m' : Machine} {a : Action} {plan : Plan} (hsep : m.Separate)
    (hwf : m.Wf) (h : m.Paced plan) (hact : m.act a = some m') : m'.Paced plan := by
  have hperm := Machine.act_permitted h.permitted hact
  cases a with
  | task p t =>
    obtain ⟨r, ⟨r', w'⟩, hr, hx, rfl⟩ := Machine.act_task hact
    refine ⟨hperm, fun x hx' => ?_⟩
    rcases Machine.mem_put hx' with rfl | hx'
    · have hp := h.runs r (Machine.mem_runs hr)
      rw [← h.permitted.planned] at hp ⊢
      exact Run.move_paced hx hp
    · exact h.runs x hx'
  | _ => exact (Machine.act_reshapes hsep hwf hact (by intro p t h; cases h)).paced h hperm

/-- Every sequence of moves keeps the pace of a node's runs. -/
theorem Machine.exec_paced {m : Machine} {plan : Plan} (hsep : m.Separate) (hwf : m.Wf)
    (h : m.Paced plan) (as : List Action) : (m.exec as).Paced plan := by
  induction as generalizing m with
  | nil => exact h
  | cons a as ih =>
    rw [Machine.exec_cons]
    cases hact : m.act a with
    | none => exact ih hsep hwf h
    | some m' =>
      exact ih (Machine.act_separate hsep hact) (Machine.act_wf hwf hact)
        (Machine.act_paced hsep hwf h hact)

end NetNode.Node
