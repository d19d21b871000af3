import NetNode.Proofs.Node.Pace

/-!
# Backpressure

The main statement, `backpressure`, follows the units of one run `g` along every interleaving of
a node's tasks and its owner's calls (`Machine.flow`): every unit its producer accepted was
dropped by the producer itself, taken from the queue by a worker or a drain, cut off with the
producer when a stop or the node's owner ends it from outside, or is still queued or in the
producer's hands (`Machine.ahead`). In `wait` mode the units accepted and neither taken nor
dropped are then at most the capacity plus one, and a run whose units run inline holds at most
the capacity plus one plus one unit per worker.

Two invariants carry it: `Machine.Paced` bounds each run's queue and producer, and
`Machine.Flows` keeps the books of run `g`.
-/

namespace NetNode.Node

open NetNode.Pool

/-! ## What a producer counts -/

/-- Units a run has ahead of its workers: those queued and the one its producer waits to push. -/
def Run.ahead (r : Run) : Nat := r.queue.length + r.producer.holds

/-- A move that counts units only as accepted or dropped: neither count goes down, and no unit
is counted processed. -/
structure Stats.Adds (s s' : Stats) : Prop where
  accepted : s.accepted ≤ s'.accepted
  dropped : s.dropped ≤ s'.dropped
  processed : s'.processed = s.processed

theorem Stats.Adds.refl (s : Stats) : Stats.Adds s s := ⟨Nat.le_refl _, Nat.le_refl _, rfl⟩

theorem Stats.Adds.trans {s s' s'' : Stats} (h : Stats.Adds s s') (h' : Stats.Adds s' s'') :
    Stats.Adds s s'' :=
  ⟨Nat.le_trans h.accepted h'.accepted, Nat.le_trans h.dropped h'.dropped,
    h'.processed.trans h.processed⟩

theorem World.discard_adds (w : World) (items : List Item) :
    Stats.Adds w.stats (w.discard items).stats := by
  rw [World.discard_stats]
  exact ⟨Nat.le_refl _, Nat.le_add_right _ _, rfl⟩

theorem Run.enqueue_adds (w : World) (r : Run) (next : Nat) (item : Item) :
    Stats.Adds w.stats (r.enqueue w next item).2.stats := by
  unfold Run.enqueue
  split
  · rw [Run.exit_stats]
    exact World.discard_adds w [item]
  · split
    · exact .refl _
    · split
      · split
        · rw [Run.exit_stats]
          exact World.discard_adds w _
        · exact World.discard_adds w _
      · exact .refl _
      · exact .refl _

theorem Run.fetch_adds (w : World) (r : Run) (pos : Nat) :
    Stats.Adds w.stats (r.fetch w pos).2.stats := by
  obtain ⟨hb, p, hbuf⟩ := Run.holdBuffer_frame w r
  unfold Run.fetch
  rw [hbuf]
  dsimp only
  split
  · exact .refl _
  · -- a delivered unit is counted accepted, then pushed
    have hacc : Stats.Adds w.stats { w.stats with accepted := w.stats.accepted + 1 } :=
      ⟨Nat.le_succ _, Nat.le_refl _, rfl⟩
    exact hacc.trans
      (Run.enqueue_adds { w with pool := p, stats := { w.stats with accepted := _ } } _ _ _)
  · obtain ⟨h', p', hr⟩ := Run.returnBuffer_frame { w with pool := p } { r with holding := hb }
    rw [hr]
    dsimp only
    rw [Run.cancelParent_eq]
    dsimp only
    split
    · split <;> exact ⟨Nat.le_refl _, Nat.le_refl _, rfl⟩
    · rw [Run.exit_stats]
      exact .refl _
    · rw [Run.exit_stats]
      exact .refl _
  · rw [Run.exit_stats]
    exact .refl _
  · exact .refl _
  · exact .refl _

theorem Run.stepProducer_adds {w : World} {r : Run} {x : Run × World}
    (h : r.stepProducer w = some x) : Stats.Adds w.stats x.2.stats := by
  rcases Run.stepProducer_cases h with
    ⟨next, item, -, ⟨-, rfl⟩ | ⟨-, -, rfl⟩⟩ | ⟨-, ⟨-, rfl⟩ | ⟨-, pos, ⟨-, rfl⟩ | rfl⟩⟩
  · rw [Run.exit_stats]
    exact World.discard_adds w [item]
  · exact .refl _
  · rw [Run.exit_stats]
    exact .refl _
  · exact Run.fetch_adds w r pos
  · exact .refl _

/-- A move of the producer accepts units only into the queue or its own hands, and lets them go
only by dropping them: what it accepted, less what it dropped, is what it put ahead of the
workers. -/
theorem Run.stepProducer_ahead {w : World} {r : Run} {x : Run × World}
    (h : r.stepProducer w = some x) :
    x.2.stats.accepted - w.stats.accepted + r.ahead =
      x.2.stats.dropped - w.stats.dropped + x.1.ahead := by
  have hbooks := (Run.stepProducer_books h).units
  have hadds := Run.stepProducer_adds h
  obtain ⟨⟨hw, -, hd⟩, -⟩ := Run.stepProducer_sameTasks h
  have := hadds.accepted
  have := hadds.dropped
  simp only [Run.held, World.counted, hw, hd, hadds.processed] at hbooks
  simp only [Run.ahead]
  omega

/-! ## The units of one run

The units of run `g` are followed through totals over the node's runs that count only the run of
generation `g`. The runs of a node have distinct generations, so there is at most one. -/

/-- The total of `φ` over the runs of generation `g` in a list. -/
def genTotal (g : Nat) (φ : Run → Nat) (runs : List Run) : Nat :=
  (runs.map fun r => if r.generation = g then φ r else 0).sum

section genTotal

variable {g : Nat} {φ : Run → Nat}

@[simp] theorem genTotal_cons (r : Run) (runs : List Run) :
    genTotal g φ (r :: runs) = (if r.generation = g then φ r else 0) + genTotal g φ runs := by
  simp only [genTotal, List.map_cons, List.sum_cons]

@[simp] theorem genTotal_append (l l' : List Run) :
    genTotal g φ (l ++ l') = genTotal g φ l + genTotal g φ l' := by
  simp only [genTotal, List.map_append, List.sum_append]

theorem genTotal_eq_zero {runs : List Run} (h : ∀ r ∈ runs, r.generation = g → φ r = 0) :
    genTotal g φ runs = 0 := by
  induction runs with
  | nil => rfl
  | cons r runs ih =>
    rw [genTotal_cons, ih fun x hx => h x (List.mem_cons_of_mem _ hx)]
    split
    next hg => rw [h r List.mem_cons_self hg]
    next => rfl

/-- Among runs of distinct generations the total is the value of the one run of generation `g`,
if any, and is bounded as that value is. -/
theorem genTotal_le {runs : List Run} {k : Nat} (hd : (runs.map (·.generation)).Nodup)
    (h : ∀ r ∈ runs, r.generation = g → φ r ≤ k) : genTotal g φ runs ≤ k := by
  induction runs with
  | nil => exact Nat.zero_le _
  | cons r runs ih =>
    rw [List.map_cons, List.nodup_cons] at hd
    rw [genTotal_cons]
    split
    next hg =>
      -- the other runs have other generations and count nothing
      have hrest : genTotal g φ runs = 0 := genTotal_eq_zero fun x hx hx' =>
        absurd (List.mem_map.mpr ⟨x, hx, hx'.trans hg.symm⟩) hd.1
      rw [hrest, Nat.add_zero]
      exact h r List.mem_cons_self hg
    next =>
      rw [Nat.zero_add]
      exact ih hd.2 fun x hx => h x (List.mem_cons_of_mem _ hx)

theorem genTotal_map {f : Run → Run} (hf : ∀ r, (f r).generation = r.generation ∧ φ (f r) = φ r)
    (runs : List Run) : genTotal g φ (runs.map f) = genTotal g φ runs := by
  induction runs with
  | nil => rfl
  | cons r runs ih => rw [List.map_cons, genTotal_cons, genTotal_cons, ih, (hf r).1, (hf r).2]

theorem Machine.genTotal_put {m : Machine} {p : Place} {r : Run} (h : m.runAt p = some r)
    (r' : Run) (w : World) :
    genTotal g φ (m.put r' w p).runs + (if r.generation = g then φ r else 0) =
      genTotal g φ m.runs + (if r'.generation = g then φ r' else 0) :=
  Machine.sum_put h _ r' w

end genTotal

/-- Units of run `g` waiting in its queue. -/
def Machine.queued (m : Machine) (g : Nat) : Nat := genTotal g (·.queue.length) m.runs

/-- The unit run `g`'s producer waits to push, if any. -/
def Machine.hand (m : Machine) (g : Nat) : Nat := genTotal g (·.producer.holds) m.runs

/-- Units of run `g` ahead of its workers. -/
def Machine.ahead (m : Machine) (g : Nat) : Nat := m.queued g + m.hand g

theorem Machine.queued_put {m : Machine} {p : Place} {r : Run} (h : m.runAt p = some r)
    (r' : Run) (w : World) (g : Nat) :
    (m.put r' w p).queued g + (if r.generation = g then r.queue.length else 0) =
      m.queued g + (if r'.generation = g then r'.queue.length else 0) :=
  Machine.genTotal_put h r' w

theorem Machine.hand_put {m : Machine} {p : Place} {r : Run} (h : m.runAt p = some r)
    (r' : Run) (w : World) (g : Nat) :
    (m.put r' w p).hand g + (if r.generation = g then r.producer.holds else 0) =
      m.hand g + (if r'.generation = g then r'.producer.holds else 0) :=
  Machine.genTotal_put h r' w

/-- Run `g` is over: it was started, and if the node still has it, its producer has finished
and its queue is empty. -/
structure Machine.Over (m : Machine) (g : Nat) : Prop where
  started : g < m.generations
  runs : ∀ r ∈ m.runs, r.generation = g → r.producer = .finished ∧ r.queue = []

theorem Machine.Over.queued {m : Machine} {g : Nat} (h : m.Over g) : m.queued g = 0 :=
  genTotal_eq_zero fun r hr hg => by rw [(h.runs r hr hg).2, List.length_nil]

theorem Machine.Over.hand {m : Machine} {g : Nat} (h : m.Over g) : m.hand g = 0 :=
  genTotal_eq_zero fun r hr hg => by rw [(h.runs r hr hg).1, Producer.holds_finished]

theorem Producer.holds_le_one (p : Producer) : p.holds ≤ 1 := by
  cases p <;> simp

/-- A producer holds at most one unit, and a node has at most one run of each generation. -/
theorem Machine.Separate.hand_le {m : Machine} (h : m.Separate) (g : Nat) : m.hand g ≤ 1 :=
  genTotal_le h.distinct fun r _ _ => r.producer.holds_le_one

/-! ## The books of one run -/

/-- What happened to the units of one run. -/
@[ext] structure Flow where
  /-- units its producer took from the source -/
  accepted : Nat := 0
  /-- units dropped in its producer's moves: its own unit on a cancelled or closed run, or under
  `dropOldest` the unit a push evicts -/
  dropped : Nat := 0
  /-- units that left its queue by a worker's pop or a drain -/
  taken : Nat := 0
  /-- units cut off with its producer when the run was ended from outside -/
  cut : Nat := 0
  deriving DecidableEq, Repr

instance : Add Flow :=
  ⟨fun a b => ⟨a.accepted + b.accepted, a.dropped + b.dropped, a.taken + b.taken, a.cut + b.cut⟩⟩

section Flow

variable (a b c : Flow)

@[simp] theorem Flow.add_accepted : (a + b).accepted = a.accepted + b.accepted := rfl
@[simp] theorem Flow.add_dropped : (a + b).dropped = a.dropped + b.dropped := rfl
@[simp] theorem Flow.add_taken : (a + b).taken = a.taken + b.taken := rfl
@[simp] theorem Flow.add_cut : (a + b).cut = a.cut + b.cut := rfl

@[simp] theorem Flow.add_empty : a + {} = a := by
  ext <;> simp

@[simp] theorem Flow.empty_add : {} + a = a := by
  ext <;> simp

theorem Flow.add_assoc : a + b + c = a + (b + c) := by
  ext <;> simp [Nat.add_assoc]

end Flow

/-- What a move from `m` to `m'` by `a` did to run `g`'s units. A move of run `g`'s producer
accepts and drops units, read off the counts; a move of another producer does nothing to them;
every other move can only take units from run `g`'s queue and cut off the unit its producer
holds, read off the node before and after. -/
def Machine.flowOf (g : Nat) (m : Machine) (a : Action) (m' : Machine) : Flow :=
  match a with
  | .task p .producer =>
    if (m.runAt p).map (·.generation) = some g then
      { accepted := m'.world.stats.accepted - m.world.stats.accepted
        dropped := m'.world.stats.dropped - m.world.stats.dropped }
    else {}
  | _ => { taken := m.queued g - m'.queued g, cut := m.hand g - m'.hand g }

/-- What run `g`'s units did along a sequence of moves; a move that cannot be made does
nothing. -/
def Machine.flow (g : Nat) (m : Machine) : List Action → Flow
  | [] => {}
  | a :: as =>
    match m.act a with
    | some m' => m.flowOf g a m' + m'.flow g as
    | none => m.flow g as

/-- The books of run `g` against what its units did so far: every unit accepted was dropped by
the producer, taken from the queue, cut off, or is still ahead of the workers; at most one unit
was ever cut off, and once one was, the run is over. -/
structure Machine.Flows (m : Machine) (g : Nat) (f : Flow) : Prop where
  units : f.accepted = f.dropped + f.taken + f.cut + m.ahead g
  cut : f.cut ≤ 1
  ended : f.cut = 1 → m.Over g

theorem Machine.new_flows (plan : Plan) (sink : Sink) (pool : Option BufferPool) (g : Nat) :
    (Machine.new plan sink pool).Flows g {} :=
  ⟨rfl, Nat.zero_le _, fun h => nomatch h⟩

/-- A move that leaves run `g`'s units where they are keeps its books. -/
theorem Machine.Flows.keep {m m' : Machine} {g : Nat} {f : Flow} (h : m.Flows g f)
    (hq : m'.queued g = m.queued g) (hh : m'.hand g = m.hand g)
    (hover : m.Over g → m'.Over g) : m'.Flows g f := by
  refine ⟨?_, h.cut, fun hc => hover (h.ended hc)⟩
  rw [Machine.ahead, hq, hh]
  exact h.units

/-- How a move that is not a producer's may touch run `g`'s units: it takes units from the queue
at most, cuts off the producer's unit only in ending the run, and keeps an ended run ended. -/
structure Machine.Drains (m m' : Machine) (g : Nat) : Prop where
  queued : m'.queued g ≤ m.queued g
  hand : m'.hand g ≤ m.hand g
  stays : m.Over g → m'.Over g
  ends : m'.hand g < m.hand g → m'.Over g

/-- A move that only drains run `g` keeps its books, what it took and cut off counted. -/
theorem Machine.Flows.drain {m m' : Machine} {g : Nat} {f : Flow} (hsep : m.Separate)
    (h : m.Flows g f) (hd : m.Drains m' g) :
    m'.Flows g (f + { taken := m.queued g - m'.queued g, cut := m.hand g - m'.hand g }) := by
  have hu := h.units
  have hq := hd.queued
  have hh := hd.hand
  have hone := hsep.hand_le g
  simp only [Machine.ahead] at hu
  -- a unit is cut off at most once: after that the run is over and its producer holds none
  rcases Nat.le_one_iff_eq_zero_or_eq_one.mp h.cut with h0 | h1
  · refine ⟨?_, ?_, fun hc => ?_⟩
    · simp only [Flow.add_accepted, Flow.add_dropped, Flow.add_taken, Flow.add_cut,
        Machine.ahead]
      omega
    · simp only [Flow.add_cut]
      omega
    · simp only [Flow.add_cut] at hc
      exact hd.ends (by omega)
  · have hfree := (h.ended h1).hand
    refine ⟨?_, ?_, fun _ => hd.stays (h.ended h1)⟩
    · simp only [Flow.add_accepted, Flow.add_dropped, Flow.add_taken, Flow.add_cut,
        Machine.ahead]
      omega
    · simp only [Flow.add_cut]
      omega

/-- A move of run `g`'s producer, which cannot be over, keeps its books when what it accepted,
less what it dropped, is what it put ahead of the workers. -/
theorem Machine.Flows.produce {m m' : Machine} {g : Nat} {f : Flow} {accepted dropped : Nat}
    (h : m.Flows g f) (hrun : ¬ m.Over g)
    (hunits : accepted + m.ahead g = dropped + m'.ahead g) :
    m'.Flows g (f + { accepted, dropped }) := by
  have h0 : f.cut = 0 := by
    rcases Nat.le_one_iff_eq_zero_or_eq_one.mp h.cut with h0 | h1
    · exact h0
    · exact absurd (h.ended h1) hrun
  have hu := h.units
  refine ⟨?_, ?_, fun hc => ?_⟩
  · simp only [Flow.add_accepted, Flow.add_dropped, Flow.add_taken, Flow.add_cut]
    omega
  · simp only [Flow.add_cut]
    omega
  · simp only [Flow.add_cut] at hc
    omega

/-! ## Which moves drain a run -/

/-- A move that keeps the runs as they are drains nothing. -/
theorem Machine.Drains.of_runs {m m' : Machine} {g : Nat} (hr : m'.runs = m.runs)
    (hgen : m.generations ≤ m'.generations) : m.Drains m' g where
  queued := by rw [Machine.queued, hr]; exact Nat.le_refl _
  hand := by rw [Machine.hand, hr]; exact Nat.le_refl _
  stays hO := ⟨Nat.lt_of_lt_of_le hO.started hgen, hr ▸ hO.runs⟩
  ends hlt := by rw [Machine.hand, hr] at hlt; exact absurd hlt (Nat.lt_irrefl _)

/-- A move of another run leaves run `g`'s units where they are. -/
theorem Machine.put_other {m : Machine} {p : Place} {r r' : Run} {g : Nat} (w : World)
    (hr : m.runAt p = some r) (hgen : r'.generation = r.generation) (hg : r.generation ≠ g) :
    (m.put r' w p).queued g = m.queued g ∧ (m.put r' w p).hand g = m.hand g ∧
      (m.Over g → (m.put r' w p).Over g) := by
  have hq := Machine.queued_put hr r' w g
  have hh := Machine.hand_put hr r' w g
  simp only [hgen, hg, if_false, Nat.add_zero] at hq hh
  refine ⟨hq, hh, fun hO => ⟨by rw [Machine.put_generations]; exact hO.started, ?_⟩⟩
  intro y hy hyg
  rcases Machine.mem_put hy with rfl | hy
  · exact absurd (hgen.symm.trans hyg) hg
  · exact hO.runs y hy hyg

/-- A move of a worker or a dispatched unit takes at most the head of its run's queue and
leaves its producer alone. -/
theorem Machine.put_drains {m : Machine} {p : Place} {r : Run} {t : Task} {x : Run × World}
    {g : Nat} (hr : m.runAt p = some r) (hx : r.move m.world t = some x) (ht : t ≠ .producer) :
    m.Drains (m.put x.1 x.2 p) g := by
  obtain ⟨hql, hprod⟩ := Run.move_queue_of_ne hx ht
  have hgen : x.1.generation = r.generation := (Run.move_stays hx).generation
  have hq := Machine.queued_put hr x.1 x.2 g
  have hh := Machine.hand_put hr x.1 x.2 g
  simp only [hgen, hprod] at hq hh
  refine ⟨?_, ?_, fun hO => ⟨by rw [Machine.put_generations]; exact hO.started, ?_⟩, ?_⟩
  · split at hq <;> omega
  · omega
  · intro y hy hyg
    rcases Machine.mem_put hy with rfl | hy
    · -- the run that moved was over already, and stays so
      obtain ⟨hfin, hempty⟩ := hO.runs r (Machine.mem_runs hr) (hgen ▸ hyg)
      rw [hempty, List.length_nil] at hql
      exact ⟨hprod.trans hfin, List.eq_nil_of_length_eq_zero (Nat.le_zero.mp hql)⟩
    · exact hO.runs y hy hyg
  · intro hlt
    omega

/-- A stop drains the queue of the run it takes and leaves its producer alone. -/
theorem Machine.stop_drains {m m' : Machine} {r : Run} {g : Nat}
    (hruns : m.runs = r :: m.background)
    (hruns' : m'.runs = { r with cancelled := true, queue := [], closed := true } :: m.background)
    (hgens : m'.generations = m.generations) : m.Drains m' g := by
  refine ⟨?_, ?_, fun hO => ⟨hgens ▸ hO.started, ?_⟩, ?_⟩
  · simp only [Machine.queued, hruns, hruns', genTotal_cons]
    split <;> simp
  · simp only [Machine.hand, hruns, hruns', genTotal_cons]
    exact Nat.le_refl _
  · intro y hy hyg
    rw [hruns', List.mem_cons] at hy
    rcases hy with rfl | hy
    · exact ⟨(hO.runs r (by simp [hruns]) hyg).1, rfl⟩
    · exact hO.runs y (by simp [hruns, hy]) hyg
  · intro hlt
    simp only [Machine.hand, hruns, hruns', genTotal_cons] at hlt
    exact absurd hlt (Nat.lt_irrefl _)

/-- Aborting a run's producer and letting the run go, or on in the background, cuts off the
unit the producer held, and ends the run. -/
theorem Machine.abort_drains {m m' : Machine} {x : Run} {xs : List Run} {g : Nat}
    (hsep : m.Separate) (hruns : m.runs = x :: m.background)
    (hruns' : m'.runs = m.background ++ xs) (hgens : m'.generations = m.generations)
    (hxs : ∀ y ∈ xs, y.generation = x.generation ∧ y.producer = .finished ∧ y.queue = []) :
    m.Drains m' g := by
  have hq0 : genTotal g (·.queue.length) xs = 0 :=
    genTotal_eq_zero fun y hy _ => by rw [(hxs y hy).2.2, List.length_nil]
  have hh0 : genTotal g (·.producer.holds) xs = 0 :=
    genTotal_eq_zero fun y hy _ => by rw [(hxs y hy).2.1, Producer.holds_finished]
  -- the units of run `g` outside the aborted run, and the runs they stand for
  have hover : ∀ y ∈ m'.runs, y.generation = g → y ∈ m.background ∨ y ∈ xs := by
    intro y hy _
    rwa [hruns', List.mem_append] at hy
  refine ⟨?_, ?_, fun hO => ⟨hgens ▸ hO.started, fun y hy hyg => ?_⟩, fun hlt => ?_⟩
  · simp only [Machine.queued, hruns, hruns', genTotal_cons, genTotal_append, hq0]
    omega
  · simp only [Machine.hand, hruns, hruns', genTotal_cons, genTotal_append, hh0]
    omega
  · rcases hover y hy hyg with hy | hy
    · exact hO.runs y (by simp [hruns, hy]) hyg
    · exact (hxs y hy).2
  · -- the producer's unit was cut off: the aborted run is run `g`
    simp only [Machine.hand, hruns, hruns', genTotal_cons, genTotal_append, hh0] at hlt
    have hg : x.generation = g := by
      by_contra hne
      simp only [hne, if_false] at hlt
      omega
    have hx : x ∈ m.runs := by simp [hruns]
    refine ⟨hgens ▸ hg ▸ hsep.below x hx, fun y hy hyg => ?_⟩
    rcases hover y hy hyg with hy | hy
    · -- no other run of the node has generation `g`
      have hd := hsep.distinct
      rw [hruns, List.map_cons, List.nodup_cons] at hd
      exact absurd (List.mem_map.mpr ⟨y, hy, hyg.trans hg.symm⟩) hd.1
    · exact (hxs y hy).2

/-- A start adds a run that has nothing ahead of its workers and is not over. -/
theorem Machine.start_drains {m m' : Machine} {r : Run} {g : Nat} (hruns : m.runs = m.background)
    (hruns' : m'.runs = r :: m.background) (hgen : r.generation = m.generations)
    (hq : r.queue = []) (hp : r.producer = .fetch 0) (hgens : m'.generations = m.generations + 1) :
    m.Drains m' g := by
  refine ⟨?_, ?_, fun hO => ⟨by rw [hgens]; exact Nat.lt_succ_of_lt hO.started, ?_⟩, ?_⟩
  · simp only [Machine.queued, hruns, hruns', genTotal_cons, hq, List.length_nil]
    split <;> omega
  · simp only [Machine.hand, hruns, hruns', genTotal_cons, hp, Producer.holds_fetch]
    split <;> omega
  · intro y hy hyg
    rw [hruns', List.mem_cons] at hy
    rcases hy with rfl | hy
    · exact absurd (hgen ▸ hyg ▸ hO.started) (Nat.lt_irrefl _)
    · exact hO.runs y (hruns ▸ hy) hyg
  · intro hlt
    simp only [Machine.hand, hruns, hruns', genTotal_cons, hp, Producer.holds_fetch] at hlt
    split at hlt <;> omega

/-- Cancelling a parent token touches no queue and no producer. -/
theorem Machine.cancel_drains {m m' : Machine} {g k : Nat}
    (hruns' : m'.runs = m.runs.map (Run.cancelUnder k)) (hgens : m'.generations = m.generations) :
    m.Drains m' g := by
  have hsame : ∀ φ : Run → Nat, (∀ r, φ (r.cancelUnder k) = φ r) →
      genTotal g φ m'.runs = genTotal g φ m.runs := fun φ hφ => by
    rw [hruns']
    exact genTotal_map (f := Run.cancelUnder k) (fun r => ⟨rfl, hφ r⟩) m.runs
  have hq := hsame (·.queue.length) fun _ => rfl
  have hh := hsame (·.producer.holds) fun _ => rfl
  refine ⟨Nat.le_of_eq hq, Nat.le_of_eq hh, fun hO => ⟨hgens ▸ hO.started, fun y hy hyg => ?_⟩,
    fun hlt => absurd hh (Nat.ne_of_lt hlt)⟩
  rw [hruns', List.mem_map] at hy
  obtain ⟨r, hr, rfl⟩ := hy
  exact hO.runs r hr hyg

/-- Reshaping the runs only drains run `g`. -/
theorem Machine.Reshapes.drains {m m' : Machine} {g : Nat} (hr : m.Reshapes m')
    (hsep : m.Separate) : m.Drains m' g := by
  cases hr with
  | keep runs gens => exact .of_runs runs (Nat.le_of_eq gens.symm)
  | stop r runs runs' gens => exact Machine.stop_drains runs runs' gens
  | abort x xs runs runs' gens ended => exact Machine.abort_drains hsep runs runs' gens ended
  | start r runs runs' gen queue producer gens =>
    exact Machine.start_drains runs runs' gen queue producer gens
  | cancel k runs' gens => exact Machine.cancel_drains runs' gens

/-- Every move of a node but a producer's drains run `g`. -/
theorem Machine.act_drains {m m' : Machine} {a : Action} {g : Nat} (hsep : m.Separate)
    (hwf : m.Wf) (hact : m.act a = some m') (ha : ∀ p, a ≠ .task p .producer) :
    m.Drains m' g := by
  cases a with
  | task p t =>
    obtain ⟨r, hr, hm⟩ := Option.bind_eq_some_iff.mp hact
    obtain ⟨x, hx, rfl⟩ := Option.map_eq_some_iff.mp hm
    exact Machine.put_drains hr hx fun ht => ha p (ht ▸ rfl)
  | _ => exact (Machine.act_reshapes hsep hwf hact (by intro p t h; cases h)).drains hsep

/-- A move of run `g`'s producer keeps its books, what it accepted and dropped counted; a move of
another run's producer leaves them alone. -/
theorem Machine.producer_flows {m m' : Machine} {p : Place} {g : Nat} {f : Flow}
    (h : m.Flows g f) (hact : m.act (.task p .producer) = some m') :
    m'.Flows g (f + m.flowOf g (.task p .producer) m') := by
  obtain ⟨r, hr, hm⟩ := Option.bind_eq_some_iff.mp hact
  obtain ⟨⟨r', w'⟩, hx, rfl⟩ := Option.map_eq_some_iff.mp hm
  have hgen : r'.generation = r.generation := (Run.move_stays hx).generation
  simp only [Machine.flowOf, hr, Option.map_some, Option.some.injEq, Machine.put_world]
  split
  next hg =>
    refine h.produce (fun hO => ?_) ?_
    · -- a producer that moves has not finished, so its run is not over
      have hfin := (hO.runs r (Machine.mem_runs hr) hg).1
      simp [Run.move, Run.stepProducer, hfin] at hx
    · have hq := Machine.queued_put hr r' w' g
      have hh := Machine.hand_put hr r' w' g
      have hs := Run.stepProducer_ahead hx
      simp only [hgen, hg, if_true] at hq hh
      simp only [Run.ahead] at hs
      simp only [Machine.ahead]
      omega
  next hg =>
    obtain ⟨hq, hh, hover⟩ := Machine.put_other w' hr hgen hg
    rw [Flow.add_empty]
    exact h.keep hq hh hover

theorem Machine.flowOf_drain {m m' : Machine} {a : Action} {g : Nat}
    (ha : ∀ p, a ≠ .task p .producer) :
    m.flowOf g a m' = { taken := m.queued g - m'.queued g, cut := m.hand g - m'.hand g } := by
  cases a with
  | task p t =>
    cases t with
    | producer => exact absurd rfl (ha p)
    | worker i => rfl
    | dispatched k => rfl
  | _ => rfl

/-- Every move of a node keeps the books of each of its runs. -/
theorem Machine.act_flows {m m' : Machine} {a : Action} {g : Nat} {f : Flow}
    (hsep : m.Separate) (hwf : m.Wf) (h : m.Flows g f) (hact : m.act a = some m') :
    m'.Flows g (f + m.flowOf g a m') := by
  by_cases ha : ∃ p, a = .task p .producer
  · obtain ⟨p, rfl⟩ := ha
    exact Machine.producer_flows h hact
  · have ha : ∀ p, a ≠ .task p .producer := fun p hp => ha ⟨p, hp⟩
    rw [Machine.flowOf_drain ha]
    exact h.drain hsep (Machine.act_drains hsep hwf hact ha)

/-- Every sequence of moves keeps the books of each run of a node. -/
theorem Machine.exec_flows {m : Machine} {g : Nat} {f : Flow} (hsep : m.Separate) (hwf : m.Wf)
    (h : m.Flows g f) (as : List Action) : (m.exec as).Flows g (f + m.flow g as) := by
  induction as generalizing m f with
  | nil => simpa [Machine.flow] using h
  | cons a as ih =>
    rw [Machine.exec_cons, Machine.flow]
    cases hact : m.act a with
    | none => exact ih hsep hwf h
    | some m' =>
      rw [← Flow.add_assoc]
      exact ih (Machine.act_separate hsep hact) (Machine.act_wf hwf hact)
        (Machine.act_flows hsep hwf h hact)

/-! ## The bound -/

/-- The producer asks the source for a unit only with empty hands: a move that accepts a unit
starts from a producer holding none. -/
theorem Run.stepProducer_accepts {w : World} {r : Run} {x : Run × World}
    (h : r.stepProducer w = some x) (hacc : w.stats.accepted < x.2.stats.accepted) :
    r.producer.holds = 0 := by
  rcases Run.stepProducer_cases h with ⟨next, item, -, ⟨-, rfl⟩ | ⟨-, -, rfl⟩⟩ | ⟨hpush, -⟩
  · simp only [Run.exit_stats, World.discard_stats] at hacc
    exact absurd hacc (Nat.lt_irrefl _)
  · exact absurd hacc (Nat.lt_irrefl _)
  · exact Producer.holds_eq_zero hpush

theorem Worker.holds_le_one (x : Worker) : x.holds ≤ 1 := by
  cases x <;> simp

/-- Units a run's workers hold number at most its workers. -/
theorem Run.workers_holds_le (r : Run) : (r.workers.map Worker.holds).sum ≤ r.workers.length := by
  have h := List.sum_le_card_nsmul (r.workers.map Worker.holds) 1 (by
    intro n hn
    obtain ⟨x, -, rfl⟩ := List.mem_map.mp hn
    exact x.holds_le_one)
  simpa using h

/-- Along any interleaving, every unit a run's producer accepted is dropped, taken, cut off or
still queued; in `wait` mode the units held are bounded by the capacity, and the producer asks
the source only with empty hands and never waits in `dropOldest` mode. -/
theorem backpressure (plan : Plan) (sink : Sink) (pool : Option BufferPool) (as : List Action)
    (g : Nat) :
    let m := (Machine.new plan sink pool).exec as
    let f := (Machine.new plan sink pool).flow g as
    f.accepted = f.dropped + f.taken + f.cut + m.ahead g ∧
    (plan.mode = .wait →
      f.accepted - f.taken - f.dropped ≤ plan.capacity + 1 ∧
      ∀ r ∈ m.runs, r.queue.length ≤ plan.capacity ∧
        (plan.dispatch = none → r.held ≤ plan.workers + plan.capacity + 1)) ∧
    (∀ p m', m.act (.task p .producer) = some m' →
      m.world.stats.accepted < m'.world.stats.accepted →
      ∀ r, m.runAt p = some r → r.producer.holds = 0) ∧
    (plan.mode = .dropOldest → ∀ r ∈ m.runs, ∀ next item, r.producer ≠ .pushing next item) := by
  intro m f
  have hsep : m.Separate := Machine.exec_separate (Machine.new_separate plan sink pool) as
  have hflows : m.Flows g f := by
    simpa using Machine.exec_flows (Machine.new_separate plan sink pool)
      (Machine.new_wf plan sink pool) (Machine.new_flows plan sink pool g) as
  have hpaced : m.Paced plan := Machine.exec_paced (Machine.new_separate plan sink pool)
    (Machine.new_wf plan sink pool) ⟨⟨rfl, fun _ h => by simp [Machine.runs, Machine.new] at h⟩,
      fun _ h => by simp [Machine.runs, Machine.new] at h⟩ as
  refine ⟨hflows.units, fun hw => ⟨?_, fun r hr => ⟨(hpaced.runs r hr).queue hw, fun hn => ?_⟩⟩,
    ?_, fun hd r hr next item hp => ?_⟩
  · -- what is neither taken nor dropped was cut off, or is queued or in the producer's hands
    have hu := hflows.units
    have hq : m.queued g ≤ plan.capacity :=
      genTotal_le hsep.distinct fun r hr _ => (hpaced.runs r hr).queue hw
    have hh := hsep.hand_le g
    simp only [Machine.ahead] at hu
    rcases Nat.le_one_iff_eq_zero_or_eq_one.mp hflows.cut with h0 | h1
    · omega
    · have hO := hflows.ended h1
      have := hO.queued
      have := hO.hand
      omega
  · -- a run whose units run inline has no dispatched unit
    have hperm := hpaced.permitted.runs r hr
    have hnone : r.permits = none := by
      have ht := hperm.tally
      rw [hn, Run.tally] at ht
      exact Option.map_eq_none_iff.mp ht
    have hq := (hpaced.runs r hr).queue hw
    have hw := hperm.workers
    have hws := r.workers_holds_le
    have hp := r.producer.holds_le_one
    simp only [Run.held, hperm.inline hnone, List.length_nil, Nat.add_zero]
    omega
  · intro p m' hact hacc r hr
    obtain ⟨r₀, hr₀, hm⟩ := Option.bind_eq_some_iff.mp hact
    obtain ⟨x, hx, rfl⟩ := Option.map_eq_some_iff.mp hm
    rw [hr] at hr₀
    cases hr₀
    exact Run.stepProducer_accepts hx (by simpa using hacc)
  · have h0 := (hpaced.runs r hr).evicts hd
    rw [hp, Producer.holds_pushing] at h0
    exact absurd h0 Nat.one_ne_zero

end NetNode.Node
